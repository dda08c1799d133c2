import CredRelay.Credential
import CredRelay.Failure
import CredRelay.Text.Blank
import CredRelay.Text.Cut
import CredRelay.Text.Utf8
/-! Requests and their form on the wire: lines of text, the first of which is the command
and the others its operands. Lines are trimmed and blank ones at the end do not count, so
line ends inside a field are dropped when a request is written. -/
namespace CredRelay

open Text

/-- What can be asked for. -/
inductive Command where
  | get
  | store
  | erase
  | list
  deriving DecidableEq, Repr

/-- The word for a command. -/
def Command.text : Command → String
  | .get => "get"
  | .store => "store"
  | .erase => "erase"
  | .list => "list"

/-- The command that a word means. -/
def Command.ofText? (s : String) : Option Command :=
  [Command.get, .store, .erase, .list].find? fun c => c.text == s

/-- The number of lines of a request, the command included. -/
def Command.lineCount : Command → Nat
  | .get | .erase => 2
  | .store => 4
  | .list => 1

/-- A request. -/
inductive Request where
  | get (serverUrl : String)
  | store (record : Credential)
  | erase (serverUrl : String)
  | list
  deriving DecidableEq, Repr

namespace Request

/-- The command of a request. -/
def command : Request → Command
  | .get _ => .get
  | .store _ => .store
  | .erase _ => .erase
  | .list => .list

/-- The address that a request is about; nothing for a list. -/
def serverUrl : Request → String
  | .get serverUrl | .erase serverUrl => serverUrl
  | .store record => record.serverUrl
  | .list => ""

/-- A field without line ends. -/
def withoutBreaks (s : String) : String :=
  String.ofList (s.toList.filter fun c => c != '\n' && c != '\r')

/-- The trimmed lines of a text, without blank ones at the end. -/
def significantLines (s : List Char) : List (List Char) :=
  (((s.splitOn '\n').map trimChars).reverse.dropWhile List.isEmpty).reverse

/-- The request that some lines make. -/
def ofLines : List String → Except WireFault Request
  | [] => .error .empty
  | word :: operands =>
    match Command.ofText? word with
    | none => .error (.unknownCommand word)
    | some command =>
      match command, operands with
      | .get, [server] => .ok (.get server)
      | .erase, [server] => .ok (.erase server)
      | .list, [] => .ok .list
      | .store, [server, user, secret] =>
        if user.isEmpty || secret.isEmpty then .error .incompleteCredential
        else .ok (.store ⟨server, user, secret⟩)
      | command, operands =>
        .error (.arity command.text command.lineCount (operands.length + 1))

/-- The request that a text is. -/
def ofText (s : String) : Except WireFault Request :=
  ofLines ((significantLines s.toList).map String.ofList)

/-- The request that some octets are. -/
def decode (octets : ByteArray) : Except WireFault Request :=
  match ofUtf8? octets with
  | some s => ofText s
  | none => .error .notUtf8

/-- The operands of a request. -/
def operands : Request → List String
  | .get serverUrl | .erase serverUrl => [serverUrl]
  | .store record => [record.serverUrl, record.username, record.secret]
  | .list => []

/-- A request as a text. -/
def text (r : Request) : String :=
  joinWith "\n" (r.command.text :: r.operands.map withoutBreaks) ++ "\n"

/-- A request on the wire. -/
def encode (r : Request) : ByteArray :=
  utf8 r.text

end Request

end CredRelay
