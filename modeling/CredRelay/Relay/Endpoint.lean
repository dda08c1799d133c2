import CredRelay.Net.Address
import CredRelay.Settings.Basic
/-! Endpoints: where the relay is reached. Under a state root the socket and the file with
the address of a network endpoint have fixed names, and the name of a pipe is made from
the root itself. -/
namespace CredRelay.Relay

/-- Where the relay is reached. -/
inductive Endpoint where
  | unix (path : String)
  | pipe (name : String)
  | tcp (address : Net.SocketAddress)
  deriving DecidableEq, Repr

/-- The directory under a state root that holds the socket and the file with the
address. -/
def socketDir (root : String) : String :=
  Path.join root "sock"

/-- The socket under a state root. -/
def socketPath (root : String) : String :=
  Path.join (socketDir root) "creds.sock"

/-- The file under a state root that holds the address of a network endpoint. -/
def addressFile (root : String) : String :=
  Path.join (socketDir root) "creds.addr"

/-- The letters and digits of ASCII stay, all else becomes a hyphen. -/
def hyphenated (s : List Char) : List Char :=
  s.map fun c => if c.isAlphanum then c else '-'

/-- A text without the hyphens at its ends. -/
def withoutOuterHyphens (s : List Char) : List Char :=
  ((s.dropWhile (· == '-')).reverse.dropWhile (· == '-')).reverse

/-- What names of pipes start with. -/
def pipeStart : String := "\\\\.\\pipe\\credbridge-"

/-- The name of the pipe of a state root. -/
def pipeName (root : String) : String :=
  pipeStart ++ String.ofList (withoutOuterHyphens (hyphenated root.toList))

namespace Endpoint

/-- The endpoint that the settings ask for, for a state root. -/
def ofSettings (s : Settings) (root : String) : Except Failure Endpoint :=
  match s.transport with
  | .unix => .ok (.unix (socketPath root))
  | .pipe => .ok (.pipe (pipeName root))
  | .tcp =>
    match Net.SocketAddress.ofString? s.listen with
    | some address => .ok (.tcp address)
    | none => .error (.settings (.badListenAddress s.listen))

/-- How an endpoint is reached. -/
def transport : Endpoint → Transport
  | .unix _ => .unix
  | .pipe _ => .pipe
  | .tcp _ => .tcp

/-- What an endpoint is called after its transport. -/
def name : Endpoint → String
  | .unix path => path
  | .pipe name => name
  | .tcp address => address.text

/-- An endpoint as a text. -/
def text (e : Endpoint) : String :=
  e.transport.text ++ ":" ++ e.name

end Endpoint

end CredRelay.Relay
