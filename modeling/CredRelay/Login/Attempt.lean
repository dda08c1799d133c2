import CredRelay.Host.Fault
import CredRelay.Registry.Identifier
import CredRelay.Text.Blank
import CredRelay.Text.Utf8
/-! Attempts to log in to a registry: the user name and the secret that are given have to
be usable, and the registry has to accept them. No registry can be reached from here, so
none does. -/
namespace CredRelay.Login

open Text

/-- What is given for an attempt. The secret may be given as it is or be read from
standard input. -/
structure Attempt where
  server : Option String
  username : Option String
  secret : Option String
  readSecret : Bool
  deriving DecidableEq, Repr

/-- Why what is given is not usable. -/
inductive Refusal where
  | usernameMissing
  | usernameEmpty
  | usernameWithColon
  | secretMissing
  | secretUnreadable
  | secretEmpty
  deriving DecidableEq, Repr

/-- The wording of a refusal, with its cause where it has one. -/
def Refusal.chain : Refusal → List String
  | .usernameMissing => ["Username is required (-u) when not running interactively"]
  | .usernameEmpty => ["Username cannot be empty"]
  | .usernameWithColon => ["Username cannot contain ':'"]
  | .secretMissing =>
    ["Cannot prompt for a password from a non-TTY device; use --password-stdin"]
  | .secretUnreadable =>
    ["Failed to read password from stdin", "stream did not contain valid UTF-8"]
  | .secretEmpty => ["Password cannot be empty"]

/-- The user name, trimmed. -/
def Attempt.checkedUsername (a : Attempt) : Except Refusal String :=
  match a.username.map trim with
  | none => .error .usernameMissing
  | some name =>
    if name.isEmpty then .error .usernameEmpty
    else if name.toList.contains ':' then .error .usernameWithColon
    else .ok name

/-- A text without line ends at its end. -/
def withoutFinalBreaks (s : String) : String :=
  String.ofList ((s.toList.reverse.dropWhile fun c => c == '\n' || c == '\r').reverse)

/-- The secret, wherever it comes from. -/
def Attempt.givenSecret (a : Attempt) (input : ByteArray) : Except Refusal String :=
  if a.readSecret then
    match ofUtf8? input with
    | some s => .ok (withoutFinalBreaks s)
    | none => .error .secretUnreadable
  else
    match a.secret with
    | some s => .ok s
    | none => .error .secretMissing

/-- The secret, which must not be empty. -/
def Attempt.checkedSecret (a : Attempt) (input : ByteArray) : Except Refusal String :=
  match a.givenSecret input with
  | .error refusal => .error refusal
  | .ok secret => if secret.isEmpty then .error .secretEmpty else .ok secret

/-- Asks a registry whether it accepts a user name and a secret. -/
def verify (r : Registry) : Except Failure Unit :=
  .error (.login ("failed to reach registry: " ++ r.serviceAddress ++ ": " ++
    Host.SystemFault.unreachable.message))

end CredRelay.Login
