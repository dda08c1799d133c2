import CredRelay.Failure
import CredRelay.Table
import CredRelay.Text.Blank
import CredRelay.Text.Cut
/-! Challenges of registries: a scheme, a space, and parameters between commas. A basic
challenge needs nothing more; a bearer challenge must say where tokens are given out. -/
namespace CredRelay.Login

open Text

/-- How a registry wants to be convinced. -/
inductive Challenge where
  | basic
  | bearer (realm : String) (service : Option String)
  deriving DecidableEq, Repr

/-- One parameter: its name in small letters and its value without quotes. -/
def parameter? (part : List Char) : Option (String × String) :=
  match cut '=' (trimChars part) with
  | some (name, value) =>
    some (lowerAscii (String.ofList (trimChars name)),
      String.ofList (trimWhere (· == '"') (trimChars value)))
  | none => none

/-- The parameters of a challenge; a later one takes the place of an earlier one of its
name. -/
def parameters (s : List Char) : Table String :=
  Table.ofList ((s.splitOn ',').filterMap parameter?)

/-- The challenge that a header is. -/
def Challenge.ofHeader (header : String) : Except Failure Challenge :=
  let text := trimChars header.toList
  let (scheme, rest) := (cut ' ' text).getD (text, [])
  let scheme := String.ofList scheme
  if sameLetters scheme "basic" then .ok .basic
  else if !sameLetters scheme "bearer" then
    .error (.login ("unexpected auth scheme: " ++ header))
  else
    let found := parameters rest
    match (found.get? "realm").filter (fun s => !s.isEmpty) with
    | some realm => .ok (.bearer realm (found.get? "service"))
    | none => .error (.login "missing realm in WWW-Authenticate")

end CredRelay.Login
