import CredRelay.Credential
import CredRelay.Json.Document
import CredRelay.Json.Printer
/-! Credential records as JSON. A record is written as an object of three texts; reading
also accepts fields in any order, missing or unknown ones, and an array of the values in
order. -/
namespace CredRelay.Wire

/-- The names of the fields of a record, in order. -/
def fieldNames : List String :=
  ["ServerURL", "Username", "Secret"]

/-- A record as it is written. -/
def recordText (c : Credential) : String :=
  String.ofList (Json.writtenObject (List.zip (fieldNames.map String.toList)
    [c.serverUrl.toList, c.username.toList, c.secret.toList]))

/-- The record that a value is. -/
def recordOfValue? (v : Json.Value) : Option Credential :=
  match v.fields? fieldNames with
  | some [server, user, secret] =>
    match Json.field? Json.Value.string? "" server,
        Json.field? Json.Value.string? "" user,
        Json.field? Json.Value.string? "" secret with
    | some server, some user, some secret => some ⟨server, user, secret⟩
    | _, _, _ => none
  | _ => none

/-- The record that a document holds. -/
def recordOfText? (s : String) : Option Credential :=
  (Json.read? s.toList).bind recordOfValue?

end CredRelay.Wire
