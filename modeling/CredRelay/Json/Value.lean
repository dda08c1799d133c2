import CredRelay.Text.Numeral
/-! Values of JSON documents. The texts of a document are kept as code points, since
escapes may spell halves of surrogate pairs; only texts without such halves are texts of
this library. -/
namespace CredRelay.Json

open Text

/-- A value of a document. -/
inductive Value where
  | null
  | bool (value : Bool)
  | number (spelling : List Char)
  | text (points : List Nat)
  | array (items : List Value)
  | object (members : List (List Nat × Value))
  deriving Inhabited

/-- The characters of some code points, if all of them are characters. -/
def characters? (points : List Nat) : Option (List Char) :=
  if points.all (fun n => decide n.isValidChar) then some
    (points.map Char.ofNat) else none

/-- The text of some code points, if all of them are characters. -/
def ofPoints? (points : List Nat) : Option String :=
  (characters? points).map String.ofList

/-- A value that must be a text. -/
def Value.string? : Value → Option String
  | .text points => ofPoints? points
  | _ => none

/-- A value that must be a text or null. -/
def Value.optionalString? : Value → Option (Option String)
  | .null => some none
  | .text points => (ofPoints? points).map some
  | _ => none

/-- The members of an object, with their names as texts. -/
def namedMembers? (members : List (List Nat × Value)) : Option (List (String × Value)) :=
  members.mapM fun (points, value) => (ofPoints? points).map fun name => (name, value)

/-- The values of the named fields of a record, where given. A record is an object, in
which no known field may occur twice and others are skipped, or an array of its fields in
order, which may be shorter but not longer. -/
def Value.fields? (names : List String) : Value → Option (List (Option Value))
  | .object members =>
    match namedMembers? members with
    | some members =>
      let known := members.filter (fun m => names.contains m.1)
      if (known.map (·.1)).Nodup then some (names.map fun name => known.lookup name)
      else none
    | none => none
  | .array items =>
    if items.length ≤ names.length then
      some (items.map some ++ List.replicate (names.length - items.length) none)
    else none
  | _ => none

/-- A field that takes a default where it is missing. -/
def field? {α : Type} (read : Value → Option α) (default : α) : Option Value → Option α
  | none => some default
  | some value => read value

/-- The entries of an object whose values are all of one kind. -/
def Value.entries? {α : Type} (read : Value → Option α) :
    Value → Option (List (String × α))
  | .object members =>
    members.mapM fun (points, value) =>
      match ofPoints? points, read value with
      | some name, some v => some (name, v)
      | _, _ => none
  | _ => none

end CredRelay.Json
