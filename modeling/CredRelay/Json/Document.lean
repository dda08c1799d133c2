import CredRelay.Json.Token
/-! Documents from tokens. The reader keeps the arrays and objects that are open as a
stack, so that values may lie in each other to any depth. -/
namespace CredRelay.Json

/-- An open array with its items so far, or an open object with its members so far and the
name of the member whose value is being read; both last first. -/
inductive Frame where
  | array (items : List Value)
  | object (members : List (List Nat × Value)) (name : List Nat)

/-- What the reader has just met and so what may come next. -/
inductive Phase where
  | value
  | arrayStart
  | objectStart
  | name (members : List (List Nat × Value))
  | colon (members : List (List Nat × Value)) (name : List Nat)
  | done (v : Value)

/-- The reader: the open arrays and objects, innermost first, and where it stands. -/
structure Reader where
  stack : List Frame
  phase : Phase

/-- Opens an array or an object, or takes a value without parts. -/
def Reader.openValue? (stack : List Frame) : Token → Option Reader
  | .value v => some ⟨stack, .done v⟩
  | .mark c =>
    if c = '[' then some ⟨.array [] :: stack, .arrayStart⟩
    else if c = '\x7b' then some ⟨stack, .objectStart⟩
    else none

/-- Takes the name of a member. -/
def Reader.name? (stack : List Frame) (members : List (List Nat × Value)) :
    Token → Option Reader
  | .value (.text name) => some ⟨stack, .colon members name⟩
  | _ => none

/-- Takes what follows a value: the end of what holds it, or a comma. -/
def Reader.afterValue? (stack : List Frame) (v : Value) (c : Char) : Option Reader :=
  match stack with
  | .array items :: rest =>
    if c = ',' then some ⟨.array (v :: items) :: rest, .value⟩
    else if c = ']' then some ⟨rest, .done (.array (v :: items).reverse)⟩
    else none
  | .object members name :: rest =>
    if c = ',' then some ⟨rest, .name ((name, v) :: members)⟩
    else if c = '\x7d' then some ⟨rest, .done (.object ((name, v) :: members).reverse)⟩
    else none
  | [] => none

/-- Takes one token. -/
def Reader.step? (r : Reader) (t : Token) : Option Reader :=
  match r.phase, t with
  | .value, t => openValue? r.stack t
  | .arrayStart, .mark ']' => some ⟨r.stack.drop 1, .done (.array [])⟩
  | .arrayStart, t => openValue? r.stack t
  | .objectStart, .mark '\x7d' => some ⟨r.stack, .done (.object [])⟩
  | .objectStart, t => name? r.stack [] t
  | .name members, t => name? r.stack members t
  | .colon members name, .mark ':' => some ⟨.object members name :: r.stack, .value⟩
  | .colon _ _, _ => none
  | .done v, .mark c => afterValue? r.stack v c
  | .done _, .value _ => none

/-- Takes the tokens of a document. -/
def Reader.run? (r : Reader) : List Token → Option Reader
  | [] => some r
  | t :: rest =>
    match r.step? t with
    | some next => next.run? rest
    | none => none

/-- The value of a document of which all has been read. -/
def Reader.result? (r : Reader) : Option Value :=
  match r.stack, r.phase with
  | [], .done v => some v
  | _, _ => none

/-- The value of a document. -/
def read? (s : List Char) : Option Value :=
  ((tokens? s).bind (Reader.run? ⟨[], .value⟩)).bind Reader.result?

end CredRelay.Json
