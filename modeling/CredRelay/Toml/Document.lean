import CredRelay.Toml.Scalar
import CredRelay.Toml.Table
import CredRelay.Toml.Text
/-! Reading TOML documents: lines with a key and a value, with the header of a table, or
with nothing but a comment. Values may span lines inside brackets and inside texts of
several lines. Values lie in each other, and keys have parts, fewer than eighty deep. -/
namespace CredRelay.Toml

open Text

/-- How deep values may lie in each other. -/
def depthLimit : Nat := 80

/-- Whether a character may stand in a key without quotes. -/
def isKeyCharacter (c : Char) : Bool :=
  c.isAlphanum || c == '_' || c == '-'

/-- One part of a key, and what follows it. -/
def keyPart? (s : List Char) : Option (List Char × List Char) :=
  match s with
  | '"' :: _ => shortText? s
  | '\'' :: _ => shortText? s
  | s =>
    let word := s.takeWhile isKeyCharacter
    if word.isEmpty then none else some (word, s.dropWhile isKeyCharacter)

/-- The parts of a key, at most as many as the first number, and what follows them and the
blanks after them. -/
def key? : Nat → List Char → Option (List String × List Char)
  | 0, _ => none
  | parts + 1, s =>
    match keyPart? (s.dropWhile isGap) with
    | none => none
    | some (word, rest) =>
      match rest.dropWhile isGap with
      | '.' :: rest => (key? parts rest).map fun (words, rest) =>
        (String.ofList word :: words, rest)
      | rest => some ([String.ofList word], rest)

/-- What follows the end of a line. -/
def afterBreak? : List Char → Option (List Char)
  | '\n' :: rest => some rest
  | '\r' :: '\n' :: rest => some rest
  | _ => none

/-- What follows a comment, if one starts here. -/
def afterComment (s : List Char) : List Char :=
  match s with
  | '#' :: rest => rest.dropWhile isPlain
  | s => s

/-- What follows blanks, a comment, and the end of the line or of the document. -/
def afterLine? (s : List Char) : Option (List Char) :=
  match afterComment (s.dropWhile isGap) with
  | [] => some []
  | rest => afterBreak? rest

/-- What follows blanks, comments and line ends; `n` bounds their number. -/
def afterSpace : Nat → List Char → List Char
  | 0, s => s
  | n + 1, s =>
    match s with
    | c :: rest =>
      if isGap c then afterSpace n rest
      else if c = '#' then
        match afterBreak? (afterComment s) with
        | some rest => afterSpace n rest
        | none => s
      else
        match afterBreak? s with
        | some rest => afterSpace n rest
        | none => s
    | [] => []

/-- Whether a character ends a scalar. -/
def endsScalar (c : Char) : Bool :=
  isGap c || c == '\n' || c == '\r' || c == ',' || c == ']' || c == '\x7d' || c == '#'

/-- A scalar without quotes, and what follows it. A date may go on with a time after a
blank. -/
def bare? (s : List Char) : Option (Value × List Char) :=
  let word := s.takeWhile (fun c => !endsScalar c)
  let rest := s.dropWhile (fun c => !endsScalar c)
  let joined := word ++ ' ' :: (rest.drop 1).takeWhile (fun c => !endsScalar c)
  if rest.head? = some ' ' ∧ afterDate? word = some [] ∧ isMoment joined then
    some (.moment, (rest.drop 1).dropWhile (fun c => !endsScalar c))
  else (scalar? word).map fun v => (v, rest)

mutual

/-- A value, and what follows it. The first number bounds the steps, the second the depth
left. -/
def value? : Nat → Nat → List Char → Option (Value × List Char)
  | 0, _, _ => none
  | fuel + 1, depth, s =>
    match s with
    | '[' :: rest =>
      match depth with
      | 0 => none
      | depth + 1 => items? fuel depth [] rest
    | '\x7b' :: rest =>
      match depth with
      | 0 => none
      | depth + 1 =>
        match rest.dropWhile isGap with
        | '\x7d' :: rest => some (.table .inPlace [], rest)
        | rest => pairs? fuel depth [] rest
    | '"' :: _ => (text? s).map fun (t, rest) => (.text (String.ofList t), rest)
    | '\'' :: _ => (text? s).map fun (t, rest) => (.text (String.ofList t), rest)
    | s => bare? s

/-- The rest of an array after its bracket or a comma; `items` are those read, last
first. -/
def items? : Nat → Nat → List Value → List Char → Option (Value × List Char)
  | 0, _, _, _ => none
  | fuel + 1, depth, items, s =>
    match afterSpace s.length s with
    | ']' :: rest => some (.array items.reverse, rest)
    | s =>
      match value? fuel depth s with
      | none => none
      | some (v, rest) =>
        match afterSpace rest.length rest with
        | ',' :: rest => items? fuel depth (v :: items) rest
        | ']' :: rest => some (.array (v :: items).reverse, rest)
        | _ => none

/-- The rest of a table written in place, from the key of an entry on. -/
def pairs? : Nat → Nat → Entries → List Char → Option (Value × List Char)
  | 0, _, _, _ => none
  | fuel + 1, depth, entries, s =>
    match key? (depthLimit - 1) s with
    | some (path, '=' :: rest) =>
      match value? fuel depth (rest.dropWhile isGap) with
      | none => none
      | some (v, rest) =>
        match addValue path.dropLast (path.getLastD "") v entries with
        | none => none
        | some entries =>
          match rest.dropWhile isGap with
          | ',' :: rest => pairs? fuel depth entries rest
          | '\x7d' :: rest => some (.table .inPlace entries, rest)
          | _ => none
    | _ => none

end

/-- The header of a table, and what follows it. -/
def header? (s : List Char) : Option (Bool × List String × List Char) :=
  match s with
  | '[' :: '[' :: rest =>
    match key? (depthLimit - 1) rest with
    | some (path, ']' :: ']' :: rest) => some (true, path, rest)
    | _ => none
  | '[' :: rest =>
    match key? (depthLimit - 1) rest with
    | some (path, ']' :: rest) => some (false, path, rest)
    | _ => none
  | _ => none

/-- A key with its value, and what follows them. -/
def pair? (s : List Char) : Option (List String × Value × List Char) :=
  match key? (depthLimit - 1) s with
  | some (path, '=' :: rest) =>
    let rest := rest.dropWhile isGap
    (value? (2 * rest.length + 2) (depthLimit - 1) rest).map fun (v, rest) =>
      (path, v, rest)
  | _ => none

/-- Reads one line of a document. -/
def line? (d : Draft) (s : List Char) : Option (Draft × List Char) :=
  match s.dropWhile isGap with
  | '[' :: rest =>
    match header? ('[' :: rest) with
    | some (repeated, path, rest) =>
      match d.open? repeated path, afterLine? rest with
      | some d, some rest => some (d, rest)
      | _, _ => none
    | none => none
  | s =>
    match afterLine? s with
    | some rest => some (d, rest)
    | none =>
      match pair? s with
      | some (path, v, rest) =>
        match d.add? path v, afterLine? rest with
        | some d, some rest => some (d, rest)
        | _, _ => none
      | none => none

/-- Reads the lines of a document, at most as many as the number. -/
def lines? : Nat → Draft → List Char → Option Draft
  | _, d, [] => some d
  | 0, _, _ => none
  | n + 1, d, s =>
    match line? d s with
    | some (d, rest) => lines? n d rest
    | none => none

/-- The table that a document is. A byte order mark before it does not count. -/
def read? (s : List Char) : Option Entries :=
  let s := if s.head? = some '\uFEFF' then s.drop 1 else s
  (lines? s.length Draft.start s).bind Draft.close?

end CredRelay.Toml
