import CredRelay.Text.Cut
import CredRelay.Text.Numeral
/-! Texts between quotes, on one line or on several. Between double quotes a backslash
starts an escape; between single quotes all characters stand for themselves. -/
namespace CredRelay.Toml

open Text

/-- Blanks within a line. -/
def isGap (c : Char) : Bool :=
  c == ' ' || c == '\t'

/-- Whether a character may stand in a comment and between single quotes. -/
def isPlain (c : Char) : Bool :=
  c == '\t' || (0x20 ≤ c.toNat && c.toNat != 0x7F)

/-- The character with a code point in hexadecimal digits. -/
def codePoint? (digits : List Char) : Option Char :=
  match numeral? 16 digits with
  | some n => if n.isValidChar then some (Char.ofNat n) else none
  | none => none

/-- The character that an escape of one letter stands for. -/
def escaped? (c : Char) : Option Char :=
  [('b', '\x08'), ('f', '\x0c'), ('n', '\n'), ('r', '\r'), ('t', '\t'), ('"', '"'),
    ('\\', '\\')].lookup c

/-- A text on one line after its double quote, and what follows it; `read` is what was
read of it, last first. -/
def basicText? (read : List Char) : List Char → Option (List Char × List Char)
  | [] => none
  | '"' :: rest => some (read.reverse, rest)
  | '\\' :: 'u' :: a :: b :: c :: d :: rest =>
    match codePoint? [a, b, c, d] with
    | some x => basicText? (x :: read) rest
    | none => none
  | '\\' :: 'U' :: a :: b :: c :: d :: e :: f :: g :: h :: rest =>
    match codePoint? [a, b, c, d, e, f, g, h] with
    | some x => basicText? (x :: read) rest
    | none => none
  | '\\' :: c :: rest =>
    match escaped? c with
    | some x => basicText? (x :: read) rest
    | none => none
  | c :: rest => if isPlain c ∧ c ≠ '\\' then basicText? (c :: read) rest else none

/-- The end of a text on several lines after three quotes: one or two more quotes belong
to it. -/
def closeText (quote : Char) (read rest : List Char) : List Char × List Char :=
  match rest with
  | a :: b :: after =>
    if a = quote then
      if b = quote then ((b :: a :: read).reverse, after) else
        ((a :: read).reverse, b :: after)
    else (read.reverse, a :: b :: after)
  | [a] => if a = quote then ((a :: read).reverse, []) else (read.reverse, [a])
  | [] => (read.reverse, [])

/-- Whether a text goes on with blanks and then the end of a line. -/
def endsLine (s : List Char) : Bool :=
  match s.dropWhile isGap with
  | '\n' :: _ => true
  | '\r' :: '\n' :: _ => true
  | _ => false

/-- A text on several lines after its double quotes, and what follows it. After a
backslash at the end of a line, blanks and line ends are skipped. -/
def longBasicText? (skip : Bool) (read : List Char) :
    List Char → Option (List Char × List Char)
  | [] => none
  | '"' :: '"' :: '"' :: rest => some (closeText '"' read rest)
  | '\r' :: '\n' :: rest => longBasicText? skip (if skip then read else '\n' :: read) rest
  | '\\' :: 'u' :: a :: b :: c :: d :: rest =>
    match codePoint? [a, b, c, d] with
    | some x => longBasicText? false (x :: read) rest
    | none => none
  | '\\' :: 'U' :: a :: b :: c :: d :: e :: f :: g :: h :: rest =>
    match codePoint? [a, b, c, d, e, f, g, h] with
    | some x => longBasicText? false (x :: read) rest
    | none => none
  | '\\' :: c :: rest =>
    match escaped? c with
    | some x => longBasicText? false (x :: read) rest
    | none => if endsLine (c :: rest) then longBasicText? true read (c :: rest) else none
  | c :: rest =>
    if c = '\n' ∨ isGap c then longBasicText? skip (if skip then read else c :: read) rest
    else if isPlain c ∧ c ≠ '\\' then longBasicText? false (c :: read) rest
    else none

/-- A text on one line after its single quote, and what follows it. -/
def literalText? (s : List Char) : Option (List Char × List Char) :=
  match cut '\'' s with
  | some (text, rest) => if text.all isPlain then some (text, rest) else none
  | none => none

/-- A text on several lines after its single quotes, and what follows it. -/
def longLiteralText? (read : List Char) : List Char → Option (List Char × List Char)
  | [] => none
  | '\'' :: '\'' :: '\'' :: rest => some (closeText '\'' read rest)
  | '\r' :: '\n' :: rest => longLiteralText? ('\n' :: read) rest
  | c :: rest => if c = '\n' ∨ isPlain c then longLiteralText? (c :: read) rest else none

/-- A text on several lines starts behind a line end that follows its quotes. -/
def skipFirstBreak : List Char → List Char
  | '\n' :: rest => rest
  | '\r' :: '\n' :: rest => rest
  | s => s

/-- A text between quotes on one line, and what follows it. -/
def shortText? : List Char → Option (List Char × List Char)
  | '"' :: rest => basicText? [] rest
  | '\'' :: rest => literalText? rest
  | _ => none

/-- A text between quotes, and what follows it. -/
def text? : List Char → Option (List Char × List Char)
  | '"' :: '"' :: '"' :: rest => longBasicText? false [] (skipFirstBreak rest)
  | '\'' :: '\'' :: '\'' :: rest => longLiteralText? [] (skipFirstBreak rest)
  | s => shortText? s

end CredRelay.Toml
