import CredRelay.Json.Value
/-! Tokens of JSON documents. The lexer goes through a text once, one character at a time,
and keeps what it is in the middle of. -/
namespace CredRelay.Json

open Text

/-- A token: a mark of structure, or a value that has no parts. -/
inductive Token where
  | mark (c : Char)
  | value (v : Value)

/-- What the lexer is in the middle of; characters and code points are kept last first. -/
inductive Lexeme where
  | none
  | text (points : List Nat)
  | escape (points : List Nat)
  | hex (points : List Nat) (left : Nat) (value : Nat)
  | number (spelling : List Char)
  | word (spelling : List Char)

/-- The lexer: what it is in the middle of, and the tokens so far, last first. -/
structure Lexer where
  lexeme : Lexeme
  tokens : List Token

/-- Whether a character may stand between tokens. -/
def isSpace (c : Char) : Bool :=
  c == ' ' || c == '\t' || c == '\n' || c == '\r'

/-- Whether a character marks structure. -/
def isMark (c : Char) : Bool :=
  "\x7b\x7d[],:".toList.contains c

/-- Whether a character can be part of a number. -/
def isNumberCharacter (c : Char) : Bool :=
  c.isDigit || c == '-' || c == '+' || c == '.' || c == 'e' || c == 'E'

/-- Joins each high surrogate with a low one right after it. -/
def joinSurrogates : List Nat → List Nat
  | high :: low :: rest =>
    if 0xD800 ≤ high ∧ high < 0xDC00 ∧ 0xDC00 ≤ low ∧ low < 0xE000 then
      (0x10000 + (high - 0xD800) * 0x400 + (low - 0xDC00)) :: joinSurrogates rest
    else high :: joinSurrogates (low :: rest)
  | points => points

/-- What follows one or more digits. -/
def afterDigits? (s : List Char) : Option (List Char) :=
  if s.head?.any Char.isDigit then some (s.dropWhile Char.isDigit) else none

/-- What follows the digits of a whole number, which has no leading zero. -/
def afterWhole? : List Char → Option (List Char)
  | '0' :: rest => some rest
  | s => afterDigits? s

/-- What follows the fraction of a number, which may be missing. -/
def afterFraction? : List Char → Option (List Char)
  | '.' :: rest => afterDigits? rest
  | s => some s

/-- What follows the exponent of a number, which may be missing. -/
def afterExponent? : List Char → Option (List Char)
  | [] => some []
  | c :: rest =>
    if c = 'e' ∨ c = 'E' then
      match rest with
      | '+' :: digits => afterDigits? digits
      | '-' :: digits => afterDigits? digits
      | digits => afterDigits? digits
    else some (c :: rest)

/-- Whether a text is a number. -/
def isNumber (s : List Char) : Bool :=
  let digits :=
    match s with
    | '-' :: rest => rest
    | s => s
  (((afterWhole? digits).bind afterFraction?).bind afterExponent?).any List.isEmpty

/-- The value of a word. -/
def word? (s : List Char) : Option Value :=
  if s = "null".toList then some .null
  else if s = "true".toList then some (.bool true)
  else if s = "false".toList then some (.bool false)
  else none

/-- Adds a finished value to the tokens. -/
def Lexer.emit (tokens : List Token) (v : Value) : List Token :=
  .value v :: tokens

/-- Ends what the lexer is in the middle of, which must be whole. -/
def Lexer.finish? (l : Lexer) : Option (List Token) :=
  match l.lexeme with
  | .none => some l.tokens
  | .number spelling =>
    let s := spelling.reverse
    if isNumber s then some (emit l.tokens (.number s)) else none
  | .word spelling => (word? spelling.reverse).map (emit l.tokens)
  | _ => none

/-- Starts a token at a character. -/
def Lexer.start? (tokens : List Token) (c : Char) : Option Lexer :=
  if isSpace c then some ⟨.none, tokens⟩
  else if isMark c then some ⟨.none, .mark c :: tokens⟩
  else if c = '"' then some ⟨.text [], tokens⟩
  else if c.isDigit ∨ c = '-' then some ⟨.number [c], tokens⟩
  else if c.isLower then some ⟨.word [c], tokens⟩
  else none

/-- The code point that an escape of one letter stands for. -/
def escaped? (c : Char) : Option Nat :=
  [('"', 0x22), ('\\', 0x5C), ('/', 0x2F), ('b', 8), ('f', 12), ('n', 10), ('r', 13),
    ('t', 9)].lookup c

/-- Takes one character. -/
def Lexer.step? (l : Lexer) (c : Char) : Option Lexer :=
  match l.lexeme with
  | .none => start? l.tokens c
  | .text points =>
    if c = '"' then some ⟨.none, emit l.tokens (.text (joinSurrogates points.reverse))⟩
    else if c = '\\' then some ⟨.escape points, l.tokens⟩
    else if c.toNat < 0x20 then none
    else some ⟨.text (c.toNat :: points), l.tokens⟩
  | .escape points =>
    if c = 'u' then some ⟨.hex points 3 0, l.tokens⟩
    else (escaped? c).map fun n => ⟨.text (n :: points), l.tokens⟩
  | .hex points left value =>
    match digit? 16 c with
    | some d =>
      let value := value * 16 + d
      match left with
      | 0 => some ⟨.text (value :: points), l.tokens⟩
      | left + 1 => some ⟨.hex points left value, l.tokens⟩
    | none => none
  | .number spelling =>
    if isNumberCharacter c then some ⟨.number (c :: spelling), l.tokens⟩
    else (finish? l).bind fun tokens => start? tokens c
  | .word spelling =>
    if c.isLower then some ⟨.word (c :: spelling), l.tokens⟩
    else (finish? l).bind fun tokens => start? tokens c

/-- Takes the characters of a text. -/
def Lexer.run? (l : Lexer) : List Char → Option Lexer
  | [] => some l
  | c :: rest =>
    match l.step? c with
    | some next => next.run? rest
    | none => none

/-- The tokens of a text. -/
def tokens? (s : List Char) : Option (List Token) :=
  ((Lexer.run? ⟨.none, []⟩ s).bind Lexer.finish?).map List.reverse

end CredRelay.Json
