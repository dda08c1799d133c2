import CredRelay.Text.Cut
import CredRelay.Text.Numeral
/-! Writing TOML. A text is written between double quotes with escapes, or between single
quotes as it is where that spares escapes; threefold quotes admit line breaks and quotes.
Lists of two or more texts get a line for each. -/
namespace CredRelay.Toml

open Text

/-- Whether a character is a control. -/
def isControl (c : Char) : Bool :=
  c.toNat < 0x20 || c.toNat == 0x7F

/-- The longest run of a quote in a text; `now` is the length of the run before it. -/
def longestRun (quote : Char) (now : Nat) : List Char → Nat
  | [] => now
  | c :: rest =>
    if c = quote then longestRun quote (now + 1) rest else max now
      (longestRun quote 0 rest)

/-- How a text is written: with escapes or as it is, between single marks or threefold
ones. -/
inductive Form where
  | escaped
  | literal
  | longEscaped
  | longLiteral
  deriving DecidableEq, Repr

/-- The first form, in the order of the list, that a text can be written in without
escapes other than for tabs; where there is none, one with escapes. Threefold marks admit
one or two of their quotes in a row. -/
def formOf (s : List Char) : Form :=
  let controls := s.any (fun c => c != '\t' && c != '\n' && isControl c)
  let lines := s.contains '\n'
  let plain := !controls && !s.contains '\\'
  if plain && !lines && longestRun '"' 0 s == 0 then .escaped
  else if !controls && !lines && longestRun '\'' 0 s == 0 then .literal
  else if plain && longestRun '"' 0 s < 3 then .longEscaped
  else if !controls && longestRun '\'' 0 s < 3 then .longLiteral
  else if lines then .longEscaped
  else .escaped

/-- A character other than a quote as it stands where escapes count; `long` tells whether
lines may break. -/
def writtenCharacter (long : Bool) (c : Char) : List Char :=
  if c = '\x08' then ['\\', 'b']
  else if c = '\t' then ['\\', 't']
  else if c = '\n' then (if long then ['\n'] else ['\\', 'n'])
  else if c = '\x0c' then ['\\', 'f']
  else if c = '\r' then ['\\', 'r']
  else if c = '\\' then ['\\', '\\']
  else if isControl c then '\\' :: 'u' :: (hexCapitals 4 c.toNat).toList
  else [c]

/-- The characters of a text as they stand where escapes count. A quote is escaped,
but between threefold marks only if two others stand right before it; `quotes` is how
many do. -/
def writtenCharacters (long : Bool) (quotes : Nat) : List Char → List Char
  | [] => []
  | c :: rest =>
    if c = '"' then
      if long && quotes < 2 then '"' :: writtenCharacters long (quotes + 1) rest
      else '\\' :: '"' :: writtenCharacters long 0 rest
    else writtenCharacter long c ++ writtenCharacters long 0 rest

/-- A text as it is written. Between threefold marks a text of several lines starts on a
line of its own. -/
def writtenText (s : List Char) : List Char :=
  let start := if s.contains '\n' then ['\n'] else []
  match formOf s with
  | .escaped => '"' :: writtenCharacters false 0 s ++ ['"']
  | .literal => '\'' :: s ++ ['\'']
  | .longEscaped =>
    "\"\"\"".toList ++ start ++ writtenCharacters true 0 s ++ "\"\"\"".toList
  | .longLiteral => "'''".toList ++ start ++ s ++ "'''".toList

/-- A list of texts as it is written. -/
def writtenTexts : List String → List Char
  | [] => ['[', ']']
  | [s] => '[' :: writtenText s.toList ++ [']']
  | texts =>
    '[' :: '\n' :: texts.flatMap
      (fun s => "    ".toList ++ writtenText s.toList ++ [',', '\n']) ++
      [']']

/-- A line with a key and a written value. -/
def writtenPair (key : String) (value : List Char) : List Char :=
  key.toList ++ " = ".toList ++ value ++ ['\n']

/-- The header of a table. -/
def writtenHeader (name : String) : List Char :=
  '[' :: name.toList ++ [']', '\n']

end CredRelay.Toml
