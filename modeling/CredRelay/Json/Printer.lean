import CredRelay.Text.Numeral
/-! Writing JSON. A text is written between quotes; quotes, backslashes and controls are
escaped, all other characters stand for themselves. -/
namespace CredRelay.Json

open Text

/-- A character as it stands between quotes. -/
def writtenCharacter (c : Char) : List Char :=
  if c = '"' then ['\\', '"']
  else if c = '\\' then ['\\', '\\']
  else if 0x20 ≤ c.toNat then [c]
  else if c = '\n' then ['\\', 'n']
  else if c = '\r' then ['\\', 'r']
  else if c = '\t' then ['\\', 't']
  else if c.toNat = 8 then ['\\', 'b']
  else if c.toNat = 12 then ['\\', 'f']
  else
    ['\\', 'u', '0', '0', Char.ofNat (0x30 + c.toNat / 16), Nat.digitChar (c.toNat % 16)]

/-- A text as it is written. -/
def writtenText (s : List Char) : List Char :=
  '"' :: s.flatMap writtenCharacter ++ ['"']

/-- An object whose values are texts as it is written, without blanks. -/
def writtenObject (members : List (List Char × List Char)) : List Char :=
  '\x7b' :: [','].intercalate (members.map fun (name, value) =>
    writtenText name ++ ':' :: writtenText value) ++ ['\x7d']

end CredRelay.Json
