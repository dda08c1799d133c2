import CredRelay.Text.Numeral
import CredRelay.Unicode.Unprintable
/-! Quoted texts for messages. The text stands between double quotes; quotes and
backslashes get a backslash, common controls their letter, and all else that does not show
its code point. -/
namespace CredRelay.Text

/-- A character as it stands between quotes. -/
def quotedCharacter (c : Char) : String :=
  match c with
  | '\t' => "\\t"
  | '\n' => "\\n"
  | '\r' => "\\r"
  | '\x00' => "\\0"
  | '"' => "\\\""
  | '\\' => "\\\\"
  | c =>
    if Unicode.isUnprintable c then "\\u\x7b" ++ hexadecimal c.toNat ++ "\x7d"
    else String.singleton c

/-- A text between quotes. -/
def quoted (s : String) : String :=
  "\"" ++ String.join (s.toList.map quotedCharacter) ++ "\""

end CredRelay.Text
