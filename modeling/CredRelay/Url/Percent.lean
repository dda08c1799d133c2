import CredRelay.Text.Numeral
import CredRelay.Text.Utf8
/-! Percent escapes. An escape is a percent sign and two hexadecimal digits and stands for
an octet. Decoding reads each run of escapes as UTF-8 and leaves all other characters
alone; a percent sign that starts no escape stands for itself. Decoding never makes a text
longer. -/
namespace CredRelay.Url

open Text

/-- The octet that two hexadecimal digits spell. -/
def escaped? (high low : Char) : Option UInt8 :=
  match digit? 16 high, digit? 16 low with
  | some h, some l => some (UInt8.ofNat (h * 16 + l))
  | _, _ => none

/-- Decodes the rest of a text, given the octets of the run of escapes before it, last
first. -/
def percentDecodeFrom (run : List UInt8) : List Char → List Char
  | '%' :: high :: low :: rest =>
    match escaped? high low with
    | some b => percentDecodeFrom (b :: run) rest
    | none => ofUtf8Lenient run.reverse ++ '%' :: percentDecodeFrom []
        (high :: low :: rest)
  | c :: rest => ofUtf8Lenient run.reverse ++ c :: percentDecodeFrom [] rest
  | [] => ofUtf8Lenient run.reverse

/-- The text with its escapes decoded. -/
def percentDecode (s : List Char) : List Char :=
  percentDecodeFrom [] s

/-- The escapes of a character's UTF-8 octets. -/
def escape (c : Char) : List Char :=
  (String.utf8EncodeChar c).flatMap fun b => '%' :: (hexCapitals 2 b.toNat).toList

/-- The text with every character that satisfies `p` escaped. -/
def percentEncode (p : Char → Bool) (s : List Char) : List Char :=
  s.flatMap fun c => if p c then escape c else [c]

/-- The characters that are escaped wherever they stand: controls and those outside
ASCII. -/
def isControlOrWide (c : Char) : Bool :=
  c.toNat < 0x20 || 0x7E < c.toNat

theorem percentDecodeFrom_length_le (run : List UInt8) (s : List Char) :
    (percentDecodeFrom run s).length ≤ run.length + s.length := by
  fun_induction percentDecodeFrom run s with
  | case1 run high low rest b _ ih =>
    simp only [List.length_cons] at ih ⊢
    omega
  | case2 run high low rest _ ih =>
    have := ofUtf8Lenient_length_le run.reverse
    simp only [List.length_append, List.length_cons, List.length_nil,
      List.length_reverse] at *
    omega
  | case3 run c rest _ ih =>
    have := ofUtf8Lenient_length_le run.reverse
    simp only [List.length_append, List.length_cons, List.length_nil,
      List.length_reverse] at *
    omega
  | case4 run => simpa using ofUtf8Lenient_length_le run.reverse

theorem percentDecode_length_le (s : List Char) :
    (percentDecode s).length ≤ s.length := by
  simpa [percentDecode] using percentDecodeFrom_length_le [] s

end CredRelay.Url
