import CredRelay.Text.Numeral
/-! Base64 with the standard alphabet and padding. Three octets make four digits; one
or two left over make two or three digits and are padded to four. Reading accepts
written forms only: padding must be there, and the bits that padding leaves unused must
be zero. -/
namespace CredRelay.Text.Base64

/-- The digit for a value below sixty-four. -/
def digit (n : Nat) : Char :=
  if n < 26 then Char.ofNat (0x41 + n)
  else if n < 52 then Char.ofNat (0x61 + (n - 26))
  else if n < 62 then Char.ofNat (0x30 + (n - 52))
  else if n = 62 then '+' else '/'

/-- The value of a digit. -/
def value? (c : Char) : Option Nat :=
  let n := c.toNat
  if 'A' ≤ c ∧ c ≤ 'Z' then some (n - 0x41)
  else if 'a' ≤ c ∧ c ≤ 'z' then some (n - 0x61 + 26)
  else if '0' ≤ c ∧ c ≤ '9' then some (n - 0x30 + 52)
  else if c = '+' then some 62
  else if c = '/' then some 63
  else none

/-- The written form of some octets. -/
def encode : List UInt8 → List Char
  | [] => []
  | [a] =>
    let n := a.toNat * 16
    [digit (n / 64), digit (n % 64), '=', '=']
  | [a, b] =>
    let n := (a.toNat * 256 + b.toNat) * 4
    [digit (n / 4096), digit (n / 64 % 64), digit (n % 64), '=']
  | a :: b :: c :: rest =>
    let n := (a.toNat * 256 + b.toNat) * 256 + c.toNat
    digit (n / 262144) :: digit (n / 4096 % 64) :: digit
      (n / 64 % 64) :: digit (n % 64) ::
      encode rest

/-- The octets of the last four digits, which may end in padding. -/
def decodeLast? (a b c d : Char) : Option (List UInt8) := do
  let x ← value? a
  let y ← value? b
  if d = '=' then
    if c = '=' then
      if y % 16 = 0 then some [UInt8.ofNat (x * 4 + y / 16)] else none
    else
      let z ← value? c
      if z % 4 = 0 then
        some [UInt8.ofNat (x * 4 + y / 16), UInt8.ofNat (y % 16 * 16 + z / 4)]
      else none
  else
    let z ← value? c
    let w ← value? d
    some [UInt8.ofNat (x * 4 + y / 16), UInt8.ofNat (y % 16 * 16 + z / 4),
      UInt8.ofNat (z % 4 * 64 + w)]

/-- The octets of four digits without padding. -/
def decodeFour? (a b c d : Char) : Option (List UInt8) := do
  let x ← value? a
  let y ← value? b
  let z ← value? c
  let w ← value? d
  some [UInt8.ofNat (x * 4 + y / 16), UInt8.ofNat (y % 16 * 16 + z / 4),
    UInt8.ofNat (z % 4 * 64 + w)]

/-- The octets that a text is the written form of. -/
def decode? : List Char → Option (List UInt8)
  | [] => some []
  | a :: b :: c :: d :: rest =>
    if rest.isEmpty then decodeLast? a b c d
    else do
      let first ← decodeFour? a b c d
      let others ← decode? rest
      some (first ++ others)
  | _ => none

end CredRelay.Text.Base64
