/-! Reading and writing numbers. A numeral is one or more digits of its base and stands
for their positional value; decimal output has no leading zero. -/
namespace CredRelay.Text

/-- The value of a decimal digit or a letter up to `f` in either case; sixteen for all
else. -/
def digitValue (c : Char) : Nat :=
  if '0' ≤ c ∧ c ≤ '9' then c.toNat - 0x30
  else if 'a' ≤ c ∧ c ≤ 'f' then c.toNat - 0x61 + 10
  else if 'A' ≤ c ∧ c ≤ 'F' then c.toNat - 0x41 + 10
  else 16

/-- The value of a digit in a base up to sixteen. -/
def digit? (base : Nat) (c : Char) : Option Nat :=
  if digitValue c < base then some (digitValue c) else none

/-- The value of a numeral that continues the number `n`. -/
def numeralFrom? (base n : Nat) : List Char → Option Nat
  | [] => some n
  | c :: rest =>
    match digit? base c with
    | some d => numeralFrom? base (n * base + d) rest
    | none => none

/-- The value of a numeral: at least one digit and nothing else. -/
def numeral? (base : Nat) (s : List Char) : Option Nat :=
  if s.isEmpty then none else numeralFrom? base 0 s

/-- A number in decimal. -/
def decimal (n : Nat) : String :=
  String.ofList (Nat.toDigits 10 n)

/-- A number in small hexadecimal digits. -/
def hexadecimal (n : Nat) : String :=
  String.ofList (Nat.toDigits 16 n)

/-- The capital hexadecimal digits of a number, at least `width` of them. -/
def hexCapitals (width n : Nat) : String :=
  let digits := (Nat.toDigits 16 n).map Char.toUpper
  String.ofList (List.replicate (width - digits.length) '0' ++ digits)

end CredRelay.Text
