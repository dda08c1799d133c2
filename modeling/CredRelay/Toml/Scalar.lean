import CredRelay.Text.Numeral
import CredRelay.Toml.Value
/-! Scalars without quotes: booleans, whole numbers in four bases, numbers with a
fraction, and dates and times. Digits may be parted by single underscores; whole numbers
fit into 64 bits. -/
namespace CredRelay.Toml

open Text

/-- The digits of a number in a base, without the underscores between them. -/
def digits? (base : Nat) : List Char → Option (List Char)
  | [] => none
  | [c] => if (digit? base c).isSome then some [c] else none
  | c :: '_' :: rest =>
    if (digit? base c).isSome then (digits? base rest).map (c :: ·) else none
  | c :: rest => if (digit? base c).isSome then (digits? base rest).map (c :: ·) else none

/-- The value of the digits of a number in a base. -/
def digitsValue? (base : Nat) (s : List Char) : Option Nat :=
  (digits? base s).bind (numeral? base)

/-- The decimal digits of a whole number, which has no leading zero. -/
def whole? (s : List Char) : Option (List Char) :=
  if s.length > 1 ∧ s.head? = some '0' then none else digits? 10 s

/-- A number without its sign, and whether the sign is a minus. -/
def unsigned : List Char → Bool × List Char
  | '-' :: rest => (true, rest)
  | '+' :: rest => (false, rest)
  | s => (false, s)

/-- A whole number in 64 bits. -/
def bounded? (n : Int) : Option Int :=
  if -9223372036854775808 ≤ n ∧ n ≤ 9223372036854775807 then some n else none

/-- A whole number. -/
def integer? (s : List Char) : Option Int :=
  match s with
  | '0' :: 'x' :: rest => (digitsValue? 16 rest).bind fun n => bounded? n
  | '0' :: 'o' :: rest => (digitsValue? 8 rest).bind fun n => bounded? n
  | '0' :: 'b' :: rest => (digitsValue? 2 rest).bind fun n => bounded? n
  | s =>
    let (negative, rest) := unsigned s
    ((whole? rest).bind (numeral? 10)).bind fun n => bounded? (if negative then -n else n)

/-- The least value that is too large for a number with a fraction. -/
def fractionLimit : Nat :=
  Nat.pow 2 1024 - Nat.pow 2 970

/-- Whether the number of some digits times a power of ten is too large. Powers are only
computed where the count of digits does not decide. -/
def isTooLarge (mantissa : List Char) (exponent : Int) : Bool :=
  let significant := mantissa.dropWhile (· == '0')
  let size := (significant.length : Int) + exponent
  if significant.isEmpty ∨ size < 300 then false
  else if 400 < size then true
  else
    let n := (numeral? 10 significant).getD 0
    match exponent with
    | .ofNat e => fractionLimit ≤ n * Nat.pow 10 e
    | .negSucc e => fractionLimit * Nat.pow 10 (e + 1) ≤ n

/-- An exponent: an optional sign and digits. -/
def exponent? (s : List Char) : Option Int :=
  let (negative, rest) := unsigned s
  (digitsValue? 10 rest).map fun n => if negative then -(n : Int) else n

/-- The parts of a number before and after the first character that is one of two. -/
def cutAtEither (a b : Char) (s : List Char) : List Char × Option (List Char) :=
  match s.dropWhile (fun c => c != a && c != b) with
  | [] => (s, none)
  | _ :: rest => (s.takeWhile (fun c => c != a && c != b), some rest)

/-- Whether a text is a number with a fraction or an exponent, or one of the special
numbers. Numbers that are too large are not; those that are too small are. -/
def isFraction (s : List Char) : Bool :=
  let (negative, rest) := unsigned s
  if rest = "inf".toList then true
  else if rest = "nan".toList then true
  else
    let (body, exponent) := cutAtEither 'e' 'E' rest
    let (integral, fractional) := cutAtEither '.' '.' body
    if exponent.isNone && fractional.isNone then false
    else
      match whole? integral, fractional.map (digits? 10), exponent.map exponent? with
      | none, _, _ => false
      | _, some none, _ => false
      | _, _, some none => false
      | some i, f, e =>
        let f := (f.getD (some [])).getD []
        let e := (e.getD (some 0)).getD 0
        negative || !isTooLarge (i ++ f) (e - f.length)

/-- A number of exactly two digits between bounds. -/
def twoDigits? (low high : Nat) (a b : Char) : Option Nat :=
  (numeralFrom? 10 0 [a, b]).filter fun n => low ≤ n && n ≤ high

/-- The number of days of a month. -/
def daysIn (year month : Nat) : Nat :=
  if month = 2 then
    if year % 4 = 0 ∧ (year % 100 ≠ 0 ∨ year % 400 = 0) then 29 else 28
  else if [4, 6, 9, 11].contains month then 30
  else 31

/-- What follows a date. -/
def afterDate? : List Char → Option (List Char)
  | a :: b :: c :: d :: '-' :: m :: n :: '-' :: x :: y :: rest =>
    match numeralFrom? 10 0 [a, b, c, d], twoDigits? 1 12 m n with
    | some year, some month =>
      (twoDigits? 1 (daysIn year month) x y).map fun _ => rest
    | _, _ => none
  | _ => none

/-- What follows a time of day. -/
def afterTime? : List Char → Option (List Char)
  | a :: b :: ':' :: c :: d :: ':' :: e :: f :: rest =>
    match twoDigits? 0 23 a b, twoDigits? 0 59 c d, twoDigits? 0 60 e f with
    | some _, some _, some _ =>
      match rest with
      | '.' :: fraction =>
        if fraction.head?.any Char.isDigit then some
          (fraction.dropWhile Char.isDigit) else none
      | _ => some rest
    | _, _, _ => none
  | _ => none

/-- Whether a text is an offset from universal time. -/
def isOffset : List Char → Bool
  | ['Z'] | ['z'] => true
  | [s, a, b, ':', c, d] =>
    (s == '+' || s == '-') && (twoDigits? 0 23 a b).isSome && (twoDigits? 0 59 c d).isSome
  | _ => false

/-- Whether a text is a date, a time of day, or both with an optional offset. -/
def isMoment (s : List Char) : Bool :=
  match afterDate? s with
  | some [] => true
  | some (t :: rest) =>
    (t == 'T' || t == 't' || t == ' ') &&
      (afterTime? rest).any fun offset => offset.isEmpty || isOffset offset
  | none => (afterTime? s).any List.isEmpty

/-- The scalar that a text without quotes is. -/
def scalar? (s : List Char) : Option Value :=
  if s = "true".toList then some (.boolean true)
  else if s = "false".toList then some (.boolean false)
  else
    match integer? s with
    | some n => some (.integer n)
    | none => if isFraction s then some .fraction else if isMoment s then
        some .moment else none

end CredRelay.Toml
