import CredRelay.Text.Blank
/-! Punycode: texts of any characters written in ASCII letters, digits and hyphens. The
ASCII characters come first, then a hyphen if there are any; after it stand
variable-length numbers in base 36, one for each other character in ascending order, that
say where it goes. -/
namespace CredRelay.Url.Punycode

/-- The digit for a value below 36. -/
def digit (n : Nat) : Char :=
  if n < 26 then Char.ofNat (0x61 + n) else Char.ofNat (0x30 + (n - 26))

/-- The value of a digit; letters count in either case. -/
def value? (c : Char) : Option Nat :=
  let n := c.toNat
  if 'a' ≤ c ∧ c ≤ 'z' then some (n - 0x61)
  else if 'A' ≤ c ∧ c ≤ 'Z' then some (n - 0x41)
  else if '0' ≤ c ∧ c ≤ '9' then some (n - 0x30 + 26)
  else none

/-- From which value on the digit at place `k` is not the last one. -/
def threshold (k bias : Nat) : Nat :=
  if k ≤ bias then 1 else if bias + 26 ≤ k then 26 else k - bias

theorem threshold_pos (k bias : Nat) : 1 ≤ threshold k bias := by
  unfold threshold
  split
  · omega
  · split <;> omega

theorem threshold_le (k bias : Nat) : threshold k bias ≤ 26 := by
  unfold threshold
  split
  · omega
  · split <;> omega

/-- How far thresholds move, given the size of the last number. -/
def scale (delta k : Nat) : Nat :=
  if 455 < delta then scale (delta / 35) (k + 36) else k + 36 * delta / (delta + 38)
termination_by delta
decreasing_by exact Nat.div_lt_self (by omega) (by omega)

/-- The bias after a number of size `delta` that placed one of `count` characters. -/
def adapt (delta count : Nat) (first : Bool) : Nat :=
  let d := if first then delta / 700 else delta / 2
  scale (d + d / count) 0

/-- The digits of a number. -/
def number (q k bias : Nat) : List Char :=
  let t := threshold k bias
  if q < t then [digit q]
  else digit (t + (q - t) % (36 - t)) :: number ((q - t) / (36 - t)) (k + 36) bias
termination_by q
decreasing_by
  have h1 := threshold_pos k bias
  have h2 := threshold_le k bias
  have : (q - threshold k bias) / (36 - threshold k bias) ≤ q - threshold k bias :=
    Nat.div_le_self _ _
  omega

/-- Where the writer stands: the next code point, the steps since the last number, the
bias, the characters placed, and what is written, last first. -/
structure Writer where
  next : Nat
  steps : Nat
  bias : Nat
  placed : Nat
  written : List Char

/-- Passes one character of the text while the code point `n` is being placed. -/
def Writer.pass (ascii n : Nat) (w : Writer) (c : Char) : Writer :=
  if c.toNat < n then { w with steps := w.steps + 1 }
  else if c.toNat = n then
    { w with
      steps := 0
      bias := adapt w.steps (w.placed + 1) (w.placed == ascii)
      placed := w.placed + 1
      written := (number w.steps 36 w.bias).reverse ++ w.written }
  else w

/-- Places all occurrences of one code point. -/
def Writer.place (ascii : Nat) (s : List Char) (w : Writer) (n : Nat) : Writer :=
  let start := { w with steps := w.steps + (n - w.next) * (w.placed + 1) }
  let done := s.foldl (Writer.pass ascii n) start
  { done with steps := done.steps + 1, next := n + 1 }

/-- A list of numbers with one more, in ascending order and without repetition. -/
def insertAscending (n : Nat) : List Nat → List Nat
  | [] => [n]
  | m :: rest =>
    if n < m then n :: m :: rest
    else if n = m then m :: rest
    else m :: insertAscending n rest

/-- The written form of a text. -/
def encode (s : List Char) : List Char :=
  let ascii := s.filter (fun c => c.toNat < 0x80)
  let others :=
    (s.filter (fun c => 0x80 ≤ c.toNat)).foldl (fun l c => insertAscending c.toNat l) []
  let start : Writer := ⟨0x80, 0, 72, ascii.length, []⟩
  let done := others.foldl (Writer.place ascii.length s) start
  ascii ++ (if ascii.isEmpty then [] else ['-']) ++ done.written.reverse

/-- Where the reader stands: the text so far, the last code point, the place after the
last insertion, the number being read with the weight and the place of its next digit, and
the bias. -/
structure Reader where
  text : List Char
  point : Nat
  origin : Nat
  sum : Nat
  weight : Nat
  place : Nat
  bias : Nat

/-- Inserts the character that a finished number `sum` stands for. -/
def Reader.insert (r : Reader) (sum : Nat) : Option Reader :=
  let count := r.text.length + 1
  let point := r.point + sum / count
  let position := sum % count
  if point.isValidChar then
    some {
      text := r.text.take position ++ Char.ofNat point :: r.text.drop position
      point := point
      origin := position + 1
      sum := position + 1
      weight := 1
      place := 36
      bias := adapt (sum - r.origin) count (r.origin == 0) }
  else none

/-- Reads one digit. Numbers and weights stay below 2 ^ 32. -/
def Reader.step (r : Reader) (c : Char) : Option Reader :=
  match value? c with
  | none => none
  | some d =>
    let sum := r.sum + d * r.weight
    let t := threshold r.place r.bias
    if 4294967296 ≤ sum then none
    else if d < t then r.insert sum
    else if 4294967296 ≤ r.weight * (36 - t) then none
    else some { r with sum := sum, weight := r.weight * (36 - t), place := r.place + 36 }

/-- The parts before and after the last hyphen, unless nothing stands before it. -/
def cutLastHyphen (s : List Char) : List Char × List Char :=
  let digits := (s.reverse.takeWhile (· != '-')).reverse
  let before := s.take (s.length - digits.length - 1)
  if s.length = digits.length ∨ before.isEmpty then ([], s) else (before, digits)

/-- The text that a written form stands for. -/
def decode? (s : List Char) : Option (List Char) :=
  let (ascii, digits) := cutLastHyphen s
  let start : Reader := ⟨ascii, 0x80, 0, 0, 1, 36, 72⟩
  match digits.foldlM Reader.step start with
  | some r => if r.place = 36 then some r.text else none
  | none => none

end CredRelay.Url.Punycode
