import CredRelay.Unicode.Canonical
/-! The composed normal form: characters are decomposed in full, marks after a base are
put into the order of their combining classes, and pairs that have a composed form are
composed again. -/
namespace CredRelay.Unicode

/-- The combining class of a character; zero for a base. -/
def combiningClass (c : Char) : Nat :=
  ((combiningClasses.find? fun e => e.1.has c.toNat).map (fun e => e.2)).getD 0

/-- The full decomposition of a code point by the pairs that make one: the first part of a
pair is taken apart by the pairs behind it. -/
def partsBy : List ((Nat × Nat) × Nat) → Nat → List Nat
  | [], n => (decompositions.lookup n).getD [n]
  | ((a, b), target) :: rest,
      n => if n = target then partsBy rest a ++ [b] else partsBy rest n

/-- The full decomposition of a character. A Hangul syllable is a lead, a vowel and
perhaps a tail. -/
def decompose (c : Char) : List Char :=
  let n := c.toNat
  if n < 0xC0 then [c]
  else if 0xAC00 ≤ n ∧ n ≤ 0xD7A3 then
    let s := n - 0xAC00
    let base := [Char.ofNat (0x1100 + s / 588), Char.ofNat (0x1161 + s % 588 / 28)]
    if s % 28 = 0 then base else base ++ [Char.ofNat (0x11A7 + s % 28)]
  else (partsBy compositions n).map Char.ofNat

/-- What two characters compose to. -/
def compose? (a b : Char) : Option Char :=
  let x := a.toNat
  let y := b.toNat
  if 0x1100 ≤ x ∧ x < 0x1113 ∧ 0x1161 ≤ y ∧ y < 0x1176 then
    some (Char.ofNat (0xAC00 + ((x - 0x1100) * 21 + (y - 0x1161)) * 28))
  else if 0xAC00 ≤ x ∧ x ≤ 0xD7A3 ∧ (x - 0xAC00) % 28 = 0 ∧ 0x11A7 < y ∧ y < 0x11C3 then
    some (Char.ofNat (x + (y - 0x11A7)))
  else (compositions.lookup (x, y)).map Char.ofNat

/-- Puts a mark behind all marks of its class or a lower one. -/
def insertMark (k : Nat) (c : Char) : List (Nat × Char) → List (Nat × Char)
  | [] => [(k, c)]
  | (j, d) :: rest => if j ≤ k then (j, d) :: insertMark k c rest else (k, c) ::
    (j, d) :: rest

/-- Orders the marks after each base; `marks` are those met since the last base. -/
def orderMarks (marks : List (Nat × Char)) : List Char → List (Nat × Char)
  | [] => marks
  | c :: rest =>
    let k := combiningClass c
    if k = 0 then marks ++ (0, c) :: orderMarks [] rest
    else orderMarks (insertMark k c marks) rest

/-- Composes a text whose marks are in order, behind the base `base`; `marks` are the
marks that did not compose, last first, and `last` is the class of the last of them. -/
def composeFrom (base : Char) (marks : List Char) (last : Nat) :
    List (Nat × Char) → List Char
  | [] => base :: marks.reverse
  | (k, c) :: rest =>
    match if marks.isEmpty ∨ last < k then compose? base c else none with
    | some d => composeFrom d marks last rest
    | none =>
      if k = 0 then base :: marks.reverse ++ composeFrom c [] 0 rest
      else composeFrom base (c :: marks) k rest

/-- Composes a text whose marks are in order. Marks before the first base stay. -/
def composeAll : List (Nat × Char) → List Char
  | [] => []
  | (k, c) :: rest => if k = 0 then composeFrom c [] 0 rest else c :: composeAll rest

/-- The composed normal form of a text. -/
def composed (s : List Char) : List Char :=
  if s.all (fun c => c.toNat < 0xC0) then s
  else composeAll (orderMarks [] (s.flatMap decompose))

end CredRelay.Unicode
