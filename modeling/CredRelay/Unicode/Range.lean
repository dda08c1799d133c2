/-! Tables of characters. An entry of a table is one number with a field of six
hexadecimal digits for each of its code points, the first one highest: a range is its
first and its last code point, or one that is both; a range that is carried to another
place in order has that place behind it; a code point that stands for others has these
behind it; and two that make one stand before that one. -/
namespace CredRelay.Unicode

/-- The code points from `first` to `last`. -/
structure Range where
  first : Nat
  last : Nat
  deriving DecidableEq, Repr

/-- Whether the range holds a code point. -/
def Range.has (r : Range) (n : Nat) : Bool :=
  r.first ≤ n && n ≤ r.last

/-- Whether one of the ranges holds a character. -/
def Range.holds (ranges : List Range) (c : Char) : Bool :=
  ranges.any (·.has c.toNat)

/-- The fields of an entry. -/
def fields (entry : Nat) : List Nat :=
  (List.range (entry.log2 / 24 + 1)).reverse.map fun i => entry >>> (24 * i) % 0x1000000

/-- The fields of an entry before its last one, as a number, and that last one. -/
def cutField (entry : Nat) : Nat × Nat :=
  (entry / 0x1000000, entry % 0x1000000)

/-- A range as it is written. -/
def Range.ofEntry (entry : Nat) : Range :=
  let (first, last) := cutField entry
  if first = 0 then ⟨last, last⟩ else ⟨first, last⟩

/-- The ranges of a table. -/
def Range.list (table : List Nat) : List Range :=
  table.map Range.ofEntry

/-- The ranges of a table, each with the number behind it. -/
def Range.shifts (table : List Nat) : List (Range × Nat) :=
  table.map fun entry =>
    let (range, target) := cutField entry
    (Range.ofEntry range, target)

/-- The code points of a table, each with those that it stands for. -/
def expansions (table : List Nat) : List (Nat × List Nat) :=
  table.map fun entry => ((fields entry).headD 0, (fields entry).tail)

/-- The pairs of a table, each with what it makes. -/
def pairs (table : List Nat) : List ((Nat × Nat) × Nat) :=
  table.map fun entry =>
    let (pair, target) := cutField entry
    (cutField pair, target)

end CredRelay.Unicode
