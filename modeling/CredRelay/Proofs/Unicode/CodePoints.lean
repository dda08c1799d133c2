import CredRelay.Unicode.Range
/-! Sets of code points as numbers with one bit for each, so that what the tables say
about whole sets can be computed. -/
namespace CredRelay.Unicode

/-- The range of one code point. -/
def Range.single (n : Nat) : Range := ⟨n, n⟩

/-- The bits of a range. -/
def Range.bits (r : Range) : Nat :=
  (1 <<< (r.last + 1 - r.first) - 1) <<< r.first

theorem Range.testBit_bits (r : Range) (n : Nat) : r.bits.testBit n = r.has n := by
  rw [Range.bits, Range.has, Nat.one_shiftLeft, Nat.testBit_shiftLeft,
    Nat.testBit_two_pow_sub_one]
  rw [Bool.eq_iff_iff]
  simp only [Bool.and_eq_true, decide_eq_true_eq]
  omega

theorem Range.has_single (n m : Nat) : (Range.single n).has m = (m == n) := by
  rw [Range.has, Range.single, Bool.eq_iff_iff]
  simp only [Bool.and_eq_true, decide_eq_true_eq, beq_iff_eq]
  omega

/-- The set of the code points in some ranges. -/
def codePoints (ranges : List Range) : Nat :=
  ranges.foldl (fun set r => set ||| r.bits) 0

theorem testBit_foldl_bits (ranges : List Range) (set n : Nat) :
    (ranges.foldl (fun set r => set ||| r.bits) set).testBit n =
      (set.testBit n || ranges.any (·.has n)) := by
  induction ranges generalizing set with
  | nil => simp
  | cons r ranges ih => simp [ih, Nat.testBit_or, Range.testBit_bits, Bool.or_assoc]

theorem testBit_codePoints (ranges : List Range) (n : Nat) :
    (codePoints ranges).testBit n = ranges.any (·.has n) := by
  rw [codePoints, testBit_foldl_bits, Nat.zero_testBit, Bool.false_or]

/-- What is in one of two sets that have nothing in common is not in the other. -/
theorem not_testBit_of_disjoint {a b n : Nat} (h : a &&& b = 0)
    (ha : a.testBit n = true) : b.testBit n = false := by
  have hand : (a &&& b).testBit n = false := by rw [h, Nat.zero_testBit]
  rwa [Nat.testBit_and, ha, Bool.true_and] at hand

/-! ## Characters of code points -/

theorem toNat_ofNat_of_isValidChar {n : Nat} (h : n.isValidChar) :
    (Char.ofNat n).toNat = n := by
  have hchar : Char.ofNat n = Char.ofNatAux n h := dif_pos h
  rw [hchar]
  rfl

/-- What is no code point stands for zero. -/
theorem toNat_ofNat_eq_or (n : Nat) :
    (Char.ofNat n).toNat = n ∨ (Char.ofNat n).toNat = 0 := by
  by_cases h : n.isValidChar
  · exact .inl (toNat_ofNat_of_isValidChar h)
  · exact .inr (congrArg Char.toNat (dif_neg h))

theorem not_testBit_toNat_ofNat {set n : Nat} (hzero : set.testBit 0 = false)
    (h : set.testBit n = false) : set.testBit (Char.ofNat n).toNat = false := by
  rcases toNat_ofNat_eq_or n with heq | heq <;> rw [heq]
  · exact h
  · exact hzero

end CredRelay.Unicode
