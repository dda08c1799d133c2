import CredRelay.Proofs.Unicode.CodePoints
import CredRelay.Unicode.Composed
/-! Decomposition and composition of characters. What a decomposition gives is not taken
apart again, and what two characters compose to is taken apart into what the first one is
and the second one. -/
namespace CredRelay.Unicode

/-! ## What the tables say -/

/-- The code points that are taken apart. -/
def splitRanges : List Range :=
  ⟨0xAC00, 0xD7A3⟩ :: compositions.map (fun e => .single e.2) ++
    decompositions.map (fun e => .single e.1)

/-- Whether a code point is taken apart. -/
def isSplit (n : Nat) : Bool :=
  (codePoints splitRanges).testBit n

/-- Whether each pair stands before the one that makes its first part, given those that
are made by the pairs before it. -/
def standsInOrder (made : Nat) : List ((Nat × Nat) × Nat) → Bool
  | [] => true
  | ((a, _), target) :: rest =>
    !made.testBit target && !(made ||| 1 <<< target).testBit a &&
      standsInOrder (made ||| 1 <<< target) rest

theorem standsInOrder_compositions : standsInOrder 0 compositions = true := by
  decide +kernel

theorem compositions_all : compositions.all (fun e =>
    0xC0 ≤ e.1.2 && 0xC0 ≤ e.2 && !isSplit e.1.2 && e.1.1 != 0x2E &&
      !(Range.has ⟨0xAC00, 0xD7A3⟩ e.1.1) && !(Range.has ⟨0xAC00, 0xD7A3⟩ e.2) &&
      decide e.2.isValidChar) = true := by
  decide +kernel

theorem decompositions_all :
    decompositions.all (fun e => e.2.all fun n => !isSplit n && n != 0x2E) = true := by
  decide +kernel

theorem jamo_not_split :
    codePoints [⟨0x1100, 0x1112⟩, ⟨0x1161, 0x1175⟩, ⟨0x11A7, 0x11C2⟩] &&& codePoints
    splitRanges = 0 := by
  decide +kernel

theorem low_not_split : codePoints [⟨0, 0xBF⟩] &&& codePoints splitRanges = 0 := by
  decide +kernel

theorem combiningClasses_all :
    combiningClasses.all (fun e => 0xC0 ≤ e.1.first) = true := by
  decide +kernel

/-- What holds of every pair that composes. -/
structure IsPair (a b target : Nat) : Prop where
  second_high : 0xC0 ≤ b
  target_high : 0xC0 ≤ target
  second_whole : isSplit b = false
  first_ne_point : a ≠ 0x2E
  first_no_syllable : Range.has ⟨0xAC00, 0xD7A3⟩ a = false
  target_no_syllable : Range.has ⟨0xAC00, 0xD7A3⟩ target = false
  target_valid : target.isValidChar

theorem isPair_of_mem {a b target : Nat} (h : ((a, b), target) ∈ compositions) :
    IsPair a b target := by
  have hentry := List.all_eq_true.mp compositions_all _ h
  simp only [Bool.and_eq_true, Bool.not_eq_true', decide_eq_true_eq, bne_iff_ne] at hentry
  obtain ⟨⟨⟨⟨⟨⟨hb, htarget⟩, hwhole⟩, hpoint⟩, hfirst⟩, hsyllable⟩, hvalid⟩ := hentry
  exact ⟨hb, htarget, hwhole, hpoint, hfirst, hsyllable, hvalid⟩

/-- No part that a table gives is taken apart or a point. -/
theorem part_of_mem {n : Nat} {parts : List Nat} (h : (n, parts) ∈ decompositions) :
    ∀ m ∈ parts, isSplit m = false ∧ m ≠ 0x2E := by
  intro m hm
  have hall := List.all_eq_true.mp (List.all_eq_true.mp decompositions_all _ h) m hm
  simpa using hall

theorem isSplit_zero : isSplit 0 = false :=
  not_testBit_of_disjoint low_not_split (by rw [testBit_codePoints]; rfl)

theorem isSplit_eq (n : Nat) :
    isSplit n = (Range.has ⟨0xAC00, 0xD7A3⟩ n || compositions.any (fun e => n == e.2) ||
      decompositions.any (fun e => n == e.1)) := by
  rw [isSplit, testBit_codePoints, splitRanges]
  simp [List.any_map, Function.comp_def, Range.has_single, Bool.or_assoc]

/-! ## Looking up -/

theorem mem_of_lookup_eq_some {α β : Type} [BEq α] [LawfulBEq α]
    {table : List (α × β)} {key : α} {value : β} (h : table.lookup key = some value) :
    (key, value) ∈ table := by
  obtain ⟨before, after, rfl, -⟩ := List.lookup_eq_some_iff.mp h
  simp

theorem lookup_eq_none {β : Type} {table : List (Nat × β)} {n : Nat}
    (h : table.any (fun e => n == e.1) = false) : table.lookup n = none := by
  rw [List.lookup_eq_none_iff]
  intro e he
  simpa using List.any_eq_false.mp h e he

/-! ## Decomposing by pairs -/

theorem partsBy_of_not_made {table : List ((Nat × Nat) × Nat)} {n : Nat}
    (h : ∀ e ∈ table, n ≠ e.2) :
    partsBy table n = (decompositions.lookup n).getD [n] := by
  induction table with
  | nil => rfl
  | cons e table ih =>
    obtain ⟨⟨a, b⟩, target⟩ := e
    rw [partsBy, if_neg (h _ List.mem_cons_self)]
    exact ih fun e he => h e (List.mem_cons_of_mem _ he)

theorem testBit_or_shiftLeft (made target n : Nat) :
    (made ||| 1 <<< target).testBit n = (made.testBit n || target == n) := by
  rw [Nat.testBit_or, Nat.one_shiftLeft, Nat.testBit_two_pow]
  rfl

/-- Nothing that a later pair makes or starts with is made before. -/
theorem standsInOrder_mem {made : Nat} {table : List ((Nat × Nat) × Nat)}
    (h : standsInOrder made table = true) {e : (Nat × Nat) × Nat} (he : e ∈ table) :
    made.testBit e.2 = false ∧ made.testBit e.1.1 = false := by
  induction table generalizing made with
  | nil => exact absurd he List.not_mem_nil
  | cons f table ih =>
    obtain ⟨⟨a, b⟩, target⟩ := f
    simp only [standsInOrder, testBit_or_shiftLeft, Bool.and_eq_true, Bool.not_eq_true',
      Bool.or_eq_false_iff] at h
    obtain ⟨⟨htarget, ha, -⟩, hrest⟩ := h
    rcases List.mem_cons.mp he with rfl | he
    · exact ⟨htarget, ha⟩
    · obtain ⟨hsecond, hfirst⟩ := ih hrest he
      rw [testBit_or_shiftLeft, Bool.or_eq_false_iff] at hsecond hfirst
      exact ⟨hsecond.1, hfirst.1⟩

/-- What a pair makes is taken apart into what its first part is and its second part. -/
theorem partsBy_of_mem {made : Nat} {table : List ((Nat × Nat) × Nat)}
    (h : standsInOrder made table = true) {a b target : Nat}
    (he : ((a, b), target) ∈ table) : partsBy table target = partsBy table a ++ [b] := by
  induction table generalizing made with
  | nil => exact absurd he List.not_mem_nil
  | cons f table ih =>
    obtain ⟨⟨a', b'⟩, target'⟩ := f
    simp only [standsInOrder, Bool.and_eq_true, Bool.not_eq_true'] at h
    obtain ⟨⟨-, ha⟩, hrest⟩ := h
    rw [testBit_or_shiftLeft, Bool.or_eq_false_iff, beq_eq_false_iff_ne] at ha
    rcases List.mem_cons.mp he with heq | he
    · cases heq
      rw [partsBy, if_pos rfl, partsBy, if_neg ha.2.symm]
    · obtain ⟨hsecond, hfirst⟩ := standsInOrder_mem hrest he
      simp only [testBit_or_shiftLeft, Bool.or_eq_false_iff,
        beq_eq_false_iff_ne] at hsecond hfirst
      rw [partsBy, if_neg hsecond.2.symm, partsBy, if_neg hfirst.2.symm]
      exact ih hrest he

/-- What holds of a code point holds of its parts, if the tables keep it. -/
theorem of_mem_partsBy {p : Nat → Prop} {table : List ((Nat × Nat) × Nat)} {n : Nat}
    (hpairs : ∀ e ∈ table, p e.2 → p e.1.1 ∧ p e.1.2)
    (hown : ∀ e ∈ decompositions, p e.1 → ∀ m ∈ e.2, p m) (hn : p n) :
    ∀ m ∈ partsBy table n, p m := by
  induction table generalizing n with
  | nil =>
    intro m hm
    rw [partsBy] at hm
    cases hlookup : decompositions.lookup n with
    | none =>
      rw [hlookup, Option.getD_none, List.mem_singleton] at hm
      rwa [hm]
    | some parts =>
      rw [hlookup] at hm
      exact hown _ (mem_of_lookup_eq_some hlookup) hn m hm
  | cons e table ih =>
    obtain ⟨⟨a, b⟩, target⟩ := e
    have hrest : ∀ e ∈ table, p e.2 → p e.1.1 ∧ p e.1.2 :=
      fun e he => hpairs e (List.mem_cons_of_mem _ he)
    intro m hm
    rw [partsBy] at hm
    split at hm
    · next heq =>
      obtain ⟨ha, hb⟩ := hpairs _ List.mem_cons_self (heq ▸ hn)
      rcases List.mem_append.mp hm with hm | hm
      · exact ih hrest ha m hm
      · rwa [List.mem_singleton.mp hm]
    · exact ih hrest hn m hm

/-- Parts are not taken apart again. In `table` stand the pairs behind those that make
`made`. -/
theorem not_isSplit_of_mem_partsBy {made : Nat} {table : List ((Nat × Nat) × Nat)}
    {n : Nat} (h : standsInOrder made table = true) (hsub : ∀ e ∈ table, e ∈ compositions)
    (hmade : ∀ e ∈ compositions, made.testBit e.2 = true ∨ e ∈ table)
    (hn : made.testBit n = false) (hsyllable : Range.has ⟨0xAC00, 0xD7A3⟩ n = false) :
    ∀ m ∈ partsBy table n, isSplit m = false := by
  -- Along the table `made` grows by what is passed, so at its end no pair makes what is
  -- left.
  induction table generalizing made n with
  | nil =>
    intro m hm
    rw [partsBy] at hm
    cases hlookup : decompositions.lookup n with
    | none =>
      rw [hlookup, Option.getD_none, List.mem_singleton] at hm
      rw [hm, isSplit_eq, hsyllable, Bool.false_or, Bool.or_eq_false_iff]
      constructor
      · refine List.any_eq_false.mpr fun e he heq => ?_
        rcases hmade e he with hbit | hmem
        · rw [← beq_iff_eq.mp heq, hn] at hbit
          cases hbit
        · exact List.not_mem_nil hmem
      · refine List.any_eq_false.mpr fun e he => ?_
        simpa using List.lookup_eq_none_iff.mp hlookup e he
    | some parts =>
      rw [hlookup] at hm
      exact (part_of_mem (mem_of_lookup_eq_some hlookup) m hm).1
  | cons e table ih =>
    obtain ⟨⟨a, b⟩, target⟩ := e
    simp only [standsInOrder, Bool.and_eq_true, Bool.not_eq_true'] at h
    obtain ⟨⟨-, ha⟩, hrest⟩ := h
    have hpair : IsPair a b target := isPair_of_mem (hsub _ List.mem_cons_self)
    have hsub' : ∀ e ∈ table, e ∈ compositions :=
      fun e he => hsub e (List.mem_cons_of_mem _ he)
    have hmade' : ∀ e ∈ compositions, (made ||| 1 <<< target).testBit e.2 = true ∨
        e ∈ table := by
      intro e he
      rw [testBit_or_shiftLeft]
      rcases hmade e he with hbit | hmem
      · exact .inl (by rw [hbit, Bool.true_or])
      · rcases List.mem_cons.mp hmem with rfl | hmem
        · exact .inl (by simp)
        · exact .inr hmem
    intro m hm
    rw [partsBy] at hm
    split at hm
    · rcases List.mem_append.mp hm with hm | hm
      · exact ih hrest hsub' hmade' ha hpair.first_no_syllable m hm
      · rw [List.mem_singleton.mp hm]
        exact hpair.second_whole
    · next hne =>
      have hn' : (made ||| 1 <<< target).testBit n = false := by
        rw [testBit_or_shiftLeft, hn, Bool.false_or, beq_eq_false_iff_ne]
        exact fun heq => hne heq.symm
      exact ih hrest hsub' hmade' hn' hsyllable m hm

/-! ## Characters -/

theorem not_isSplit_of_lt {n : Nat} (h : n < 0xC0) : isSplit n = false := by
  refine not_testBit_of_disjoint low_not_split ?_
  rw [testBit_codePoints]
  simp [Range.has]
  omega

/-- Whether a code point is a letter of Hangul that syllables are made of. -/
def IsJamo (n : Nat) : Prop :=
  (0x1100 ≤ n ∧ n ≤ 0x1112) ∨ (0x1161 ≤ n ∧ n ≤ 0x1175) ∨ (0x11A7 ≤ n ∧ n ≤ 0x11C2)

theorem not_isSplit_of_isJamo {n : Nat} (h : IsJamo n) : isSplit n = false := by
  refine not_testBit_of_disjoint jamo_not_split ?_
  rw [testBit_codePoints]
  simpa [Range.has, IsJamo] using h

theorem decompose_of_not_isSplit {c : Char} (h : isSplit c.toNat = false) :
    decompose c = [c] := by
  rw [isSplit_eq, Bool.or_eq_false_iff, Bool.or_eq_false_iff] at h
  obtain ⟨⟨hsyllable, hmade⟩, hown⟩ := h
  have hparts : partsBy compositions c.toNat = [c.toNat] := by
    rw [partsBy_of_not_made, lookup_eq_none hown]
    · rfl
    · intro e he
      simpa using List.any_eq_false.mp hmade e he
  have hrange : ¬(0xAC00 ≤ c.toNat ∧ c.toNat ≤ 0xD7A3) := by
    simpa [Range.has] using hsyllable
  by_cases hlow : c.toNat < 0xC0
  · rw [decompose, if_pos hlow]
  · rw [decompose, if_neg hlow, if_neg hrange, hparts, List.map_singleton,
      Char.ofNat_toNat]

/-- Apart from the syllables the pairs take every character apart. -/
theorem decompose_eq_partsBy {c : Char} (h : Range.has ⟨0xAC00, 0xD7A3⟩ c.toNat = false) :
    decompose c = (partsBy compositions c.toNat).map Char.ofNat := by
  have hrange : ¬(0xAC00 ≤ c.toNat ∧ c.toNat ≤ 0xD7A3) := by
    simpa [Range.has] using h
  by_cases hlow : c.toNat < 0xC0
  · have hwhole := not_isSplit_of_lt hlow
    rw [decompose_of_not_isSplit hwhole]
    rw [isSplit_eq, Bool.or_eq_false_iff, Bool.or_eq_false_iff] at hwhole
    rw [partsBy_of_not_made, lookup_eq_none hwhole.2]
    · simp
    · intro e he
      simpa using List.any_eq_false.mp hwhole.1.2 e he
  · rw [decompose, if_neg hlow, if_neg hrange]

theorem decompose_syllable {s : Nat} (h : s < 11172) :
    decompose (Char.ofNat (0xAC00 + s)) =
      [Char.ofNat (0x1100 + s / 588), Char.ofNat (0x1161 + s % 588 / 28)] ++
        if s % 28 = 0 then [] else [Char.ofNat (0x11A7 + s % 28)] := by
  have hvalid : (0xAC00 + s).isValidChar := by
    simp only [Nat.isValidChar]
    omega
  have hn : (Char.ofNat (0xAC00 + s)).toNat = 0xAC00 + s :=
    toNat_ofNat_of_isValidChar hvalid
  rw [decompose, hn, if_neg (by omega), if_pos (by omega), Nat.add_sub_cancel_left]
  split <;> simp [*]

theorem exists_syllable {c : Char} (h : Range.has ⟨0xAC00, 0xD7A3⟩ c.toNat = true) :
    ∃ s < 11172, c = Char.ofNat (0xAC00 + s) := by
  simp only [Range.has, Bool.and_eq_true, decide_eq_true_eq] at h
  refine ⟨c.toNat - 0xAC00, by omega, ?_⟩
  rw [Nat.add_sub_cancel' h.1, Char.ofNat_toNat]

/-- A part of a character is a letter of a syllable, or what the pairs give. -/
theorem exists_of_mem_decompose {c d : Char} (h : d ∈ decompose c) :
    ∃ n, d = Char.ofNat n ∧ (IsJamo n ∨
      Range.has ⟨0xAC00, 0xD7A3⟩ c.toNat = false ∧ n ∈ partsBy compositions c.toNat) := by
  cases hsyllable : Range.has ⟨0xAC00, 0xD7A3⟩ c.toNat with
  | true =>
    obtain ⟨s, hs, rfl⟩ := exists_syllable hsyllable
    rw [decompose_syllable hs] at h
    rcases List.mem_append.mp h with h | h
    · rcases List.mem_cons.mp h with rfl | h
      · exact ⟨_, rfl, .inl (.inl (by omega))⟩
      · exact ⟨_, List.mem_singleton.mp h, .inl (.inr (.inl (by omega)))⟩
    · split at h
      · exact absurd h List.not_mem_nil
      · exact ⟨_, List.mem_singleton.mp h, .inl (.inr (.inr (by omega)))⟩
  | false =>
    rw [decompose_eq_partsBy hsyllable] at h
    obtain ⟨n, hn, rfl⟩ := List.mem_map.mp h
    exact ⟨n, rfl, .inr ⟨rfl, hn⟩⟩

/-- What a decomposition gives is not taken apart again. -/
theorem not_isSplit_of_mem_decompose {c d : Char} (h : d ∈ decompose c) :
    isSplit d.toNat = false := by
  obtain ⟨n, rfl, hn | ⟨hsyllable, hn⟩⟩ := exists_of_mem_decompose h
  · exact not_testBit_toNat_ofNat isSplit_zero (not_isSplit_of_isJamo hn)
  · refine not_testBit_toNat_ofNat isSplit_zero ?_
    exact not_isSplit_of_mem_partsBy standsInOrder_compositions (fun e he => he)
      (fun e he => .inr he) (Nat.zero_testBit _) hsyllable n hn

theorem decompose_of_mem_decompose {c d : Char} (h : d ∈ decompose c) :
    decompose d = [d] :=
  decompose_of_not_isSplit (not_isSplit_of_mem_decompose h)

/-- How two characters compose: a lead and a vowel, a syllable without a tail and a tail,
or a pair. -/
inductive Composes (a b d : Char) : Prop
  | vowel (ha : 0x1100 ≤ a.toNat ∧ a.toNat < 0x1113)
      (hb : 0x1161 ≤ b.toNat ∧ b.toNat < 0x1176)
      (hd : d = Char.ofNat (0xAC00 + ((a.toNat - 0x1100) * 21 + (b.toNat - 0x1161)) * 28))
  | tail (ha : 0xAC00 ≤ a.toNat ∧ a.toNat ≤ 0xD7A3) (hwhole : (a.toNat - 0xAC00) % 28 = 0)
      (hb : 0x11A7 < b.toNat ∧ b.toNat < 0x11C3)
      (hd : d = Char.ofNat (a.toNat + (b.toNat - 0x11A7)))
  | pair {target : Nat} (h : ((a.toNat, b.toNat), target) ∈ compositions)
      (hd : d = Char.ofNat target)

theorem composes_of_compose? {a b d : Char} (h : compose? a b = some d) :
    Composes a b d := by
  rw [compose?] at h
  split at h
  · next hrange => exact .vowel ⟨hrange.1, hrange.2.1⟩ hrange.2.2 (Option.some.inj h).symm
  split at h
  · next hrange =>
      exact .tail ⟨hrange.1, hrange.2.1⟩ hrange.2.2.1 hrange.2.2.2
        (Option.some.inj h).symm
  · obtain ⟨target, hlookup, hd⟩ := Option.map_eq_some_iff.mp h
    exact .pair (mem_of_lookup_eq_some hlookup) hd.symm

/-- What two characters compose to is taken apart into what the first one is and the
second one. -/
theorem Composes.decompose_eq {a b d : Char} (h : Composes a b d) :
    decompose d = decompose a ++ [b] := by
  cases h with
  | vowel ha hb hd =>
    -- The syllable of a lead and a vowel has no tail: its number is a multiple of 28.
    generalize hs : ((a.toNat - 0x1100) * 21 + (b.toNat - 0x1161)) * 28 = s at hd
    have hlead : Char.ofNat (0x1100 + s / 588) = a := by
      rw [show 0x1100 + s / 588 = a.toNat by omega, Char.ofNat_toNat]
    have hvowel : Char.ofNat (0x1161 + s % 588 / 28) = b := by
      rw [show 0x1161 + s % 588 / 28 = b.toNat by omega, Char.ofNat_toNat]
    rw [hd, decompose_syllable (by omega), if_pos (by omega), hlead, hvowel,
      decompose_of_not_isSplit (not_isSplit_of_isJamo (.inl (by omega)))]
    rfl
  | tail ha hwhole hb hd =>
    obtain ⟨s, hs, ha'⟩ : ∃ s < 11172, a.toNat = 0xAC00 + s :=
      ⟨a.toNat - 0xAC00, by omega, by omega⟩
    obtain ⟨t, hpos, ht, hb'⟩ : ∃ t, 0 < t ∧ t < 28 ∧ b.toNat = 0x11A7 + t :=
      ⟨b.toNat - 0x11A7, by omega, by omega, by omega⟩
    have ha'' : a = Char.ofNat (0xAC00 + s) := by rw [← ha', Char.ofNat_toNat]
    have hb'' : b = Char.ofNat (0x11A7 + t) := by rw [← hb', Char.ofNat_toNat]
    have hd' : d = Char.ofNat (0xAC00 + (s + t)) := by
      rw [hd, ha', hb', Nat.add_sub_cancel_left, Nat.add_assoc]
    have hs' : s % 28 = 0 := by omega
    have hsum : (s + t) / 588 = s / 588 ∧ (s + t) % 588 / 28 = s % 588 / 28 ∧
        (s + t) % 28 = t := by omega
    rw [hd', ha'', hb'', decompose_syllable (by omega), decompose_syllable hs,
      if_neg (by omega), if_pos hs', hsum.1, hsum.2.1, hsum.2.2]
    rfl
  | pair hmem hd =>
    have hpair := isPair_of_mem hmem
    have hd' : d.toNat = _ := hd ▸ toNat_ofNat_of_isValidChar hpair.target_valid
    rw [decompose_eq_partsBy (by rw [hd']; exact hpair.target_no_syllable),
      decompose_eq_partsBy hpair.first_no_syllable, hd',
      partsBy_of_mem standsInOrder_compositions hmem, List.map_append, List.map_singleton,
      Char.ofNat_toNat]

/-! ## Low characters and points -/

/-- Nothing composes with a low character behind it, nothing composes to one, and no point
composes. -/
theorem Composes.high {a b d : Char} (h : Composes a b d) :
    0xC0 ≤ b.toNat ∧ 0xC0 ≤ d.toNat ∧ a ≠ '.' := by
  have hpoint : a = '.' → a.toNat = 0x2E := fun h => by rw [h]; rfl
  cases h with
  | vowel ha hb hd =>
    have hd' : d.toNat = _ :=
      hd ▸ toNat_ofNat_of_isValidChar (by simp only [Nat.isValidChar]; omega)
    exact ⟨by omega, by omega, fun h => by have := hpoint h; omega⟩
  | tail ha hwhole hb hd =>
    have hd' : d.toNat = _ :=
      hd ▸ toNat_ofNat_of_isValidChar (by simp only [Nat.isValidChar]; omega)
    exact ⟨by omega, by omega, fun h => by have := hpoint h; omega⟩
  | pair hmem hd =>
    have hpair := isPair_of_mem hmem
    have hd' : d.toNat = _ := hd ▸ toNat_ofNat_of_isValidChar hpair.target_valid
    exact ⟨hpair.second_high, hd' ▸ hpair.target_high,
      fun h => hpair.first_ne_point (hpoint h)⟩

theorem compose?_eq_none_of_lt {a b : Char} (h : b.toNat < 0xC0) :
    compose? a b = none := by
  cases hcompose : compose? a b with
  | none => rfl
  | some d =>
    have := (composes_of_compose? hcompose).high
    omega

theorem compose?_point (b : Char) : compose? '.' b = none := by
  cases hcompose : compose? '.' b with
  | none => rfl
  | some d => exact absurd rfl (composes_of_compose? hcompose).high.2.2

theorem decompose_of_lt {c : Char} (h : c.toNat < 0xC0) : decompose c = [c] :=
  decompose_of_not_isSplit (not_isSplit_of_lt h)

theorem combiningClass_of_lt {c : Char} (h : c.toNat < 0xC0) : combiningClass c = 0 := by
  have hnone : combiningClasses.find? (fun e => e.1.has c.toNat) = none := by
    refine List.find?_eq_none.mpr fun e he => ?_
    have hfirst := List.all_eq_true.mp combiningClasses_all e he
    simp only [decide_eq_true_eq] at hfirst
    simp only [Range.has, Bool.and_eq_true, decide_eq_true_eq]
    omega
  rw [combiningClass, hnone]
  rfl

/-- Only a point has a point among its parts. -/
theorem point_not_mem_decompose {c : Char} (h : c ≠ '.') : '.' ∉ decompose c := by
  intro hmem
  obtain ⟨n, hn, hpart⟩ := exists_of_mem_decompose hmem
  have hpoint : n = 0x2E := by
    rcases toNat_ofNat_eq_or n with heq | heq <;> rw [← hn] at heq
    · exact heq.symm
    · exact absurd heq (by decide)
  rcases hpart with hjamo | ⟨-, hpart⟩
  · simp only [IsJamo] at hjamo
    omega
  · refine of_mem_partsBy (p := fun n => n ≠ 0x2E) ?_ ?_ ?_ n hpart hpoint
    · intro e he _
      have hpair := isPair_of_mem he
      have hhigh : 0x2E < e.1.2 := Nat.lt_of_lt_of_le (by decide) hpair.second_high
      exact ⟨hpair.first_ne_point, Nat.ne_of_gt hhigh⟩
    · exact fun e he _ m hm => (part_of_mem he m hm).2
    · intro heq
      exact h (by rw [← Char.ofNat_toNat c, heq])

end CredRelay.Unicode
