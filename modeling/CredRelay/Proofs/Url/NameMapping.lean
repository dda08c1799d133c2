import CredRelay.Proofs.Unicode.NormalForm
import CredRelay.Proofs.Url.Hosts
/-! What mapping a name comes to. The characters of a mapped name stand for themselves,
and so does every piece between its points. -/
namespace CredRelay.Url

open Text Unicode

/-! ## What the tables say -/

/-- The code points that do not stand for themselves in a name. -/
def alteredRanges : List Range :=
  ⟨0x41, 0x5A⟩ :: spellings.map (fun e => .single e.1) ++
    substitutions.map (fun e => e.1) ++ refusedRanges ++ omittedRanges

/-- Whether a code point does not stand for itself in a name. -/
def isAltered (n : Nat) : Bool :=
  (codePoints alteredRanges).testBit n

/-- The code points that others stand for, with the letters of Hangul and their
syllables. -/
def keptRanges : List Range :=
  [⟨0, 0x40⟩, ⟨0x5B, 0x7F⟩, ⟨0x1100, 0x1112⟩, ⟨0x1161, 0x1175⟩, ⟨0x11A7, 0x11C2⟩,
    ⟨0xAC00, 0xD7A3⟩] ++
    substitutions.map (fun e => ⟨e.2, e.2 + (e.1.last - e.1.first)⟩) ++
    (spellings.flatMap (fun e => e.2)).map .single

/-- What the tables say about altered code points, as one computation of that set: no
other code point stands for one, one is composed where one is among the two, and the parts
of any other are none. -/
theorem tables_kept :
    (codePoints keptRanges &&& codePoints alteredRanges == 0 &&
      compositions.all (fun e => isAltered e.2 == (isAltered e.1.1 || isAltered e.1.2)) &&
      decompositions.all (fun e => isAltered e.1 || e.2.all fun n => !isAltered n)) =
        true := by
  decide +kernel

theorem not_isAltered_of_kept {n : Nat} (h : keptRanges.any (·.has n) = true) :
    isAltered n = false := by
  have hall := tables_kept
  simp only [Bool.and_eq_true, beq_iff_eq] at hall
  exact not_testBit_of_disjoint hall.1.1 (by rw [testBit_codePoints, h])

theorem isAltered_eq (n : Nat) :
    isAltered n = (Range.has ⟨0x41, 0x5A⟩ n || spellings.any (fun e => n == e.1) ||
      substitutions.any (fun e => e.1.has n) || refusedRanges.any (·.has n) ||
      omittedRanges.any (·.has n)) := by
  rw [isAltered, testBit_codePoints, alteredRanges]
  simp [List.any_map, Function.comp_def, Range.has_single, Bool.or_assoc]

/-! ## Characters -/

theorem toLower_eq_self {c : Char} (hascii : isAscii c = true)
    (h : Range.has ⟨0x41, 0x5A⟩ c.toNat = false) : c.toLower = c :=
  of_isAscii (p := fun c => Range.has ⟨0x41, 0x5A⟩ c.toNat = false → c.toLower = c)
    (by decide +kernel) hascii h

/-- ASCII characters other than capitals are not altered, nor are the letters and
syllables of Hangul. -/
theorem not_isAltered_of_common {n : Nat}
    (h : n ≤ 0x40 ∨ (0x5B ≤ n ∧ n ≤ 0x7F) ∨ IsJamo n ∨
    (0xAC00 ≤ n ∧ n ≤ 0xD7A3)) : isAltered n = false := by
  refine not_isAltered_of_kept ?_
  rw [keptRanges, List.append_assoc, List.any_append, Bool.or_eq_true]
  refine .inl ?_
  simp only [IsJamo] at h
  simp [Range.has]
  omega

theorem not_isAltered_toLower {c : Char} (h : isAscii c = true) :
    isAltered c.toLower.toNat = false := by
  have hc := of_isAscii (p := fun c => c.toLower.toNat ≤ 0x40 ∨
    (0x5B ≤ c.toLower.toNat ∧ c.toLower.toNat ≤ 0x7F)) (by decide +kernel) h
  exact not_isAltered_of_common (hc.imp_right .inl)

/-- A character that is not altered is mapped to itself. -/
theorem nameCharacter?_eq_self {c : Char} (h : isAltered c.toNat = false) :
    nameCharacter? c = some [c] := by
  simp only [isAltered_eq, Bool.or_eq_false_iff] at h
  obtain ⟨⟨⟨⟨hcapital, hspelling⟩, hsubstitution⟩, hrefused⟩, homitted⟩ := h
  have hfind : substitutions.find? (fun e => e.1.has c.toNat) = none := by
    exact List.find?_eq_none.mpr (List.any_eq_false.mp hsubstitution)
  rw [nameCharacter?]
  by_cases hascii : c.toNat < 0x80
  · rw [if_pos hascii, toLower_eq_self (by simpa [isAscii] using hascii) hcapital]
  · rw [if_neg hascii, Range.holds, homitted, if_neg Bool.false_ne_true, hfind,
      lookup_eq_none hspelling, Range.holds, hrefused]
    rfl

theorem not_isAltered_toNat_ofNat {n : Nat} (h : keptRanges.any (·.has n) = true) :
    isAltered (Char.ofNat n).toNat = false :=
  not_testBit_toNat_ofNat (not_isAltered_of_kept rfl) (not_isAltered_of_kept h)

/-- What a character is mapped to is not altered. -/
theorem not_isAltered_of_mem_nameCharacter? {c : Char} {l : List Char}
    (h : nameCharacter? c = some l) : ∀ d ∈ l, isAltered d.toNat = false := by
  -- One case for each table that can decide what a character stands for.
  rw [nameCharacter?] at h
  split at h
  · next hascii =>
    cases h
    exact List.forall_mem_singleton.mpr
      (not_isAltered_toLower (by simpa [isAscii] using hascii))
  next hascii =>
  split at h
  · cases h
    exact fun d hd => absurd hd List.not_mem_nil
  next homitted =>
  split at h
  · next r target hfind =>
    cases h
    refine List.forall_mem_singleton.mpr (not_isAltered_toNat_ofNat ?_)
    have hmem := List.mem_of_find?_eq_some hfind
    have hhas := List.find?_some hfind
    simp only [Range.has, Bool.and_eq_true, decide_eq_true_eq] at hhas
    refine List.any_eq_true.mpr ⟨⟨target, target + (r.last - r.first)⟩, ?_, ?_⟩
    · simp only [keptRanges, List.mem_append]
      exact .inl (.inr (List.mem_map.mpr ⟨(r, target), hmem, rfl⟩))
    · simp only [Range.has, Bool.and_eq_true, decide_eq_true_eq]
      omega
  next hfind =>
  split at h
  · next targets hlookup =>
    cases h
    intro d hd
    obtain ⟨m, hm, rfl⟩ := List.mem_map.mp hd
    refine not_isAltered_toNat_ofNat (List.any_eq_true.mpr ⟨.single m, ?_, ?_⟩)
    · simp only [keptRanges, List.mem_append]
      exact .inr (List.mem_map.mpr
        ⟨m, List.mem_flatMap.mpr ⟨_, mem_of_lookup_eq_some hlookup, hm⟩, rfl⟩)
    · rw [Range.has_single, beq_self_eq_true]
  next hlookup =>
  split at h
  · cases h
  next hrefused =>
  cases h
  refine List.forall_mem_singleton.mpr ?_
  simp only [isAltered_eq, Bool.or_eq_false_iff]
  refine ⟨⟨⟨⟨?_, ?_⟩, ?_⟩, by simpa [Range.holds] using hrefused⟩, by
    simpa [Range.holds] using homitted⟩
  · simp only [Range.has, Bool.and_eq_false_iff, decide_eq_false_iff_not]
    omega
  · exact List.any_eq_false.mpr fun e he => by
      simpa using List.lookup_eq_none_iff.mp hlookup e he
  · exact List.any_eq_false.mpr (List.find?_eq_none.mp hfind)

/-! ## Names -/

theorem isAltered_of_mem_compositions {e : (Nat × Nat) × Nat} (h : e ∈ compositions) :
    isAltered e.2 = (isAltered e.1.1 || isAltered e.1.2) := by
  have hall := tables_kept
  simp only [Bool.and_eq_true] at hall
  exact beq_iff_eq.mp (List.all_eq_true.mp hall.1.2 e h)

theorem not_isAltered_of_mem_decompositions {e : Nat × List Nat} (h : e ∈ decompositions)
    (he : isAltered e.1 = false) : ∀ n ∈ e.2, isAltered n = false := by
  have hall := tables_kept
  simp only [Bool.and_eq_true] at hall
  have hparts := List.all_eq_true.mp hall.2 e h
  rw [he, Bool.false_or] at hparts
  simpa using hparts

theorem not_isAltered_of_mem_decompose {c d : Char} (hc : isAltered c.toNat = false)
    (hd : d ∈ decompose c) : isAltered d.toNat = false := by
  obtain ⟨n, rfl, hpart⟩ := exists_of_mem_decompose hd
  refine not_testBit_toNat_ofNat (not_isAltered_of_kept rfl) ?_
  rcases hpart with hjamo | ⟨-, hn⟩
  · exact not_isAltered_of_common (.inr (.inr (.inl hjamo)))
  · refine of_mem_partsBy (p := fun n => isAltered n = false) (fun e he hmade => ?_)
      (fun e he hown => not_isAltered_of_mem_decompositions he hown) hc n hn
    rwa [isAltered_of_mem_compositions he, Bool.or_eq_false_iff] at hmade

theorem not_isAltered_of_composes {a b d : Char} (ha : isAltered a.toNat = false)
    (hb : isAltered b.toNat = false) (h : Composes a b d) :
    isAltered d.toNat = false := by
  cases h with
  | vowel ha' hb' hd =>
    rw [hd]
    exact not_testBit_toNat_ofNat (not_isAltered_of_kept rfl)
      (not_isAltered_of_common (by omega))
  | tail ha' hwhole hb' hd =>
    rw [hd]
    exact not_testBit_toNat_ofNat (not_isAltered_of_kept rfl)
      (not_isAltered_of_common (by omega))
  | pair hmem hd =>
    rw [hd]
    refine not_testBit_toNat_ofNat (not_isAltered_of_kept rfl) ?_
    exact (isAltered_of_mem_compositions hmem).trans (by rw [ha, hb, Bool.or_false])

/-- The characters of a mapped name stand for themselves, and it is in normal form. -/
theorem mappedName?_eq_some {s mapped : List Char} (h : mappedName? s = some mapped) :
    (∀ c ∈ mapped, isAltered c.toNat = false) ∧ composed mapped = mapped := by
  rw [mappedName?, Option.map_eq_some_iff] at h
  obtain ⟨parts, hparts, rfl⟩ := h
  refine ⟨?_, composed_composed _⟩
  refine of_mem_composed (p := fun c => isAltered c.toNat = false)
    (fun a b d ha hb hd => not_isAltered_of_composes ha hb hd)
    (fun c hc d hd => not_isAltered_of_mem_decompose hc hd) fun c hc => ?_
  obtain ⟨part, hpart, hc⟩ := List.mem_flatten.mp hc
  obtain ⟨d, -, hd⟩ := exists_of_mem_mapM hparts hpart
  exact not_isAltered_of_mem_nameCharacter? hd c hc

theorem mappedName?_eq_self {s : List Char} (h : ∀ c ∈ s, isAltered c.toNat = false)
    (hform : composed s = s) : mappedName? s = some s := by
  have hparts : s.mapM nameCharacter? = some (s.map fun c => [c]) := by
    rw [mapM_eq_some_iff, List.forall₂_map_right_iff, List.forall₂_same]
    exact fun c hc => nameCharacter?_eq_self (h c hc)
  have hflat : (s.map fun c => [c]).flatten = s := by
    rw [← List.flatMap_def]
    exact List.flatMap_singleton' s
  rw [mappedName?, hparts, Option.map_some, hflat, hform]

/-- Every piece between the points of a mapped name is mapped to itself. -/
theorem mappedName?_of_mem_splitOn {s mapped piece : List Char}
    (h : mappedName? s = some mapped) (hpiece : piece ∈ mapped.splitOn '.') :
    mappedName? piece = some piece := by
  obtain ⟨hkept, hform⟩ := mappedName?_eq_some h
  exact mappedName?_eq_self (fun c hc => hkept c (mem_of_mem_splitOn hpiece hc))
    (composed_of_mem_splitOn hform hpiece)

end CredRelay.Url
