import CredRelay.Proofs.Url.NameRoundTrip
/-! Hosts that stand for themselves. An address of either version is read as what it is,
and so is a name in ASCII form, unless a Punycode label in it is too long to be read.
Under a scheme that is not known every host that was read stands for itself. -/
namespace CredRelay.Url

open Text Net

/-! ## Version 6 addresses -/

theorem bracketed?_v6 (bits : BitVec 128) :
    bracketed? ('[' :: (groupsText (groups bits)).toList ++ [']']) =
      .ok ('[' :: (groupsText (groups bits)).toList ++ [']']) := by
  rw [List.cons_append, bracketed?, if_pos (by simp), List.dropLast_concat,
    v6?_groupsText]
  rfl

theorem knownHost_v6 (bits : BitVec 128) :
    knownHost ('[' :: (groupsText (groups bits)).toList ++ [']']) =
      .ok ('[' :: (groupsText (groups bits)).toList ++ [']']) := by
  rw [knownHost, if_pos (by simp), bracketed?_v6]

/-! ## Names that are written already -/

theorem percentDecode_eq_self {s : List Char} (h : '%' ∉ s) : percentDecode s = s := by
  have hnil : ofUtf8Lenient [] = [] := rfl
  rw [percentDecode]
  induction s with
  | nil => rw [percentDecodeFrom, List.reverse_nil, hnil]
  | cons c s ih =>
    rw [List.mem_cons, not_or] at h
    rw [percentDecodeFrom, List.reverse_nil, hnil, ih h.2]
    · rfl
    · intro high low rest hc
      exact absurd hc.symm h.1

/-- A name that is its own ASCII form is read as what that form is. -/
theorem knownHost_of_asciiName?_eq_self {name : List Char}
    (h : asciiName? name = some name) (hne : name ≠ []) :
    (endsInNumber name = false → knownHost name = .ok name) ∧
      (endsInNumber name = true → ∀ bits, v4OfName? name = some bits →
        knownHost name = .ok (v4Text bits).toList) := by
  have hallowed := (asciiName?_eq_some_iff.mp h).2
  have hpercent : '%' ∉ name := by
    intro hmem
    exact absurd (hallowed _ hmem) (by decide)
  have hbracket : name.head? ≠ some '[' := by
    intro hhead
    exact absurd (hallowed _ (List.mem_of_head? hhead)) (by decide)
  constructor
  · intro hnumber
    simp [knownHost, hbracket, percentDecode_eq_self hpercent, h, hne, hnumber]
  · intro hnumber bits hbits
    simp [knownHost, hbracket, percentDecode_eq_self hpercent, h, hne, hnumber, hbits]

/-- Small letters, digits and the like that make no Punycode label are a name as
they are. -/
theorem asciiName?_eq_self {name : List Char} (hplain : isPlainName name = true)
    (hsmall : ∀ c ∈ name, c.toLower = c)
    (hallowed : ∀ c ∈ name, isForbiddenInName c = false) :
    asciiName? name = some name := by
  rw [asciiName?_eq_some_iff, if_pos hplain, List.map_congr_left hsmall, List.map_id']
  exact ⟨rfl, hallowed⟩

/-! ## Version 4 addresses -/

theorem v4Number?_toDigits {n : Nat} (h : n < 256) :
    v4Number? (Nat.toDigits 10 n) = some n := by
  have hall : ∀ n < 256, v4Number? (Nat.toDigits 10 n) = some n := by decide +kernel
  exact hall n h

theorem nameParts_v4Text (bits : BitVec 32) :
    nameParts (v4Text bits).toList = (octets bits).map (Nat.toDigits 10) := by
  rw [nameParts, splitOn_v4Text]
  simp [octets, Nat.toDigits_ne_nil]

theorem endsInNumber_v4Text (bits : BitVec 32) :
    endsInNumber (v4Text bits).toList = true := by
  have hdigits : (Nat.toDigits 10 (bits.toNat % 256)).all Char.isDigit = true :=
    List.all_eq_true.mpr fun c hc => isDigit_of_mem_toDigits hc
  rw [endsInNumber, nameParts_v4Text]
  simp [octets, Nat.toDigits_ne_nil, hdigits]

theorem v4OfNumbers?_octets (bits : BitVec 32) :
    v4OfNumbers? (octets bits) = some bits := by
  have hbits := bits.isLt
  have hfits : ∀ n ∈ octets bits, ¬255 < n := by
    intro n hn
    have hlt := lt_of_mem_octets hn
    omega
  simp only [octets, List.mem_cons, List.not_mem_nil, or_false, forall_eq_or_imp,
    forall_eq] at hfits
  obtain ⟨ha, hb, hc, hd⟩ := hfits
  have hvalue : ((bits.toNat / 16777216 * 256 + bits.toNat / 65536 % 256) * 256 +
      bits.toNat / 256 % 256) * 256 + bits.toNat % 256 = bits.toNat := by omega
  have hlast : bits.toNat % 256 < 256 := by omega
  simp [v4OfNumbers?, octets, ha, hb, hc, hvalue, hlast]

theorem v4OfName?_v4Text (bits : BitVec 32) :
    v4OfName? (v4Text bits).toList = some bits := by
  have hread : ((octets bits).map (Nat.toDigits 10)).mapM v4Number? =
      some (octets bits) := by
    rw [mapM_eq_some_iff, List.forall₂_map_left_iff, List.forall₂_same]
    exact fun n hn => v4Number?_toDigits (lt_of_mem_octets hn)
  rw [v4OfName?, nameParts_v4Text, hread]
  exact v4OfNumbers?_octets bits

theorem toLower_of_isDigit {c : Char} (h : c.isDigit = true) : c.toLower = c :=
  of_isAscii (p := fun c => c.isDigit = true → c.toLower = c) (by decide +kernel)
    (isAscii_of_isDigit h) h

theorem not_isForbiddenInName_of_isDigit {c : Char} (h : c.isDigit = true) :
    isForbiddenInName c = false := by
  refine of_isAscii (p := fun c => c.isDigit = true → isForbiddenInName c = false) ?_
    (isAscii_of_isDigit h) h
  simp only [isForbiddenInName, String.reduceToList]
  decide +kernel

theorem asciiName?_v4Text (bits : BitVec 32) :
    asciiName? (v4Text bits).toList = some (v4Text bits).toList := by
  have hclass : ∀ c ∈ (v4Text bits).toList,
      isAscii c = true ∧ c.toLower = c ∧ isForbiddenInName c = false := by
    intro c hc
    rcases eq_dot_or_isDigit_of_mem_v4Text hc with rfl | hdigit
    · exact ⟨by decide, by decide, by decide⟩
    · exact ⟨isAscii_of_isDigit hdigit, toLower_of_isDigit hdigit,
        not_isForbiddenInName_of_isDigit hdigit⟩
  have hlower : (v4Text bits).toList.map Char.toLower = (v4Text bits).toList := by
    rw [List.map_congr_left fun c hc => (hclass c hc).2.1, List.map_id']
  refine asciiName?_eq_self ?_ (fun c hc => (hclass c hc).2.1) fun c hc =>
    (hclass c hc).2.2
  rw [isPlainName, Bool.and_eq_true, hlower, splitOn_v4Text, List.all_eq_true,
    List.all_eq_true]
  refine ⟨fun c hc => (hclass c hc).1, fun label hlabel => ?_⟩
  obtain ⟨n, -, rfl⟩ := List.mem_map.mp hlabel
  rw [Option.isNone_iff_eq_none]
  cases hafter : after? "xn--".toList (Nat.toDigits 10 n) with
  | none => rfl
  | some rest =>
    have hx : 'x' ∈ Nat.toDigits 10 n := by
      rw [after?_eq_some_iff.mp hafter]
      exact List.mem_append_left rest (by decide)
    exact absurd (isDigit_of_mem_toDigits hx) (by decide)

theorem knownHost_v4Text (bits : BitVec 32) :
    knownHost (v4Text bits).toList = .ok (v4Text bits).toList := by
  exact (knownHost_of_asciiName?_eq_self (asciiName?_v4Text bits) (v4Text_ne_nil bits)).2
    (endsInNumber_v4Text bits) bits (v4OfName?_v4Text bits)

/-! ## Hosts -/

theorem hasShortLabels_of_not_mem {name : List Char} (h : 'x' ∉ name) :
    HasShortLabels name := by
  intro label hlabel
  rw [isShortLabel]
  cases hafter : after? "xn--".toList label with
  | none => rfl
  | some rest =>
    have hx : 'x' ∈ label := by
      rw [after?_eq_some_iff.mp hafter]
      exact List.mem_append_left rest (by decide)
    exact absurd (mem_of_mem_splitOn hlabel hx) h

theorem hasShortLabels_v6 (bits : BitVec 128) :
    HasShortLabels ('[' :: (groupsText (groups bits)).toList ++ [']']) := by
  refine hasShortLabels_of_not_mem fun hx => ?_
  rcases List.mem_append.mp hx with hx | hx
  · rcases List.mem_cons.mp hx with hx | hx
    · exact absurd hx (by decide)
    · exact absurd (isGroupCharacter_of_mem_groupsText hx) (by decide)
  · exact absurd (List.mem_singleton.mp hx) (by decide)

theorem hasShortLabels_v4Text (bits : BitVec 32) :
    HasShortLabels (v4Text bits).toList := by
  refine hasShortLabels_of_not_mem fun hx => ?_
  rcases eq_dot_or_isDigit_of_mem_v4Text hx with hx | hx <;> exact absurd hx (by decide)

theorem exists_asciiName?_of_knownHost {name host : List Char}
    (hname : ∀ c ∈ name, isHostCharacter c = true) (hpercent : '%' ∉ name)
    (h : knownHost name = .ok host) : ∃ other, asciiName? name = some other := by
  have hbracket : name.head? ≠ some '[' := by
    intro hhead
    exact absurd (hname _ (List.mem_of_head? hhead)) (by decide)
  rw [knownHost, if_neg hbracket, percentDecode_eq_self hpercent] at h
  split at h
  · cases h
  · next other hother => exact ⟨other, hother⟩

/-- A host that was read under a scheme that is not known stands for itself there. -/
theorem otherHost_again {s host : List Char} (h : otherHost s = .ok host) :
    otherHost host = .ok host := by
  cases otherHost_cases h with
  | v6 bits => rw [otherHost, if_pos (by simp), bracketed?_v6]
  | bare h => exact otherHost_of_bare h

/-- A host that was read under a known scheme stands for itself there, unless one of its
labels is too long to be read. -/
theorem knownHost_again_iff {s host : List Char} (h : knownHost s = .ok host) :
    knownHost host = .ok host ↔ HasShortLabels host := by
  cases knownHost_cases h with
  | v6 bits => exact iff_of_true (knownHost_v6 bits) (hasShortLabels_v6 bits)
  | v4 bits => exact iff_of_true (knownHost_v4Text bits) (hasShortLabels_v4Text bits)
  | name hne hname hnumber =>
    constructor
    · intro hagain
      -- Only a name can hold a label that is too long, and it is then refused for that
      -- label.
      have hpercent : '%' ∉ host := fun hmem =>
        absurd ((asciiName?_eq_some_iff.mp hname).2 _ hmem) (by decide)
      obtain ⟨other, hother⟩ := exists_asciiName?_of_knownHost
        (isHostCharacter_of_mem_asciiName? hname) hpercent hagain
      exact hasShortLabels_of_asciiName? (isKept_of_mem_asciiName? hname) hother
    · intro hshort
      exact (knownHost_of_asciiName?_eq_self (asciiName?_again hname hshort) hne).1
        hnumber

end CredRelay.Url
