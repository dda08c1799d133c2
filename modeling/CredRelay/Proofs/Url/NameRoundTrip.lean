import CredRelay.Proofs.Url.NameMapping
import CredRelay.Proofs.Url.PunycodeRoundTrip
/-! Names in ASCII form, read again. The ASCII form of a label is read as that label, so
the ASCII form of a name is its own, unless a Punycode label in it is too long to be
read. -/
namespace CredRelay.Url

open Text Unicode

/-! ## Labels -/

/-- Whether a label is not Punycode, or short enough to be read. -/
def isShortLabel (label : List Char) : Bool :=
  (after? "xn--".toList label).all (fun rest => rest.length ≤ 2000)

/-- Whether all labels of a name are short enough to be read. -/
def HasShortLabels (name : List Char) : Prop :=
  ∀ label ∈ name.splitOn '.', isShortLabel label = true

instance (name : List Char) : Decidable (HasShortLabels name) :=
  inferInstanceAs (Decidable (∀ label ∈ name.splitOn '.', isShortLabel label = true))

/-- The characters of labels in ASCII form: mapping keeps them, and they are no points. -/
def IsPlainCharacter (c : Char) : Prop :=
  isAscii c = true ∧ isAltered c.toNat = false ∧ c ≠ '.'

theorem isPlainCharacter_of_isDigitCharacter {c : Char}
    (h : Punycode.isDigitCharacter c = true) : IsPlainCharacter c := by
  refine ⟨isAscii_of_isDigitCharacter h, not_isAltered_of_common ?_, ?_⟩
  · simp only [Punycode.isDigitCharacter, Bool.or_eq_true, Bool.and_eq_true,
      decide_eq_true_eq] at h
    rcases h with ⟨hlow, hhigh⟩ | ⟨hlow, hhigh⟩
    · have hlow' : 97 ≤ c.toNat := hlow
      have hhigh' : c.toNat ≤ 122 := hhigh
      omega
    · have hhigh' : c.toNat ≤ 57 := hhigh
      omega
  · rintro rfl
    exact absurd h (by decide)

theorem isPlainCharacter_hyphen : IsPlainCharacter '-' :=
  ⟨by decide, not_isAltered_of_common (.inl (by decide)), by decide⟩

theorem isPlainCharacter_of_mem_prefix {c : Char} (h : c ∈ "xn--".toList) :
    IsPlainCharacter c := by
  have hall : ['x', 'n', '-', '-'].all
      (fun c => Punycode.isDigitCharacter c || c == '-') = true := by
    decide
  have hc := List.all_eq_true.mp hall c h
  rcases Bool.or_eq_true_iff.mp hc with hdigit | hhyphen
  · exact isPlainCharacter_of_isDigitCharacter hdigit
  · rw [beq_iff_eq.mp hhyphen]
    exact isPlainCharacter_hyphen

theorem isPlainCharacter_of_mem_encode {s : List Char}
    (hs : ∀ c ∈ s, isAltered c.toNat = false ∧ c ≠ '.') {c : Char}
    (h : c ∈ Punycode.encode s) : IsPlainCharacter c := by
  rcases Punycode.of_mem_encode h with ⟨hmem, hascii⟩ | rfl | hdigit
  · exact ⟨by simpa [isAscii] using hascii, (hs c hmem).1, (hs c hmem).2⟩
  · exact isPlainCharacter_hyphen
  · exact isPlainCharacter_of_isDigitCharacter hdigit

/-- What a label is made from: Punycode, plain ASCII, or a text that is written in
Punycode. -/
inductive Label.MadeFrom (s : List Char) (label : Label) : Prop
  | ascii (hascii : ∀ c ∈ s, isAscii c = true) (h : label.ascii = s)
  | wide (hwide : s.all isAscii = false) (hlength : s.length ≤ 1000)
      (hfits : labelFits s = true) (h : label = ⟨s, "xn--".toList ++ Punycode.encode s⟩)

theorem Label.madeFrom_of_ofMapped? {s : List Char} {label : Label}
    (h : ofMapped? s = some label) : label.MadeFrom s := by
  have hascii := isAscii_of_mem_ascii h
  rw [ofMapped?] at h
  split at h
  · split at h
    · cases h
    · split at h
      · split at h
        · cases h
          exact .ascii hascii rfl
        · cases h
      · cases h
  · split at h
    · cases h
      exact .ascii hascii rfl
    next hwide =>
    split at h
    · next hfits =>
      cases h
      simp only [Bool.and_eq_true, decide_eq_true_eq] at hfits
      exact .wide (by simpa using hwide) hfits.1 hfits.2 rfl
    · cases h

theorem Label.isPlainCharacter_of_mem_ascii {s : List Char} {label : Label}
    (h : ofMapped? s = some label) (hs : ∀ c ∈ s, isAltered c.toNat = false ∧ c ≠ '.') :
    ∀ c ∈ label.ascii, IsPlainCharacter c := by
  intro c hc
  cases madeFrom_of_ofMapped? h with
  | ascii hascii hsame =>
    rw [hsame] at hc
    exact ⟨hascii c hc, hs c hc⟩
  | wide hwide hlength hfits hmade =>
    subst hmade
    rcases List.mem_append.mp hc with hc | hc
    · exact isPlainCharacter_of_mem_prefix hc
    · exact isPlainCharacter_of_mem_encode hs hc

/-- The ASCII form of a label is read as the label. -/
theorem Label.ofMapped?_ascii {s : List Char} {label : Label}
    (h : ofMapped? s = some label) (hs : mappedName? s = some s)
    (hshort : isShortLabel label.ascii = true) : ofMapped? label.ascii = some label := by
  cases madeFrom_of_ofMapped? h with
  | ascii hascii hsame => rwa [hsame]
  | wide hwide hlength hfits hmade =>
    subst hmade
    have hafter : after? "xn--".toList ("xn--".toList ++ Punycode.encode s) =
        some (Punycode.encode s) :=
      after?_eq_some_iff.mpr rfl
    have hlimit : (Punycode.encode s).length ≤ 2000 := by
      rw [isShortLabel, hafter] at hshort
      simpa using hshort
    have hencoded : (Punycode.encode s).all isAscii = true :=
      List.all_eq_true.mpr fun c hc => isAscii_of_mem_encode hc
    have hany : s.any (fun c => !isAscii c) = true := by
      rw [List.any_eq_true]
      rw [List.all_eq_false] at hwide
      simpa using hwide
    rw [ofMapped?, hafter]
    simp [Nat.not_lt.mpr hlimit, hencoded, Punycode.decode?_encode hlength,
      hany, hs, hfits]

/-! ## Names -/

/-- Text of small letters and other characters that mapping keeps is its own mapped
form. -/
theorem mappedName?_of_isAscii {s : List Char}
    (h : ∀ c ∈ s, isAscii c = true ∧ isAltered c.toNat = false) :
    mappedName? s = some s := by
  refine mappedName?_eq_self (fun c hc => (h c hc).2) ?_
  rw [composed, if_pos]
  refine List.all_eq_true.mpr fun c hc => ?_
  have hascii := (h c hc).1
  simp only [isAscii, decide_eq_true_eq] at hascii ⊢
  omega

/-- The labels that an international name is written with. -/
structure Labelled (s name : List Char) (labels : List Label) : Prop where
  read : ∃ mapped, mappedName? s = some mapped ∧
    List.Forall₂ (fun piece label => Label.ofMapped? piece = some label)
      (mapped.splitOn '.') labels
  directed : (labels.any (fun l => l.text.any (fun c => runsRightToLeft (direction c))) &&
    !labels.all (fun l => keepsDirection l.text)) = false
  name_eq : name = ['.'].intercalate (labels.map (·.ascii))

theorem internationalName?_eq_some_iff {s name : List Char} :
    internationalName? s = some name ↔ ∃ labels, Labelled s name labels := by
  simp only [internationalName?, Option.bind_eq_bind, Option.bind_eq_some_iff]
  constructor
  · rintro ⟨mapped, hmapped, labels, hlabels, h⟩
    split at h
    · cases h
    · next hdirected =>
      cases h
      exact ⟨labels, ⟨mapped, hmapped, mapM_eq_some_iff.mp hlabels⟩, by
        simpa using hdirected, rfl⟩
  · rintro ⟨labels, ⟨mapped, hmapped, hlabels⟩, hdirected, rfl⟩
    exact ⟨mapped, hmapped, labels, mapM_eq_some_iff.mpr hlabels,
      if_neg (by rw [hdirected]; decide)⟩

/-- What an international name is written with. -/
theorem Labelled.isPlainCharacter {s name : List Char} {labels : List Label}
    (h : Labelled s name labels) :
    ∀ label ∈ labels, ∀ c ∈ label.ascii, IsPlainCharacter c := by
  obtain ⟨mapped, hmapped, hlabels⟩ := h.read
  intro label hlabel
  obtain ⟨piece, hpiece, hread⟩ :=
    exists_of_mem_mapM (mapM_eq_some_iff.mpr hlabels) hlabel
  refine Label.isPlainCharacter_of_mem_ascii hread fun c hc => ?_
  have hkept := (mappedName?_eq_some hmapped).1 c (mem_of_mem_splitOn hpiece hc)
  refine ⟨hkept, ?_⟩
  rintro rfl
  exact not_mem_of_mem_splitOn hpiece hc

/-- The characters of a name in ASCII form: mapping keeps them. -/
theorem Labelled.isKept {s name : List Char} {labels : List Label}
    (h : Labelled s name labels) :
    ∀ c ∈ name, isAscii c = true ∧ isAltered c.toNat = false := by
  intro c hc
  rw [h.name_eq] at hc
  rcases mem_intercalate hc with hc | ⟨ascii, hmem, hc⟩
  · rw [List.mem_singleton.mp hc]
    exact ⟨by decide, not_isAltered_of_common (.inl (by decide))⟩
  · obtain ⟨label, hlabel, rfl⟩ := List.mem_map.mp hmem
    have hplain := h.isPlainCharacter label hlabel c hc
    exact ⟨hplain.1, hplain.2.1⟩

theorem Labelled.splitOn_name {s name : List Char} {labels : List Label}
    (h : Labelled s name labels) : name.splitOn '.' = labels.map (·.ascii) := by
  obtain ⟨mapped, -, hlabels⟩ := h.read
  rw [h.name_eq]
  refine List.splitOn_intercalate '.' (fun ascii hmem hpoint => ?_) ?_
  · obtain ⟨label, hlabel, rfl⟩ := List.mem_map.mp hmem
    exact (h.isPlainCharacter label hlabel _ hpoint).2.2 rfl
  · rw [ne_eq, List.map_eq_nil_iff]
    rintro rfl
    exact List.splitOn_ne_nil '.' mapped (List.forall₂_nil_right_iff.mp hlabels)

/-- The ASCII form of an international name has the same labels. -/
theorem Labelled.again {s name : List Char} {labels : List Label}
    (h : Labelled s name labels) (hshort : HasShortLabels name) :
    Labelled name name labels := by
  obtain ⟨mapped, hmapped, hlabels⟩ := h.read
  refine ⟨⟨name, mappedName?_of_isAscii h.isKept, ?_⟩, h.directed, h.name_eq⟩
  rw [h.splitOn_name, List.forall₂_map_left_iff, List.forall₂_same]
  intro label hlabel
  obtain ⟨piece, hpiece, hread⟩ :=
    exists_of_mem_mapM (mapM_eq_some_iff.mpr hlabels) hlabel
  refine Label.ofMapped?_ascii hread (mappedName?_of_mem_splitOn hmapped hpiece)
    (hshort _ ?_)
  rw [h.splitOn_name]
  exact List.mem_map_of_mem hlabel

theorem map_toLower_eq_self {name : List Char}
    (h : ∀ c ∈ name, isAscii c = true ∧ isAltered c.toNat = false) :
    name.map Char.toLower = name := by
  have hsame : ∀ c ∈ name, c.toLower = c := by
    intro c hc
    have hkept := (h c hc).2
    simp only [isAltered_eq, Bool.or_eq_false_iff] at hkept
    exact toLower_eq_self (h c hc).1 hkept.1.1.1.1
  rw [List.map_congr_left hsame, List.map_id']

theorem isKept_of_mem_asciiName? {s name : List Char} (h : asciiName? s = some name) :
    ∀ c ∈ name, isAscii c = true ∧ isAltered c.toNat = false := by
  have hwritten := (asciiName?_eq_some_iff.mp h).1
  split at hwritten
  · next hplain =>
    cases hwritten
    intro c hc
    obtain ⟨d, hd, rfl⟩ := List.mem_map.mp hc
    have hascii := isAscii_of_mem_of_isPlainName hplain d hd
    exact ⟨isAscii_toLower hascii, not_isAltered_toLower hascii⟩
  · obtain ⟨labels, hlabels⟩ := internationalName?_eq_some_iff.mp hwritten
    exact hlabels.isKept

/-- The ASCII form of a name is its own ASCII form, if its labels are short. -/
theorem asciiName?_again {s name : List Char} (h : asciiName? s = some name)
    (hshort : HasShortLabels name) : asciiName? name = some name := by
  have hlower : name.map Char.toLower = name :=
    map_toLower_eq_self (isKept_of_mem_asciiName? h)
  obtain ⟨hwritten, hallowed⟩ := asciiName?_eq_some_iff.mp h
  refine asciiName?_eq_some_iff.mpr ⟨?_, hallowed⟩
  split
  · rw [hlower]
  next hplain =>
  split at hwritten
  · next hplain' =>
    -- a plain name stays plain, so this case does not arise
    cases hwritten
    rw [isPlainName, hlower, Bool.and_eq_true] at hplain
    rw [isPlainName, Bool.and_eq_true] at hplain'
    refine absurd ⟨List.all_eq_true.mpr fun c hc => ?_, hplain'.2⟩ hplain
    exact (isKept_of_mem_asciiName? h c hc).1
  · obtain ⟨labels, hlabels⟩ := internationalName?_eq_some_iff.mp hwritten
    exact internationalName?_eq_some_iff.mpr ⟨labels, hlabels.again hshort⟩

/-- A label that is read is short. -/
theorem Label.isShortLabel_of_ofMapped? {s : List Char} {label : Label}
    (h : ofMapped? s = some label) : isShortLabel s = true := by
  rw [ofMapped?] at h
  rw [isShortLabel]
  split at h
  · next rest hrest =>
    split at h
    · cases h
    · next hlimit =>
      simp only [Bool.or_eq_true, decide_eq_true_eq, not_or, Nat.not_lt] at hlimit
      rw [hrest]
      simpa using hlimit.1
  · next hnone =>
    rw [hnone]
    rfl

/-- A name in ASCII form that is read has short labels. -/
theorem hasShortLabels_of_asciiName? {name other : List Char}
    (hname : ∀ c ∈ name, isAscii c = true ∧ isAltered c.toNat = false)
    (h : asciiName? name = some other) : HasShortLabels name := by
  have hwritten := (asciiName?_eq_some_iff.mp h).1
  split at hwritten
  · next hplain =>
    rw [isPlainName, map_toLower_eq_self hname, Bool.and_eq_true] at hplain
    intro label hlabel
    rw [isShortLabel, Option.isNone_iff_eq_none.mp
      (List.all_eq_true.mp hplain.2 label hlabel)]
    rfl
  · obtain ⟨labels, hlabels⟩ := internationalName?_eq_some_iff.mp hwritten
    obtain ⟨mapped, hmapped, hread⟩ := hlabels.read
    rw [mappedName?_of_isAscii hname, Option.some.injEq] at hmapped
    subst hmapped
    have hboth := hread.imp fun piece label hpiece =>
      (⟨Label.isShortLabel_of_ofMapped? hpiece, hpiece⟩ : isShortLabel piece = true ∧ _)
    exact ((List.forall₂_and_left _ _).mp hboth).1

end CredRelay.Url
