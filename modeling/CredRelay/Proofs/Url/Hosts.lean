import CredRelay.Proofs.Net.Spelling
import CredRelay.Proofs.Url.Punycode
import CredRelay.Url.Host
/-! What the hosts of addresses look like. A host that was read is either a version 6
address in brackets or a text of visible ASCII characters without any of those that part
an address, so it stands in an address as it is. -/
namespace CredRelay.Url

open Text Net

/-! ## Shapes -/

/-- The characters of hosts that do not stand in brackets. -/
def isHostCharacter (c : Char) : Bool :=
  0x20 < c.toNat && c.toNat < 0x7F &&
    !(['#', '/', ':', '<', '>', '?', '@', '[', '\\', ']', '^', '|'].contains c)

/-- The characters of hosts between brackets. -/
def isGroupCharacter (c : Char) : Bool :=
  c.isDigit || ('a' ≤ c && c ≤ 'f') || c == ':'

/-- What a host looks like that was read and is there. -/
inductive IsHost : List Char → Prop
  | bracketed {s : List Char} (h : ∀ c ∈ s, isGroupCharacter c = true) :
  IsHost ('[' :: s ++ [']'])
  | bare {s : List Char} (hne : s ≠ []) (h : ∀ c ∈ s, isHostCharacter c = true) : IsHost s

theorem IsHost.ne_nil {s : List Char} (h : IsHost s) : s ≠ [] := by
  cases h with
  | bracketed _ => exact List.cons_ne_nil _ _
  | bare hne _ => exact hne

/-- What holds of the characters of the first 128 code points holds of every ASCII
character. -/
theorem of_isAscii {p : Char → Prop} (hall : ∀ n < 128, p (Char.ofNat n)) {c : Char}
    (h : isAscii c = true) : p c := by
  have hc := hall c.toNat (by simpa [isAscii] using h)
  rwa [Char.ofNat_toNat] at hc

theorem isAscii_of_isDigit {c : Char} (h : c.isDigit = true) : isAscii c = true := by
  simp only [Char.isDigit, Bool.and_eq_true, decide_eq_true_eq] at h
  have hle : c.toNat ≤ 57 := h.2
  simp only [isAscii, decide_eq_true_eq]
  omega

theorem isAscii_of_isHostCharacter {c : Char} (h : isHostCharacter c = true) :
    isAscii c = true := by
  simp only [isHostCharacter, Bool.and_eq_true, decide_eq_true_eq] at h
  simp only [isAscii, decide_eq_true_eq]
  omega

theorem isHostCharacter_of_isDigit {c : Char} (h : c.isDigit = true) :
    isHostCharacter c = true :=
  of_isAscii (p := fun c => c.isDigit = true → isHostCharacter c = true)
    (by decide +kernel) (isAscii_of_isDigit h) h

/-! ## Numbers -/

theorem eq_dot_or_isDigit_of_mem_v4Text {bits : BitVec 32} {c : Char}
    (h : c ∈ (v4Text bits).toList) : c = '.' ∨ c.isDigit = true := by
  have hjoined : ['.'].intercalate ((octets bits).map (Nat.toDigits 10)) =
      (v4Text bits).toList := by
    rw [← splitOn_v4Text, List.intercalate_splitOn]
  rw [← hjoined] at h
  rcases mem_intercalate h with h | ⟨s, hs, h⟩
  · exact .inl (List.mem_singleton.mp h)
  · obtain ⟨n, -, rfl⟩ := List.mem_map.mp hs
    exact .inr (isDigit_of_mem_toDigits h)

theorem isHostCharacter_of_mem_v4Text {bits : BitVec 32} {c : Char}
    (h : c ∈ (v4Text bits).toList) : isHostCharacter c = true := by
  rcases eq_dot_or_isDigit_of_mem_v4Text h with rfl | h
  · decide
  · exact isHostCharacter_of_isDigit h

theorem v4Text_ne_nil (bits : BitVec 32) : (v4Text bits).toList ≠ [] := by
  rw [v4Text, joinWith, String.toList_intercalate]
  simp [List.intercalate_cons_cons]

theorem isGroupCharacter_of_mem_colons {gs : List Nat} {c : Char} (h : c ∈ colons gs) :
    isGroupCharacter c = true := by
  rcases mem_intercalate h with h | ⟨s, hs, h⟩
  · rw [List.mem_singleton.mp h]
    decide
  · obtain ⟨n, -, rfl⟩ := List.mem_map.mp hs
    obtain ⟨d, hd, rfl⟩ := exists_digitChar_of_mem_toDigits (by decide) h
    have hall : ∀ d < 16, isGroupCharacter (Nat.digitChar d) = true := by decide
    exact hall d hd

theorem isGroupCharacter_of_mem_groupsText {gs : List Nat} {c : Char}
    (h : c ∈ (groupsText gs).toList) : isGroupCharacter c = true := by
  rw [toList_groupsText] at h
  split at h
  · exact isGroupCharacter_of_mem_colons h
  · rcases List.mem_append.mp h with h | h
    · exact isGroupCharacter_of_mem_colons h
    · rcases List.mem_cons.mp h with rfl | h
      · decide
      · rcases List.mem_cons.mp h with rfl | h
        · decide
        · exact isGroupCharacter_of_mem_colons h

/-! ## Names -/

theorem isAscii_of_isDigitCharacter {c : Char} (h : Punycode.isDigitCharacter c = true) :
    isAscii c = true := by
  simp only [Punycode.isDigitCharacter, Bool.or_eq_true, Bool.and_eq_true,
    decide_eq_true_eq] at h
  simp only [isAscii, decide_eq_true_eq]
  rcases h with ⟨-, h⟩ | ⟨-, h⟩
  · have hle : c.toNat ≤ 122 := h
    omega
  · have hle : c.toNat ≤ 57 := h
    omega

theorem isAscii_of_mem_encode {s : List Char} {c : Char} (h : c ∈ Punycode.encode s) :
    isAscii c = true := by
  rcases Punycode.of_mem_encode h with ⟨-, h⟩ | rfl | h
  · simpa [isAscii] using h
  · decide
  · exact isAscii_of_isDigitCharacter h

theorem isAscii_of_mem_prefix {c : Char} (h : c ∈ "xn--".toList) : isAscii c = true := by
  have hall : ['x', 'n', '-', '-'].all isAscii = true := by decide
  exact List.all_eq_true.mp hall c h

theorem Label.isAscii_of_mem_ascii {s : List Char} {label : Label}
    (h : Label.ofMapped? s = some label) : ∀ c ∈ label.ascii, isAscii c = true := by
  rw [Label.ofMapped?] at h
  split at h
  · next rest hs =>
    split at h
    · cases h
    next hrest =>
    split at h
    · split at h
      · cases h
        have hascii : ∀ c ∈ rest, isAscii c = true := by
          simp at hrest
          exact hrest.2
        intro c hc
        rw [after?_eq_some_iff.mp hs] at hc
        rcases List.mem_append.mp hc with hc | hc
        · exact isAscii_of_mem_prefix hc
        · exact hascii c hc
      · cases h
    · cases h
  · split at h
    · next hall =>
      cases h
      exact List.all_eq_true.mp hall
    · split at h
      · cases h
        intro c hc
        rcases List.mem_append.mp hc with hc | hc
        · exact isAscii_of_mem_prefix hc
        · exact isAscii_of_mem_encode hc
      · cases h

theorem isAscii_of_mem_internationalName? {s name : List Char}
    (h : internationalName? s = some name) : ∀ c ∈ name, isAscii c = true := by
  simp only [internationalName?, Option.bind_eq_bind, Option.bind_eq_some_iff] at h
  obtain ⟨mapped, -, labels, hlabels, h⟩ := h
  split at h
  · cases h
  · cases h
    intro c hc
    rcases mem_intercalate hc with hc | ⟨ascii, hmem, hc⟩
    · rw [List.mem_singleton.mp hc]
      decide
    · obtain ⟨label, hlabel, rfl⟩ := List.mem_map.mp hmem
      obtain ⟨piece, -, hread⟩ := exists_of_mem_mapM hlabels hlabel
      exact Label.isAscii_of_mem_ascii hread c hc

theorem isAscii_of_mem_of_isPlainName {s : List Char} (h : isPlainName s = true) :
    ∀ c ∈ s, isAscii c = true := by
  rw [isPlainName, Bool.and_eq_true] at h
  exact List.all_eq_true.mp h.1

theorem isAscii_toLower {c : Char} (h : isAscii c = true) : isAscii c.toLower = true :=
  of_isAscii (p := fun c => isAscii c.toLower = true) (by decide +kernel) h

theorem isHostCharacter_of_not_isForbiddenInName {c : Char} (hascii : isAscii c = true)
    (h : isForbiddenInName c = false) : isHostCharacter c = true := by
  refine of_isAscii (p := fun c => isForbiddenInName c = false →
    isHostCharacter c = true) ?_ hascii h
  simp only [isForbiddenInName, String.reduceToList]
  decide +kernel

theorem asciiName?_eq (s : List Char) :
    asciiName? s = (if isPlainName s then some (s.map Char.toLower) else
      internationalName? s).bind
      fun name => if name.any isForbiddenInName then none else some name := by
  rw [asciiName?]
  split <;> rfl

/-- A name is written if it is plain or international, without characters that no name may
hold. -/
theorem asciiName?_eq_some_iff {s name : List Char} :
    asciiName? s = some name ↔
      (if isPlainName s then some (s.map Char.toLower) else internationalName? s) =
        some name ∧
        ∀ c ∈ name, isForbiddenInName c = false := by
  rw [asciiName?_eq, Option.bind_eq_some_iff]
  constructor
  · rintro ⟨written, hwritten, h⟩
    split at h
    · cases h
    · next hallowed =>
      cases h
      refine ⟨hwritten, fun c hc => ?_⟩
      by_contra hforbidden
      exact hallowed (List.any_eq_true.mpr ⟨c, hc, by simpa using hforbidden⟩)
  · rintro ⟨hwritten, hallowed⟩
    refine ⟨name, hwritten, if_neg ?_⟩
    rintro hany
    obtain ⟨c, hc, hforbidden⟩ := List.any_eq_true.mp hany
    rw [hallowed c hc] at hforbidden
    cases hforbidden

/-- A name in ASCII form holds only characters that may stand in a host. -/
theorem isHostCharacter_of_mem_asciiName? {s name : List Char}
    (h : asciiName? s = some name) : ∀ c ∈ name, isHostCharacter c = true := by
  obtain ⟨hwritten, hallowed⟩ := asciiName?_eq_some_iff.mp h
  intro c hc
  refine isHostCharacter_of_not_isForbiddenInName ?_ (hallowed c hc)
  split at hwritten
  · next hplain =>
    cases hwritten
    obtain ⟨d, hd, rfl⟩ := List.mem_map.mp hc
    exact isAscii_toLower (isAscii_of_mem_of_isPlainName hplain d hd)
  · exact isAscii_of_mem_internationalName? hwritten c hc

/-! ## Escapes -/

theorem percentEncode_eq_self {p : Char → Bool} {s : List Char}
    (h : ∀ c ∈ s, p c = false) : percentEncode p s = s := by
  have hsame : ∀ c ∈ s, (if p c = true then escape c else [c]) = [c] := by
    intro c hc
    rw [h c hc, if_neg Bool.false_ne_true]
  rw [percentEncode, List.flatMap_congr hsame, List.flatMap_singleton']

/-- What is written of a character is itself or part of an escape. -/
theorem eq_or_mem_escape_of_mem_percentEncode {p : Char → Bool} {s : List Char} {d : Char}
    (h : d ∈ percentEncode p s) : (d ∈ s ∧ p d = false) ∨ ∃ c, d ∈ escape c := by
  obtain ⟨c, hc, h⟩ := List.mem_flatMap.mp h
  split at h
  · exact .inr ⟨c, h⟩
  · next hplain =>
    rw [List.mem_singleton.mp h]
    exact .inl ⟨hc, by simpa using hplain⟩

theorem of_mem_hexCapitals {p : Char → Prop}
    (hdigit : ∀ d < 16, p (Nat.digitChar d).toUpper) {width n : Nat} {c : Char}
    (h : c ∈ (hexCapitals width n).toList) : p c := by
  rw [hexCapitals, String.toList_ofList] at h
  rcases List.mem_append.mp h with h | h
  · rw [List.eq_of_mem_replicate h]
    exact hdigit 0 (by decide)
  · obtain ⟨e, he, rfl⟩ := List.mem_map.mp h
    obtain ⟨d, hd, rfl⟩ := exists_digitChar_of_mem_toDigits (by decide) he
    exact hdigit d hd

/-- What holds of percent signs and of capital hexadecimal digits holds of all that
escapes are made of. -/
theorem of_mem_escape {p : Char → Prop} (hpercent : p '%')
    (hdigit : ∀ d < 16, p (Nat.digitChar d).toUpper) {c d : Char} (h : d ∈ escape c) :
    p d := by
  rw [escape] at h
  obtain ⟨octet, -, h⟩ := List.mem_flatMap.mp h
  rcases List.mem_cons.mp h with rfl | h
  · exact hpercent
  · exact of_mem_hexCapitals hdigit h

theorem isHostCharacter_of_mem_escape {c d : Char} (h : d ∈ escape c) :
    isHostCharacter d = true :=
  of_mem_escape (p := fun d => isHostCharacter d = true) (by decide) (by decide) h

theorem isHostCharacter_of_not_isForbiddenInHost {c : Char}
    (hnarrow : isControlOrWide c = false) (h : isForbiddenInHost c = false) :
    isHostCharacter c = true := by
  have hascii : isAscii c = true := by
    simp only [isControlOrWide, Bool.or_eq_false_iff, decide_eq_false_iff_not,
      Nat.not_lt] at hnarrow
    simp only [isAscii, decide_eq_true_eq]
    omega
  refine of_isAscii (p := fun c => isControlOrWide c = false →
    isForbiddenInHost c = false →
    isHostCharacter c = true) ?_ hascii hnarrow h
  simp only [isForbiddenInHost, String.reduceToList]
  decide +kernel

/-! ## Hosts -/

theorem bracketed?_eq_ok {s host : List Char} (h : bracketed? s = .ok host) :
    ∃ bits, host = '[' :: (groupsText (groups bits)).toList ++ [']'] := by
  unfold bracketed? at h
  split at h
  · split at h
    · split at h
      · cases h
        exact ⟨_, rfl⟩
      · cases h
    · cases h
  · cases h

theorem isHost_of_v6 (bits : BitVec 128) :
    IsHost ('[' :: (groupsText (groups bits)).toList ++ [']']) :=
  .bracketed fun _ hc => isGroupCharacter_of_mem_groupsText hc

/-- What a host under a known scheme can be. -/
inductive KnownHost (s : List Char) : List Char → Prop
  | v6 (bits : BitVec 128) :
  KnownHost s ('[' :: (groupsText (groups bits)).toList ++ [']'])
  | v4 (bits : BitVec 32) : KnownHost s (v4Text bits).toList
  | name {name : List Char} (hne : name ≠ [])
      (h : asciiName? (percentDecode s) = some name)
      (hnumber : endsInNumber name = false) : KnownHost s name

theorem knownHost_cases {s host : List Char} (h : knownHost s = .ok host) :
    KnownHost s host := by
  rw [knownHost] at h
  split at h
  · obtain ⟨bits, rfl⟩ := bracketed?_eq_ok h
    exact .v6 bits
  split at h
  · cases h
  next name hname =>
  split at h
  · cases h
  next hne =>
  split at h
  · split at h
    · cases h
      exact .v4 _
    · cases h
  · next hnumber =>
    cases h
    exact .name (by simpa using hne) hname (by simpa using hnumber)

theorem knownHost_eq_ok {s host : List Char} (h : knownHost s = .ok host) :
    IsHost host := by
  cases knownHost_cases h with
  | v6 bits => exact isHost_of_v6 bits
  | v4 bits => exact .bare (v4Text_ne_nil _) fun c hc => isHostCharacter_of_mem_v4Text hc
  | name hne hname hnumber => exact .bare hne (isHostCharacter_of_mem_asciiName? hname)

/-- A host without brackets stands for itself under any scheme that is not known. -/
theorem otherHost_of_bare {s : List Char} (h : ∀ c ∈ s, isHostCharacter c = true) :
    otherHost s = .ok s := by
  have hplain (c : Char) (hc : isHostCharacter c = true) :
      isForbiddenInHost c = false ∧ isControlOrWide c = false := by
    refine of_isAscii (p := fun c => isHostCharacter c = true →
      isForbiddenInHost c = false ∧
        isControlOrWide c = false) ?_ (isAscii_of_isHostCharacter hc) hc
    simp only [isForbiddenInHost, String.reduceToList]
    decide +kernel
  have hbracket : s.head? ≠ some '[' := by
    intro hhead
    exact absurd (h _ (List.mem_of_head? hhead)) (by decide)
  have hallowed : s.any isForbiddenInHost = false := by
    rw [List.any_eq_false]
    intro c hc
    simp [(hplain c (h c hc)).1]
  rw [otherHost, if_neg hbracket, hallowed, if_neg Bool.false_ne_true,
    percentEncode_eq_self fun c hc => (hplain c (h c hc)).2]

/-- What a host under a scheme that is not known can be. -/
inductive OtherHost : List Char → Prop
  | v6 (bits : BitVec 128) : OtherHost ('[' :: (groupsText (groups bits)).toList ++ [']'])
  | bare {s : List Char} (h : ∀ c ∈ s, isHostCharacter c = true) : OtherHost s

theorem otherHost_cases {s host : List Char} (h : otherHost s = .ok host) :
    OtherHost host := by
  rw [otherHost] at h
  split at h
  · obtain ⟨bits, rfl⟩ := bracketed?_eq_ok h
    exact .v6 bits
  split at h
  · cases h
  next hallowed =>
  cases h
  refine .bare fun c hc => ?_
  rcases eq_or_mem_escape_of_mem_percentEncode hc with ⟨hmem, hnarrow⟩ | ⟨d, hd⟩
  · have hfine : isForbiddenInHost c = false := by
      by_contra hforbidden
      exact hallowed (List.any_eq_true.mpr ⟨c, hmem, by simpa using hforbidden⟩)
    exact isHostCharacter_of_not_isForbiddenInHost hnarrow hfine
  · exact isHostCharacter_of_mem_escape hd

theorem otherHost_eq_ok {s host : List Char} (h : otherHost s = .ok host)
    (hne : host ≠ []) : IsHost host := by
  cases otherHost_cases h with
  | v6 bits => exact isHost_of_v6 bits
  | bare h => exact .bare hne h

end CredRelay.Url
