import CredRelay.Proofs.Net.Spelling
import CredRelay.Proofs.Text.Trimming
import CredRelay.Proofs.Url.Addresses
/-! Reading the spelling of a socket address back. Every address that can be listened on,
of either version, with its scope and its port, is what its spelling stands for, and the
spelling has no blanks to trim. -/
namespace CredRelay.Net

open Text

/-! ## Version 4 -/

theorem octet?_toDigits {n : Nat} (h : n < 256) :
    octet? (Nat.toDigits 10 n) = some n := by
  have hall : ∀ n < 256, octet? (Nat.toDigits 10 n) = some n := by decide +kernel
  exact hall n h

theorem octets?_v4Text (bits : BitVec 32) :
    octets? (v4Text bits).toList = some (bits.toNat / 16777216, bits.toNat / 65536 % 256,
      bits.toNat / 256 % 256, bits.toNat % 256) := by
  have hbits := bits.isLt
  rw [octets?, splitOn_v4Text]
  simp only [octets, List.map_cons, List.map_nil]
  rw [octet?_toDigits (by omega), octet?_toDigits (by omega), octet?_toDigits (by omega),
    octet?_toDigits (by omega)]

/-- The spelling of a version 4 address stands for that address. -/
theorem v4?_v4Text (bits : BitVec 32) : v4? (v4Text bits).toList = some bits := by
  have hbits := bits.isLt
  rw [v4?, octets?_v4Text, Option.map_some, Option.some_inj]
  apply BitVec.eq_of_toNat_eq
  rw [BitVec.toNat_ofNat]
  omega

/-! ## Version 6 with a version 4 address inside -/

theorem dot_mem_v4Text (bits : BitVec 32) : '.' ∈ (v4Text bits).toList := by
  by_contra h
  have hpieces := splitOn_v4Text bits
  rw [List.splitOn_eq_singleton h] at hpieces
  simp [octets] at hpieces

theorem colon_not_mem_v4Text (bits : BitVec 32) : ':' ∉ (v4Text bits).toList := by
  intro h
  rcases Url.eq_dot_or_isDigit_of_mem_v4Text h with hc | hc
  · cases hc
  · cases hc

theorem numeralFrom?_eq_none {base : Nat} {c : Char} (hc : digit? base c = none)
    {s : List Char} (h : c ∈ s) (n : Nat) : numeralFrom? base n s = none := by
  induction s generalizing n with
  | nil => cases h
  | cons d s ih =>
    rw [numeralFrom?]
    rcases List.mem_cons.mp h with rfl | h
    · rw [hc]
    · cases digit? base d with
      | none => rfl
      | some e => exact ih h _

theorem group?_v4Text (bits : BitVec 32) : group? (v4Text bits).toList = none := by
  have hnumeral : numeral? 16 (v4Text bits).toList = none := by
    rw [numeral?]
    split
    · rfl
    · exact numeralFrom?_eq_none (by decide) (dot_mem_v4Text bits) 0
  rw [group?, hnumeral, ite_self]

theorem sideGroups?_mapped (bits : BitVec 32) :
    sideGroups? true ("ffff:".toList ++ (v4Text bits).toList) =
      some [65535, bits.toNat / 16777216 * 256 + bits.toNat / 65536 % 256,
        bits.toNat / 256 % 256 * 256 + bits.toNat % 256] := by
  have hsplit : ("ffff:".toList ++ (v4Text bits).toList).splitOn ':' =
      ["ffff".toList, (v4Text bits).toList] := by
    have hlist : "ffff:".toList ++ (v4Text bits).toList =
        "ffff".toList ++ ':' :: (v4Text bits).toList := by
      rfl
    rw [hlist, List.splitOn_append_cons_self_of_not_mem (by decide),
      List.splitOn_eq_singleton (colon_not_mem_v4Text bits)]
  have hffff : group? "ffff".toList = some 65535 := by decide
  rw [sideGroups?, if_neg (by simp), hsplit]
  simp only [groups?, hffff, group?_v4Text, octets?_v4Text, if_true, Option.map_some]

/-- A version 6 address with a version 4 address inside has 65535 in the group before that
one, and zeros in the groups before. -/
theorem toNat_of_mapped?_eq_some {bits : BitVec 128} {inner : BitVec 32}
    (h : mapped? bits = some inner) : bits.toNat = 65535 * 4294967296 + inner.toNat := by
  rw [mapped?] at h
  split at h
  · next hhigh =>
    cases h
    rw [BitVec.toNat_setWidth]
    omega
  · cases h

theorem v6?_mapped {bits : BitVec 128} {inner : BitVec 32}
    (h : mapped? bits = some inner) :
    v6? ("::ffff:" ++ v4Text inner).toList = some bits := by
  have hlist : ("::ffff:" ++ v4Text inner).toList =
      colons [] ++ ':' :: ':' :: ("ffff:".toList ++ (v4Text inner).toList) := by
    rw [String.toList_append]
    rfl
  have hleft : sideGroups? false (colons []) = some [] := rfl
  have hbits := toNat_of_mapped?_eq_some h
  have hinner := inner.isLt
  have hgroups : eightGroups? ("::ffff:" ++ v4Text inner).toList =
      some ([0, 0, 0, 0, 0, 65535,
        inner.toNat / 16777216 * 256 + inner.toNat / 65536 % 256,
        inner.toNat / 256 % 256 * 256 + inner.toNat % 256]) := by
    rw [eightGroups?, hlist, cutText_colons_append]
    simp only [hleft, sideGroups?_mapped]
    rfl
  rw [v6?, hgroups, Option.map_some, Option.some_inj]
  apply BitVec.eq_of_toNat_eq
  simp only [List.foldl_cons, List.foldl_nil, BitVec.toNat_ofNat]
  omega

/-- The spelling of a version 6 address stands for that address, also where a version 4
address inside is spelled as such. -/
theorem v6?_v6Text (bits : BitVec 128) : v6? (v6Text bits).toList = some bits := by
  rw [v6Text]
  cases hmapped : mapped? bits with
  | none => exact v6?_groupsText bits
  | some inner => exact v6?_mapped hmapped

/-! ## Characters -/

theorem isGroupCharacter_of_isDigit {c : Char} (h : c.isDigit = true) :
    Url.isGroupCharacter c = true := by
  simp [Url.isGroupCharacter, h]

theorem mem_v6Text {bits : BitVec 128} {c : Char} (h : c ∈ (v6Text bits).toList) :
    c = '.' ∨ Url.isGroupCharacter c = true := by
  rw [v6Text] at h
  split at h
  · next inner _ =>
    rw [String.toList_append] at h
    rcases List.mem_append.mp h with h | h
    · have hall : "::ffff:".toList.all Url.isGroupCharacter = true := by decide
      exact .inr (List.all_eq_true.mp hall c h)
    · exact (Url.eq_dot_or_isDigit_of_mem_v4Text h).imp id isGroupCharacter_of_isDigit
  · exact .inr (Url.isGroupCharacter_of_mem_groupsText h)

theorem not_mem_v6Text {c : Char} (hdot : c ≠ '.')
    (hgroup : Url.isGroupCharacter c = false) (bits : BitVec 128) :
    c ∉ (v6Text bits).toList := by
  intro h
  rcases mem_v6Text h with hc | hc
  · exact hdot hc
  · rw [hgroup] at hc
    cases hc

/-! ## Scopes and ports -/

theorem port?_toDigits {n : Nat} (h : n < 65536) :
    port? (Nat.toDigits 10 n) = some n := by
  rw [port?, numeral?_toDigits (by decide) (by decide), Option.filter_some,
    if_pos (by simpa using h)]

theorem scope?_toDigits {n : Nat} (h : n < 4294967296) :
    scope? (Nat.toDigits 10 n) = some n := by
  rw [scope?, numeral?_toDigits (by decide) (by decide), Option.filter_some,
    if_pos (by simpa using h)]

/-- What is written of a scope, which is nothing for a scope of zero. -/
def scopeText (scope : Nat) : List Char :=
  if scope = 0 then [] else '%' :: Nat.toDigits 10 scope

theorem mem_scopeText {scope : Nat} {c : Char} (h : c ∈ scopeText scope) :
    c = '%' ∨ c.isDigit = true := by
  rw [scopeText] at h
  split at h
  · cases h
  · exact (List.mem_cons.mp h).imp id isDigit_of_mem_toDigits

theorem scoped?_append_scopeText {scope : Nat} (h : scope < 4294967296)
    (bits : BitVec 128) :
    scoped? ((v6Text bits).toList ++ scopeText scope) = some (bits, scope) := by
  have hpercent : '%' ∉ (v6Text bits).toList :=
    not_mem_v6Text (by decide) (by decide) bits
  rw [scopeText]
  split
  · next hzero =>
    rw [List.append_nil, scoped?, cut_eq_none hpercent, hzero]
    simp only [v6?_v6Text, Option.map_some]
  · rw [scoped?, cut_append hpercent]
    simp only [v6?_v6Text, scope?_toDigits h]

/-! ## Socket addresses -/

namespace SocketAddress

/-- Whether there can be a socket address: its port and its scope are in range, and one of
version 4 has no scope. -/
def IsValid (a : SocketAddress) : Prop :=
  a.port < 65536 ∧
    match a.address with
    | .v4 _ => a.scope = 0
    | .v6 _ => a.scope < 4294967296

instance (a : SocketAddress) : Decidable a.IsValid := by
  unfold IsValid
  cases a.address <;> infer_instance

theorem toList_text_v4 (bits : BitVec 32) (scope port : Nat) :
    (text ⟨.v4 bits, scope, port⟩).toList =
    (v4Text bits).toList ++ ':' :: Nat.toDigits 10 port := by
  simp [text, toList_decimal]

theorem toList_text_v6 (bits : BitVec 128) (scope port : Nat) :
    (text ⟨.v6 bits, scope, port⟩).toList =
      '[' :: ((v6Text bits).toList ++ scopeText scope ++ ']' ::
        (':' :: Nat.toDigits 10 port)) := by
  by_cases h : scope = 0
  · simp [text, scopeText, h, toList_decimal]
  · simp [text, scopeText, h, toList_decimal]

theorem ofString?_text_v4 (bits : BitVec 32) {port : Nat} (hport : port < 65536) :
    ofString? (text ⟨.v4 bits, 0, port⟩) = some ⟨.v4 bits, 0, port⟩ := by
  have hcut : cut ':' (text ⟨.v4 bits, 0, port⟩).toList =
      some ((v4Text bits).toList, Nat.toDigits 10 port) := by
    rw [toList_text_v4, cut_append (colon_not_mem_v4Text bits)]
  rw [ofString?]
  split
  · next rest hrest =>
    -- no bracket stands before a version 4 address
    rw [toList_text_v4] at hrest
    cases hv4 : (v4Text bits).toList with
    | nil => exact absurd hv4 (Url.v4Text_ne_nil bits)
    | cons c chars =>
      rw [hv4, List.cons_append] at hrest
      obtain rfl := (List.cons.inj hrest).1
      have hbracket : '[' ∈ (v4Text bits).toList := by simp [hv4]
      rcases Url.eq_dot_or_isDigit_of_mem_v4Text hbracket with hc | hc
      · cases hc
      · cases hc
  · rw [hcut]
    simp only [v4?_v4Text, port?_toDigits hport]

theorem ofString?_text_v6 (bits : BitVec 128) {scope port : Nat}
    (hscope : scope < 4294967296) (hport : port < 65536) :
    ofString? (text ⟨.v6 bits, scope, port⟩) = some ⟨.v6 bits, scope, port⟩ := by
  have hbracket : ']' ∉ (v6Text bits).toList ++ scopeText scope := by
    intro h
    rcases List.mem_append.mp h with h | h
    · exact not_mem_v6Text (by decide) (by decide) bits h
    · rcases mem_scopeText h with h | h
      · cases h
      · cases h
  have hcut : cutText [']', ':'] ((v6Text bits).toList ++ scopeText scope ++
      ']' :: (':' :: Nat.toDigits 10 port)) =
        some ((v6Text bits).toList ++ scopeText scope, Nat.toDigits 10 port) :=
    cutText_append_cons hbracket [':'] (Nat.toDigits 10 port)
  rw [ofString?, toList_text_v6]
  simp only [hcut, scoped?_append_scopeText hscope, port?_toDigits hport]

/-- The spelling of a socket address stands for that address. -/
theorem ofString?_text {a : SocketAddress} (h : a.IsValid) :
    ofString? a.text = some a := by
  obtain ⟨address, scope, port⟩ := a
  obtain ⟨hport, hscope⟩ := h
  cases address with
  | v4 bits =>
    obtain rfl : scope = 0 := hscope
    exact ofString?_text_v4 bits hport
  | v6 bits => exact ofString?_text_v6 bits hscope hport

theorem lt_of_port?_eq_some {s : List Char} {n : Nat} (h : port? s = some n) :
    n < 65536 := by
  rw [port?, Option.filter_eq_some_iff] at h
  simpa using h.2

theorem lt_of_scope?_eq_some {s : List Char} {n : Nat} (h : scope? s = some n) :
    n < 4294967296 := by
  rw [scope?, Option.filter_eq_some_iff] at h
  simpa using h.2

theorem lt_of_scoped?_eq_some {s : List Char} {bits : BitVec 128} {n : Nat}
    (h : scoped? s = some (bits, n)) : n < 4294967296 := by
  rw [scoped?] at h
  split at h
  · obtain ⟨_, -, heq⟩ := Option.map_eq_some_iff.mp h
    cases heq
    decide
  · split at h
    · next hscope =>
      cases h
      exact lt_of_scope?_eq_some hscope
    · cases h

/-- Whatever text is read as a socket address, there can be that address. -/
theorem isValid_of_ofString?_eq_some {s : String} {a : SocketAddress}
    (h : ofString? s = some a) : a.IsValid := by
  rw [ofString?] at h
  split at h
  · split at h
    · split at h
      · next hscoped hport =>
        cases h
        exact ⟨lt_of_port?_eq_some hport, lt_of_scoped?_eq_some hscoped⟩
      · cases h
    · cases h
  · split at h
    · split at h
      · next hport =>
        cases h
        exact ⟨lt_of_port?_eq_some hport, rfl⟩
      · cases h
    · cases h

/-! ## Trimming -/

theorem mem_text {a : SocketAddress} {c : Char} (h : c ∈ a.text.toList) :
    c ∈ ['.', '[', ']', '%'] ∨ Url.isGroupCharacter c = true := by
  have hdigits : ∀ {n : Nat} {c : Char}, c ∈ Nat.toDigits 10 n →
      Url.isGroupCharacter c = true :=
    fun hc => isGroupCharacter_of_isDigit (isDigit_of_mem_toDigits hc)
  obtain ⟨address, scope, port⟩ := a
  cases address with
  | v4 bits =>
    simp only [toList_text_v4, List.mem_append, List.mem_cons] at h
    rcases h with h | rfl | h
    · rcases Url.eq_dot_or_isDigit_of_mem_v4Text h with rfl | h
      · exact .inl (by decide)
      · exact .inr (isGroupCharacter_of_isDigit h)
    · exact .inr (by decide)
    · exact .inr (hdigits h)
  | v6 bits =>
    simp only [toList_text_v6, List.mem_append, List.mem_cons] at h
    rcases h with rfl | (h | h) | rfl | rfl | h
    · exact .inl (by decide)
    · rcases mem_v6Text h with rfl | h
      · exact .inl (by decide)
      · exact .inr h
    · rcases mem_scopeText h with rfl | h
      · exact .inl (by decide)
      · exact .inr (isGroupCharacter_of_isDigit h)
    · exact .inl (by decide)
    · exact .inr (by decide)
    · exact .inr (hdigits h)

theorem isBlank_of_isGroupCharacter {c : Char} (h : Url.isGroupCharacter c = true) :
    isBlank c = false :=
  Url.of_isAscii (p := fun c => Url.isGroupCharacter c = true → isBlank c = false)
    (by decide +kernel) (Url.isAscii_of_isGroupCharacter h) h

/-- The spelling of a socket address has nothing to trim. -/
theorem trim_text (a : SocketAddress) : trim a.text = a.text := by
  have hblank : ∀ c ∈ a.text.toList, isBlank c = false := by
    intro c hc
    rcases mem_text hc with hc | hc
    · have hall : ['.', '[', ']', '%'].all (fun c => !isBlank c) = true := by decide
      simpa using List.all_eq_true.mp hall c hc
    · exact isBlank_of_isGroupCharacter hc
  rw [trim, trimChars, trimWhere_eq_self hblank, String.ofList_toList]

end SocketAddress

end CredRelay.Net
