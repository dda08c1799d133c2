import CredRelay.Text.Utf8
/-! The octets of a text. Each one below 128 is a character of its own: longer characters
are written with higher octets only. Octets of a text that are cut short hold a beginning
of it, and a text that follows some octets does not change how they are read. -/
namespace CredRelay.Text

theorem utf8_data (s : String) :
    (utf8 s).data.toList = s.toList.flatMap String.utf8EncodeChar := by
  rw [utf8, String.toUTF8_eq_toByteArray, ← String.utf8Encode_toList, List.utf8Encode,
    List.toList_data_toByteArray]

theorem utf8EncodeChar_of_lt {c : Char} (h : c.toNat < 0x80) :
    String.utf8EncodeChar c = [c.val.toUInt8] := by
  apply String.utf8EncodeChar_eq_singleton
  rw [Char.utf8Size_eq_one_iff, UInt32.le_iff_toNat_le]
  exact Nat.le_of_lt_succ h

theorem le_toNat_ofNat {n : Nat} (hlow : 0x80 ≤ n) (hhigh : n < 0x100) :
    0x80 ≤ (UInt8.ofNat n).toNat := by
  rw [UInt8.toNat_ofNat', Nat.mod_eq_of_lt hhigh]
  exact hlow

/-- A character from 128 on is written with octets from 128 on. -/
theorem le_of_mem_utf8EncodeChar {c : Char} {b : UInt8} (h : 0x80 ≤ c.toNat)
    (hb : b ∈ String.utf8EncodeChar c) : 0x80 ≤ b.toNat := by
  have hlong : ¬c.val.toNat ≤ 0x7f := Nat.not_le.mpr h
  simp only [String.utf8EncodeChar, if_neg hlong] at hb
  -- the written lengths of two, three and four octets
  split at hb
  · simp only [List.mem_cons, List.not_mem_nil, or_false] at hb
    rcases hb with rfl | rfl <;> exact le_toNat_ofNat (by omega) (by omega)
  split at hb
  · simp only [List.mem_cons, List.not_mem_nil, or_false] at hb
    rcases hb with rfl | rfl | rfl <;> exact le_toNat_ofNat (by omega) (by omega)
  · simp only [List.mem_cons, List.not_mem_nil, or_false] at hb
    rcases hb with rfl | rfl | rfl | rfl <;> exact le_toNat_ofNat (by omega) (by omega)

/-- An octet below 128 is a character of the text. -/
theorem exists_char_of_mem_utf8 {s : String} {b : UInt8} (hb : b ∈ (utf8 s).data)
    (hlow : b < 0x80) : ∃ c ∈ s.toList, c.toNat = b.toNat := by
  rw [← Array.mem_toList_iff, utf8_data, List.mem_flatMap] at hb
  obtain ⟨c, hc, hbc⟩ := hb
  have hshort : c.toNat < 0x80 := by
    refine Nat.lt_of_not_le fun hlong => ?_
    have hhigh := le_of_mem_utf8EncodeChar hlong hbc
    rw [UInt8.lt_iff_toNat_lt] at hlow
    exact Nat.not_lt.mpr hhigh hlow
  rw [utf8EncodeChar_of_lt hshort, List.mem_singleton] at hbc
  refine ⟨c, hc, ?_⟩
  rw [hbc]
  simp only [UInt32.toNat_toUInt8]
  exact (Nat.mod_eq_of_lt (Nat.lt_of_lt_of_le hshort (by decide))).symm

/-! ## Lengths -/

theorem size_utf8 (s : String) :
    (utf8 s).size = (s.toList.flatMap String.utf8EncodeChar).length := by
  show (utf8 s).data.size = _
  rw [← Array.length_toList, utf8_data]

/-- A text takes at least an octet for each character. -/
theorem length_le_size_utf8 (s : String) : s.toList.length ≤ (utf8 s).size := by
  rw [size_utf8]
  induction s.toList with
  | nil => exact Nat.le_refl 0
  | cons c l ih =>
    have hc : 0 < (String.utf8EncodeChar c).length := by
      rw [String.length_utf8EncodeChar]
      exact Char.utf8Size_pos c
    rw [List.flatMap_cons, List.length_append, List.length_cons]
    omega

theorem size_utf8_ofList_replicate {c : Char} (h : c.toNat < 0x80) (n : Nat) :
    (utf8 (String.ofList (List.replicate n c))).size = n := by
  rw [size_utf8, String.toList_ofList]
  induction n with
  | zero => rfl
  | succ n ih =>
    rw [List.replicate_succ, List.flatMap_cons, List.length_append, ih,
      utf8EncodeChar_of_lt h, List.length_singleton, Nat.add_comm]

/-! ## Beginnings -/

theorem utf8_of_ofUtf8?_eq_some {octets : ByteArray} {s : String}
    (h : ofUtf8? octets = some s) : utf8 s = octets := by
  rw [ofUtf8?, String.fromUTF8?] at h
  split at h
  · cases h
    rfl
  · cases h

theorem ofUtf8?_eq_some_iff {octets : ByteArray} {s : String} :
    ofUtf8? octets = some s ↔ octets = utf8 s := by
  constructor
  · intro h
    exact (utf8_of_ofUtf8?_eq_some h).symm
  · rintro rfl
    exact ofUtf8?_utf8 s

/-- What follows whole characters in a valid text is valid. -/
theorem isValidUTF8_of_append {l : List Char} {octets : ByteArray}
    (h : (l.utf8Encode ++ octets).IsValidUTF8) : octets.IsValidUTF8 := by
  induction l with
  | nil => simpa using h
  | cons c l ih =>
    rw [← List.singleton_append, List.utf8Encode_append, ByteArray.append_assoc,
      ByteArray.isValidUTF8_utf8Encode_singleton_append_iff] at h
    exact ih h

/-- Octets of a text that were cut short hold a beginning of the text, if they are a text
at all. -/
theorem exists_append_of_ofUtf8?_extract {s t : String} {n : Nat} (hn : n < (utf8 s).size)
    (h : ofUtf8? ((utf8 s).extract 0 n) = some t) :
    ∃ rest, s.toList = t.toList ++ rest ∧ rest ≠ [] := by
  have hjoin : utf8 s = t.toList.utf8Encode ++ (utf8 s).extract n (utf8 s).size := by
    rw [String.utf8Encode_toList]
    show utf8 s = utf8 t ++ _
    rw [utf8_of_ofUtf8?_eq_some h, ← ByteArray.extract_eq_extract_append_extract n
      (by omega) (by omega)]
    exact ByteArray.extract_zero_size.symm
  obtain ⟨rest, hrest⟩ : ((utf8 s).extract n (utf8 s).size).IsValidUTF8 := by
    refine isValidUTF8_of_append (l := t.toList) ?_
    rw [← hjoin]
    exact s.isValidUTF8
  refine ⟨rest, ?_, ?_⟩
  · rw [hrest, ← List.utf8Encode_append] at hjoin
    have hs : s = String.ofList (t.toList ++ rest) := by
      rw [← String.toByteArray_inj, String.toByteArray_ofList]
      exact hjoin
    rw [hs, String.toList_ofList]
  · rintro rfl
    have hsize := congrArg ByteArray.size hrest
    simp only [ByteArray.size_extract, List.utf8Encode_nil, ByteArray.size_empty] at hsize
    omega

/-! ## Texts after octets -/

theorem ofUtf8?_eq_none_iff {octets : ByteArray} :
    ofUtf8? octets = none ↔ ¬octets.IsValidUTF8 := by
  rw [ofUtf8?, String.fromUTF8?]
  split
  · simpa
  · simpa

/-- Octets in front of a text are a text exactly when the two together are one: no
character goes on where the text starts. -/
theorem isValidUTF8_append_utf8_iff {octets : ByteArray} {w : String} :
    (octets ++ utf8 w).IsValidUTF8 ↔ octets.IsValidUTF8 := by
  constructor
  · intro h
    let joined : String := .ofByteArray (octets ++ utf8 w) h
    have hle : (⟨octets.size⟩ : String.Pos.Raw) ≤ joined.rawEndPos := by
      show octets.size ≤ (octets ++ utf8 w).size
      rw [ByteArray.size_append]
      exact Nat.le_add_right ..
    have hright : (octets ++ utf8 w).extract octets.size joined.utf8ByteSize =
        utf8 w := by
      show (octets ++ utf8 w).extract octets.size (octets ++ utf8 w).size = utf8 w
      rw [ByteArray.size_append]
      exact ByteArray.extract_append_eq_right rfl rfl
    have hleft : (octets ++ utf8 w).extract 0 octets.size = octets :=
      ByteArray.extract_append_eq_left rfl
    -- a place in a text has valid octets before it exactly when it has valid ones
    -- after it
    have hplace : String.Pos.Raw.IsValid joined ⟨octets.size⟩ := by
      rw [String.Pos.Raw.isValid_iff_isValidUTF8_extract_utf8ByteSize]
      refine ⟨hle, ?_⟩
      show ((octets ++ utf8 w).extract octets.size joined.utf8ByteSize).IsValidUTF8
      rw [hright]
      exact w.isValidUTF8
    rw [← hleft]
    exact (String.Pos.Raw.isValid_iff_isValidUTF8_extract_zero.mp hplace).2
  · intro h
    exact h.append w.isValidUTF8

/-- A text after some octets is read as itself, and the octets as they are read
without it. -/
theorem ofUtf8?_append_utf8 (octets : ByteArray) (w : String) :
    ofUtf8? (octets ++ utf8 w) = (ofUtf8? octets).map (· ++ w) := by
  cases h : ofUtf8? octets with
  | some s =>
    have hjoin : octets ++ utf8 w = utf8 (s ++ w) := by
      rw [← utf8_of_ofUtf8?_eq_some h]
      exact String.toByteArray_append.symm
    rw [hjoin, ofUtf8?_utf8]
    rfl
  | none =>
    rw [Option.map_none, ofUtf8?_eq_none_iff, isValidUTF8_append_utf8_iff]
    exact ofUtf8?_eq_none_iff.mp h

end CredRelay.Text
