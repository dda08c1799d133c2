import CredRelay.Proofs.Json.Prefixes
import CredRelay.Proofs.Wire.ReplyRoundTrip
/-! Reading a reply that was cut short. A record of which something is missing is refused,
and what is left of a failure is still a failure, so no reply is taken for success but the
one that means it. -/
namespace CredRelay.Reply

open Text Request Json

variable {n : Nat} {s t : String}

theorem size_of_ofUtf8?_extract (hn : n < (utf8 s).size)
    (h : ofUtf8? ((utf8 s).extract 0 n) = some t) : (utf8 t).size = n := by
  rw [utf8_of_ofUtf8?_eq_some h, ByteArray.size_extract]
  omega

theorem ne_nil_of_ofUtf8?_extract (hn : n < (utf8 s).size) (hpos : 0 < n)
    (h : ofUtf8? ((utf8 s).extract 0 n) = some t) : t.toList ≠ [] := by
  intro hnil
  have hsize := size_of_ofUtf8?_extract hn h
  rw [String.toList_eq_nil_iff.mp hnil] at hsize
  have hempty : (utf8 "").size = 0 := rfl
  omega

/-! ## Records -/

/-- A text with a brace at its start that goes on as a record, but not to its end, is
refused. -/
theorem exists_ofTrimmed_eq_error {c : Credential} {rest : List Char}
    (hne : t.toList ≠ []) (h : (Wire.recordText c).toList = t.toList ++ rest)
    (hrest : rest ≠ []) (expectRecord : Bool) :
    ∃ fault, ofTrimmed expectRecord (trim t) = .error fault := by
  obtain ⟨whole, hwhole⟩ := exists_recordText c
  obtain ⟨first, more, ht⟩ := List.exists_cons_of_ne_nil hne
  have hfirst : first = '\x7b' := by
    rw [hwhole, ht] at h
    exact (List.cons.inj h).1.symm
  subst hfirst
  -- trimming only takes more from the end
  obtain ⟨blank, hblank⟩ : ∃ w, more = dropEndWhile isBlank more ++ w :=
    ⟨more.rtakeWhile isBlank, (List.rdropWhile_append_rtakeWhile).symm⟩
  have htrim : (trim t).toList = '\x7b' :: dropEndWhile isBlank more := by
    rw [toList_trim, ht, trimChars_cons (by decide)]
  have hcut : writtenObject (Wire.membersOf c) = (trim t).toList ++ (blank ++ rest) := by
    rw [← Wire.recordText_toList, h, ht, htrim]
    conv_lhs => rw [hblank]
    simp
  have hrecord : Wire.recordOfText? (trim t) = none := by
    rw [Wire.recordOfText?, read?_eq_none_of_writtenObject_eq_append hcut
      (by simp [hrest])]
    rfl
  have hmark : after? "error:".toList (trim t).toList = none := by
    rw [htrim]
    rfl
  have hfull : (trim t).isEmpty = false := by
    rw [← Bool.not_eq_true, String.isEmpty_iff, ← String.toList_eq_nil_iff, htrim]
    simp
  simp only [ofTrimmed, hmark, hfull, hrecord]
  cases expectRecord
  · exact ⟨_, rfl⟩
  · exact ⟨_, rfl⟩

/-- A record that was cut short is refused. -/
theorem exists_decode_extract_eq_error {c : Credential} (hpos : 0 < n)
    (hn : n < (record c).encode.size) (expectRecord : Bool) :
    ∃ fault, decode ((record c).encode.extract 0 n) expectRecord = .error fault := by
  rw [decode]
  split
  · next t ht =>
    obtain ⟨rest, hrecord, hrest⟩ := exists_append_of_ofUtf8?_extract hn ht
    exact exists_ofTrimmed_eq_error
      (ne_nil_of_ofUtf8?_extract hn hpos ht) hrecord hrest expectRecord
  · exact ⟨_, rfl⟩

/-! ## Failures -/

theorem trim_mark_append {more : List Char} (h : t.toList = "error:".toList ++ more) :
    (trim t).toList = "error:".toList ++ dropEndWhile isBlank more := by
  have hmark : t.toList = 'e' :: ("rror".toList ++ ':' :: more) := h
  rw [toList_trim, hmark, trimChars_cons (by decide),
    dropEndWhile_append_cons (by decide)]
  rfl

/-- What is left of a failure starts with its mark, where that much is left. -/
theorem exists_mark_append {reason t : String} (hmark : "error:".length ≤ n)
    (hn : n < (error reason).encode.size)
    (ht : ofUtf8? ((error reason).encode.extract 0 n) = some t) :
    ∃ more, t.toList = "error:".toList ++ more := by
  obtain ⟨rest, hreason, -⟩ := exists_append_of_ofUtf8?_extract hn ht
  have hwhole : (error reason).text.toList =
      "error:".toList ++ (' ' :: (withoutBreaks reason).toList) := by
    simp [text, errorMark]
  rw [hwhole] at hreason
  rcases List.append_eq_append_iff.mp hreason with ⟨more, ht, -⟩ | ⟨more, hshort, -⟩
  · exact ⟨more, ht⟩
  · -- what is left lies within the mark, and is as long
    have hjoin : "error:" = t ++ String.ofList more := by
      apply String.toList_inj.mp
      simpa only [String.toList_append, String.toList_ofList] using hshort
    have hsize :
        "error:".utf8ByteSize = t.utf8ByteSize + (String.ofList more).utf8ByteSize := by
      rw [← String.utf8ByteSize_append, ← hjoin]
    have ht : t.utf8ByteSize = n := size_of_ofUtf8?_extract hn ht
    have hmore : String.ofList more = "" := by
      rw [← String.utf8ByteSize_eq_zero_iff]
      have hlength : "error:".utf8ByteSize = "error:".length := by decide
      omega
    rw [hmore, String.append_empty] at hjoin
    exact ⟨[], by rw [← hjoin, List.append_nil]⟩

/-- What is left of a failure is a failure, as long as its mark is there. -/
theorem decode_extract_error_ne_empty {reason : String} (hmark : "error:".length ≤ n)
    (hn : n < (error reason).encode.size) (expectRecord : Bool) :
    decode ((error reason).encode.extract 0 n) expectRecord ≠ .ok .empty := by
  rw [decode]
  split
  · next t ht =>
    obtain ⟨more, hmore⟩ := exists_mark_append hmark hn ht
    have hafter : after? "error:".toList (trim t).toList =
        some (dropEndWhile isBlank more) := by
      rw [after?_eq_some_iff, trim_mark_append hmore]
    simp only [ofTrimmed, hafter]
    intro hempty
    cases hempty
  · intro hempty
    cases hempty

/-- No reply is read as success, cut short or not, but the one that means it. -/
theorem eq_empty_of_decode_extract_eq_empty {r : Reply} {expectRecord : Bool}
    (hn : "error:".length ≤ n)
    (h : decode (r.encode.extract 0 n) expectRecord = .ok .empty) : r = .empty := by
  by_cases hsize : n < r.encode.size
  · cases r with
    | empty => rfl
    | record c =>
      have hpos : 0 < n := Nat.lt_of_lt_of_le (by decide) hn
      obtain ⟨fault, hfault⟩ := exists_decode_extract_eq_error hpos hsize expectRecord
      rw [hfault] at h
      cases h
    | error reason => exact absurd h (decode_extract_error_ne_empty hn hsize expectRecord)
  · have hall : r.encode.extract 0 n = r.encode := by
      rw [← Nat.max_eq_left (Nat.not_lt.mp hsize)]
      exact ByteArray.extract_zero_max_size
    rw [hall, decode_encode] at h
    cases r with
    | empty => rfl
    | record c => cases expectRecord <;> cases h
    | error reason => cases h

end CredRelay.Reply
