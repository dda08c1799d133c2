import CredRelay.Proofs.Text.Octets
import CredRelay.Proofs.Text.Trimming
import CredRelay.Proofs.Wire.RecordRoundTrip
import CredRelay.Proofs.Wire.RequestRoundTrip
import CredRelay.Wire.Reply
/-! Writing a reply and reading it back. A record starts with a brace and a failure with
its mark, so neither is taken for the other, and only success is written as nothing. No
reply holds a line end. -/
namespace CredRelay.Reply

open Text Request Json

/-- A reply as it is read by one who expects a record, or by one who does not. -/
def received (expectRecord : Bool) : Reply → Except WireFault Reply
  | .record c =>
    if expectRecord then .ok (.record c) else .error (.malformedReply unexpectedBody)
  | .empty => .ok .empty
  | .error reason => .ok (.error (cleanField reason))

/-- Whether two replies are both records, both empty or both failures. -/
def SameKind : Reply → Reply → Prop
  | .record _, .record _ => True
  | .empty, .empty => True
  | .error _, .error _ => True
  | _, _ => False

theorem decode_encode_eq_ofTrimmed (r : Reply) (expectRecord : Bool) :
    decode r.encode expectRecord = ofTrimmed expectRecord (trim r.text) := by
  rw [decode, encode, ofUtf8?_utf8]

/-! ## Records -/

/-- The written form of a record has a brace at either end. -/
theorem exists_recordText (c : Credential) :
    ∃ s, (Wire.recordText c).toList = '\x7b' :: s ++ ['\x7d'] :=
  ⟨_, Wire.recordText_toList c⟩

theorem trim_recordText (c : Credential) :
    trim (Wire.recordText c) = Wire.recordText c := by
  obtain ⟨s, hs⟩ := exists_recordText c
  rw [trim, hs, trimChars_eq_self (by decide) (by decide), ← hs, String.ofList_toList]

theorem ofTrimmed_recordText (c : Credential) (expectRecord : Bool) :
    ofTrimmed expectRecord (Wire.recordText c) = (record c).received expectRecord := by
  obtain ⟨s, hs⟩ := exists_recordText c
  have hmark : after? "error:".toList (Wire.recordText c).toList = none := by
    rw [hs]
    rfl
  have hne : (Wire.recordText c).isEmpty = false := by
    rw [← Bool.not_eq_true, String.isEmpty_iff, ← String.toList_eq_nil_iff, hs]
    simp
  simp only [ofTrimmed, hmark, hne, Wire.recordOfText?_recordText]
  cases expectRecord <;> rfl

/-! ## Failures -/

/-- A failure is trimmed at its end only, since it starts with its mark. -/
theorem trim_errorText (reason : String) :
    (trim (errorMark ++ withoutBreaks reason)).toList =
      "error:".toList ++ dropEndWhile isBlank (' ' :: (withoutBreaks reason).toList) := by
  have hmark : (errorMark ++ withoutBreaks reason).toList =
      'e' :: ("rror".toList ++ ':' :: ' ' :: (withoutBreaks reason).toList) := by
    simp [errorMark]
  rw [toList_trim, hmark, trimChars_cons (by decide),
    dropEndWhile_append_cons (by decide)]
  rfl

theorem ofTrimmed_errorText (reason : String) (expectRecord : Bool) :
    ofTrimmed expectRecord (trim (errorMark ++ withoutBreaks reason)) =
      .ok (.error (cleanField reason)) := by
  have hmark : after? "error:".toList (trim (errorMark ++ withoutBreaks reason)).toList =
      some (dropEndWhile isBlank (' ' :: (withoutBreaks reason).toList)) := by
    rw [after?_eq_some_iff, trim_errorText]
  have hspace : ∀ c ∈ [' '], isBlank c = true := by
    intro c hc
    rw [List.mem_singleton.mp hc]
    rfl
  have htrim : trimChars (dropEndWhile isBlank (' ' :: (withoutBreaks reason).toList)) =
      trimChars (withoutBreaks reason).toList := by
    rw [trimChars_dropEndWhile]
    exact trimChars_blank_append hspace _
  simp only [ofTrimmed, hmark]
  rw [← trim_withoutBreaks, trim, String.toList_ofList, htrim, trim]

/-! ## Line ends -/

theorem newline_not_mem_text (r : Reply) :
    '\n' ∉ r.text.toList ∧ '\r' ∉ r.text.toList := by
  cases r with
  | record c =>
    have hprint := printable_writtenObject (Wire.membersOf c)
    rw [text, Wire.recordText_toList]
    constructor
    · intro h
      exact absurd (hprint _ h) (by decide)
    · intro h
      exact absurd (hprint _ h) (by decide)
  | empty => exact ⟨by decide, by decide⟩
  | error reason => simp [text, errorMark, withoutBreaks]

theorem newline_not_mem_encode (r : Reply) (b : UInt8) (hb : b ∈ r.encode.data) :
    b ≠ 0x0A ∧ b ≠ 0x0D := by
  have hchar : ∀ c : Char, c.toNat < 0x80 → c ∉ r.text.toList → b.toNat ≠ c.toNat := by
    intro c hc hnot heq
    have hlow : b < 0x80 := by
      rw [UInt8.lt_iff_toNat_lt, heq]
      exact hc
    obtain ⟨d, hd, hdb⟩ := exists_char_of_mem_utf8 hb hlow
    rw [heq] at hdb
    exact hnot (Char.toNat_inj.mp hdb ▸ hd)
  obtain ⟨hlf, hcr⟩ := newline_not_mem_text r
  constructor
  · rintro rfl
    exact hchar '\n' (by decide) hlf rfl
  · rintro rfl
    exact hchar '\r' (by decide) hcr rfl

/-! ## What arrives -/

theorem decode_encode (r : Reply) (expectRecord : Bool) :
    decode r.encode expectRecord = r.received expectRecord := by
  rw [decode_encode_eq_ofTrimmed]
  cases r with
  | record c => rw [text, trim_recordText, ofTrimmed_recordText]
  | empty => rfl
  | error reason => exact ofTrimmed_errorText reason expectRecord

theorem sameKind_of_received {r other : Reply} {expectRecord : Bool}
    (h : r.received expectRecord = .ok other) : SameKind r other := by
  cases r with
  | record c =>
    cases expectRecord with
    | true =>
      cases h
      trivial
    | false => cases h
  | empty =>
    cases h
    trivial
  | error reason =>
    cases h
    trivial

theorem sameKind_of_encode_eq {r other : Reply} (h : r.encode = other.encode) :
    SameKind r other := by
  -- equal octets are read alike, and no two kinds are
  have hread : r.received true = other.received true := by
    rw [← decode_encode, ← decode_encode, h]
  cases r <;> cases other <;> first | trivial | cases hread

/-- A reply reads back as itself, but for the blanks and line ends of a reason, and a
record only where one is expected. Replies of different kinds differ as octets and when
read, and no reply holds a line end. -/
theorem decode_encode_eq_received (r : Reply) :
    (∀ expectRecord, decode r.encode expectRecord = r.received expectRecord) ∧
      (∀ expectRecord other, decode r.encode expectRecord = .ok other →
        SameKind r other) ∧
      (∀ other : Reply, r.encode = other.encode → SameKind r other) ∧
      ∀ b ∈ r.encode.data, b ≠ 0x0A ∧ b ≠ 0x0D := by
  refine ⟨decode_encode r, ?_, ?_, newline_not_mem_encode r⟩
  · intro expectRecord other h
    exact sameKind_of_received (decode_encode r expectRecord ▸ h)
  · intro other h
    exact sameKind_of_encode_eq h

/-- A reason that looks like a failure, or like the start of a record, stays a reason. -/
theorem decode_encode_of_reason_with_mark :
    let r := Reply.error "\r error: \x7b\n"
    decode r.encode true = .ok (.error "error: \x7b") ∧
      SameKind r (.error "error: \x7b") ∧
      SameKind r (.error " error: \x7b") ∧ ∀ b ∈ r.encode.data, b ≠ 0x0A ∧ b ≠ 0x0D := by
  intro r
  obtain ⟨hread, hkind, hsame, hbreaks⟩ := decode_encode_eq_received r
  have hreason : decode r.encode true = .ok (.error "error: \x7b") := by
    rw [hread]
    exact congrArg (Except.ok ∘ Reply.error) (by decide)
  exact ⟨hreason, hkind true _ hreason, hsame _ (congrArg utf8 (by decide)), hbreaks⟩

end CredRelay.Reply
