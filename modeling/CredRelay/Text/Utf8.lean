/-! Reading octets as UTF-8. Strict reading accepts whole sequences only. Lenient reading
replaces each maximal part that no character starts with by the replacement character; it
yields at most one character for every octet. -/
namespace CredRelay.Text

/-- The character that stands for octets that encode none. -/
def replacement : Char := '\uFFFD'

/-- The text that the octets encode, if they are UTF-8. -/
def ofUtf8? (octets : ByteArray) : Option String :=
  String.fromUTF8? octets

/-- The octets of a text. -/
def utf8 (s : String) : ByteArray :=
  s.toUTF8

@[simp] theorem ofUtf8?_utf8 (s : String) : ofUtf8? (utf8 s) = some s := by
  simp [ofUtf8?, utf8, String.fromUTF8?, String.fromUTF8, s.isValidUTF8]

/-- What may follow within a character: how many octets are still to come, the range of
the next one, and the value read so far. -/
structure Pending where
  owed : Nat
  low : UInt8
  high : UInt8
  value : Nat

/-- What the first octet of a character announces; nothing if no character starts
with it. -/
def Pending.ofLead (b : UInt8) : Option Pending :=
  if b < 0xC2 then none
  else if b < 0xE0 then some ⟨0, 0x80, 0xBF, b.toNat % 32⟩
  else if b < 0xF0 then
    some ⟨1, if b = 0xE0 then 0xA0 else 0x80, if b = 0xED then 0x9F else 0xBF,
      b.toNat % 16⟩
  else if b < 0xF5 then
    some ⟨2, if b = 0xF0 then 0x90 else 0x80, if b = 0xF4 then 0x8F else 0xBF,
      b.toNat % 8⟩
  else none

/-- One step of lenient reading between characters: the character the octet completes, or
what it announces. -/
def leadStep (b : UInt8) : List Char × Option Pending :=
  if b < 0x80 then ([Char.ofNat b.toNat], none)
  else
    match Pending.ofLead b with
    | some p => ([], some p)
    | none => ([replacement], none)

/-- One step of lenient reading: the characters that an octet completes and the state
after it. An octet that cannot continue a character ends it unread and starts anew. -/
def lenientStep (state : Option Pending) (b : UInt8) : List Char × Option Pending :=
  match state with
  | none => leadStep b
  | some p =>
    if p.low ≤ b && b ≤ p.high then
      let value := p.value * 64 + b.toNat % 64
      match p.owed with
      | 0 => ([Char.ofNat value], none)
      | n + 1 => ([], some ⟨n, 0x80, 0xBF, value⟩)
    else
      let (chars, next) := leadStep b
      (replacement :: chars, next)

/-- Lenient reading, with the characters read so far, last first. -/
def ofUtf8Lenient.go (read : List Char) (state : Option Pending) : List UInt8 → List Char
  | [] => (if state.isSome then replacement :: read else read).reverse
  | b :: rest =>
    let (chars, next) := lenientStep state b
    ofUtf8Lenient.go (chars.reverse ++ read) next rest

/-- The characters that the octets encode, with the replacement character for each maximal
part that encodes none. -/
def ofUtf8Lenient (octets : List UInt8) : List Char :=
  ofUtf8Lenient.go [] none octets

theorem leadStep_length (b : UInt8) :
    (leadStep b).1.length + (if (leadStep b).2.isSome then 1 else 0) ≤ 1 := by
  unfold leadStep
  split
  · simp
  · split <;> simp

theorem lenientStep_length (state : Option Pending) (b : UInt8) :
    (lenientStep state b).1.length + (if (lenientStep state b).2.isSome then 1 else 0) ≤
      (if state.isSome then 1 else 0) + 1 := by
  unfold lenientStep
  split
  · simpa using leadStep_length b
  · split
    · split <;> simp
    · have := leadStep_length b
      simp only [List.length_cons, Option.isSome_some, if_true]
      omega

theorem ofUtf8Lenient_go_length (read : List Char) (state : Option Pending)
    (octets : List UInt8) : (ofUtf8Lenient.go read state octets).length ≤
      read.length + (if state.isSome then 1 else 0) + octets.length := by
  induction octets generalizing read state with
  | nil => unfold ofUtf8Lenient.go; split <;> simp
  | cons b rest ih =>
    have hs := lenientStep_length state b
    have := ih ((lenientStep state b).1.reverse ++ read) (lenientStep state b).2
    simp only [List.length_append, List.length_reverse] at this
    simp only [ofUtf8Lenient.go, List.length_cons]
    omega

theorem ofUtf8Lenient_length_le (octets : List UInt8) :
    (ofUtf8Lenient octets).length ≤ octets.length := by
  simpa [ofUtf8Lenient] using ofUtf8Lenient_go_length [] none octets

end CredRelay.Text
