import CredRelay.Proofs.Json.RoundTrip
import CredRelay.Wire.Record
/-! Writing a record as JSON and reading it back. Every record reads back as itself,
whatever its fields contain, and its written form holds no control characters and has a
brace at either end. -/
namespace CredRelay

namespace Json

/-! ## Written characters -/

theorem le_toNat_of_mem_writtenCharacter {c d : Char} (h : d ∈ writtenCharacter c) :
    0x20 ≤ d.toNat := by
  unfold writtenCharacter at h
  repeat' split at h
  all_goals
    simp only [List.mem_cons, List.not_mem_nil, or_false] at h
  · rcases h with rfl | rfl <;> decide
  · rcases h with rfl | rfl <;> decide
  · next hc =>
    subst h
    exact hc
  · rcases h with rfl | rfl <;> decide
  · rcases h with rfl | rfl <;> decide
  · rcases h with rfl | rfl <;> decide
  · rcases h with rfl | rfl <;> decide
  · rcases h with rfl | rfl <;> decide
  · next hc _ _ _ _ _ =>
    have hdigits : ∀ n < 0x20, 0x20 ≤ (Char.ofNat (0x30 + n / 16)).toNat ∧
        0x20 ≤ (Nat.digitChar (n % 16)).toNat := by decide
    obtain ⟨hhigh, hlow⟩ := hdigits c.toNat (Nat.lt_of_not_le hc)
    rcases h with rfl | rfl | rfl | rfl | rfl | rfl
    · decide
    · decide
    · decide
    · decide
    · exact hhigh
    · exact hlow

/-- Whether no character of a text is a control below 32. -/
def Printable (s : List Char) : Prop :=
  ∀ c ∈ s, 0x20 ≤ c.toNat

theorem printable_writtenText (s : List Char) : Printable (writtenText s) := by
  intro c hc
  simp only [writtenText, List.cons_append, List.mem_cons, List.mem_append,
    List.mem_flatMap, List.not_mem_nil, or_false] at hc
  rcases hc with rfl | ⟨d, -, hd⟩ | rfl
  · decide
  · exact le_toNat_of_mem_writtenCharacter hd
  · decide

theorem printable_writtenMember (m : List Char × List Char) :
    Printable (writtenMember m) := by
  intro c hc
  simp only [writtenMember, List.mem_append, List.mem_cons] at hc
  rcases hc with hc | rfl | hc
  · exact printable_writtenText m.1 c hc
  · decide
  · exact printable_writtenText m.2 c hc

theorem printable_writtenObject (ms : List (List Char × List Char)) :
    Printable (writtenObject ms) := by
  have hmembers : Printable ([','].intercalate (ms.map writtenMember)) := by
    induction ms with
    | nil => intro c hc; cases hc
    | cons m ms ih =>
      cases ms with
      | nil => simpa using printable_writtenMember m
      | cons n ms =>
        intro c hc
        rw [List.map_cons, List.map_cons, List.intercalate_cons_cons] at hc
        simp only [List.mem_append, List.mem_singleton] at hc
        rcases hc with (hc | rfl) | hc
        · exact printable_writtenMember m c hc
        · decide
        · exact ih c hc
  intro c hc
  rw [writtenObject_eq] at hc
  simp only [List.mem_cons, List.mem_append, List.not_mem_nil, or_false] at hc
  rcases hc with rfl | hc | rfl
  · decide
  · exact hmembers c hc
  · decide

end Json

namespace Wire

open Json

/-! ## Records -/

/-- The members of the object that a record is written as. -/
def membersOf (c : Credential) : List (List Char × List Char) :=
  List.zip (fieldNames.map String.toList)
    [c.serverUrl.toList, c.username.toList, c.secret.toList]

theorem recordText_toList (c : Credential) :
    (recordText c).toList = writtenObject (membersOf c) := by
  simp [recordText, membersOf]

theorem string?_text (s : String) :
    Value.string? (.text (pointsOf s.toList)) = some s := by
  rw [Value.string?, ofPoints?_pointsOf, String.ofList_toList]

theorem fields?_membersOf (c : Credential) :
    Value.fields? fieldNames (.object ((membersOf c).map readMember)) =
      some [some (.text (pointsOf c.serverUrl.toList)),
        some (.text (pointsOf c.username.toList)),
        some (.text (pointsOf c.secret.toList))] := by
  have hnamed : namedMembers? ((membersOf c).map readMember) =
      some [("ServerURL", .text (pointsOf c.serverUrl.toList)),
        ("Username", .text (pointsOf c.username.toList)),
        ("Secret", .text (pointsOf c.secret.toList))] := by
    simp [membersOf, fieldNames, readMember, namedMembers?, ofPoints?_pointsOf]
  simp only [Value.fields?, hnamed]
  simp [fieldNames, List.lookup_cons]

/-- A written record reads back as itself. -/
theorem recordOfText?_recordText (c : Credential) :
    recordOfText? (recordText c) = some c := by
  rw [recordOfText?, recordText_toList, read?_writtenObject, Option.bind_some,
    recordOfValue?, fields?_membersOf]
  simp only [field?, string?_text]

end Wire

end CredRelay
