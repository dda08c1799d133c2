import CredRelay.Text.Cut
import CredRelay.Url.Percent
/-! Query parameters: pieces between ampersands, each a name and a value around the first
equals sign. A plus sign stands for a space; escapes are decoded after that. -/
namespace CredRelay.Url

open Text

/-- A name or value as it was meant. -/
def formDecode (s : List Char) : List Char :=
  percentDecode (s.map fun c => if c = '+' then ' ' else c)

/-- One parameter; a piece without an equals sign is a name with an empty value. -/
def parameter (piece : List Char) : List Char × List Char :=
  match cut '=' piece with
  | some (name, value) => (formDecode name, formDecode value)
  | none => (formDecode piece, [])

/-- The parameters of a query in order. -/
def parameters (query : List Char) : List (List Char × List Char) :=
  ((query.splitOn '&').filter (fun piece => !piece.isEmpty)).map parameter

/-- The first non-empty value of a parameter. -/
def queryValue? (name query : List Char) : Option (List Char) :=
  ((parameters query).find? fun (n, v) => n == name && !v.isEmpty).map (·.2)

theorem formDecode_length_le (s : List Char) : (formDecode s).length ≤ s.length := by
  simpa [formDecode] using percentDecode_length_le
    (s.map fun c => if c = '+' then ' ' else c)

theorem parameter_value_length_le (piece : List Char) :
    (parameter piece).2.length ≤ piece.length := by
  unfold parameter
  split
  · next name value h =>
    obtain ⟨c, -, rfl⟩ := cutWhere_append h
    have := formDecode_length_le value
    simp only [List.length_append, List.length_cons]
    omega
  · simp

theorem length_le_of_mem_splitOn {c : Char} {piece s : List Char}
    (h : piece ∈ s.splitOn c) : piece.length ≤ s.length := by
  induction s generalizing piece with
  | nil =>
    simp only [List.splitOn_nil, List.mem_singleton] at h
    simp [h]
  | cons a s ih =>
    rw [List.splitOn_cons_eq_if_modifyHead] at h
    split at h
    · rcases List.mem_cons.1 h with rfl | h
      · simp
      · exact Nat.le_trans (ih h) (by simp)
    · cases hs : s.splitOn c with
      | nil => simp [hs] at h
      | cons head tail =>
        rw [hs] at h ih
        simp only [List.modifyHead_cons, List.mem_cons] at h
        rcases h with rfl | h
        · have := ih (List.mem_cons_self)
          simpa using this
        · exact Nat.le_trans (ih (List.mem_cons_of_mem _ h)) (by simp)

theorem queryValue?_length_le {name query value : List Char}
    (h : queryValue? name query = some value) : value.length ≤ query.length := by
  simp only [queryValue?, Option.map_eq_some_iff] at h
  obtain ⟨⟨n, v⟩, hf, rfl⟩ := h
  have hm := List.mem_of_find?_eq_some hf
  simp only [parameters, List.mem_map, List.mem_filter] at hm
  obtain ⟨piece, ⟨hp, -⟩, hv⟩ := hm
  have h1 := parameter_value_length_le piece
  rw [hv] at h1
  exact Nat.le_trans h1 (length_le_of_mem_splitOn hp)

end CredRelay.Url
