/-! Finite tables from texts to values. Looking up after an insertion gives the inserted
value at its key and what was there before at all others; looking up after a removal gives
nothing at its key. -/
namespace CredRelay

/-- A table as its entries; of entries with equal keys the first one counts. -/
structure Table (α : Type) where
  entries : List (String × α)
  deriving DecidableEq, Repr, Inhabited

namespace Table

variable {α : Type}

/-- The table without entries. -/
def empty : Table α := ⟨[]⟩

/-- The value at a key. -/
def get? (t : Table α) (key : String) : Option α :=
  t.entries.lookup key

/-- The table without the entry at a key. -/
def erase (t : Table α) (key : String) : Table α :=
  ⟨t.entries.filter (fun e => e.1 != key)⟩

/-- The table with a value at a key, in place of any other. -/
def insert (t : Table α) (key : String) (value : α) : Table α :=
  ⟨(key, value) :: (t.erase key).entries⟩

/-- The table of some entries; of entries with equal keys the last one stays. -/
def ofList (entries : List (String × α)) : Table α :=
  entries.foldl (fun t e => t.insert e.1 e.2) empty

@[simp] theorem get?_empty (key : String) : (empty : Table α).get? key = none := rfl

theorem get?_erase (t : Table α) (key other : String) :
    (t.erase key).get? other = if other = key then none else t.get? other := by
  obtain ⟨entries⟩ := t
  simp only [get?, erase]
  induction entries with
  | nil => simp
  | cons e rest ih =>
    obtain ⟨k, v⟩ := e
    by_cases hk : k = key
    · subst hk
      by_cases ho : other = k
      · subst ho
        simpa using ih
      · have hb : (other == k) = false := by simpa using ho
        simp [List.lookup_cons, hb, ho] at ih ⊢
        exact ih
    · have hkb : (k != key) = true := by simpa using hk
      rw [List.filter_cons_of_pos (by simpa using hkb), List.lookup_cons,
        List.lookup_cons]
      by_cases ho : other = k
      · subst ho
        simp [hk]
      · have hb : (other == k) = false := by simpa using ho
        simp only [hb] at ih ⊢
        simpa using ih

@[simp] theorem get?_insert_self (t : Table α) (key : String) (value : α) :
    (t.insert key value).get? key = some value := by
  simp [insert, get?]

theorem get?_insert (t : Table α) (key other : String) (value : α) :
    (t.insert key value).get? other = if other =
      key then some value else t.get? other := by
  by_cases h : other = key
  · subst h
    simp
  · have hb : (other == key) = false := by simpa using h
    have he := get?_erase t key other
    simp only [h, if_false] at he ⊢
    rw [← he]
    simp [insert, get?, List.lookup_cons, hb]

end Table

end CredRelay
