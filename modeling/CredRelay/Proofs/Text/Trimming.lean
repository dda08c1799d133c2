import CredRelay.Text.Blank
import Mathlib.Data.List.DropRight
/-! What trimming does to a text. A text is its trimmed form between two runs of blanks,
and blanks added at either end never show in the trimmed form; all else here follows from
these two. -/
namespace CredRelay.Text

variable {p : Char → Bool} {s t w : List Char} {c d : Char}

/-! ## Dropping at the end -/

/-- Nothing in front of an element that stays is dropped. -/
theorem rdropWhile_append_cons {α : Type} {q : α → Bool} {a : α} (h : q a = false)
    (l m : List α) : (l ++ a :: m).rdropWhile q = l ++ a :: m.rdropWhile q := by
  simp only [List.rdropWhile, List.reverse_append, List.reverse_cons, List.append_assoc,
    List.dropWhile_append]
  split
  · next hm =>
    have hm' : m.reverse.dropWhile q = [] := List.isEmpty_iff.mp hm
    simp [h, hm']
  · simp

theorem rdropWhile_cons {α : Type} {q : α → Bool} {a : α} (h : q a = false) (m : List α) :
    (a :: m).rdropWhile q = a :: m.rdropWhile q :=
  rdropWhile_append_cons h [] m

theorem dropEndWhile_eq_rdropWhile (p : Char → Bool) (s : List Char) :
    dropEndWhile p s = s.rdropWhile p := rfl

theorem dropEndWhile_append_cons (h : p c = false) (s t : List Char) :
    dropEndWhile p (s ++ c :: t) = s ++ c :: dropEndWhile p t :=
  rdropWhile_append_cons h s t

theorem dropEndWhile_cons (h : p c = false) (t : List Char) :
    dropEndWhile p (c :: t) = c :: dropEndWhile p t :=
  dropEndWhile_append_cons h [] t

/-! ## Nothing to drop -/

theorem dropWhile_eq_self (h : ∀ c ∈ s, p c = false) : s.dropWhile p = s := by
  cases s with
  | nil => rfl
  | cons c s => exact List.dropWhile_cons_of_neg (by simp [h c List.mem_cons_self])

theorem dropEndWhile_eq_self (h : ∀ c ∈ s, p c = false) : dropEndWhile p s = s := by
  rw [dropEndWhile, dropWhile_eq_self (by simpa using h), List.reverse_reverse]

theorem trimWhere_eq_self (h : ∀ c ∈ s, p c = false) : trimWhere p s = s := by
  rw [trimWhere, dropWhile_eq_self h, dropEndWhile_eq_self h]

/-! ## Blanks at the ends -/

theorem trimWhere_append_of_forall (h : ∀ c ∈ w, p c = true) (s : List Char) :
    trimWhere p (s ++ w) = trimWhere p s := by
  simp only [trimWhere, List.dropWhile_append]
  split
  · next hs =>
    have hs' : s.dropWhile p = [] := List.isEmpty_iff.mp hs
    have hw : w.dropWhile p = [] := List.dropWhile_eq_nil_iff.mpr h
    rw [hs', hw]
  · exact dropEndWhile_append_blank h _

theorem trimWhere_cons (h : p c = true) (s : List Char) :
    trimWhere p (c :: s) = trimWhere p s := by
  rw [trimWhere, List.dropWhile_cons_of_pos h, trimWhere]

theorem trimChars_append_blank (h : ∀ c ∈ w, isBlank c = true) (s : List Char) :
    trimChars (s ++ w) = trimChars s :=
  trimWhere_append_of_forall h s

theorem trimChars_blank_append (h : ∀ c ∈ w, isBlank c = true) (s : List Char) :
    trimChars (w ++ s) = trimChars s := by
  simp only [trimChars, trimWhere, List.dropWhile_append_of_pos h]

/-- A text is its trimmed form between two runs of blanks. -/
theorem exists_blank_append_trimChars (s : List Char) :
    ∃ v w, (∀ c ∈ v, isBlank c = true) ∧ (∀ c ∈ w, isBlank c = true) ∧
      s = v ++ trimChars s ++ w := by
  refine ⟨s.takeWhile isBlank, (s.dropWhile isBlank).rtakeWhile isBlank, ?_, ?_, ?_⟩
  · intro c hc
    exact List.mem_takeWhile_imp hc
  · intro c hc
    exact List.mem_rtakeWhile_imp hc
  · have hend : trimChars s ++ (s.dropWhile isBlank).rtakeWhile isBlank =
        s.dropWhile isBlank := by
      rw [trimChars, trimWhere, dropEndWhile_eq_rdropWhile]
      exact List.rdropWhile_append_rtakeWhile
    rw [List.append_assoc, hend, List.takeWhile_append_dropWhile]

theorem trimChars_eq_nil_iff : trimChars s = [] ↔ ∀ c ∈ s, isBlank c = true := by
  constructor
  · intro h
    obtain ⟨v, w, hv, hw, hs⟩ := exists_blank_append_trimChars s
    rw [h, List.append_nil] at hs
    rw [hs]
    intro c hc
    rcases List.mem_append.mp hc with hc | hc
    · exact hv c hc
    · exact hw c hc
  · intro h
    exact trimChars_append_blank h []

@[simp] theorem trimChars_trimChars (s : List Char) :
    trimChars (trimChars s) = trimChars s := by
  obtain ⟨v, w, hv, hw, hs⟩ := exists_blank_append_trimChars s
  conv_rhs => rw [hs, trimChars_append_blank hw, trimChars_blank_append hv]

/-- Trimming before some characters are left out does not show once the rest is
trimmed. -/
theorem trimChars_filter_trimChars (keep : Char → Bool) (s : List Char) :
    trimChars ((trimChars s).filter keep) = trimChars (s.filter keep) := by
  obtain ⟨v, w, hv, hw, hs⟩ := exists_blank_append_trimChars s
  have blank_filter : ∀ u : List Char, (∀ c ∈ u, isBlank c = true) →
      ∀ c ∈ u.filter keep, isBlank c = true :=
    fun u hu c hc => hu c (List.mem_filter.mp hc).1
  conv_rhs =>
    rw [hs, List.filter_append, List.filter_append,
      trimChars_append_blank (blank_filter w hw),
      trimChars_blank_append (blank_filter v hv)]

theorem trimChars_dropEndWhile (s : List Char) :
    trimChars (dropEndWhile isBlank s) = trimChars s := by
  have hs : dropEndWhile isBlank s ++ s.rtakeWhile isBlank = s := by
    rw [dropEndWhile_eq_rdropWhile]
    exact List.rdropWhile_append_rtakeWhile
  conv_rhs =>
    rw [← hs, trimChars_append_blank (fun c hc => List.mem_rtakeWhile_imp hc)]

/-! ## Texts with something at the ends -/

/-- Only the end is trimmed of a text that starts with no blank. -/
theorem trimChars_cons (h : isBlank c = false) (s : List Char) :
    trimChars (c :: s) = c :: dropEndWhile isBlank s := by
  rw [trimChars, trimWhere, List.dropWhile_cons_of_neg (by simp [h]), dropEndWhile_cons h]

theorem trimChars_eq_dropEndWhile (hstart : ∀ c ∈ s.head?, isBlank c = false) :
    trimChars s = dropEndWhile isBlank s := by
  cases s with
  | nil => rfl
  | cons c s => rw [trimChars_cons (hstart c rfl), dropEndWhile_cons (hstart c rfl)]

/-- A text behind one from which nothing is trimmed is trimmed at its end only. -/
theorem trimWhere_append (hs : ∀ c ∈ s, p c = false) (hne : s ≠ []) (t : List Char) :
    trimWhere p (s ++ t) = s ++ dropEndWhile p t := by
  have hstart : (s ++ t).dropWhile p = s ++ t := by
    obtain ⟨first, rest, rfl⟩ := List.exists_cons_of_ne_nil hne
    exact List.dropWhile_cons_of_neg (by simp [hs first List.mem_cons_self])
  obtain ⟨before, last, rfl⟩ := (List.eq_nil_or_concat' s).resolve_left hne
  have hlast : p last = false := hs last (by simp)
  rw [trimWhere, hstart, List.append_assoc, List.singleton_append,
    dropEndWhile_append_cons hlast, List.append_assoc, List.singleton_append]

theorem trimChars_append (hs : ∀ c ∈ s, isBlank c = false) (hne : s ≠ [])
    (ht : ∀ c ∈ t.head?, isBlank c = false) : trimChars (s ++ t) = s ++ trimChars t := by
  rw [trimChars_eq_dropEndWhile ht]
  exact trimWhere_append hs hne t

/-- A text that starts with no blank is its trimmed form and what stood behind. -/
theorem exists_trimChars_append (hstart : ∀ c ∈ s.head?, isBlank c = false) :
    ∃ w, s = trimChars s ++ w := by
  rw [trimChars_eq_dropEndWhile hstart, dropEndWhile_eq_rdropWhile]
  exact ⟨_, List.rdropWhile_append_rtakeWhile.symm⟩

/-- A text with no blank at either end is trimmed. -/
theorem trimChars_eq_self_of_ends (hstart : ∀ c ∈ s.head?, isBlank c = false)
    (hend : ∀ c ∈ s.getLast?, isBlank c = false) : trimChars s = s := by
  rw [trimChars_eq_dropEndWhile hstart, dropEndWhile_eq_rdropWhile,
    List.rdropWhile_eq_self_iff]
  intro hne
  simp [hend _ (List.getLast_mem_getLast? hne)]

theorem trimChars_eq_self (hc : isBlank c = false) (hd : isBlank d = false)
    (s : List Char) : trimChars (c :: s ++ [d]) = c :: s ++ [d] := by
  refine trimChars_eq_self_of_ends (by simpa using hc) ?_
  rw [List.getLast?_concat]
  simpa using hd

/-- The ends of a trimmed text stay where blanks only are left out. -/
theorem trimChars_filter_eq_self {keep : Char → Bool}
    (hkeep : ∀ c, isBlank c = false → keep c = true)
    (hstart : ∀ c ∈ s.head?, isBlank c = false)
    (hend : ∀ c ∈ s.getLast?, isBlank c = false) :
    trimChars (s.filter keep) = s.filter keep := by
  refine trimChars_eq_self_of_ends ?_ ?_
  · cases s with
    | nil => simp
    | cons c s =>
      have hc : isBlank c = false := hstart c rfl
      rw [List.filter_cons_of_pos (hkeep c hc)]
      simpa using hc
  · rcases List.eq_nil_or_concat' s with rfl | ⟨init, d, rfl⟩
    · simp
    · have hd : isBlank d = false := hend d List.getLast?_concat
      rw [List.filter_append, List.filter_cons_of_pos (hkeep d hd), List.filter_nil,
        List.getLast?_concat]
      simpa using hd

theorem isBlank_of_mem_head?_trimChars (h : c ∈ (trimChars s).head?) :
    isBlank c = false := by
  obtain ⟨t, ht⟩ := List.head?_eq_some_iff.mp (Option.mem_def.mp h)
  obtain ⟨v, hv⟩ := List.rdropWhile_prefix isBlank (s.dropWhile isBlank)
  have hhead : (s.dropWhile isBlank).head? = some c := by
    rw [← hv, ← dropEndWhile_eq_rdropWhile]
    show (trimChars s ++ v).head? = some c
    rw [ht]
    rfl
  have hnot := List.head?_dropWhile_not isBlank s
  rw [hhead] at hnot
  exact hnot

theorem isBlank_of_mem_getLast?_trimChars (h : c ∈ (trimChars s).getLast?) :
    isBlank c = false := by
  obtain ⟨hne, hlast⟩ := List.mem_getLast?_eq_getLast h
  have hnot := List.rdropWhile_last_not isBlank (s.dropWhile isBlank) hne
  rw [hlast]
  exact Bool.eq_false_iff.mpr hnot

/-! ## Trimmed strings -/

@[simp] theorem trim_trim (s : String) : trim (trim s) = trim s := by
  simp [trim]

theorem trim_eq_empty_iff {s : String} :
    trim s = "" ↔ ∀ c ∈ s.toList, isBlank c = true := by
  rw [← trimChars_eq_nil_iff, ← toList_trim, String.toList_eq_nil_iff]

end CredRelay.Text
