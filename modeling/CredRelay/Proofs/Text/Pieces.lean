import CredRelay.Text.Cut
import Mathlib.Data.List.Forall2
/-! Texts that are made of pieces: what is in a text that was put together, where it is
cut again, and what is known of pieces that were read one by one. -/
namespace CredRelay.Text

variable {α β : Type}

/-! ## Putting together -/

theorem mem_intercalate {c : α} {mark : List α} {texts : List (List α)}
    (h : c ∈ mark.intercalate texts) : c ∈ mark ∨ ∃ s ∈ texts, c ∈ s := by
  induction texts with
  | nil => simp at h
  | cons s texts ih =>
    cases texts with
    | nil => exact .inr ⟨s, List.mem_singleton_self s, by simpa using h⟩
    | cons t texts =>
      rw [List.intercalate_cons_cons] at h
      rcases List.mem_append.mp h with h | h
      · rcases List.mem_append.mp h with h | h
        · exact .inr ⟨s, List.mem_cons_self, h⟩
        · exact .inl h
      · rcases ih h with h | ⟨u, hu, h⟩
        · exact .inl h
        · exact .inr ⟨u, List.mem_cons_of_mem s hu, h⟩

theorem mem_intercalate_of_mem {c : α} {mark : List α} {texts : List (List α)}
    {s : List α} (hs : s ∈ texts) (h : c ∈ s) : c ∈ mark.intercalate texts := by
  induction texts with
  | nil => exact absurd hs List.not_mem_nil
  | cons t texts ih =>
    cases texts with
    | nil => simpa [List.mem_singleton.mp hs] using h
    | cons u texts =>
      rw [List.intercalate_cons_cons]
      rcases List.mem_cons.mp hs with rfl | hs
      · exact List.mem_append_left _ (List.mem_append_left _ h)
      · exact List.mem_append_right _ (ih hs)

/-- What is in a piece of a text is in the text. -/
theorem mem_of_mem_splitOn {mark c : Char} {s piece : List Char}
    (hpiece : piece ∈ s.splitOn mark) (h : c ∈ piece) : c ∈ s := by
  have hmem : c ∈ [mark].intercalate (s.splitOn mark) := mem_intercalate_of_mem hpiece h
  rwa [List.intercalate_splitOn] at hmem

/-- No piece of a text holds a character that parts them. -/
theorem of_mem_splitOnP {p : Char → Bool} {s piece : List Char}
    (hpiece : piece ∈ s.splitOnP p) : ∀ c ∈ piece, p c = false := by
  induction s generalizing piece with
  | nil =>
    rw [List.splitOnP_nil, List.mem_singleton] at hpiece
    simp [hpiece]
  | cons d s ih =>
    rw [List.splitOnP_cons_eq_if_modifyHead] at hpiece
    split at hpiece
    · rcases List.mem_cons.mp hpiece with rfl | hpiece
      · simp
      · exact ih hpiece
    · next hd =>
      obtain ⟨first, rest, hsplit⟩ :=
        List.exists_cons_of_ne_nil (List.splitOnP_ne_nil p s)
      rw [hsplit, List.modifyHead_cons] at hpiece
      rcases List.mem_cons.mp hpiece with rfl | hpiece
      · rw [List.forall_mem_cons]
        exact ⟨by simpa using hd, ih (by simp [hsplit])⟩
      · exact ih (by simp [hsplit, hpiece])

theorem not_mem_of_mem_splitOn {mark : Char} {s piece : List Char}
    (hpiece : piece ∈ s.splitOn mark) : mark ∉ piece := by
  rw [List.splitOn_eq_splitOnP] at hpiece
  intro hmem
  simpa using of_mem_splitOnP hpiece mark hmem

/-- A character that is no mark only makes the last piece of a text longer. -/
theorem exists_splitOn_concat {mark c : Char} (hc : c ≠ mark) (s : List Char) :
    ∃ init last, s.splitOn mark = init ++ [last] ∧
      (s ++ [c]).splitOn mark = init ++ [last ++ [c]] := by
  by_cases hmark : mark ∈ s
  · obtain ⟨first, rest, rfl, hfirst⟩ := List.eq_append_cons_of_mem hmark
    obtain ⟨init, last, hrest, hconcat⟩ := exists_splitOn_concat hc rest
    refine ⟨first :: init, last, ?_, ?_⟩
    · rw [List.splitOn_append_cons_self_of_not_mem hfirst, hrest, List.cons_append]
    · rw [List.append_assoc, List.cons_append,
        List.splitOn_append_cons_self_of_not_mem hfirst, hconcat, List.cons_append]
  · have hmark' : mark ∉ s ++ [c] := by
      rw [List.mem_append, List.mem_singleton, not_or]
      exact ⟨hmark, hc.symm⟩
    exact ⟨[], s, List.splitOn_eq_singleton hmark, List.splitOn_eq_singleton hmark'⟩
termination_by s.length
decreasing_by
  subst_vars
  simp
  omega

/-! ## Cutting -/

/-- What stands before the first mark of a text also does behind another text without
marks. -/
theorem cut_append_of_not_mem {mark : Char} {s : List Char} (h : mark ∉ s)
    (t : List Char) :
    cut mark (s ++ t) = (cut mark t).map fun (before, rest) => (s ++ before, rest) := by
  have hall : ∀ c ∈ s, (!(c == mark)) = true := by
    intro c hc
    simp only [Bool.not_eq_true', beq_eq_false_iff_ne]
    rintro rfl
    exact h hc
  rw [cut, cutWhere, cut, cutWhere, List.dropWhile_append_of_pos hall,
    List.takeWhile_append_of_pos hall]
  cases t.dropWhile (fun c => !(c == mark)) <;> rfl

/-- A text is cut at the first mark. -/
theorem cut_append {mark : Char} {s : List Char} (h : mark ∉ s) (t : List Char) :
    cut mark (s ++ mark :: t) = some (s, t) := by
  have hcut : cut mark (mark :: t) = some ([], t) := by
    simp [cut, cutWhere]
  rw [cut_append_of_not_mem h, hcut]
  show some (s ++ [], t) = some (s, t)
  rw [List.append_nil]

theorem cut_eq_none {mark : Char} {s : List Char} (h : mark ∉ s) : cut mark s = none := by
  cases hcut : cut mark s with
  | none => rfl
  | some halves =>
    obtain ⟨left, rest⟩ := halves
    obtain ⟨c, hc, rfl⟩ := cutWhere_append hcut
    refine absurd ?_ h
    simp [← beq_iff_eq.mp hc]

/-- The parts of a text around its first mark make the text, and no mark is in the
first one. -/
theorem cut_eq_some_iff {mark : Char} {s before rest : List Char} :
    cut mark s = some (before, rest) ↔ s = before ++ mark :: rest ∧ mark ∉ before := by
  constructor
  · intro h
    by_cases hmark : mark ∈ s
    · obtain ⟨left, right, rfl, hleft⟩ := List.eq_append_cons_of_mem hmark
      rw [cut_append hleft] at h
      cases h
      exact ⟨rfl, hleft⟩
    · rw [cut_eq_none hmark] at h
      cases h
  · rintro ⟨rfl, hmark⟩
    exact cut_append hmark rest

theorem cut_eq_none_iff {mark : Char} {s : List Char} : cut mark s = none ↔ mark ∉ s := by
  refine ⟨fun h hmem => ?_, cut_eq_none⟩
  obtain ⟨before, rest, hs⟩ := List.eq_append_cons_of_mem hmem
  rw [cut_eq_some_iff.mpr hs] at h
  cases h

/-- No mark starts within characters among which the first one of the mark is not. -/
theorem cutText_go_append {c : Char} {s : List Char} (h : c ∉ s)
    (mark before t : List Char) :
    cutText.go (c :: mark) before (s ++ t) = cutText.go (c :: mark)
    (s.reverse ++ before) t := by
  induction s generalizing before with
  | nil => rfl
  | cons d s ih =>
    rw [List.mem_cons, not_or] at h
    have hafter : after? (c :: mark) (d :: (s ++ t)) = none := by
      rw [after?, if_neg h.1]
    rw [List.cons_append, cutText.go, hafter]
    simp only [ih h.2, List.reverse_cons, List.append_assoc, List.singleton_append]

theorem cutText_append_cons {c : Char} {s : List Char} (h : c ∉ s) (mark t : List Char) :
    cutText (c :: mark) (s ++ c :: (mark ++ t)) = some (s, t) := by
  have hafter : after? (c :: mark) (c :: (mark ++ t)) = some t :=
    after?_eq_some_iff.mpr rfl
  rw [cutText, cutText_go_append h, cutText.go, hafter]
  simp

/-! ## Reading one by one -/

theorem mapM_eq_some_iff {read : α → Option β} {l : List α} {m : List β} :
    l.mapM read = some m ↔ List.Forall₂ (fun a b => read a = some b) l m := by
  induction l generalizing m with
  | nil =>
    simp only [List.mapM_nil, Option.pure_def, Option.some.injEq,
      List.forall₂_nil_left_iff]
    exact eq_comm
  | cons a l ih =>
    simp only [List.mapM_cons, Option.bind_eq_bind, Option.bind_eq_some_iff,
      Option.pure_def, Option.some.injEq, List.forall₂_cons_left_iff]
    constructor
    · rintro ⟨b, hb, bs, hbs, rfl⟩
      exact ⟨b, bs, hb, ih.mp hbs, rfl⟩
    · rintro ⟨b, bs, hb, hbs, rfl⟩
      exact ⟨b, hb, bs, ih.mpr hbs, rfl⟩

/-- What was read comes from one of the pieces. -/
theorem exists_of_mem_mapM {read : α → Option β} {l : List α} {m : List β} {b : β}
    (h : l.mapM read = some m) (hb : b ∈ m) : ∃ a ∈ l, read a = some b := by
  have hall := mapM_eq_some_iff.mp h
  clear h
  induction hall with
  | nil => exact absurd hb List.not_mem_nil
  | cons hab hrest ih =>
    rcases List.mem_cons.mp hb with rfl | hb
    · exact ⟨_, List.mem_cons_self, hab⟩
    · obtain ⟨a, ha, hread⟩ := ih hb
      exact ⟨a, List.mem_cons_of_mem _ ha, hread⟩

end CredRelay.Text
