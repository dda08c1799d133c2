import CredRelay.Proofs.Unicode.Decomposition
/-! The composed normal form. Composing and decomposing again gives back the ordered
decomposition, so a text in normal form is its own normal form; and a point parts a text
into texts of which each has a normal form of its own. -/
namespace CredRelay.Unicode

/-! ## Orders that come to the same -/

theorem insertMark_comm {j k : Nat} {c d : Char} (h : j < k) (marks : List (Nat × Char)) :
    insertMark k d (insertMark j c marks) = insertMark j c (insertMark k d marks) := by
  induction marks with
  | nil =>
    simp only [insertMark, if_pos (show j ≤ k by omega), if_neg (show ¬k ≤ j by omega)]
  | cons e marks ih =>
    obtain ⟨i, m⟩ := e
    by_cases hi : i ≤ j
    · simp only [insertMark, if_pos hi, if_pos (show i ≤ k by omega), ih]
    · by_cases hik : i ≤ k
      · simp only [insertMark, if_neg hi, if_pos hik, if_pos (show j ≤ k by omega)]
      · simp only [insertMark, if_neg hi, if_neg hik, if_pos (show j ≤ k by omega),
          if_neg (show ¬k ≤ j by omega)]

/-- Whether two texts have the same ordered form, whatever marks stand before them. -/
def SameOrder (s t : List Char) : Prop :=
  ∀ marks, orderMarks marks s = orderMarks marks t

theorem SameOrder.refl (s : List Char) : SameOrder s s := fun _ => rfl

theorem SameOrder.trans {s t u : List Char} (hst : SameOrder s t) (htu : SameOrder t u) :
    SameOrder s u :=
  fun marks => (hst marks).trans (htu marks)

theorem SameOrder.symm {s t : List Char} (h : SameOrder s t) : SameOrder t s :=
  fun marks => (h marks).symm

theorem SameOrder.append {s t : List Char} (h : SameOrder s t) (before : List Char) :
    SameOrder (before ++ s) (before ++ t) := by
  induction before with
  | nil => exact h
  | cons c before ih =>
    intro marks
    simp only [List.cons_append, orderMarks]
    rw [ih, ih]

/-- Neighbours of different classes may change places, if both are marks. -/
theorem sameOrder_swap {c d : Char} {s : List Char} (hc : 0 < combiningClass c)
    (h : combiningClass c < combiningClass d) :
    SameOrder (c :: d :: s) (d :: c :: s) := by
  intro marks
  simp only [orderMarks]
  rw [if_neg (by omega), if_neg (by omega), if_neg (by omega), if_neg (by omega),
    insertMark_comm h]

/-- A mark may move before marks of lower classes. -/
theorem sameOrder_move {marks : List Char} {c : Char}
    (h : ∀ m ∈ marks, 0 < combiningClass m ∧ combiningClass m < combiningClass c)
    (s : List Char) : SameOrder (marks ++ c :: s) (c :: marks ++ s) := by
  induction marks with
  | nil => exact .refl _
  | cons m marks ih =>
    obtain ⟨hpos, hlt⟩ := h m List.mem_cons_self
    have hrest := (ih fun m hm => h m (List.mem_cons_of_mem _ hm)).append [m]
    exact hrest.trans (sameOrder_swap hpos hlt)

/-! ## Ordered texts -/

/-- Whether each character stands with its class and the marks after each base in order;
no mark at the start has a class below `last`. -/
inductive InOrder : Nat → List (Nat × Char) → Prop
  | nil {last : Nat} : InOrder last []
  | base {last : Nat} {c : Char} {rest : List (Nat × Char)} (hc : combiningClass c = 0)
      (h : InOrder 0 rest) : InOrder last ((0, c) :: rest)
  | mark {last k : Nat} {c : Char} {rest : List (Nat × Char)} (hc : combiningClass c = k)
      (hk : 0 < k) (hle : last ≤ k) (h : InOrder k rest) : InOrder last ((k, c) :: rest)

theorem InOrder.weaken {last last' : Nat} {l : List (Nat × Char)} (h : InOrder last l)
    (hle : last' ≤ last) : InOrder last' l := by
  cases h with
  | nil => exact .nil
  | base hc h => exact .base hc h
  | mark hc hk hle' h => exact .mark hc hk (Nat.le_trans hle hle') h

theorem InOrder.append_base {last : Nat} {marks rest : List (Nat × Char)} {c : Char}
    (h : InOrder last marks) (hc : combiningClass c = 0) (hrest : InOrder 0 rest) :
    InOrder last (marks ++ (0, c) :: rest) := by
  induction h with
  | nil => exact .base hc hrest
  | base hd _ ih => exact .base hd ih
  | mark hd hk hle _ ih => exact .mark hd hk hle ih

theorem InOrder.insertMark {last k : Nat} {marks : List (Nat × Char)} {c : Char}
    (h : InOrder last marks) (hmarks : ∀ e ∈ marks, 0 < e.1) (hc : combiningClass c = k)
    (hk : 0 < k) (hle : last ≤ k) : InOrder last (insertMark k c marks) := by
  induction h with
  | nil => exact .mark hc hk hle .nil
  | base hd _ _ => exact absurd (hmarks _ List.mem_cons_self) (Nat.lt_irrefl 0)
  | @mark last j d rest hd hj hle' hrest ih =>
    rw [Unicode.insertMark]
    split
    · next hjk =>
        exact .mark hd hj hle' (ih (fun e he => hmarks e (List.mem_cons_of_mem _ he)) hjk)
    · exact .mark hc hk hle (.mark hd hj (by omega) hrest)

theorem mem_insertMark {k : Nat} {c : Char} {marks : List (Nat × Char)} {e : Nat × Char} :
    e ∈ insertMark k c marks ↔ e = (k, c) ∨ e ∈ marks := by
  induction marks with
  | nil => simp [insertMark]
  | cons f marks ih =>
    obtain ⟨j, d⟩ := f
    rw [insertMark]
    split
    · simp [ih, or_left_comm]
    · simp

/-- What was put into order is in order. -/
theorem inOrder_orderMarks {marks : List (Nat × Char)} (h : InOrder 0 marks)
    (hmarks : ∀ e ∈ marks, 0 < e.1) (s : List Char) : InOrder 0 (orderMarks marks s) := by
  induction s generalizing marks with
  | nil => exact h
  | cons c s ih =>
    simp only [orderMarks]
    split
    · next hc => exact h.append_base hc (ih .nil fun e he => absurd he List.not_mem_nil)
    · next hc =>
      refine ih (h.insertMark hmarks rfl (by omega) (Nat.zero_le _)) fun e he => ?_
      rcases mem_insertMark.mp he with rfl | he
      · show 0 < combiningClass c
        omega
      · exact hmarks e he

theorem of_mem_orderMarks {marks : List (Nat × Char)} {s : List Char} {e : Nat × Char}
    (h : e ∈ orderMarks marks s) : e ∈ marks ∨ e.2 ∈ s := by
  induction s generalizing marks with
  | nil => exact .inl h
  | cons c s ih =>
    simp only [orderMarks] at h
    split at h
    · rcases List.mem_append.mp h with h | h
      · exact .inl h
      · rcases List.mem_cons.mp h with rfl | h
        · exact .inr List.mem_cons_self
        · rcases ih h with h | h
          · exact absurd h List.not_mem_nil
          · exact .inr (List.mem_cons_of_mem _ h)
    · rcases ih h with h | h
      · rcases mem_insertMark.mp h with rfl | h
        · exact .inr List.mem_cons_self
        · exact .inl h
      · exact .inr (List.mem_cons_of_mem _ h)

theorem insertMark_of_le {k : Nat} {c : Char} {marks : List (Nat × Char)}
    (h : ∀ e ∈ marks, e.1 ≤ k) : insertMark k c marks = marks ++ [(k, c)] := by
  induction marks with
  | nil => rfl
  | cons e marks ih =>
    obtain ⟨j, d⟩ := e
    rw [insertMark, if_pos (h _ List.mem_cons_self),
      ih fun e he => h e (List.mem_cons_of_mem _ he)]
    rfl

/-- What is in order stays as it is. -/
theorem InOrder.orderMarks_eq {last : Nat} {l marks : List (Nat × Char)}
    (h : InOrder last l) (hmarks : ∀ e ∈ marks, e.1 ≤ last) :
    orderMarks marks (l.map Prod.snd) = marks ++ l := by
  induction h generalizing marks with
  | nil => simp [orderMarks]
  | @base last c rest hc hrest ih =>
    have hempty : orderMarks [] (rest.map Prod.snd) = rest :=
      ih fun e he => absurd he List.not_mem_nil
    simp only [List.map_cons, orderMarks]
    rw [if_pos hc, hempty]
  | @mark last k c rest hc hk hle hrest ih =>
    have hle' : ∀ e ∈ marks, e.1 ≤ k := fun e he => Nat.le_trans (hmarks e he) hle
    have hnext : ∀ e ∈ marks ++ [(k, c)], e.1 ≤ k := by
      intro e he
      rcases List.mem_append.mp he with he | he
      · exact hle' e he
      · exact Nat.le_of_eq (congrArg Prod.fst (List.mem_singleton.mp he))
    simp only [List.map_cons, orderMarks]
    rw [hc, if_neg (by omega), insertMark_of_le hle']
    exact (ih hnext).trans (List.append_assoc marks [(k, c)] rest)

/-! ## Composing and decomposing again -/

/-- Whether the marks that wait behind a base, last first, are not taken apart and have
classes up to `last`, which is zero if none waits. -/
structure Waiting (marks : List Char) (last : Nat) : Prop where
  whole : ∀ m ∈ marks, decompose m = [m]
  pos : ∀ m ∈ marks, 0 < combiningClass m
  le : ∀ m ∈ marks, combiningClass m ≤ last
  none : marks = [] → last = 0

theorem Waiting.nil : Waiting [] 0 :=
  ⟨fun _ h => absurd h List.not_mem_nil, fun _ h => absurd h List.not_mem_nil,
    fun _ h => absurd h List.not_mem_nil, fun _ => rfl⟩

theorem Waiting.cons {marks : List Char} {last : Nat} {c : Char} (h : Waiting marks last)
    (hc : decompose c = [c]) (hpos : 0 < combiningClass c)
    (hle : last ≤ combiningClass c) : Waiting (c :: marks) (combiningClass c) := by
  constructor
  · exact List.forall_mem_cons.mpr ⟨hc, h.whole⟩
  · exact List.forall_mem_cons.mpr ⟨hpos, h.pos⟩
  · exact List.forall_mem_cons.mpr
      ⟨Nat.le_refl _, fun m hm => Nat.le_trans (h.le m hm) hle⟩
  · exact fun h => absurd h (List.cons_ne_nil _ _)

theorem flatMap_decompose_eq_self {s : List Char} (h : ∀ c ∈ s, decompose c = [c]) :
    s.flatMap decompose = s := by
  induction s with
  | nil => rfl
  | cons c s ih =>
    rw [List.flatMap_cons, h c List.mem_cons_self,
      ih fun d hd => h d (List.mem_cons_of_mem _ hd)]
    rfl

theorem Waiting.flatMap_decompose {marks : List Char} {last : Nat}
    (h : Waiting marks last) : marks.reverse.flatMap decompose = marks.reverse :=
  flatMap_decompose_eq_self fun c hc => h.whole c (List.mem_reverse.mp hc)

/-- A character that composes past the marks that wait has a class above theirs, so it may
as well stand before them. -/
theorem Waiting.sameOrder_of_compose? {base c d : Char} {marks : List Char} {last : Nat}
    (h : Waiting marks last) (hfree : marks = [] ∨ last < combiningClass c)
    (hd : compose? base c = some d) (s : List Char) :
    SameOrder (decompose d ++ (marks.reverse ++ s))
    (decompose base ++ (marks.reverse ++ c :: s)) := by
  have hmove : SameOrder (marks.reverse ++ c :: s) (c :: marks.reverse ++ s) := by
    refine sameOrder_move (fun m hm => ?_) s
    have hm' := List.mem_reverse.mp hm
    rcases hfree with rfl | hlt
    · exact absurd hm' List.not_mem_nil
    · exact ⟨h.pos m hm', Nat.lt_of_le_of_lt (h.le m hm') hlt⟩
  rw [(composes_of_compose? hd).decompose_eq, List.append_assoc]
  exact (hmove.append (decompose base)).symm

theorem eq_some_of_free {p : Prop} [Decidable p] {o : Option Char} {d : Char}
    (h : (if p then o else none) = some d) : p ∧ o = some d := by
  split at h
  · next hp => exact ⟨hp, h⟩
  · cases h

/-- What is composed is taken apart into what it was composed from. -/
theorem sameOrder_composeFrom (base : Char) {marks : List Char} {last : Nat}
    {rest : List (Nat × Char)} (hwaiting : Waiting marks last) (hrest : InOrder last rest)
    (hwhole : ∀ e ∈ rest, decompose e.2 = [e.2]) :
    SameOrder ((composeFrom base marks last rest).flatMap decompose)
      (decompose base ++ (marks.reverse ++ rest.map Prod.snd)) := by
  -- On what is still to be composed, for every base and all marks that wait behind it.
  induction rest generalizing base marks last with
  | nil =>
    rw [composeFrom, List.flatMap_cons, hwaiting.flatMap_decompose, List.map_nil,
      List.append_nil]
    exact .refl _
  | cons e rest ih =>
    obtain ⟨k, c⟩ := e
    obtain ⟨hc, hwhole'⟩ := List.forall_mem_cons.mp hwhole
    rw [composeFrom]
    cases hrest with
    | base hclass hrest =>
      split
      · next d hd =>
        -- A base composes only where it stands right behind the other one.
        obtain ⟨hfree, hd⟩ := eq_some_of_free hd
        have hnone : marks = [] := by simpa using hfree
        obtain rfl := hwaiting.none hnone
        subst hnone
        exact (ih d hwaiting hrest hwhole').trans
          (hwaiting.sameOrder_of_compose? (.inl rfl) hd _)
      · rw [if_pos rfl, List.flatMap_append, List.flatMap_cons,
          hwaiting.flatMap_decompose, List.append_assoc]
        have hrun := ih c .nil hrest hwhole'
        rw [hc] at hrun
        exact (hrun.append marks.reverse).append (decompose base)
    | mark hclass hpos hle hrest =>
      subst hclass
      split
      · next d hd =>
        obtain ⟨hfree, hd⟩ := eq_some_of_free hd
        rw [List.isEmpty_iff] at hfree
        exact (ih d hwaiting (hrest.weaken hle) hwhole').trans
          (hwaiting.sameOrder_of_compose? hfree hd _)
      · rw [if_neg (by omega)]
        have hrun := ih base (hwaiting.cons hc hpos hle) hrest hwhole'
        rwa [List.reverse_cons, List.append_assoc] at hrun

theorem sameOrder_composeAll {last : Nat} {l : List (Nat × Char)} (h : InOrder last l)
    (hwhole : ∀ e ∈ l, decompose e.2 = [e.2]) :
    SameOrder ((composeAll l).flatMap decompose) (l.map Prod.snd) := by
  induction h with
  | nil => exact .refl _
  | @base last c rest hclass hrest ih =>
    obtain ⟨hc, hwhole'⟩ := List.forall_mem_cons.mp hwhole
    have hrun := sameOrder_composeFrom c .nil hrest hwhole'
    rw [hc] at hrun
    exact hrun
  | @mark last k c rest hclass hpos hle hrest ih =>
    obtain ⟨hc, hwhole'⟩ := List.forall_mem_cons.mp hwhole
    rw [composeAll, if_neg (by omega), List.flatMap_cons, hc]
    exact (ih hwhole').append [c]

/-! ## The normal form -/

theorem composeFrom_cons_of_compose?_eq_none {base c : Char} (h : compose? base c = none)
    (marks : List Char) (last k : Nat) (rest : List (Nat × Char)) :
    composeFrom base marks last ((k, c) :: rest) =
      if k = 0 then base :: marks.reverse ++ composeFrom c [] 0 rest
      else composeFrom base (c :: marks) k rest := by
  rw [composeFrom, h, ite_self]

theorem composeFrom_of_lt {base : Char} {s : List Char} (h : ∀ c ∈ s, c.toNat < 0xC0) :
    composeFrom base [] 0 (s.map fun c => (0, c)) = base :: s := by
  induction s generalizing base with
  | nil => rfl
  | cons c s ih =>
    obtain ⟨hc, hs⟩ := List.forall_mem_cons.mp h
    rw [List.map_cons, composeFrom_cons_of_compose?_eq_none (compose?_eq_none_of_lt hc),
      if_pos rfl, ih hs]
    rfl

theorem orderMarks_of_lt {s : List Char} (h : ∀ c ∈ s, c.toNat < 0xC0) :
    orderMarks [] s = s.map fun c => (0, c) := by
  induction s with
  | nil => rfl
  | cons c s ih =>
    obtain ⟨hc, hs⟩ := List.forall_mem_cons.mp h
    simp only [orderMarks]
    rw [if_pos (combiningClass_of_lt hc), ih hs]
    rfl

/-- The low characters need no case of their own: they are neither taken apart nor
composed. -/
theorem composed_eq (s : List Char) :
    composed s = composeAll (orderMarks [] (s.flatMap decompose)) := by
  rw [composed]
  split
  · next hall =>
    have hlow : ∀ c ∈ s, c.toNat < 0xC0 := by simpa using hall
    rw [flatMap_decompose_eq_self fun c hc => decompose_of_lt (hlow c hc),
      orderMarks_of_lt hlow]
    cases s with
    | nil => rfl
    | cons c s =>
      rw [List.map_cons, composeAll, if_pos rfl,
        composeFrom_of_lt fun d hd => hlow d (List.mem_cons_of_mem _ hd)]
  · rfl

/-- A text in normal form is its own normal form. -/
theorem composed_composed (s : List Char) : composed (composed s) = composed s := by
  have horder : InOrder 0 (orderMarks [] (s.flatMap decompose)) :=
    inOrder_orderMarks .nil (fun e he => absurd he List.not_mem_nil) _
  have hwhole : ∀ e ∈ orderMarks [] (s.flatMap decompose), decompose e.2 = [e.2] := by
    intro e he
    rcases of_mem_orderMarks he with he | he
    · exact absurd he List.not_mem_nil
    · obtain ⟨c, -, hc⟩ := List.mem_flatMap.mp he
      exact decompose_of_mem_decompose hc
  -- Taken apart and ordered again, the normal form is what it was composed from.
  have hagain := sameOrder_composeAll horder hwhole []
  rw [horder.orderMarks_eq fun e he => absurd he List.not_mem_nil,
    List.nil_append] at hagain
  rw [composed_eq (composed s), composed_eq s, hagain]

/-! ## What a normal form keeps -/

section Kept

variable {p : Char → Prop} (hcompose : ∀ a b d, p a → p b → Composes a b d → p d)
include hcompose

theorem of_mem_composeFrom {base : Char} {marks : List Char} {last : Nat}
    {rest : List (Nat × Char)} (hbase : p base) (hmarks : ∀ m ∈ marks, p m)
    (hrest : ∀ e ∈ rest, p e.2) : ∀ c ∈ composeFrom base marks last rest, p c := by
  have hbehind : ∀ {base : Char} {marks : List Char}, p base → (∀ m ∈ marks, p m) →
      ∀ c ∈ base :: marks.reverse, p c :=
    fun hbase hmarks =>
      List.forall_mem_cons.mpr ⟨hbase, fun m hm => hmarks m (List.mem_reverse.mp hm)⟩
  induction rest generalizing base marks last with
  | nil => exact hbehind hbase hmarks
  | cons e rest ih =>
    obtain ⟨k, d⟩ := e
    obtain ⟨hd, hrest⟩ := List.forall_mem_cons.mp hrest
    rw [composeFrom]
    split
    · next both hboth =>
      exact ih (hcompose base d both hbase hd
        (composes_of_compose? (eq_some_of_free hboth).2)) hmarks hrest
    · split
      · intro c hc
        rcases List.mem_append.mp hc with hc | hc
        · exact hbehind hbase hmarks c hc
        · exact ih hd (fun m hm => absurd hm List.not_mem_nil) hrest c hc
      · exact ih hbase (List.forall_mem_cons.mpr ⟨hd, hmarks⟩) hrest

theorem of_mem_composeAll {l : List (Nat × Char)} (h : ∀ e ∈ l, p e.2) :
    ∀ c ∈ composeAll l, p c := by
  induction l with
  | nil => exact fun c hc => absurd hc List.not_mem_nil
  | cons e l ih =>
    obtain ⟨k, d⟩ := e
    obtain ⟨hd, hl⟩ := List.forall_mem_cons.mp h
    rw [composeAll]
    split
    · exact of_mem_composeFrom hcompose hd (fun m hm => absurd hm List.not_mem_nil) hl
    · exact List.forall_mem_cons.mpr ⟨hd, ih hl⟩

/-- What is kept by taking apart and by composing holds of a normal form if it holds of
the text. -/
theorem of_mem_composed (hparts : ∀ c, p c → ∀ d ∈ decompose c, p d) {s : List Char}
    (h : ∀ c ∈ s, p c) : ∀ c ∈ composed s, p c := by
  rw [composed_eq]
  refine of_mem_composeAll hcompose fun e he => ?_
  rcases of_mem_orderMarks he with he | he
  · exact absurd he List.not_mem_nil
  · obtain ⟨c, hc, he⟩ := List.mem_flatMap.mp he
    exact hparts c (h c hc) _ he

end Kept

/-! ## Points -/

theorem orderMarks_append_point (marks : List (Nat × Char)) (s t : List Char) :
    orderMarks marks (s ++ '.' :: t) =
      orderMarks marks s ++ (0, '.') :: orderMarks [] t := by
  have hpoint : combiningClass '.' = 0 := combiningClass_of_lt (by decide)
  induction s generalizing marks with
  | nil =>
    simp only [List.nil_append, orderMarks]
    rw [if_pos hpoint]
  | cons c s ih =>
    simp only [List.cons_append, orderMarks]
    split
    · rw [ih, List.append_assoc, List.cons_append]
    · exact ih _

theorem composeFrom_append_point (base : Char) (marks : List Char) (last : Nat)
    (l m : List (Nat × Char)) : composeFrom base marks last (l ++ (0, '.') :: m) =
      composeFrom base marks last l ++ composeFrom '.' [] 0 m := by
  induction l generalizing base marks last with
  | nil =>
    have hnone : compose? base '.' = none := compose?_eq_none_of_lt (by decide)
    rw [List.nil_append, composeFrom_cons_of_compose?_eq_none hnone, if_pos rfl,
      composeFrom]
  | cons e l ih =>
    obtain ⟨k, c⟩ := e
    rw [List.cons_append, composeFrom, composeFrom]
    split
    · exact ih _ _ _
    · split
      · rw [ih, List.append_assoc]
      · exact ih _ _ _

theorem composeFrom_point (marks : List Char) (last : Nat) (l : List (Nat × Char)) :
    composeFrom '.' marks last l = '.' :: marks.reverse ++ composeAll l := by
  induction l generalizing marks last with
  | nil =>
    rw [composeFrom, composeAll, List.append_nil]
  | cons e l ih =>
    obtain ⟨k, c⟩ := e
    rw [composeFrom_cons_of_compose?_eq_none (compose?_point c), composeAll]
    split
    · rfl
    · rw [ih]
      simp

theorem composeAll_append_point (l m : List (Nat × Char)) :
    composeAll (l ++ (0, '.') :: m) = composeAll l ++ '.' :: composeAll m := by
  induction l with
  | nil =>
    have hpoint : composeAll ((0, '.') :: m) = composeFrom '.' [] 0 m := rfl
    rw [List.nil_append, hpoint, composeFrom_point]
    rfl
  | cons e l ih =>
    obtain ⟨k, c⟩ := e
    rw [List.cons_append, composeAll, composeAll]
    split
    · rw [composeFrom_append_point, composeFrom_point]
      rfl
    · rw [ih]
      rfl

/-- A point parts a text into two of which each has a normal form of its own. -/
theorem composed_append_point (s t : List Char) :
    composed (s ++ '.' :: t) = composed s ++ '.' :: composed t := by
  rw [composed_eq, composed_eq, composed_eq, List.flatMap_append, List.flatMap_cons,
    decompose_of_lt (by decide), List.cons_append, List.nil_append,
    orderMarks_append_point, composeAll_append_point]

theorem point_not_mem_composed {s : List Char} (h : '.' ∉ s) : '.' ∉ composed s := by
  intro hmem
  refine of_mem_composed (p := fun c => c ≠ '.') ?_ ?_ ?_ '.' hmem rfl
  · rintro a b d - - hcompose rfl
    exact absurd hcompose.high.2.1 (by decide)
  · rintro c hc d hd rfl
    exact point_not_mem_decompose hc hd
  · rintro c hc rfl
    exact h hc

theorem splitOn_composed (s : List Char) :
    (composed s).splitOn '.' = (s.splitOn '.').map composed := by
  by_cases hmem : '.' ∈ s
  · obtain ⟨p, t, rfl, hp⟩ := List.eq_append_cons_of_mem hmem
    rw [composed_append_point, List.splitOn_append_cons_self_of_not_mem
      (point_not_mem_composed hp), List.splitOn_append_cons_self_of_not_mem hp,
      splitOn_composed t, List.map_cons]
  · rw [List.splitOn_eq_singleton (point_not_mem_composed hmem),
      List.splitOn_eq_singleton hmem]
    rfl
termination_by s.length
decreasing_by
  subst_vars
  simp
  omega

/-- The pieces between the points of a normal form are in normal form. -/
theorem composed_of_mem_splitOn {s piece : List Char} (h : composed s = s)
    (hmem : piece ∈ s.splitOn '.') : composed piece = piece := by
  have hsplit := splitOn_composed s
  rw [h] at hsplit
  obtain ⟨other, -, rfl⟩ := List.mem_map.mp (hsplit ▸ hmem)
  exact composed_composed other

end CredRelay.Unicode
