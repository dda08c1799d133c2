/-! Cutting a text at a mark, and comparing texts without regard to ASCII case. A cut
gives the part before the first occurrence of the mark and the part after it; joined
around the mark they are the text again. -/
namespace CredRelay.Text

/-- The parts before and after the first character that satisfies `p`. -/
def cutWhere (p : Char → Bool) (s : List Char) : Option (List Char × List Char) :=
  match s.dropWhile (fun c => !p c) with
  | [] => none
  | _ :: rest => some (s.takeWhile (fun c => !p c), rest)

/-- The parts before and after the first `mark`. -/
def cut (mark : Char) (s : List Char) : Option (List Char × List Char) :=
  cutWhere (· == mark) s

/-- The part of `s` after `start`, when `s` begins so. -/
def after? (start : List Char) (s : List Char) : Option (List Char) :=
  match start, s with
  | [], s => some s
  | a :: start, c :: s => if a = c then after? start s else none
  | _ :: _, [] => none

/-- The parts before and after the first occurrence of the text `mark`; `before` collects
the characters passed over, last first. -/
def cutText.go (mark : List Char) (before : List Char) (s : List Char) :
    Option (List Char × List Char) :=
  match after? mark s with
  | some rest => some (before.reverse, rest)
  | none =>
    match s with
    | [] => none
    | c :: s => cutText.go mark (c :: before) s

/-- The parts before and after the first occurrence of the text `mark`. -/
def cutText (mark : List Char) (s : List Char) : Option (List Char × List Char) :=
  cutText.go mark [] s

/-- Whether the text `mark` occurs in `s`. -/
def occurs (mark : List Char) (s : List Char) : Bool :=
  (cutText mark s).isSome

/-- The ASCII capital letters written small, all else as it is. -/
def lowerAscii (s : String) : String :=
  String.ofList (s.toList.map Char.toLower)

/-- Equality up to the case of ASCII letters. -/
def sameLetters (s t : String) : Bool :=
  s.toList.map Char.toLower == t.toList.map Char.toLower

/-- The texts with `mark` between each two. -/
def joinWith (mark : String) (texts : List String) : String :=
  mark.intercalate texts

theorem after?_eq_some_iff {start s rest : List Char} :
    after? start s = some rest ↔ s = start ++ rest := by
  fun_induction after? start s with
  | case1 s => simp
  | case2 start c s ih => simp [ih]
  | case3 start c a s h => simp [Ne.symm h]
  | case4 => simp

theorem cutWhere_append {p : Char → Bool} {s before rest : List Char}
    (h : cutWhere p s = some (before, rest)) :
    ∃ c, p c = true ∧ s = before ++ c :: rest := by
  unfold cutWhere at h
  split at h
  · cases h
  · next c r hd =>
    cases h
    refine ⟨c, ?_, ?_⟩
    · have := List.head?_dropWhile_not (fun c => !p c) s
      rw [hd] at this
      simpa using this
    · rw [← hd, List.takeWhile_append_dropWhile]

end CredRelay.Text
