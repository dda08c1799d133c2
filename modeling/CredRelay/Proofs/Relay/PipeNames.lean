import CredRelay.Proofs.Helper.Safety
import CredRelay.Proofs.Text.Trimming
import CredRelay.Relay.Endpoint
import Mathlib.Data.List.Forall2
/-! What the name of a pipe still tells of the state root that it was made from: the
letters and digits of the root, and where anything else stands between them, but not what
it is. Roots along names of letters and digits are told apart by that. Roots in general
are not: each of them shares its pipe with another one. -/
namespace CredRelay

open Text

namespace Relay

variable {c d : Char} {s t : List Char}

/-! ## Characters in the name of a pipe -/

/-- Whether a character is not seen in the name of a pipe. -/
def isMasked (c : Char) : Bool :=
  !c.isAlphanum

/-- A character as it is seen in the name of a pipe. -/
def masked (c : Char) : Char :=
  if c.isAlphanum then c else '-'

/-- Whether two characters are seen as one in the name of a pipe. -/
def LooksAlike (c d : Char) : Prop :=
  c = d ∨ isMasked c = true ∧ isMasked d = true

instance : DecidableRel LooksAlike := fun c d =>
  inferInstanceAs (Decidable (c = d ∨ isMasked c = true ∧ isMasked d = true))

theorem masked_of_isMasked (h : isMasked c = true) : masked c = '-' := by
  simp_all [isMasked, masked]

theorem masked_of_not_isMasked (h : isMasked c = false) : masked c = c := by
  simp_all [isMasked, masked]

@[simp] theorem isMasked_hyphen : isMasked '-' = true := by
  decide

theorem ne_hyphen_of_not_isMasked (h : isMasked c = false) : c ≠ '-' := by
  rintro rfl
  simp at h

theorem masked_beq_hyphen (c : Char) : (masked c == '-') = isMasked c := by
  cases h : isMasked c with
  | true => rw [masked_of_isMasked h, beq_self_eq_true]
  | false =>
    rw [masked_of_not_isMasked h, beq_eq_false_iff_ne]
    exact ne_hyphen_of_not_isMasked h

theorem masked_eq_masked_iff : masked c = masked d ↔ LooksAlike c d := by
  constructor
  · intro h
    have hboth : isMasked c = isMasked d := by
      rw [← masked_beq_hyphen, ← masked_beq_hyphen, h]
    cases hc : isMasked c with
    | true => exact .inr ⟨hc, hboth ▸ hc⟩
    | false =>
      rw [masked_of_not_isMasked hc, masked_of_not_isMasked (hboth ▸ hc)] at h
      exact .inl h
  · rintro (rfl | ⟨hc, hd⟩)
    · rfl
    · rw [masked_of_isMasked hc, masked_of_isMasked hd]

/-! ## The name of a pipe -/

/-- The part of a root that its pipe is named after: from its first letter or digit to its
last one. -/
def core (root : String) : List Char :=
  trimWhere isMasked root.toList

theorem trimWhere_map (p : Char → Bool) (f : Char → Char) (s : List Char) :
    trimWhere p (s.map f) = (trimWhere (p ∘ f) s).map f := by
  simp only [trimWhere, dropEndWhile, List.dropWhile_map, ← List.map_reverse]

theorem pipeName_eq (root : String) :
    pipeName root = pipeStart ++ String.ofList ((core root).map masked) := by
  have hmask : (fun c => c == '-') ∘ masked = isMasked := funext masked_beq_hyphen
  have htrim : withoutOuterHyphens (hyphenated root.toList) = (core root).map masked := by
    show trimWhere (fun c => c == '-') (root.toList.map masked) = _
    rw [trimWhere_map, hmask, core]
  rw [pipeName, htrim]

/-- Two roots have one pipe exactly if they look alike from the first letter or digit to
the last. -/
theorem pipeName_eq_iff {root other : String} :
    pipeName root = pipeName other ↔
    List.Forall₂ LooksAlike (core root) (core other) := by
  have halike : (fun c d => masked c = masked d) = LooksAlike := by
    funext c d
    exact propext masked_eq_masked_iff
  rw [pipeName_eq, pipeName_eq, String.append_right_inj, String.ofList_inj,
    ← List.forall₂_eq_eq_eq, List.forall₂_map_left_iff,
    List.forall₂_map_right_iff, halike]

/-! ## Words -/

/-- The runs of letters and digits in a text. -/
def words (s : List Char) : List (List Char) :=
  (s.splitOnP isMasked).filter fun word => !word.isEmpty

@[simp] theorem words_nil : words [] = [] := rfl

theorem words_append_cons (hc : isMasked c = true) (s t : List Char) :
    words (s ++ c :: t) = words s ++ words t := by
  rw [words, List.splitOnP_append_cons s t hc, List.filter_append]
  rfl

theorem words_cons (hc : isMasked c = true) (s : List Char) : words (c :: s) = words s :=
  words_append_cons hc [] s

theorem words_concat (hc : isMasked c = true) (s : List Char) :
    words (s ++ [c]) = words s := by
  rw [words_append_cons hc, words_nil, List.append_nil]

theorem words_eq_singleton (hs : ∀ c ∈ s, isMasked c = false) (hne : s ≠ []) :
    words s = [s] := by
  simp [words, List.splitOnP_eq_singleton hs, hne]

theorem words_intercalate (hc : isMasked c = true) (pieces : List (List Char)) :
    words ([c].intercalate pieces) = pieces.flatMap words := by
  induction pieces with
  | nil => rfl
  | cons piece pieces ih =>
    cases pieces with
    | nil => simp
    | cons next pieces =>
      rw [List.intercalate_cons_cons, List.append_assoc, List.singleton_append,
        words_append_cons hc, ih]
      rfl

/-- Masking keeps the words of a text. -/
theorem words_map_masked (s : List Char) : words (s.map masked) = words s := by
  have hsplit : (s.map masked).splitOnP isMasked = s.splitOnP isMasked := by
    induction s with
    | nil => rfl
    | cons c s ih =>
      rw [List.map_cons, List.splitOnP_cons_eq_if_modifyHead,
        List.splitOnP_cons_eq_if_modifyHead, ih]
      cases hc : isMasked c with
      | true => simp [masked_of_isMasked hc]
      | false => simp [masked_of_not_isMasked hc, hc]
  rw [words, hsplit, words]

theorem words_dropWhile (s : List Char) : words (s.dropWhile isMasked) = words s := by
  induction s with
  | nil => rfl
  | cons c s ih =>
    cases hc : isMasked c with
    | true => rw [List.dropWhile_cons_of_pos hc, ih, words_cons hc]
    | false => rw [List.dropWhile_cons_of_neg (by simp [hc])]

theorem words_dropEndWhile (s : List Char) :
    words (dropEndWhile isMasked s) = words s := by
  induction s using List.reverseRecOn with
  | nil => rfl
  | append_singleton s c ih =>
    rw [dropEndWhile_eq_rdropWhile] at ih ⊢
    cases hc : isMasked c with
    | true => rw [List.rdropWhile_concat_pos _ _ _ hc, ih, words_concat hc]
    | false => rw [List.rdropWhile_concat_neg _ _ _ (by simp [hc])]

/-- The name of a pipe has the words of the root. -/
theorem words_core (root : String) : words (core root) = words root.toList := by
  rw [core, trimWhere, words_dropEndWhile, words_dropWhile]

theorem words_eq_of_pipeName_eq {root other : String}
    (h : pipeName root = pipeName other) : words root.toList = words other.toList := by
  rw [pipeName_eq, pipeName_eq, String.append_right_inj, String.ofList_inj] at h
  rw [← words_core, ← words_core, ← words_map_masked (core root), h, words_map_masked]

/-! ## Names along a root -/

/-- Whether a name is of letters and digits. -/
def IsPlain (name : String) : Prop :=
  ∀ c ∈ name.toList, c.isAlphanum = true

theorem words_of_isPlain {piece : List Char} (hne : piece ≠ [])
    (h : IsPlain (String.ofList piece)) : words piece = [piece] := by
  refine words_eq_singleton (fun c hc => ?_) hne
  rw [isMasked, h c (by simpa using hc)]
  rfl

theorem namesOf_eq_words {pieces : List (List Char)}
    (h : ∀ name ∈ Path.namesOf pieces, IsPlain name) :
    Path.namesOf pieces = (pieces.flatMap words).map String.ofList := by
  induction pieces with
  | nil => rfl
  | cons piece pieces ih =>
    have hsplit : Path.namesOf (piece :: pieces) =
        Path.namesOf [piece] ++ Path.namesOf pieces :=
      Path.namesOf_append [piece] pieces
    rw [hsplit] at h ⊢
    rw [ih fun name hname => h name (List.mem_append_right _ hname), List.flatMap_cons,
      List.map_append]
    congr 1
    by_cases hempty : piece = []
    · simp [hempty, Path.namesOf]
    · by_cases hdot : piece = ['.']
      · rw [hdot]
        rfl
      · -- any other piece is a name, and so it is one word
        have hname : Path.namesOf [piece] = [String.ofList piece] := by
          have hne : String.ofList piece ≠ "" := by
            simpa [String.ofList_eq_empty_iff] using hempty
          have hne' : String.ofList piece ≠ "." := by
            intro heq
            exact hdot (by simpa using congrArg String.toList heq)
          simpa using Path.namesOf_singleton hne hne'
        have hplain : IsPlain (String.ofList piece) :=
          h _ (List.mem_append_left _ (by simp [hname]))
        rw [hname, words_of_isPlain hempty hplain]
        rfl

theorem names_eq_words {root : String} (h : ∀ name ∈ Path.names root, IsPlain name) :
    Path.names root = (words root.toList).map String.ofList := by
  have hslash : isMasked '/' = true := by decide
  rw [Path.names_eq] at h ⊢
  rw [namesOf_eq_words h, ← words_intercalate hslash, List.intercalate_splitOn]

/-- A root and another one that only a name of masked characters sets apart have one
pipe. -/
theorem pipeName_append {w : String} (hw : ∀ c ∈ w.toList, isMasked c = true)
    (root : String) : pipeName (root ++ w) = pipeName root := by
  have hcore : core (root ++ w) = core root := by
    rw [core, String.toList_append, trimWhere_append_of_forall hw, core]
  rw [pipeName_eq, pipeName_eq, hcore]

theorem pipeName_join_hyphen {root : String} (h : Path.isAbsolute root = true) :
    Path.isAbsolute (Path.join root "-") = true ∧
    pipeName (Path.join root "-") = pipeName root := by
  have hne : root ≠ "" := by
    rintro rfl
    exact absurd h (by decide)
  have habsolute : ∀ w : String, Path.isAbsolute (root ++ w) = true := by
    intro w
    rw [Path.isAbsolute, beq_iff_eq] at h ⊢
    rw [String.toList_append, List.head?_append, h, Option.some_or]
  have hrelative : ¬"-".toList.head? = some '/' := by decide
  rw [Path.join, if_neg hrelative, if_neg (by simpa using hne)]
  split
  · exact ⟨habsolute "-", pipeName_append (List.all_eq_true.mp (by decide +kernel)) root⟩
  · rw [String.append_assoc]
    exact ⟨habsolute ("/" ++ "-"),
      pipeName_append (List.all_eq_true.mp (by decide +kernel)) root⟩

/-! ## Main results -/

/-- Which roots have one pipe, and so one endpoint where pipes are used: exactly those
that look alike from the first letter or digit to the last one. Roots along different
names are told apart where all of these are of letters and digits, but no root has a pipe
of its own: every absolute one shares it with another absolute one along other names. -/
theorem pipeName_eq_iff_and_exists_shared (root : String) :
    (∀ other, pipeName root = pipeName other ↔
      List.Forall₂ LooksAlike (core root) (core other)) ∧
    (∀ other (s : Settings), s.transport = .pipe →
      (Endpoint.ofSettings s root = Endpoint.ofSettings s other ↔
        pipeName root = pipeName other)) ∧
    (∀ other, (∀ name ∈ Path.names root, IsPlain name) →
      (∀ name ∈ Path.names other, IsPlain name) →
      Path.names root ≠ Path.names other → pipeName root ≠ pipeName other) ∧
    (Path.isAbsolute root = true →
      ∃ other, Path.isAbsolute other = true ∧ Path.names other ≠ Path.names root ∧
        pipeName other = pipeName root) := by
  refine ⟨fun other => pipeName_eq_iff, fun other s hs => ?endpoint,
    fun other hroot hother hne h => ?plain, fun habsolute => ?shared⟩
  case endpoint => simp [Endpoint.ofSettings, hs]
  case plain =>
    refine hne ?_
    rw [names_eq_words hroot, names_eq_words hother, words_eq_of_pipeName_eq h]
  case shared =>
    obtain ⟨habsolute', hsame⟩ := pipeName_join_hyphen habsolute
    refine ⟨Path.join root "-", habsolute', ?_, hsame⟩
    rw [Path.names_join (by decide) (by decide) (by decide)]
    simp

/-- A hyphen in a name and a slash between two names are seen as one. -/
theorem pipeName_eq_of_hyphen :
    let s := { Settings.default with transport := .pipe }
    let root := "/var/lib/credbridge"
    let other := "/var-lib/credbridge"
    Path.names root ≠ Path.names other ∧
      Endpoint.ofSettings s root = Endpoint.ofSettings s other := by
  intro s root other
  obtain ⟨hiff, hendpoint, -⟩ := pipeName_eq_iff_and_exists_shared root
  refine ⟨by decide +kernel, ?_⟩
  rw [hendpoint other s rfl, hiff other]
  decide +kernel

end Relay

end CredRelay
