import CredRelay.Login.Challenge
import CredRelay.Proofs.Helper.Safety
import CredRelay.Proofs.Text.Pieces
import CredRelay.Proofs.Text.Trimming
/-! What is read of the parameters of a bearer challenge. They are parted at every comma,
also at those within quotes. A parameter without a comma in its value is read as it was
given; of any other one the value ends at the first comma, and what stands behind it is
read as parameters of their own. A challenge is therefore read faithfully exactly if its
realm and its service hold no comma and nothing that is read of the parameters behind
takes their place. -/
namespace CredRelay

open Text

namespace Text

/-- A blank has no other case. -/
theorem toLower_of_isBlank {c : Char} (h : isBlank c = true) : c.toLower = c := by
  unfold Char.toLower
  split
  · next hupper =>
    have hge : 65 ≤ c.toNat := hupper.1
    have hle : c.toNat ≤ 90 := hupper.2
    simp only [isBlank, Bool.or_eq_true, Bool.and_eq_true, decide_eq_true_eq,
      beq_iff_eq] at h
    omega
  · rfl

/-- No blank is in a text that has the letters of one without blanks. -/
theorem not_isBlank_of_sameLetters {s t : String} (h : sameLetters s t = true)
    (ht : (t.toList.map Char.toLower).any isBlank = false) {c : Char}
    (hc : c ∈ s.toList) : isBlank c = false := by
  rw [Bool.eq_false_iff]
  intro hblank
  have hmem : c.toLower ∈ t.toList.map Char.toLower :=
    beq_iff_eq.mp h ▸ List.mem_map_of_mem hc
  rw [toLower_of_isBlank hblank] at hmem
  exact List.any_eq_false.mp ht c hmem hblank

end Text

namespace Login

/-! ## Parameters that are given -/

/-- A parameter as it is given. -/
structure Parameter where
  name : String
  value : String
  deriving DecidableEq, Repr

namespace Parameter

/-- A parameter as it is written: its name, an equals sign and its value between
quotes. -/
def written (p : Parameter) : List Char :=
  p.name.toList ++ '=' :: '"' :: (p.value.toList ++ ['"'])

/-- Whether a text is a parameter with blanks around it. -/
def StandsIn (p : Parameter) (piece : List Char) : Prop :=
  ∃ v w, (∀ c ∈ v, isBlank c = true) ∧ (∀ c ∈ w, isBlank c = true) ∧
    piece = v ++ p.written ++ w

/-- Whether a parameter can be written: its name is of letters and numbers, and its value
holds no quote. -/
structure IsWritable (p : Parameter) : Prop where
  name : ∀ c ∈ p.name.toList, Unicode.isAlphanumeric c = true
  value : '"' ∉ p.value.toList

end Parameter

/-- Whether a header is a bearer challenge with some parameters in this order: the word in
any case of letters, a space, and the parameters with commas and blanks between them. -/
def IsBearer (params : List Parameter) (header : String) : Prop :=
  ∃ word pieces, sameLetters word "bearer" = true ∧
    List.Forall₂ Parameter.StandsIn params pieces ∧
    header.toList = word.toList ++ ' ' :: [','].intercalate pieces

/-! ## Pieces between commas -/

variable {s t v w : List Char}

/-- What is read of a text between its commas: names with values, in order. -/
def assignments (s : List Char) : List (String × String) :=
  (s.splitOn ',').filterMap parameter?

theorem comma_ne_of_isBlank {c : Char} (h : isBlank c = true) : c ≠ ',' := by
  rintro rfl
  exact absurd h (by decide)

theorem parameter?_append_blank (h : ∀ c ∈ w, isBlank c = true) (s : List Char) :
    parameter? (s ++ w) = parameter? s := by
  rw [parameter?, trimChars_append_blank h, parameter?]

theorem parameter?_blank_append (h : ∀ c ∈ v, isBlank c = true) (s : List Char) :
    parameter? (v ++ s) = parameter? s := by
  rw [parameter?, trimChars_blank_append h, parameter?]

theorem assignments_append_comma (s t : List Char) :
    assignments (s ++ ',' :: t) = assignments s ++ assignments t := by
  rw [assignments, List.splitOn_append_cons_self, List.filterMap_append]
  rfl

theorem assignments_intercalate (pieces : List (List Char)) :
    assignments ([','].intercalate pieces) = pieces.flatMap assignments := by
  induction pieces with
  | nil => rfl
  | cons piece pieces ih =>
    cases pieces with
    | nil => simp
    | cons next pieces =>
      rw [List.intercalate_cons_cons, List.append_assoc, List.singleton_append,
        assignments_append_comma, ih]
      rfl

/-- Blanks behind a text are behind its last piece. -/
theorem assignments_append_blank (h : ∀ c ∈ w, isBlank c = true) (s : List Char) :
    assignments (s ++ w) = assignments s := by
  induction w using List.reverseRecOn with
  | nil => rw [List.append_nil]
  | append_singleton w c ih =>
    have hc : ∀ d ∈ [c], isBlank d = true := fun d hd => h d (List.mem_append_right _ hd)
    obtain ⟨init, last, hsplit, hconcat⟩ :=
      exists_splitOn_concat (comma_ne_of_isBlank (hc c List.mem_cons_self)) (s ++ w)
    rw [← ih fun d hd => h d (List.mem_append_left _ hd), ← List.append_assoc,
      assignments, hconcat, assignments, hsplit, List.filterMap_append,
      List.filterMap_append, List.filterMap_cons, List.filterMap_cons,
      parameter?_append_blank hc]

/-- Blanks in front of a text are in front of its first piece. -/
theorem assignments_blank_append (h : ∀ c ∈ v, isBlank c = true) (s : List Char) :
    assignments (v ++ s) = assignments s := by
  induction v with
  | nil => rfl
  | cons c v ih =>
    have hc : ∀ d ∈ [c], isBlank d = true := by simpa using h c List.mem_cons_self
    have hcomma : (c == ',') = false := by
      simpa using comma_ne_of_isBlank (hc c List.mem_cons_self)
    obtain ⟨first, rest, hsplit⟩ :=
      List.exists_cons_of_ne_nil (List.splitOn_ne_nil ',' (v ++ s))
    rw [← ih fun d hd => h d (List.mem_cons_of_mem _ hd), assignments, List.cons_append,
      List.splitOn_cons_eq_if_modifyHead, hcomma, assignments, hsplit]
    have hfirst : parameter? (c :: first) = parameter? first :=
      parameter?_blank_append hc first
    simp only [Bool.false_eq_true, if_false, List.modifyHead_cons,
      List.filterMap_cons, hfirst]

/-- No value that is read holds a comma. -/
theorem comma_not_mem_of_mem_assignments {e : String × String} (h : e ∈ assignments s) :
    ',' ∉ e.2.toList := by
  obtain ⟨piece, hpiece, hread⟩ := List.mem_filterMap.mp h
  have hcomma := not_mem_of_mem_splitOn hpiece
  rw [parameter?] at hread
  split at hread
  · next name value hcut =>
    cases hread
    rw [String.toList_ofList]
    intro hmem
    have hvalue : ',' ∈ value :=
      (trimWhere_sublist isBlank value).mem ((trimWhere_sublist _ _).mem hmem)
    have hpieces : ',' ∈ trimChars piece := by
      rw [(cut_eq_some_iff.mp hcut).1]
      simp [hvalue]
    exact hcomma ((trimWhere_sublist isBlank piece).mem hpieces)
  · cases hread

/-! ## What is read of one parameter -/

/-- A name with an equals sign behind it is a parameter, whatever its value looks like. -/
theorem parameter?_assignment {name : List Char} (hblank : ∀ c ∈ name, isBlank c = false)
    (hequals : '=' ∉ name) (t : List Char) :
    parameter? (name ++ '=' :: t) =
      some (lowerAscii (String.ofList name),
        String.ofList (trimWhere (· == '"') (trimChars t))) := by
  have hfront : ∀ c ∈ name ++ ['='], isBlank c = false := by
    intro c hc
    rcases List.mem_append.mp hc with hc | hc
    · exact hblank c hc
    · rw [List.mem_singleton.mp hc]
      decide
  have htrim : trimChars (name ++ '=' :: t) = name ++ '=' :: dropEndWhile isBlank t := by
    have hall := trimWhere_append hfront (by simp) t
    rwa [List.append_assoc, List.append_assoc] at hall
  have hname : trimChars name = name := trimWhere_eq_self hblank
  rw [parameter?, htrim, cut_append hequals]
  simp only [hname, trimChars_dropEndWhile]

/-- A value between quotes is what stands between them. -/
theorem trimWhere_quoted (h : '"' ∉ s) :
    trimWhere (· == '"') (trimChars ('"' :: (s ++ ['"']))) = s := by
  have hquote : isBlank '"' = false := by decide
  have hplain : ∀ c ∈ s, (c == '"') = false := by
    intro c hc
    rw [beq_eq_false_iff_ne]
    rintro rfl
    exact h hc
  rw [← List.cons_append, trimChars_eq_self hquote hquote, List.cons_append,
    trimWhere_cons (by simp), trimWhere_append_of_forall (by simp),
    trimWhere_eq_self hplain]

/-- A value that starts with a quote and does not end with one lacks the blanks at
its end. -/
theorem trimWhere_opened (h : '"' ∉ s) :
    trimWhere (· == '"') (trimChars ('"' :: s)) = dropEndWhile isBlank s := by
  have hplain : ∀ c ∈ dropEndWhile isBlank s, (c == '"') = false := by
    intro c hc
    rw [beq_eq_false_iff_ne]
    rintro rfl
    exact h ((dropEndWhile_sublist isBlank s).mem hc)
  rw [trimChars_cons (by decide), trimWhere_cons (by simp), trimWhere_eq_self hplain]

namespace Parameter

variable {p : Parameter}

/-- The value that a parameter is read with: up to its first comma, and then without
blanks at the end. -/
def shown (p : Parameter) : String :=
  match cut ',' p.value.toList with
  | none => p.value
  | some (start, _) => String.ofList (dropEndWhile isBlank start)

/-- What is read behind the first comma of the value of a parameter, closing quote
included. -/
def hidden (p : Parameter) : List (String × String) :=
  match cut ',' p.value.toList with
  | none => []
  | some (_, rest) => assignments (rest ++ ['"'])

/-- All that is read of a parameter. -/
def readings (p : Parameter) : List (String × String) :=
  (lowerAscii p.name, p.shown) :: p.hidden

theorem IsWritable.name_ne (h : p.IsWritable) :
    (∀ c ∈ p.name.toList, isBlank c = false) ∧ '=' ∉ p.name.toList ∧
      ',' ∉ p.name.toList := by
  refine ⟨fun c hc => ?_, fun hc => ?_, fun hc => ?_⟩
  · rw [Bool.eq_false_iff]
    intro hblank
    have hletter := h.name c hc
    rw [Unicode.isAlphanumeric_of_isBlank hblank] at hletter
    cases hletter
  · exact absurd (h.name _ hc) (by decide +kernel)
  · exact absurd (h.name _ hc) (by decide +kernel)

theorem assignments_written (h : p.IsWritable) : assignments p.written = p.readings := by
  obtain ⟨hblank, hequals, hcomma⟩ := h.name_ne
  have hassigned := parameter?_assignment hblank hequals
  rw [String.ofList_toList] at hassigned
  rw [readings, shown, hidden]
  cases hcut : cut ',' p.value.toList with
  | none =>
    have hvalue : ',' ∉ p.value.toList := cut_eq_none_iff.mp hcut
    have hone : ',' ∉ p.written := by
      simp [written, hcomma, hvalue]
    rw [assignments, List.splitOn_eq_singleton hone, List.filterMap_cons,
      written, hassigned, trimWhere_quoted h.value, String.ofList_toList]
    rfl
  | some halves =>
    obtain ⟨start, rest⟩ := halves
    obtain ⟨hsplit, hstart⟩ := cut_eq_some_iff.mp hcut
    have hquote : '"' ∉ start := by
      intro hmem
      exact h.value (hsplit ▸ List.mem_append_left _ hmem)
    have hwritten :
        p.written = (p.name.toList ++ '=' :: '"' :: start) ++ ',' :: (rest ++ ['"']) := by
      simp [written, hsplit]
    have hone : ',' ∉ p.name.toList ++ '=' :: '"' :: start := by
      simp [hcomma, hstart]
    have hfirst : assignments (p.name.toList ++ '=' :: '"' :: start) =
        [(lowerAscii p.name, String.ofList (dropEndWhile isBlank start))] := by
      rw [assignments, List.splitOn_eq_singleton hone, List.filterMap_cons, hassigned,
        trimWhere_opened hquote]
      rfl
    rw [hwritten, assignments_append_comma, hfirst]
    rfl

theorem assignments_of_standsIn (h : p.IsWritable) {piece : List Char}
    (hpiece : p.StandsIn piece) : assignments piece = p.readings := by
  obtain ⟨v, w, hv, hw, rfl⟩ := hpiece
  rw [assignments_append_blank hw, assignments_blank_append hv, assignments_written h]

end Parameter

end Login

end CredRelay
