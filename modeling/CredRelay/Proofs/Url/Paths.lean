import CredRelay.Proofs.Url.Hosts
import CredRelay.Url.Path
/-! Paths that were written. A path is empty, under a scheme that is not known, or a slash
and segments with slashes between them; no segment holds a slash or a character that is
written as an escape, and none is a dot or two. Such a path is read as itself, so that
reading a path a second time changes nothing. -/
namespace CredRelay.Url

open Text

/-! ## Characters -/

/-- The characters that part the segments of a path; backslashes do under known
schemes. -/
def isPathSlash (known : Bool) (c : Char) : Bool :=
  c == '/' || (known && c == '\\')

theorem not_isEscapedInPath_of_mem_escape {c d : Char} (h : d ∈ escape c) :
    isEscapedInPath d = false := by
  refine of_mem_escape (p := fun d => isEscapedInPath d = false) ?_ ?_ h
  · simp only [isEscapedInPath, String.reduceToList]
    decide
  · simp only [isEscapedInPath, String.reduceToList]
    decide

theorem not_isEscapedInPath_of_mem_percentEncode {s : List Char} {c : Char}
    (h : c ∈ percentEncode isEscapedInPath s) : isEscapedInPath c = false := by
  rcases eq_or_mem_escape_of_mem_percentEncode h with ⟨-, hplain⟩ | ⟨d, hd⟩
  · exact hplain
  · exact not_isEscapedInPath_of_mem_escape hd

theorem not_isPathSlash_of_mem_percentEncode {known : Bool} {p : Char → Bool}
    {s : List Char} {c : Char} (hs : ∀ c ∈ s, isPathSlash known c = false)
    (h : c ∈ percentEncode p s) : isPathSlash known c = false := by
  rcases eq_or_mem_escape_of_mem_percentEncode h with ⟨hc, -⟩ | ⟨d, hd⟩
  · exact hs c hc
  · refine of_mem_escape (p := fun c => isPathSlash known c = false) ?_ ?_ hd <;>
      cases known <;> decide

/-! ## Segments -/

/-- A segment as it stands in a written path. -/
structure IsWrittenSegment (known : Bool) (segment : List Char) : Prop where
  not_escaped : ∀ c ∈ segment, isEscapedInPath c = false
  not_slash : ∀ c ∈ segment, isPathSlash known c = false
  not_here : isHere segment = false
  not_above : isAbove segment = false

theorem isWrittenSegment_nil (known : Bool) : IsWrittenSegment known [] where
  not_escaped := by simp
  not_slash := by simp
  not_here := by decide
  not_above := by decide

/-- What one segment does to the segments before it: nothing is added but the segment
itself, unless it is a dot or two. -/
theorem mem_takeSegment {above : List (List Char)} {segment t : List Char}
    (h : t ∈ takeSegment above segment) :
    t ∈ above ∨ (t = segment ∧ isHere segment = false ∧ isAbove segment = false) := by
  unfold takeSegment at h
  split at h
  · split at h
    · exact absurd h List.not_mem_nil
    · split at h
      · exact .inl h
      · exact .inl (List.mem_cons_of_mem _ h)
  · next habove =>
    split at h
    · exact .inl h
    · next hhere =>
      rcases List.mem_cons.mp h with rfl | h
      · exact .inr ⟨rfl, by simpa using hhere, by simpa using habove⟩
      · exact .inl h

theorem mem_foldl_takeSegment {segments above : List (List Char)} {t : List Char}
    (h : t ∈ segments.foldl takeSegment above) :
    t ∈ above ∨ (t ∈ segments ∧ isHere t = false ∧ isAbove t = false) := by
  induction segments generalizing above with
  | nil => exact .inl h
  | cons segment segments ih =>
    rcases ih h with h | ⟨h, hdots⟩
    · rcases mem_takeSegment h with h | ⟨rfl, hdots⟩
      · exact .inl h
      · exact .inr ⟨List.mem_cons_self, hdots⟩
    · exact .inr ⟨List.mem_cons_of_mem _ h, hdots⟩

/-- Resolving dots leaves segments that are none, and adds no segment but an empty one. -/
theorem mem_resolveDots {segments : List (List Char)} {t : List Char}
    (h : t ∈ resolveDots segments) :
    t = [] ∨ (t ∈ segments ∧ isHere t = false ∧ isAbove t = false) := by
  rw [resolveDots, List.mem_reverse] at h
  have htaken (h : t ∈ segments.foldl takeSegment []) :
      t = [] ∨ (t ∈ segments ∧ isHere t = false ∧ isAbove t = false) :=
    .inr ((mem_foldl_takeSegment h).resolve_left List.not_mem_nil)
  split at h
  · rcases List.mem_cons.mp h with rfl | h
    · exact .inl rfl
    · exact htaken h
  · exact htaken h

theorem takeSegment_eq_cons {segment : List Char} (hhere : isHere segment = false)
    (habove : isAbove segment = false) (above : List (List Char)) :
    takeSegment above segment = segment :: above := by
  unfold takeSegment
  rw [if_neg (by simp [habove]), if_neg (by simp [hhere])]

theorem foldl_takeSegment_eq {segments : List (List Char)}
    (h : ∀ t ∈ segments, isHere t = false ∧ isAbove t = false)
    (above : List (List Char)) :
    segments.foldl takeSegment above = segments.reverse ++ above := by
  induction segments generalizing above with
  | nil => rfl
  | cons segment segments ih =>
    obtain ⟨hhere, habove⟩ := h segment List.mem_cons_self
    have htake := takeSegment_eq_cons hhere habove above
    rw [List.foldl_cons, htake, ih fun t ht => h t (List.mem_cons_of_mem _ ht)]
    simp

/-- Segments without dots stay as they are. -/
theorem resolveDots_eq_self {segments : List (List Char)}
    (h : ∀ t ∈ segments, isHere t = false ∧ isAbove t = false) :
    resolveDots segments = segments := by
  have hlast : (isHere (segments.getLastD []) || isAbove (segments.getLastD [])) =
      false := by
    rcases List.eq_nil_or_concat' segments with rfl | ⟨before, last, rfl⟩
    · decide
    · obtain ⟨hhere, habove⟩ := h last (by simp)
      simp [hhere, habove]
  rw [resolveDots, hlast, foldl_takeSegment_eq h]
  simp

/-- The last segment leaves itself or an empty one. -/
theorem resolveDots_ne_nil {segments : List (List Char)} (h : segments ≠ []) :
    resolveDots segments ≠ [] := by
  obtain ⟨before, last, rfl⟩ := (List.eq_nil_or_concat' segments).resolve_left h
  rw [resolveDots, Ne, List.reverse_eq_nil_iff, List.getLastD_concat]
  split
  · exact List.cons_ne_nil _ _
  · next hlast =>
    simp only [Bool.or_eq_true, not_or, Bool.not_eq_true] at hlast
    rw [List.foldl_concat, takeSegment_eq_cons hlast.1 hlast.2]
    exact List.cons_ne_nil _ _

/-- Segments joined by slashes are parted again, where none of them holds a slash. -/
theorem splitOnP_intercalate {p : Char → Bool} {mark : Char} (hmark : p mark = true)
    {segments : List (List Char)} (hne : segments ≠ [])
    (h : ∀ t ∈ segments, ∀ c ∈ t, p c = false) :
    ([mark].intercalate segments).splitOnP p = segments := by
  induction segments with
  | nil => exact absurd rfl hne
  | cons t segments ih =>
    have ht := List.splitOnP_eq_singleton (h t List.mem_cons_self)
    cases segments with
    | nil => simpa using ht
    | cons u segments =>
      have hrest := ih (List.cons_ne_nil _ _) fun t ht => h t (List.mem_cons_of_mem _ ht)
      rw [List.intercalate_cons_cons, List.append_assoc, List.singleton_append,
        List.splitOnP_append_cons t _ hmark, ht, hrest, List.singleton_append]

/-! ## Paths -/

/-- A path as it is written: none, where the scheme is not known, or a slash and
segments. -/
inductive IsWrittenPath (known : Bool) : List Char → Prop
  | none (h : known = false) : IsWrittenPath known []
  | segments {segments : List (List Char)} (hne : segments ≠ [])
      (h : ∀ t ∈ segments, IsWrittenSegment known t) :
      IsWrittenPath known ('/' :: ['/'].intercalate segments)

/-- What the path of a text is made of. -/
theorem pathText_eq (known : Bool) (s : List Char) :
    pathText known s =
      if !known && s.isEmpty then []
      else '/' :: ['/'].intercalate
        (resolveDots (((if s.head?.any (isPathSlash known) then s.drop 1
        else s).splitOnP (isPathSlash known)).map (percentEncode isEscapedInPath))) := rfl

/-- Every path that is read is written so. -/
theorem isWrittenPath_pathText (known : Bool) (s : List Char) :
    IsWrittenPath known (pathText known s) := by
  rw [pathText_eq]
  split
  · next h =>
    simp only [Bool.and_eq_true, Bool.not_eq_true'] at h
    exact .none h.1
  · refine .segments (resolveDots_ne_nil (by simp [List.splitOnP_ne_nil])) fun t ht => ?_
    rcases mem_resolveDots ht with rfl | ⟨ht, hhere, habove⟩
    · exact isWrittenSegment_nil known
    · obtain ⟨piece, hpiece, rfl⟩ := List.mem_map.mp ht
      exact {
        not_escaped := fun c hc => not_isEscapedInPath_of_mem_percentEncode hc
        not_slash :=
          fun c hc => not_isPathSlash_of_mem_percentEncode (of_mem_splitOnP hpiece) hc
        not_here := hhere
        not_above := habove }

/-- A written path is read as itself. -/
theorem IsWrittenPath.pathText_eq_self {known : Bool} {path : List Char}
    (h : IsWrittenPath known path) : pathText known path = path := by
  cases h with
  | none h =>
    rw [h]
    rfl
  | @segments segments hne h =>
    have hslash : isPathSlash known '/' = true := by simp [isPathSlash]
    have hsplit := splitOnP_intercalate hslash hne fun t ht => (h t ht).not_slash
    have hescape : segments.map (percentEncode isEscapedInPath) = segments :=
      (List.map_congr_left fun t ht => percentEncode_eq_self (h t ht).not_escaped).trans
        (List.map_id' segments)
    have hdots := resolveDots_eq_self fun t ht => ⟨(h t ht).not_here, (h t ht).not_above⟩
    rw [pathText_eq, if_neg (by simp), List.head?_cons, Option.any_some,
      hslash, if_pos rfl, List.drop_one, List.tail_cons, hsplit, hescape, hdots]

theorem IsWrittenPath.eq_nil_or_cons {known : Bool} {path : List Char}
    (h : IsWrittenPath known path) : path = [] ∨ ∃ rest, path = '/' :: rest := by
  cases h with
  | none => exact .inl rfl
  | segments => exact .inr ⟨_, rfl⟩

theorem IsWrittenPath.not_isEscapedInPath {known : Bool} {path : List Char}
    (h : IsWrittenPath known path) : ∀ c ∈ path, isEscapedInPath c = false := by
  have hslash : isEscapedInPath '/' = false := by decide +kernel
  cases h with
  | none => simp
  | segments hne h =>
    intro c hc
    rcases List.mem_cons.mp hc with rfl | hc
    · exact hslash
    rcases mem_intercalate hc with hc | ⟨t, ht, hc⟩
    · rwa [List.mem_singleton.mp hc]
    · exact (h t ht).not_escaped c hc

end CredRelay.Url
