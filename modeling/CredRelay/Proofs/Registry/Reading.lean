import CredRelay.Proofs.Url.Addresses
import CredRelay.Registry.Identifier
/-! What holds of every registry that an address means, and of each registry behind it:
its host looks as hosts do and was read under its scheme, its port fits, and its path is
written as paths are. -/
namespace CredRelay.Registry

open Text Url

/-- What holds of a registry that was read, whatever is behind it. -/
structure IsRead (r : Registry) : Prop where
  host_shape : IsHost r.host.toList
  host_read : ∃ s, readHost (isKnown r.scheme.text.toList) s = .ok r.host.toList
  port_le : r.port ≤ 65535
  path_written : r.path = "" ∨
    (IsWrittenPath (isKnown r.scheme.text.toList) r.path.toList ∧ r.path.toList ≠ ['/'])

/-- What holds of a registry that was read and of the chain of registries behind it. -/
inductive IsReadThrough : Registry → Prop
  | intro {r : Registry} (own : r.IsRead)
      (behind : ∀ inner, r.behind = some inner → IsReadThrough inner) : IsReadThrough r

/-! ## One registry -/

theorem IsRead.withBehind {r : Registry} (h : r.IsRead) (behind : Option Registry) :
    IsRead { r with behind := behind } where
  host_shape := h.host_shape
  host_read := h.host_read
  port_le := h.port_le
  path_written := h.path_written

theorem isKnown_https : isKnown Scheme.https.text.toList = true := by decide

theorem isKnown_proxy : isKnown Scheme.proxy.text.toList = false := by decide

theorem IsRead.host_known {r : Registry} (h : r.IsRead) (hscheme : r.scheme = .https) :
    ∃ s, knownHost s = .ok r.host.toList := by
  obtain ⟨s, hs⟩ := h.host_read
  rw [hscheme, isKnown_https, readHost, if_pos rfl] at hs
  split at hs
  · cases hs
  · exact ⟨s, hs⟩

theorem IsRead.path_shape {r : Registry} (h : r.IsRead) :
    r.path = "" ∨ ∃ rest, r.path.toList = '/' :: rest := by
  rcases h.path_written with hpath | ⟨hpath, -⟩
  · exact .inl hpath
  · rcases hpath.eq_nil_or_cons with hnil | hcons
    · exact .inl (String.toList_eq_nil_iff.mp hnil)
    · exact .inr hcons

theorem IsRead.not_isEscapedInPath {r : Registry} (h : r.IsRead) :
    ∀ c ∈ r.path.toList, isEscapedInPath c = false := by
  rcases h.path_written with hpath | ⟨hpath, -⟩
  · simp [hpath]
  · exact hpath.not_isEscapedInPath

theorem IsRead.question_not_mem_path {r : Registry} (h : r.IsRead) :
    '?' ∉ r.path.toList :=
  fun hmem => absurd (h.not_isEscapedInPath _ hmem) (by decide +kernel)

theorem isHost_of_readHost {known : Bool} {s host : List Char}
    (h : readHost known s = .ok host) (hne : host ≠ []) : IsHost host := by
  rw [readHost] at h
  split at h
  · split at h
    · cases h
    · exact knownHost_eq_ok h
  · exact otherHost_eq_ok h hne

/-- A location read under one of the two schemes makes a registry. -/
theorem isRead_of_isReadUnder {scheme : Scheme} {host : List Char} {location : Location}
    (h : location.IsReadUnder scheme.text.toList) (hhost : location.host = some host) :
    IsRead {
      scheme := scheme
      host := String.ofList host
      port := location.port.getD standardPort
      path := if location.path = ['/'] then "" else String.ofList location.path
      behind := none } := by
  obtain ⟨hne, s, hs⟩ := h.host_read host hhost
  constructor
  · rw [String.toList_ofList]
    exact isHost_of_readHost hs hne
  · exact ⟨s, by rw [String.toList_ofList]; exact hs⟩
  · cases hport : location.port with
    | none => exact (by decide : standardPort ≤ 65535)
    | some port => exact h.port_le port hport
  · dsimp only
    split
    · exact .inl rfl
    · next hslash =>
      rw [String.toList_ofList]
      exact .inr ⟨h.path_written, hslash⟩

/-- What was read of an address without its parameters. -/
theorem readPlain_eq_ok {address : List Char} {r : Registry}
    (h : readPlain address = .ok r) : r.IsRead ∧ r.behind = none := by
  unfold readPlain at h
  split at h
  · cases h
  next location hlocation =>
  dsimp only at h
  have hmade : ∀ (scheme : Scheme) (host : List Char),
      location.scheme = scheme.text.toList →
      location.host = some host → location.IsReadUnder scheme.text.toList := by
    intro scheme host hscheme hhost
    have hfile : location.scheme ≠ "file".toList := by
      rw [hscheme]
      cases scheme <;> decide
    rw [← hscheme]
    exact Parts.read_isReadUnder hlocation hhost hfile
  split at h
  · next hscheme =>
    split at h
    · cases h
    · next host hhost =>
      cases h
      exact ⟨isRead_of_isReadUnder (hmade .https host hscheme hhost) hhost, rfl⟩
  split at h
  · next hscheme =>
    split at h
    · cases h
    · next host hhost =>
      cases h
      exact ⟨isRead_of_isReadUnder (hmade .proxy host hscheme hhost) hhost, rfl⟩
  · cases h

/-! ## The chain -/

/-- Every address that is read is read all through. -/
theorem ofChars_isReadThrough {address : List Char} {r : Registry}
    (h : ofChars address = .ok r) : r.IsReadThrough := by
  fun_induction ofChars address generalizing r with
  | case1 => cases h
  | case2 address full own =>
    rename_i hplain hbehind
    cases h
    obtain ⟨hown, hnone⟩ := readPlain_eq_ok hplain
    refine .intro hown fun inner hinner => ?_
    rw [hnone] at hinner
    cases hinner
  | case3 => cases h
  | case4 address full own =>
    rename_i hplain inner hinner behind hbehind ih
    cases h
    refine .intro ((readPlain_eq_ok hplain).1.withBehind (some behind))
      fun other hother => ?_
    cases hother
    exact ih hbehind

theorem ofString_isReadThrough {address : String} {r : Registry}
    (h : ofString address = .ok r) : r.IsReadThrough :=
  ofChars_isReadThrough h

end CredRelay.Registry
