import CredRelay.Proofs.Registry.Identifier
import CredRelay.Proofs.Registry.Schemes
import CredRelay.Proofs.Url.HostRoundTrip
/-! The address of a registry spelled out: scheme, host, port and path. It is read as
these four parts, where only the host can be refused or changed. A registry that was read
and has none behind is what its own address means, if its host stands for itself under the
scheme; every host does but names with a Punycode label that is too long to be read. -/
namespace CredRelay.Registry

open Text Url

/-! ## Addresses without parameters -/

/-- An address that carries no other one is read by itself. -/
theorem ofChars_eq_readPlain {address : List Char}
    (h : behindAddress? (complete (trimChars address)) = none) :
    ofChars address = readPlain (complete (trimChars address)) := by
  rw [ofChars]
  cases hplain : readPlain (complete (trimChars address)) with
  | error failure => rfl
  | ok registry =>
    dsimp only
    split
    · rfl
    · next inner hinner =>
      rw [h] at hinner
      cases hinner

/-! ## Spelled addresses -/

/-- A scheme, a host with its port, and a path. -/
def spelled (scheme : Scheme) (host : List Char) (port : Nat) (path : List Char) :
    List Char :=
  scheme.text.toList ++ schemeMark ++ (Url.hostPort host port ++ path)

variable {scheme : Scheme} {host path : List Char} {port : Nat}

/-- Whether a path can stand behind a host with its port and before the end of an
address. -/
structure IsSpellable (path : List Char) : Prop where
  followsPort : FollowsPort path
  isFrontCharacter : ∀ c ∈ path, isFrontCharacter c = true

theorem isSpellable_nil : IsSpellable [] where
  followsPort := .inl rfl
  isFrontCharacter := by simp

theorem isFrontCharacter_of_mem_spelled (h : IsHost host) (hpath : IsSpellable path) :
    ∀ c ∈ spelled scheme host port path, isFrontCharacter c = true := by
  intro c hc
  rcases List.mem_append.mp hc with hc | hc
  · rcases List.mem_append.mp hc with hc | hc
    · exact isFrontCharacter_of_mem_text scheme c hc
    · exact isFrontCharacter_of_mem_schemeMark c hc
  · rcases List.mem_append.mp hc with hc | hc
    · exact isFrontCharacter_of_isAuthorityCharacter
        (h.isAuthorityCharacter_hostPort port c hc)
    · exact hpath.isFrontCharacter c hc

theorem ofChars_spelled (h : IsHost host) (hpath : IsSpellable path) :
    Parts.ofChars (spelled scheme host port path) =
      ⟨spelled scheme host port path, none, false⟩ :=
  Parts.ofChars_eq_front (isFrontCharacter_of_mem_spelled h hpath)

theorem scheme?_spelled :
    scheme? (spelled scheme host port path) =
      some (scheme.text.toList, '/' :: '/' :: (Url.hostPort host port ++ path)) := by
  cases scheme <;> rfl

/-- Behind the two slashes of a spelled address its host is read. -/
theorem read_spelled (h : IsHost host) (hpath : IsSpellable path) :
    (Parts.ofChars (spelled scheme host port path)).read =
      readAuthority scheme.text.toList false (Url.hostPort host port ++ path) := by
  rw [ofChars_spelled h hpath, Parts.read, scheme?_spelled]
  cases scheme with
  | https =>
    -- The host starts with no slash, so just the two are dropped.
    obtain ⟨c, rest, hhost⟩ := List.exists_cons_of_ne_nil h.ne_nil
    have hchar : isAuthorityCharacter c = true :=
      h.isAuthorityCharacter c (by simp [hhost])
    have hslash : (c == '/' || c == '\\') = false := by
      rw [Bool.or_eq_false_iff, beq_eq_false_iff_ne, beq_eq_false_iff_ne]
      constructor <;> rintro rfl <;> exact absurd hchar (by decide)
    have hdrop : ('/' :: '/' :: (Url.hostPort host port ++ path)).dropWhile
        (fun c => c == '/' || c == '\\') = Url.hostPort host port ++ path := by
      rw [List.dropWhile_cons_of_pos (by decide), List.dropWhile_cons_of_pos (by decide),
        Url.hostPort, hhost]
      exact List.dropWhile_cons_of_neg (by simp [hslash])
    have hfile : (Scheme.https.text.toList == "file".toList) = false := by decide
    simp only [readAfterScheme, hfile, isKnown_https, hdrop, Bool.false_eq_true,
      if_false, if_true]
  | proxy =>
    have hfile : (Scheme.proxy.text.toList == "file".toList) = false := by decide
    simp only [readAfterScheme, hfile, isKnown_proxy, Bool.false_eq_true, if_false]

/-- The registry at a path that was read; a path of nothing but a slash counts as none. -/
def located (scheme : Scheme) (host : List Char) (port : Nat) (path : List Char) :
    Registry where
  scheme := scheme
  host := String.ofList host
  port := port
  path := if path = ['/'] then "" else String.ofList path
  behind := none

theorem getD_givenPort (scheme : Scheme) (port : Nat) :
    (if some port == usualPort? scheme.text.toList then none else some port).getD
      standardPort = port := by
  cases scheme with
  | https =>
    have husual : usualPort? Scheme.https.text.toList = some standardPort := by decide
    rw [husual]
    split
    · next heq => exact (Option.some.inj (beq_iff_eq.mp heq)).symm
    · rfl
  | proxy =>
    have husual : usualPort? Scheme.proxy.text.toList = none := by decide
    rw [husual]
    rfl

/-- The registry that a spelled address means, where its host is one under the scheme. -/
theorem readPlain_spelled (h : IsHost host) (hport : port ≤ 65535)
    (hpath : IsSpellable path) : readPlain (spelled scheme host port path) =
      match readHost (isKnown scheme.text.toList) host with
      | .error fault => .error (unparsable (spelled scheme host port path) fault.message)
      | .ok found =>
        .ok (located scheme found port (pathText (isKnown scheme.text.toList) path)) := by
  unfold readPlain
  rw [read_spelled h hpath, readAuthority_hostPort h hport hpath.followsPort]
  cases readHost (isKnown scheme.text.toList) host with
  | error fault => rfl
  | ok found =>
    simp only [Except.map, getD_givenPort]
    cases scheme with
    | https => exact if_pos rfl
    | proxy => exact (if_neg (by decide)).trans (if_pos rfl)

theorem complete_spelled (h : IsHost host) (hpath : IsSpellable path) :
    complete (trimChars (spelled scheme host port path)) =
      spelled scheme host port path := by
  have hhttp : sameLetters (String.ofList scheme.text.toList) "http" = false := by
    cases scheme <;> decide
  rw [trimChars_of_isFrontCharacter (isFrontCharacter_of_mem_spelled h hpath), spelled,
    complete_schemeMark (isSchemeName_text scheme), hhttp, if_neg Bool.false_ne_true]

/-- What a spelled address means. -/
theorem ofChars_spelled_eq_ok_iff (h : IsHost host) (hport : port ≤ 65535)
    (hpath : IsSpellable path) {r : Registry} :
    ofChars (spelled scheme host port path) = .ok r ↔
      ∃ found, readHost (isKnown scheme.text.toList) host = .ok found ∧
        r = located scheme found port (pathText (isKnown scheme.text.toList) path) := by
  have hbehind : behindAddress? (complete (trimChars (spelled scheme host port path))) =
      none := by
    rw [complete_spelled h hpath, behindAddress?, ofChars_spelled h hpath]
    rfl
  rw [ofChars_eq_readPlain hbehind, complete_spelled h hpath,
    readPlain_spelled h hport hpath]
  cases readHost (isKnown scheme.text.toList) host with
  | error fault => simp
  | ok found =>
    constructor
    · rintro ⟨⟩
      exact ⟨found, rfl, rfl⟩
    · rintro ⟨other, hother, rfl⟩
      cases hother
      rfl

/-! ## Registries spelled out -/

theorem toList_text (r : Registry) :
    r.text.toList = spelled r.scheme r.host.toList r.port r.path.toList := by
  simp [text, spelled, toList_hostPort, schemeMark]

theorem IsRead.isSpellable {r : Registry} (h : r.IsRead) : IsSpellable r.path.toList where
  followsPort := by
    rcases h.path_shape with hpath | hpath
    · exact .inl (by simp [hpath])
    · exact .inr hpath
  isFrontCharacter :=
    fun c hc => isFrontCharacter_of_not_isEscapedInPath (h.not_isEscapedInPath c hc)

theorem pathText_nil_eq (known : Bool) :
    (if pathText known [] = ['/'] then "" else String.ofList (pathText known [])) =
      "" := by
  cases known <;> decide

/-- With its host found, a registry that was read is found with its own port and path. -/
theorem IsRead.located_eq {r : Registry} (h : r.IsRead) (hbehind : r.behind = none)
    (found : List Char) :
    located r.scheme found r.port
      (pathText (isKnown r.scheme.text.toList) r.path.toList) =
      { r with host := String.ofList found } := by
  have hpath : (if pathText (isKnown r.scheme.text.toList) r.path.toList = ['/'] then ""
      else String.ofList (pathText (isKnown r.scheme.text.toList) r.path.toList)) =
        r.path := by
    rcases h.path_written with hpath | ⟨hpath, hslash⟩
    · rw [hpath, String.toList_empty, pathText_nil_eq]
    · rw [hpath.pathText_eq_self, if_neg hslash, String.ofList_toList]
  rw [located, hpath, hbehind]

/-- Whether the host of a registry is read as itself under the scheme. -/
def HostStands (r : Registry) : Prop :=
  readHost (isKnown r.scheme.text.toList) r.host.toList = .ok r.host.toList

/-- The host of a registry that was read stands for itself, unless it is a name under
HTTPS with a label that is too long to be read. -/
theorem IsRead.hostStands_iff {r : Registry} (h : r.IsRead) :
    r.HostStands ↔ (r.scheme = .https → HasShortLabels r.host.toList) := by
  have hne : r.host.toList.isEmpty = false :=
    List.isEmpty_eq_false_iff.mpr h.host_shape.ne_nil
  rw [HostStands, readHost, hne]
  cases hscheme : r.scheme with
  | https =>
    obtain ⟨s, hs⟩ := h.host_known hscheme
    rw [isKnown_https, if_pos rfl, if_neg Bool.false_ne_true, knownHost_again_iff hs]
    simp
  | proxy =>
    obtain ⟨s, hs⟩ := h.host_read
    rw [hscheme, isKnown_proxy, readHost, if_neg Bool.false_ne_true] at hs
    rw [isKnown_proxy, if_neg Bool.false_ne_true]
    exact iff_of_true (otherHost_again hs) fun h => absurd h (by decide)

/-- A registry that was read and has none behind is what its own address means, if its
host stands for itself under its scheme; and so does every host that was read, but a name
under HTTPS with a Punycode label that is too long to be read. -/
theorem ofString_text_iff_and_hostStands_iff {address : String} {r : Registry}
    (h : ofString address = .ok r) (hbehind : r.behind = none) :
    (ofString r.text = .ok r ↔ r.HostStands) ∧
      (r.HostStands ↔ (r.scheme = .https → HasShortLabels r.host.toList)) := by
  obtain ⟨own, -⟩ := ofString_isReadThrough h
  refine ⟨?_, own.hostStands_iff⟩
  rw [ofString, toList_text,
    ofChars_spelled_eq_ok_iff own.host_shape own.port_le own.isSpellable]
  constructor
  · rintro ⟨found, hfound, hsame⟩
    rw [own.located_eq hbehind] at hsame
    have hhost : r.host = String.ofList found := congrArg Registry.host hsame
    rw [HostStands, hfound, hhost, String.toList_ofList]
  · intro hstands
    refine ⟨r.host.toList, hstands, ?_⟩
    rw [own.located_eq hbehind, String.ofList_toList]
    cases r
    rfl

/-- A proxy with a user, a path that is resolved and escaped, and parameters that name no
registry. -/
theorem ofString_text_of_resolved_path :
    let r : Registry := ⟨.proxy, "Mirror%41.example", 443, "/v2/b%20c", none⟩
    ofString "nerdctl-experimental://user@Mirror%41.example/v2/a/../b c?ns=&x#y" = .ok r ∧
      ofString "nerdctl-experimental://Mirror%41.example:443/v2/b%20c" = .ok r := by
  intro r
  have hread :
      ofString "nerdctl-experimental://user@Mirror%41.example/v2/a/../b c?ns=&x#y" =
        .ok r :=
    eq_ok_of_toOption (by decide +kernel)
  have htext : r.text = "nerdctl-experimental://Mirror%41.example:443/v2/b%20c" := by
    decide +kernel
  obtain ⟨hagain, hstands⟩ := ofString_text_iff_and_hostStands_iff hread rfl
  exact ⟨hread, htext ▸ hagain.mpr (hstands.mpr fun h => absurd h (by decide))⟩

end CredRelay.Registry
