import CredRelay.Proofs.Text.Trimming
import CredRelay.Proofs.Url.Paths
import CredRelay.Url.Basic
/-! Reading addresses. What was read has a host as hosts look, a port below 65536, and a
path as paths are written. In turn a host, a port and a path that were read stand, behind
a scheme, for the host that the host means there, for that port and for that path. -/
namespace CredRelay.Url

open Text

/-! ## What was read -/

/-- What holds of an address that was read under a scheme. -/
structure Location.IsReadUnder (scheme : List Char) (location : Location) : Prop where
  scheme_eq : location.scheme = scheme
  host_read : ∀ host, location.host = some host →
    host ≠ [] ∧ ∃ s, readHost (isKnown scheme) s = .ok host
  port_le : ∀ port, location.port = some port → port ≤ 65535
  path_written : IsWrittenPath (isKnown scheme) location.path

theorem readPort_le {s rest : List Char} {port : Nat}
    (h : readPort s = .ok (some port, rest)) : port ≤ 65535 := by
  rw [readPort] at h
  split at h
  · cases h
  next hle =>
  split at h
  · cases h
  simp only [Except.ok.injEq, Prod.mk.injEq] at h
  obtain ⟨h, -⟩ := h
  split at h
  · cases h
  · cases h
    omega

theorem readPortAfter_le {host s rest : List Char} {port : Nat}
    (h : readPortAfter host s = .ok (some port, rest)) : port ≤ 65535 := by
  unfold readPortAfter at h
  split at h
  · split at h
    · cases h
    · exact readPort_le h
  · cases h

/-- Both results of a step that succeeded before another one. -/
theorem bind_eq_ok_iff {α β : Type} {x : Except Fault α}
    {f : α → Except Fault β} {b : β} :
    x >>= f = .ok b ↔ ∃ a, x = .ok a ∧ f a = .ok b := by
  cases x with
  | error fault =>
    constructor
    · intro h
      cases h
    · rintro ⟨a, h, -⟩
      cases h
  | ok a =>
    constructor
    · intro h
      exact ⟨a, rfl, h⟩
    · rintro ⟨a, h, hf⟩
      cases h
      exact hf

theorem readAuthority_isReadUnder {scheme s : List Char} {more : Bool}
    {location : Location} (h : readAuthority scheme more s = .ok location) :
    location.IsReadUnder scheme := by
  simp only [readAuthority, bind_eq_ok_iff, Prod.exists] at h
  obtain ⟨user, rest, -, host, hhost, port, after, hport, h⟩ := h
  split at h
  · cases h
  · cases h
    refine ⟨rfl, ?_, ?_, isWrittenPath_pathText _ _⟩
    · intro kept hkept
      simp only at hkept
      split at hkept
      · cases hkept
      · next hne =>
        cases hkept
        exact ⟨by simpa using hne, _, hhost⟩
    · intro kept hkept
      simp only at hkept
      split at hkept
      · cases hkept
      · rw [hkept] at hport
        exact readPortAfter_le hport

/-- An address with a host was read behind two slashes, unless it is that of a file. -/
theorem readAfterScheme_isReadUnder {scheme s host : List Char} {more : Bool}
    {location : Location} (hscheme : scheme ≠ "file".toList)
    (h : readAfterScheme scheme more s = .ok location)
    (hhost : location.host = some host) : location.IsReadUnder scheme := by
  unfold readAfterScheme at h
  split at h
  · next hfile => exact absurd (by simpa using hfile) hscheme
  split at h
  · exact readAuthority_isReadUnder h
  split at h
  · exact readAuthority_isReadUnder h
  · cases h
    cases hhost

theorem readFile_scheme {scheme s : List Char} {location : Location}
    (h : readFile scheme s = .ok location) : location.scheme = scheme := by
  unfold readFile at h
  split at h
  · dsimp only at h
    split at h
    · split at h
      · cases h
        rfl
      · obtain ⟨host, -, h⟩ := bind_eq_ok_iff.mp h
        cases h
        rfl
    · cases h
      rfl
  · cases h
    rfl

theorem readAfterScheme_scheme {scheme s : List Char} {more : Bool} {location : Location}
    (h : readAfterScheme scheme more s = .ok location) : location.scheme = scheme := by
  unfold readAfterScheme at h
  split at h
  · exact readFile_scheme h
  split at h
  · exact (readAuthority_isReadUnder h).scheme_eq
  split at h
  · exact (readAuthority_isReadUnder h).scheme_eq
  · cases h
    rfl

/-- A location with a host, other than that of a file, was read under its own scheme. -/
theorem Parts.read_isReadUnder {parts : Parts} {host : List Char} {location : Location}
    (h : parts.read = .ok location) (hhost : location.host = some host)
    (hfile : location.scheme ≠ "file".toList) : location.IsReadUnder location.scheme := by
  rw [Parts.read] at h
  split at h
  · next scheme rest _ =>
    by_cases hscheme : scheme = "file".toList
    · unfold readAfterScheme at h
      rw [if_pos (by simpa using hscheme)] at h
      rw [readFile_scheme h] at hfile
      exact absurd hscheme hfile
    · have hread := readAfterScheme_isReadUnder hscheme h hhost
      rw [hread.scheme_eq]
      exact hread
  · cases h

/-! ## Hosts and ports -/

/-- The characters of hosts and ports: visible ASCII without what ends or parts an
authority. -/
def isAuthorityCharacter (c : Char) : Bool :=
  0x20 < c.toNat && c.toNat < 0x7F &&
    !(['#', '/', '<', '>', '?', '@', '\\', '^', '|'].contains c)

theorem isAuthorityCharacter_of_isHostCharacter {c : Char}
    (h : isHostCharacter c = true) : isAuthorityCharacter c = true :=
  of_isAscii (p := fun c => isHostCharacter c = true → isAuthorityCharacter c = true)
    (by decide +kernel) (isAscii_of_isHostCharacter h) h

theorem isAscii_of_isGroupCharacter {c : Char} (h : isGroupCharacter c = true) :
    isAscii c = true := by
  simp only [isGroupCharacter, Bool.or_eq_true, Bool.and_eq_true, decide_eq_true_eq,
    beq_iff_eq] at h
  rcases h with (h | ⟨-, h⟩) | rfl
  · exact isAscii_of_isDigit h
  · have hle : c.toNat ≤ 102 := h
    simp only [isAscii, decide_eq_true_eq]
    omega
  · decide

theorem isAuthorityCharacter_of_isGroupCharacter {c : Char}
    (h : isGroupCharacter c = true) : isAuthorityCharacter c = true :=
  of_isAscii (p := fun c => isGroupCharacter c = true → isAuthorityCharacter c = true)
    (by decide +kernel) (isAscii_of_isGroupCharacter h) h

theorem IsHost.isAuthorityCharacter {host : List Char} (h : IsHost host) :
    ∀ c ∈ host, isAuthorityCharacter c = true := by
  intro c hc
  cases h with
  | bracketed h =>
    rcases List.mem_append.mp hc with hc | hc
    · rcases List.mem_cons.mp hc with rfl | hc
      · decide
      · exact isAuthorityCharacter_of_isGroupCharacter (h c hc)
    · rw [List.mem_singleton.mp hc]
      decide
  | bare _ h => exact isAuthorityCharacter_of_isHostCharacter (h c hc)

/-- A host with its port. -/
def hostPort (host : List Char) (port : Nat) : List Char :=
  host ++ ':' :: Nat.toDigits 10 port

/-- The digits at the end are the port, for they stand behind a colon. -/
theorem takeWhile_reverse_hostPort (host : List Char) (port : Nat) :
    (hostPort host port).reverse.takeWhile Char.isDigit =
    (Nat.toDigits 10 port).reverse := by
  have hall : ∀ c ∈ (Nat.toDigits 10 port).reverse, c.isDigit = true :=
    fun c hc => isDigit_of_mem_toDigits (List.mem_reverse.mp hc)
  rw [hostPort, List.reverse_append, List.reverse_cons, List.append_assoc,
    List.takeWhile_append_of_pos hall]
  simp

theorem hostPort_inj {host host' : List Char} {port port' : Nat}
    (h : hostPort host port = hostPort host' port') : host = host' ∧ port = port' := by
  have hdigits : Nat.toDigits 10 port = Nat.toDigits 10 port' := by
    have hrev := takeWhile_reverse_hostPort host port
    rw [h, takeWhile_reverse_hostPort] at hrev
    exact (List.reverse_injective hrev).symm
  have hport : port = port' := decimal_injective (by rw [decimal, hdigits, decimal])
  rw [hostPort, hostPort, hport] at h
  exact ⟨List.append_cancel_right h, hport⟩

theorem IsHost.isAuthorityCharacter_hostPort {host : List Char} (h : IsHost host)
    (port : Nat) : ∀ c ∈ hostPort host port, Url.isAuthorityCharacter c = true := by
  intro c hc
  rcases List.mem_append.mp hc with hc | hc
  · exact h.isAuthorityCharacter c hc
  · rcases List.mem_cons.mp hc with rfl | hc
    · decide
    · exact isAuthorityCharacter_of_isHostCharacter
        (isHostCharacter_of_isDigit (isDigit_of_mem_toDigits hc))

/-- The characters that stay where they are when an address is parted: visible ASCII
without the marks of queries and fragments. -/
def isFrontCharacter (c : Char) : Bool :=
  0x20 < c.toNat && c.toNat < 0x7F && c != '#' && c != '?'

theorem isFrontCharacter_of_isAuthorityCharacter {c : Char}
    (h : isAuthorityCharacter c = true) : isFrontCharacter c = true := by
  simp only [isAuthorityCharacter, Bool.and_eq_true] at h
  obtain ⟨⟨hlow, hhigh⟩, hmarks⟩ := h
  simp only [isFrontCharacter, hlow, hhigh, Bool.true_and, Bool.and_eq_true, bne_iff_ne]
  constructor <;> rintro rfl <;> exact absurd hmarks (by decide)

theorem isFrontCharacter_of_not_isEscapedInPath {c : Char}
    (h : isEscapedInPath c = false) : isFrontCharacter c = true := by
  have hascii : isAscii c = true := by
    simp only [isEscapedInPath, isControlOrWide, Bool.or_eq_false_iff,
      decide_eq_false_iff_not, Nat.not_lt] at h
    simp only [isAscii, decide_eq_true_eq]
    omega
  refine of_isAscii (p := fun c => isEscapedInPath c = false →
    isFrontCharacter c = true) ?_ hascii h
  simp only [isEscapedInPath, String.reduceToList]
  decide +kernel

theorem isFrontCharacter_iff {c : Char} :
    isFrontCharacter c = true ↔ 0x20 < c.toNat ∧ c.toNat < 0x7F ∧ c ≠ '#' ∧ c ≠ '?' := by
  simp only [isFrontCharacter, Bool.and_eq_true, decide_eq_true_eq, bne_iff_ne, and_assoc]

theorem isControlOrSpace_of_isFrontCharacter {c : Char} (h : isFrontCharacter c = true) :
    isControlOrSpace c = false := by
  simpa [isControlOrSpace] using (isFrontCharacter_iff.mp h).1

theorem isLayout_of_isFrontCharacter {c : Char} (h : isFrontCharacter c = true) :
    isLayout c = false := by
  simp only [isLayout, Bool.or_eq_false_iff, beq_eq_false_iff_ne]
  refine ⟨⟨?_, ?_⟩, ?_⟩ <;> rintro rfl <;> exact absurd h (by decide)

theorem isBlank_of_isFrontCharacter {c : Char} (h : isFrontCharacter c = true) :
    isBlank c = false := by
  obtain ⟨hlow, hhigh, -⟩ := isFrontCharacter_iff.mp h
  simp only [isBlank, Bool.or_eq_false_iff, Bool.and_eq_false_iff,
    decide_eq_false_iff_not, beq_eq_false_iff_ne]
  omega

theorem trimChars_of_isFrontCharacter {s : List Char}
    (h : ∀ c ∈ s, isFrontCharacter c = true) : trimChars s = s :=
  trimWhere_eq_self fun c hc => isBlank_of_isFrontCharacter (h c hc)

/-- Nothing is dropped from such characters, whatever stands behind them. -/
theorem beforeFragment_clean_append {s : List Char}
    (h : ∀ c ∈ s, isFrontCharacter c = true) (hne : s ≠ []) (t : List Char) :
    beforeFragment (clean (s ++ t)) =
      s ++ beforeFragment ((dropEndWhile isControlOrSpace t).filter fun c =>
        !isLayout c) := by
  have hkeep : s.filter (fun c => !isLayout c) = s :=
    List.filter_eq_self.mpr fun c hc => by simp [isLayout_of_isFrontCharacter (h c hc)]
  rw [clean, trimWhere_append
    (fun c hc => isControlOrSpace_of_isFrontCharacter (h c hc)) hne,
    List.filter_append, hkeep]
  exact List.takeWhile_append_of_pos fun c hc => by
    simpa using (isFrontCharacter_iff.mp (h c hc)).2.2.1

/-- A text behind such characters is parted where it stands. -/
theorem Parts.exists_front_append {s : List Char} (h : ∀ c ∈ s, isFrontCharacter c = true)
    (hne : s ≠ []) (t : List Char) :
    ∃ rest, (Parts.ofChars (s ++ t)).front = s ++ rest := by
  have hquestion : '?' ∉ s := fun hmem => absurd (h _ hmem) (by decide)
  simp only [Parts.ofChars, beforeFragment_clean_append h hne,
    cut_append_of_not_mem hquestion]
  cases cut '?' _ <;> exact ⟨_, rfl⟩

/-- A text of such characters is all front. -/
theorem Parts.ofChars_eq_front {s : List Char} (h : ∀ c ∈ s, isFrontCharacter c = true) :
    Parts.ofChars s = ⟨s, none, false⟩ := by
  have hclean : clean s = s := by
    rw [clean, trimWhere_eq_self fun c hc =>
      isControlOrSpace_of_isFrontCharacter (h c hc)]
    exact List.filter_eq_self.mpr fun c hc => by
      simp [isLayout_of_isFrontCharacter (h c hc)]
  have hfragment : beforeFragment s = s :=
    List.takeWhile_eq_self_iff.mpr fun c hc => by
      simpa using (isFrontCharacter_iff.mp (h c hc)).2.2.1
  have hquery : cut '?' s = none := cut_eq_none fun hmem => absurd (h _ hmem) (by decide)
  rw [Parts.ofChars]
  simp only [hclean, hfragment, hquery]
  simp

theorem hostLength_append_of_bare {isSlash : Char → Bool} {s : List Char}
    (h : ∀ c ∈ s, isSlash c = false ∧ c ≠ ':' ∧ c ≠ '[') (t : List Char) :
    hostLength isSlash false (s ++ t) = s.length + hostLength isSlash false t := by
  induction s with
  | nil => simp
  | cons c s ih =>
    obtain ⟨hslash, hcolon, hbracket⟩ := h c List.mem_cons_self
    have ih := ih fun d hd => h d (List.mem_cons_of_mem c hd)
    simp only [List.cons_append, hostLength, hslash, beq_false_of_ne hcolon,
      beq_false_of_ne hbracket, Bool.false_and, Bool.or_self, Bool.false_eq_true,
      if_false, ih, List.length_cons]
    omega

theorem hostLength_append_of_bracketed {isSlash : Char → Bool} {s : List Char}
    (h : ∀ c ∈ s, isSlash c = false ∧ c ≠ ']') (t : List Char) :
    hostLength isSlash true (s ++ t) = s.length + hostLength isSlash true t := by
  induction s with
  | nil => simp
  | cons c s ih =>
    obtain ⟨hslash, hbracket⟩ := h c List.mem_cons_self
    have ih := ih fun d hd => h d (List.mem_cons_of_mem c hd)
    have hstay : (c == '[' || (true && c != ']')) = true := by simp [hbracket]
    simp only [List.cons_append, hostLength, hslash, Bool.not_true, Bool.and_false,
      Bool.or_self, Bool.false_eq_true, if_false, hstay, ih, List.length_cons]
    omega

/-- The host before a port ends at the colon of the port. -/
theorem hostLength_hostPort {isSlash : Char → Bool} {host : List Char} (h : IsHost host)
    (hslash : ∀ c, isAuthorityCharacter c = true → isSlash c = false) (port : Nat)
    (path : List Char) :
    hostLength isSlash false (hostPort host port ++ path) = host.length := by
  have hcolon : hostLength isSlash false (':' :: (Nat.toDigits 10 port ++ path)) = 0 := by
    simp [hostLength]
  rw [hostPort, List.append_assoc, List.cons_append]
  cases h with
  | bare _ h =>
    rw [hostLength_append_of_bare, hcolon, Nat.add_zero]
    intro c hc
    refine ⟨hslash c (isAuthorityCharacter_of_isHostCharacter (h c hc)), ?_, ?_⟩ <;>
      rintro rfl <;> exact absurd (h _ hc) (by decide)
  | @bracketed s h =>
    -- Between brackets a colon is no end of the host, so the count goes on to the
    -- closing one.
    have hopen : isSlash '[' = false := hslash _ (by decide)
    have hclose : isSlash ']' = false := hslash _ (by decide)
    have hrest : hostLength isSlash true (']' :: ':' :: (Nat.toDigits 10 port ++ path)) =
        1 := by
      simp [hostLength, hclose]
    have hinner :
        hostLength isSlash true (s ++ ']' :: ':' :: (Nat.toDigits 10 port ++ path)) =
        s.length + 1 := by
      rw [hostLength_append_of_bracketed, hrest]
      intro c hc
      refine ⟨hslash c (isAuthorityCharacter_of_isGroupCharacter (h c hc)), ?_⟩
      rintro rfl
      exact absurd (h _ hc) (by decide)
    have hall : '[' :: s ++ [']'] ++ ':' :: (Nat.toDigits 10 port ++ path) =
        '[' :: (s ++ ']' :: ':' :: (Nat.toDigits 10 port ++ path)) := by simp
    rw [hall, hostLength]
    simp [hopen, hinner]

/-- Whether a text can stand behind a port: it is empty or starts with a slash. -/
def FollowsPort (s : List Char) : Prop :=
  s = [] ∨ ∃ rest, s = '/' :: rest

theorem takeWhile_append_of_followsPort {p : Char → Bool} {s path : List Char}
    (hs : ∀ c ∈ s, p c = true) (hpath : FollowsPort path) (hslash : p '/' = false) :
    (s ++ path).takeWhile p = s ∧ (s ++ path).dropWhile p = path := by
  rw [List.takeWhile_append_of_pos hs, List.dropWhile_append_of_pos hs]
  rcases hpath with rfl | ⟨rest, rfl⟩
  · simp
  · simp [hslash]

theorem readPort_toDigits {port : Nat} (h : port ≤ 65535) {path : List Char}
    (hpath : FollowsPort path) :
    readPort (Nat.toDigits 10 port ++ path) = .ok (some port, path) := by
  obtain ⟨htake, hdrop⟩ := takeWhile_append_of_followsPort (s := Nat.toDigits 10 port)
    (p := Char.isDigit) (fun c hc => isDigit_of_mem_toDigits hc) hpath (by decide)
  have hread : numeral? 10 (Nat.toDigits 10 port) = some port :=
    numeral?_toDigits (by decide) (by decide) port
  have hne : (Nat.toDigits 10 port).isEmpty = false := by
    simp [Nat.toDigits_ne_nil]
  have hend : path.head?.any (fun c => c != '/' && c != '\\') = false := by
    rcases hpath with rfl | ⟨rest, rfl⟩ <;> rfl
  simp only [readPort, htake, hdrop, hread, Option.getD_some, Nat.not_lt.mpr h,
    if_false, hne, hend]
  simp

theorem readUser_of_isAuthorityCharacter {isSlash : Char → Bool} {s path : List Char}
    (h : ∀ c ∈ s, isAuthorityCharacter c = true) (hpath : FollowsPort path)
    (hslash : ∀ c, isAuthorityCharacter c = true → isSlash c = false)
    (hend : isSlash '/' = true) :
    readUser isSlash false (s ++ path) = .ok ([], s ++ path) := by
  obtain ⟨htake, -⟩ := takeWhile_append_of_followsPort (s := s) (p := fun c => !isSlash c)
    (fun c hc => by simp [hslash c (h c hc)]) hpath (by simp [hend])
  have hat : '@' ∉ s := fun hmem => absurd (h _ hmem) (by decide)
  have huser : cutUser s = none := by
    simp [cutUser, hat]
  simp only [readUser, htake, huser]

theorem ne_nil_of_readHost {known : Bool} {host found : List Char} (h : IsHost host)
    (hfound : readHost known host = .ok found) : found ≠ [] := by
  rw [readHost] at hfound
  split at hfound
  · split at hfound
    · cases hfound
    · exact (knownHost_eq_ok hfound).ne_nil
  · cases h with
    | bracketed h =>
      rw [otherHost, if_pos (by simp)] at hfound
      obtain ⟨bits, rfl⟩ := bracketed?_eq_ok hfound
      exact List.cons_ne_nil _ _
    | bare hne h =>
      rw [otherHost_of_bare h] at hfound
      cases hfound
      exact hne

/-- What a host, a port and a path stand for behind two slashes. -/
theorem readAuthority_hostPort {host : List Char} (h : IsHost host) {port : Nat}
    (hport : port ≤ 65535) {path : List Char} (hpath : FollowsPort path)
    (scheme : List Char) : readAuthority scheme false (hostPort host port ++ path) =
      (readHost (isKnown scheme) host).map fun found => {
        scheme := scheme
        host := some found
        port := if some port == usualPort? scheme then none else some port
        path := pathText (isKnown scheme) path } := by
  have hslash : ∀ c, isAuthorityCharacter c = true →
      (c == '/' || (isKnown scheme && c == '\\')) = false := by
    intro c hc
    rw [Bool.or_eq_false_iff, Bool.and_eq_false_iff, beq_eq_false_iff_ne,
      beq_eq_false_iff_ne]
    refine ⟨?_, .inr ?_⟩ <;> rintro rfl <;> exact absurd hc (by decide)
  have huser := readUser_of_isAuthorityCharacter
    (h.isAuthorityCharacter_hostPort port) hpath hslash rfl
  have hlength := hostLength_hostPort h hslash port path
  have htake : (hostPort host port ++ path).take host.length = host := by simp [hostPort]
  have hdrop : (hostPort host port ++ path).drop host.length =
      ':' :: (Nat.toDigits 10 port ++ path) := by
    simp [hostPort]
  -- All that is left to decide is whether the host is one; the port always is.
  simp only [readAuthority, huser, bind, Except.bind, hlength, htake, hdrop]
  cases hhost : readHost (isKnown scheme) host with
  | error fault => rfl
  | ok found =>
    have hfound : found.isEmpty = false := by simp [ne_nil_of_readHost h hhost]
    have hafter : readPortAfter found (':' :: (Nat.toDigits 10 port ++ path)) =
        .ok (some port, path) := by
      rw [readPortAfter, hfound]
      exact readPort_toDigits hport hpath
    simp only [hafter, hfound, Bool.false_and, Bool.false_eq_true, if_false]
    simp [Except.map, pure, Except.pure]

end CredRelay.Url
