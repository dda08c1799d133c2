import CredRelay.Proofs.Host.Tree
import CredRelay.Relay.Service
/-! What listening can come to. For a socket directories are made, at most something that
does not answer is removed, and then either a new socket stands at the path or the attempt
has failed; it fails for an endpoint in use only where the path answers. For a network
address no file is touched. -/
namespace CredRelay.Relay

open Host Tree

theorem grows_of_makeSocketDir_eq_ok {path : String} {tree made : Tree}
    (h : makeSocketDir path tree = .ok made) : Grows .directory tree made := by
  rw [makeSocketDir] at h
  split at h
  · cases h
    exact .refl _ _
  · split at h
    · cases h
    · next hmade =>
        exact (grows_of_makeDirectories_eq_ok hmade).trans (grows_of_setMode_eq_ok h)

theorem kind?_eq_socket_of_makeSocketDir {path : String} {tree made : Tree}
    {x : List String} {id : Nat} (h : makeSocketDir path tree = .ok made)
    (hx : made.kind? x = some (.socket id)) : tree.kind? x = some (.socket id) := by
  rcases (grows_of_makeSocketDir_eq_ok h).new hx with hx | hx
  · exact hx
  · cases hx

/-- A tree in which at most what does not answer at a path was removed. -/
inductive Cleared (path : String) (site : Site) : Tree → Prop
  | kept : Cleared path site site.tree
  | removed {place : List String} (hlive : site.isLive path = false)
      (htarget : site.tree.target? path = some (key place))
      (hkind : site.tree.kind? place ≠ some .directory) :
      Cleared path site (site.tree.remove place)

theorem Cleared.kind?_eq_socket {path : String} {site : Site} {tree : Tree}
    {x : List String} {id : Nat} (h : Cleared path site tree)
    (hx : tree.kind? x = some (.socket id)) : site.tree.kind? x = some (.socket id) := by
  cases h with
  | kept => exact hx
  | removed => exact kind?_eq_of_kind?_remove_eq hx

/-- A path is cleared, or it answers, or the system refuses. -/
theorem clearSocket_cases (path : String) (site : Site) :
    (∃ tree, clearSocket path site = .ok { site with tree } ∧ Cleared path site tree) ∨
      (site.isLive path = true ∧ clearSocket path site = .error (.endpointInUse path)) ∨
      ∃ reason, clearSocket path site = .error (.io reason) := by
  rw [clearSocket]
  split
  · split
    · next hlive => exact .inr (.inl ⟨hlive, rfl⟩)
    · next hlive =>
      split
      · next tree hunlink =>
        obtain ⟨place, htarget, hkind, rfl⟩ := exists_remove_of_unlink_eq_ok hunlink
        exact .inl ⟨_, rfl, .removed (by simpa using hlive) htarget hkind⟩
      · exact .inr (.inr ⟨_, rfl⟩)
  · exact .inl ⟨_, rfl, .kept⟩

/-- A new socket has the next number, and everything else stays; or the system refuses. -/
theorem openSocket_cases (path : String) (site : Site) :
    (∃ tree place, openSocket path site = .ok (site.nextSocket,
        { site with
          tree
          sockets := site.nextSocket :: site.sockets
          nextSocket := site.nextSocket + 1 }) ∧
      Gains site.tree tree path place site.nextSocket) ∨
      ∃ reason, openSocket path site = .error (.io reason) := by
  rw [openSocket, Site.listenUnix]
  cases checkSocketPath path with
  | error fault => exact .inr ⟨_, rfl⟩
  | ok =>
    cases hbind : site.tree.bindSocket path site.nextSocket with
    | error fault => exact .inr ⟨_, rfl⟩
    | ok bound =>
      obtain ⟨place, hgains⟩ := exists_gains_of_bindSocket_eq_ok hbind
      dsimp only
      cases hmode : bound.setMode path 0o600 with
      | error fault => exact .inr ⟨_, rfl⟩
      | ok tree => exact .inl ⟨tree, place, rfl, hgains.setMode hmode⟩

/-- What an attempt to listen on a path comes to: no directory for it, an endpoint in use,
another refusal, or a new socket. -/
inductive BindOutcome (path : String) (site : Site) : Except Failure Active × Site → Prop
  | noDirectory (reason : String) : BindOutcome path site (.error (.io reason), site)
  | inUse {made : Tree} (hmade : makeSocketDir path site.tree = .ok made)
      (hlive : { site with tree := made }.isLive path = true) :
      BindOutcome path site (.error (.endpointInUse path), { site with tree := made })
  | refused {made tree : Tree} (reason : String)
      (hmade : makeSocketDir path site.tree = .ok made)
      (hcleared : Cleared path { site with tree := made } tree) :
      BindOutcome path site (.error (.io reason), { site with tree })
  | bound {made cleared tree : Tree} {place : List String}
      (hmade : makeSocketDir path site.tree = .ok made)
      (hcleared : Cleared path { site with tree := made } cleared)
      (hgains : Gains cleared tree path place site.nextSocket) :
      BindOutcome path site (.ok ⟨.unix path, .unix site.nextSocket, none⟩,
        { site with
          tree
          sockets := site.nextSocket :: site.sockets
          nextSocket := site.nextSocket + 1 })

/-- An attempt to listen that fails leaves no new socket behind. -/
theorem BindOutcome.of_error {path : String} {failure : Failure} {site after : Site}
    (h : BindOutcome path site (.error failure, after)) :
    after.nextSocket = site.nextSocket ∧ after.sockets = site.sockets ∧
      ∀ {x id}, after.tree.kind? x = some (.socket id) →
        site.tree.kind? x = some (.socket id) := by
  cases h with
  | noDirectory => exact ⟨rfl, rfl, fun hx => hx⟩
  | inUse hmade => exact ⟨rfl, rfl, fun hx => kind?_eq_socket_of_makeSocketDir hmade hx⟩
  | refused reason hmade hcleared =>
    exact ⟨rfl, rfl, fun hx => kind?_eq_socket_of_makeSocketDir hmade
      (hcleared.kind?_eq_socket hx)⟩

theorem bindUnix_outcome (path : String) (site : Site) :
    BindOutcome path site (bindUnix path site) := by
  -- the equations of the two are slow to make
  delta bindUnix openPath
  cases hmade : makeSocketDir path site.tree with
  | error fault => exact .noDirectory _
  | ok made =>
    dsimp only
    rcases clearSocket_cases path { site with tree := made } with
      ⟨cleared, hclear, hcleared⟩ | ⟨hlive, hclear⟩ | ⟨reason, hclear⟩
    · rw [hclear]
      dsimp only
      rcases openSocket_cases path { site with tree := cleared } with
        ⟨tree, place, hopen, hgains⟩ | ⟨reason, hopen⟩
      · rw [hopen]
        exact .bound hmade hcleared hgains
      · rw [hopen]
        exact .refused reason hmade hcleared
    · rw [hclear]
      exact .inUse hmade hlive
    · rw [hclear]
      exact .refused reason hmade .kept

theorem openAddress_cases (address : Net.SocketAddress) (allowed : List Net.Network)
    (site : Site) :
    (∃ failure, openAddress address allowed site = (.error failure, site)) ∨
      ∃ after, openAddress address allowed site =
        (.ok (site.boundAddress address), after) ∧
        after.tree = site.tree := by
  rw [openAddress, Site.listenTcp]
  cases site.interfaces.listens address with
  | error fault => exact .inl ⟨_, rfl⟩
  | ok =>
    by_cases hclash :
      site.addresses.any (clash (site.boundAddress address) ·.address) = true
    · simp only [hclash, if_true]
      exact .inl ⟨_, rfl⟩
    · simp only [hclash]
      exact .inr ⟨_, rfl, rfl⟩

/-- Listening on a network address leaves the files alone. -/
theorem bindTcp_cases (s : Settings) (address : Net.SocketAddress) (site : Site) :
    (∃ failure, bindTcp s address site = (.error failure, site)) ∨
      ∃ after, bindTcp s address site =
          (.ok ⟨.tcp (site.boundAddress address), .tcp (site.boundAddress address), none⟩,
            after) ∧
        after.tree = site.tree := by
  rw [bindTcp]
  cases Net.networks s.allowedNetworks with
  | error text => exact .inl ⟨_, rfl⟩
  | ok allowed =>
    dsimp only
    rcases openAddress_cases address allowed site with ⟨failure, h⟩ | ⟨after, h, htree⟩
    · rw [h]
      exact .inl ⟨failure, rfl⟩
    · rw [h]
      exact .inr ⟨after, rfl, htree⟩

/-! ## Starting and releasing -/

/-- A service that does not listen and is started at a socket listens there, if that can
be done, and is stopped otherwise. -/
theorem startWith_unix {v : Service} (h : v.active = none) (path : String)
    (root : Option String) (site : Site) :
    v.startWith (.unix path) root site =
      match bindUnix path site with
      | (.ok active, site) =>
        (.ok (), { v with state := .listening, active := some active }, site)
      | (.error failure, site) =>
        (.error failure, { v with state := .stopped }, site) := by
  rw [Service.startWith]
  simp only [h, Service.listen, bind]
  have hbound := bindUnix_outcome path site
  generalize bindUnix path site = result at hbound
  cases hbound <;> rfl

theorem removeIfPossible_cases (site : Site) (path : String) :
    removeIfPossible site path = site ∨
      ∃ place, site.tree.target? path = some (key place) ∧
        site.tree.kind? place ≠ some .directory ∧
        removeIfPossible site path = { site with tree := site.tree.remove place } := by
  rw [removeIfPossible]
  cases hunlink : site.tree.unlink path with
  | error fault => exact .inl rfl
  | ok tree =>
    obtain ⟨place, htarget, hkind, rfl⟩ := exists_remove_of_unlink_eq_ok hunlink
    exact .inr ⟨place, htarget, hkind, rfl⟩

theorem release_unix (path : String) (id : Nat) (site : Site) :
    Active.release ⟨.unix path, .unix id, none⟩ site =
      removeIfPossible (site.closeUnix id) path := by
  rfl

/-- Releasing a socket ends listening on it and leaves no new socket behind. -/
theorem release_unix_spec (path : String) (id : Nat) (site : Site) :
    let after := Active.release ⟨.unix path, .unix id, none⟩ site
    after.nextSocket = site.nextSocket ∧ after.sockets = site.sockets.filter (· != id) ∧
      ∀ {x other}, after.tree.kind? x = some (.socket other) →
        site.tree.kind? x = some (.socket other) := by
  rw [release_unix]
  rcases removeIfPossible_cases (site.closeUnix id) path with h |
    ⟨place, -, -, h⟩ <;> rw [h]
  · exact ⟨rfl, rfl, fun hx => hx⟩
  · exact ⟨rfl, rfl, fun hx => kind?_eq_of_kind?_remove_eq hx⟩

end CredRelay.Relay
