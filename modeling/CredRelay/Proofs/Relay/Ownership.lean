import CredRelay.Proofs.Relay.Probes
/-! At most one service owns a socket. Whatever is done to services that share a system,
each one that listens has its own socket at its path, and what is done to one never takes
the socket of another away: neither stopping it, nor giving it up, nor starting it where
another one listens. -/
namespace CredRelay.Relay

open Host Tree

namespace Fleet

variable {f : Fleet}

/-- Whether the service of a number listens at a path, and what stands there is the socket
that it listens with. -/
def OwnsSocket (f : Fleet) (i : Nat) (path : String) : Prop :=
  ∃ v mode id, f.services i = some v ∧ v.state = .listening ∧
    v.active = some ⟨.unix path, .unix id, none⟩ ∧
    f.site.tree.stat path = .ok (.socket mode id) ∧ id ∈ f.site.sockets

theorem ownsSocket_iff {i : Nat} {path : String} :
    f.OwnsSocket i path ↔ ∃ v place id, f.services i = some v ∧
      Owns f.site v path place id := by
  constructor
  · rintro ⟨v, mode, id, hi, hstate, hactive, hstat, hmem⟩
    obtain ⟨place, hsocket⟩ := exists_hasSocket_iff.mpr ⟨mode, hstat⟩
    exact ⟨v, place, id, hi, hstate, hactive, hsocket, hmem⟩
  · rintro ⟨v, place, id, hi, howns⟩
    obtain ⟨mode, hstat⟩ := exists_hasSocket_iff.mp ⟨place, howns.hasSocket⟩
    exact ⟨v, mode, id, hi, howns.state_eq, howns.active_eq, hstat, howns.mem_sockets⟩

/-- Whether each service is idle or listens with a socket of its own, and no two services
listen on what stands at one place. -/
structure Exclusive (f : Fleet) : Prop where
  idle_or_listens {i : Nat} {v : Service} (hi : f.services i = some v) :
    IsIdle v ∨ ∃ path, f.ListensOn i path
  owns {i : Nat} {path : String} (hi : f.ListensOn i path) : f.OwnsSocket i path
  eq_of_target? {i j : Nat} {path path' : String} (hi : f.ListensOn i path)
    (hj : f.ListensOn j path')
    (htarget : f.site.tree.target? path = f.site.tree.target? path') : i = j

theorem Invariant.exclusive (h : f.Invariant) : f.Exclusive where
  idle_or_listens := by
    intro i v hi
    rcases h.idle_or_owns hi with hidle | ⟨path, place, id, howns⟩
    · exact .inl hidle
    · exact .inr ⟨path, listensOn_of_owns hi howns⟩
  owns hi := ownsSocket_iff.mpr (h.owns_of_listensOn hi)
  eq_of_target? := by
    intro i j path path' hi hj htarget
    obtain ⟨v, place, id, hv, howns⟩ := h.owns_of_listensOn hi
    obtain ⟨w, place', id', hw, howns'⟩ := h.owns_of_listensOn hj
    rw [howns.hasSocket.target?_eq, howns'.hasSocket.target?_eq,
      Option.some_inj] at htarget
    have hid : id = id' := by
      by_contra hne
      exact howns.key_ne howns' hne htarget
    subst hid
    exact h.eq_of_active hv hw howns.active_eq howns'.active_eq

/-- Whether something done to one service leaves the sockets of the others alone; and if
it fails for an endpoint in use, that one is idle, and another service has its socket
there, before and after. -/
structure Respects (f : Fleet) (op : Op) : Prop where
  spared {j : Nat} {path : String} (hne : j ≠ op.service) (hj : f.OwnsSocket j path) :
    (f.take op).2.OwnsSocket j path
  refused {text : String} (hrefused : (f.take op).1 = .error (.endpointInUse text)) :
    (∃ v, (f.take op).2.services op.service = some v ∧ IsIdle v) ∧
      ∃ j path, j ≠ op.service ∧ f.OwnsSocket j path ∧ (f.take op).2.OwnsSocket j path ∧
        (f.take op).2.site.tree.target? path = (f.take op).2.site.tree.target? text

theorem Invariant.ownsSocket_take (h : f.Invariant) {op : Op}
    (hadmits : f.Admits op) {j : Nat} {path : String} (hne : j ≠ op.service)
    (hj : f.OwnsSocket j path) : (f.take op).2.OwnsSocket j path := by
  rcases hadmits.take_cases with htake | ⟨v, r, hv, hr, htake⟩
  · rw [htake]
    exact hj
  · rw [htake]
    obtain ⟨w, place, id, hw, howns⟩ := ownsSocket_iff.mp hj
    exact ownsSocket_iff.mpr ⟨w, place, id, update_eq_some_iff.mpr (.inr ⟨hne, hw⟩),
      h.owns_of_outcome hadmits.probeExact hv hr hne hw howns⟩

/-- A service is refused for an endpoint in use only where another one listens on what
stands there. -/
theorem Invariant.exists_owner_of_refused (h : f.Invariant) {op : Op}
    (hprobe : f.ProbeExact op) {v : Service} (hv : f.services op.service = some v)
    {text : String} {left : Option Service} {after : Site}
    (hout : ActionOutcome v f.site op.action
      (.error (.endpointInUse text), left, after)) :
    (∃ w, left = some w ∧ IsIdle w) ∧
      ∃ j path, j ≠ op.service ∧ f.ListensOn j path ∧
        after.tree.target? path = after.tree.target? text := by
  cases hout with
  | failed hidle hsocket hbind =>
    cases hbind with
    | inUse hmade hlive =>
      obtain ⟨j, path, hlistens, htarget⟩ :=
        (hprobe v text _ hv hidle hsocket hmade).mp hlive
      refine ⟨⟨_, rfl, rfl, hidle⟩, j, path, ?_, hlistens, htarget⟩
      rintro rfl
      obtain ⟨w, place, id, hw, howns⟩ := h.owns_of_listensOn hlistens
      rw [hv] at hw
      cases hw
      have hactive := howns.active_eq
      rw [hidle] at hactive
      cases hactive

theorem Invariant.respects (h : f.Invariant) {op : Op} (hadmits : f.Admits op) :
    f.Respects op where
  spared hne hj := h.ownsSocket_take hadmits hne hj
  refused := by
    intro text hrefused
    rcases hadmits.take_cases with htake | ⟨v, ⟨result, left, after⟩, hv, hr, htake⟩
    · rw [htake] at hrefused
      cases hrefused
    · rw [htake] at hrefused
      cases hrefused
      obtain ⟨⟨w, rfl, hidle⟩, j, path, hne, hlistens, htarget⟩ :=
        h.exists_owner_of_refused hadmits.probeExact hv hr
      have howner := ownsSocket_iff.mpr (h.owns_of_listensOn hlistens)
      refine ⟨⟨w, ?_, hidle⟩, j, path, hne, howner, h.ownsSocket_take hadmits hne howner,
        ?_⟩
      · rw [htake]
        exact Function.update_self op.service (some w) f.services
      · rw [htake]
        exact htarget

/-- Services that use sockets only and share a system, on which anything may stand:
whatever is started, stopped and given up in whatever order, if probes are exact, every
service is idle or listens with its own socket at its path, and no two listen at one path,
however it is spelled. Whatever is done next to one of them leaves the sockets of the
others where they are. If it is refused for an endpoint in use, it is idle, and the one
that has its socket there still listens. -/
theorem exclusive_and_respects_of_run (h : f.IsNew) {ops : List Op}
    (hadmits : f.AdmitsAll ops) :
    (f.run ops).Exclusive ∧ ∀ op, (f.run ops).Admits op → (f.run ops).Respects op := by
  have hinv : (f.run ops).Invariant := h.invariant.run hadmits
  exact ⟨hinv.exclusive, fun op hop => hinv.respects hop⟩

/-- Two services at one state root, where a dead socket was left behind: the first one
replaces it, the second is refused and takes over when the first has stopped, and then the
first is refused. -/
theorem exclusive_of_two_services :
    let tree := (((Tree.bare []).put ["r"] (.directory 0o755)).put
      ["r", "sock"] (.directory 0o755)).put ["r", "sock", "creds.sock"] (.socket 0o600 0)
    let f : Fleet :=
      ⟨fun i => if i < 2 then some (Service.ofSettings Settings.default) else none,
      { Site.ofTree tree with nextSocket := 1 }⟩
    let ops : List Op := [⟨0, .start "/r"⟩, ⟨1, .start "/r"⟩, ⟨0, .stop⟩,
      ⟨1, .startAt "/r/sock/../sock/creds.sock"⟩]
    let op : Op := ⟨0, .start "/r"⟩
    f.IsNew ∧ f.AdmitsAll ops ∧ (f.run ops).Admits op ∧
      ((f.run ops).take op).1 = .error (.endpointInUse "/r/sock/creds.sock") ∧
      ((f.run ops).take op).2.OwnsSocket 1 "/r/sock/../sock/creds.sock" := by
  intro tree f ops op
  have hservices : ∀ {i v}, f.services i = some v →
      v = Service.ofSettings Settings.default := by
    intro i v hi
    simp only [f] at hi
    split at hi
    · cases hi
      rfl
    · cases hi
  have hnew : f.IsNew := by
    intro i v hi
    rw [hservices hi]
    exact ⟨rfl, rfl⟩
  have htransport : ∀ {i v}, f.services i = some v → v.settings.transport = .unix := by
    intro i v hi
    rw [hservices hi]
    rfl
  have hold : ∀ {x id}, f.site.tree.kind? x = some (.socket id) →
      id < f.site.nextSocket := by
    intro x id hx
    have hbare : (Tree.bare []).kind? x ≠ some (.socket id) := by
      simp only [kind?, node?, Tree.bare]
      split <;> simp [Node.kind, Table.get?_empty]
    simp only [f, tree, Site.ofTree, kind?_put, Node.kind] at hx
    split at hx
    · cases hx
    · split at hx
      · cases hx
        exact Nat.zero_lt_one
      · split at hx
        · cases hx
        · split at hx
          · cases hx
          · exact absurd hx hbare
  have hnames : ∀ other ∈ ops ++ [op], ∀ path ∈ other.action.socket?,
      checkSocketPath path = .ok () := by
    decide +kernel
  obtain ⟨hadmits, hop, -⟩ :=
    admitsAll_append.mp (hnew.admitsAll htransport rfl hold hnames)
  obtain ⟨hexclusive, hrespects⟩ := exclusive_and_respects_of_run hnew hadmits
  have hlistens : (f.run ops).ListensOn 1 "/r/sock/../sock/creds.sock" := by
    have hview : ((f.run ops).services 1).map (fun v => (v.state, v.endpoint?)) =
        some (.listening, some (.unix "/r/sock/../sock/creds.sock")) := by
      decide +kernel
    obtain ⟨v, hv, hstate, hendpoint⟩ := by simpa using hview
    exact ⟨v, hv, hstate, hendpoint⟩
  refine ⟨hnew, hadmits, hop, by decide +kernel, ?_⟩
  exact (hrespects op hop).spared (by decide) (hexclusive.owns hlistens)

end Fleet

end CredRelay.Relay
