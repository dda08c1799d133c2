import CredRelay.Proofs.Relay.Fleet
/-! When a connection probe is exact. On a system on which nothing else listens, something
answers at a path exactly when a service listens on what stands there, as long as the path
can be the name of a socket. -/
namespace CredRelay.Relay

open Host Tree

namespace Fleet

variable {f : Fleet}

/-- Whether a service of some number listens with the socket of a number, and that stands
at a place. -/
def HasOwner (f : Fleet) (x : List String) (id : Nat) : Prop :=
  ∃ j v path place, f.services j = some v ∧ Owns f.site v path place id ∧
    key place = key x

/-- Whether every service uses sockets, every socket in the tree has a number that was
given out, and every one that is listened on has its owner. -/
structure Accounted (f : Fleet) : Prop where
  transport_eq {i : Nat} {v : Service} (hi : f.services i = some v) :
    v.settings.transport = .unix
  lt_nextSocket {x : List String} {id : Nat}
    (hx : f.site.tree.kind? x = some (.socket id)) :
    id < f.site.nextSocket
  hasOwner {x : List String} {id : Nat} (hmem : id ∈ f.site.sockets)
    (hx : f.site.tree.kind? x = some (.socket id)) : f.HasOwner x id

/-- If every socket that is listened on has its owner, a probe at a path that can be the
name of a socket is exact. -/
theorem Accounted.probeExact (h : f.Accounted) (hinv : f.Invariant) {op : Op}
    (hname : ∀ path ∈ op.action.socket?, checkSocketPath path = .ok ()) :
    f.ProbeExact op := by
  intro v path made hv hidle hsocket hmade
  rw [Site.isLive_iff]
  constructor
  · rintro ⟨-, place, id, hthere, hmem⟩
    have hx := kind?_eq_socket_of_makeSocketDir hmade hthere.kind?_eq
    obtain ⟨j, w, path', place', hw, howns, hkey⟩ := h.hasOwner hmem hx
    have hthere' := howns.hasSocket.of_grows (grows_of_makeSocketDir_eq_ok hmade)
    refine ⟨j, path', listensOn_of_owns hw howns, ?_⟩
    rw [hthere'.target?_eq, hthere.target?_eq, hkey]
  · rintro ⟨j, path', hlistens, htarget⟩
    obtain ⟨w, place', id, hw, howns⟩ := hinv.owns_of_listensOn hlistens
    have hthere' := howns.hasSocket.of_grows (grows_of_makeSocketDir_eq_ok hmade)
    rw [hthere'.target?_eq] at htarget
    obtain ⟨place, hthere, -⟩ :=
      exists_hasSocket_of_target?_eq hthere'.kind?_eq htarget.symm
    exact ⟨hname path hsocket, place, id, hthere, howns.mem_sockets⟩

/-- An owner other than the service to which something is done stays. -/
theorem Invariant.hasOwner_of_outcome (h : f.Invariant) {op : Op}
    (hprobe : f.ProbeExact op) {v : Service}
    {r : Except Failure Unit × Option Service × Site}
    (hv : f.services op.service = some v) (hr : ActionOutcome v f.site op.action r)
    {x : List String} {id : Nat} (howner : f.HasOwner x id)
    (hother : ∀ path, v.active ≠ some ⟨.unix path, .unix id, none⟩) :
    HasOwner ⟨Function.update f.services op.service r.2.1, r.2.2⟩ x id := by
  obtain ⟨j, w, path, place, hw, howns, hkey⟩ := howner
  have hne : j ≠ op.service := by
    rintro rfl
    rw [hv] at hw
    cases hw
    exact hother path howns.active_eq
  exact ⟨j, w, path, place, update_eq_some_iff.mpr (.inr ⟨hne, hw⟩),
    h.owns_of_outcome hprobe hv hr hne hw howns, hkey⟩

/-- Changing one service keeps the accounts, if no socket is new and every owner that is
needed stays. -/
theorem Accounted.update (h : f.Accounted) {i : Nat} {left : Option Service} {site : Site}
    (htransport : ∀ {j w}, Function.update f.services i left j = some w →
      w.settings.transport = .unix)
    (hnext : site.nextSocket = f.site.nextSocket)
    (htree : ∀ {x id}, site.tree.kind? x = some (.socket id) →
      f.site.tree.kind? x = some (.socket id))
    (hsockets : ∀ {id}, id ∈ site.sockets → id ∈ f.site.sockets)
    (howner : ∀ {x id}, id ∈ site.sockets → f.HasOwner x id →
      HasOwner ⟨Function.update f.services i left, site⟩ x id) :
    Accounted ⟨Function.update f.services i left, site⟩ := by
  refine ⟨htransport, ?_, fun hmem hx =>
    howner hmem (h.hasOwner (hsockets hmem) (htree hx))⟩
  intro x id hx
  show id < site.nextSocket
  rw [hnext]
  exact h.lt_nextSocket (htree hx)

theorem Accounted.of_outcome (h : f.Accounted) (hinv : f.Invariant) {op : Op}
    (hprobe : f.ProbeExact op) {v : Service}
    {r : Except Failure Unit × Option Service × Site}
    (hv : f.services op.service = some v) (hr : ActionOutcome v f.site op.action r) :
    Accounted ⟨Function.update f.services op.service r.2.1, r.2.2⟩ := by
  have htransport : ∀ {j w}, Function.update f.services op.service r.2.1 j = some w →
      w.settings.transport = .unix := by
    intro j w hj
    rcases update_eq_some_iff.mp hj with ⟨-, hw⟩ | ⟨-, hw⟩
    · rw [settings_of_outcome hr hw]
      exact h.transport_eq hv
    · exact h.transport_eq hw
  have hkept : ∀ {x id}, f.HasOwner x id →
      (∀ path, v.active ≠ some ⟨.unix path, .unix id, none⟩) →
      HasOwner ⟨Function.update f.services op.service r.2.1, r.2.2⟩ x id :=
    fun howner hother => hinv.hasOwner_of_outcome hprobe hv hr howner hother
  cases hr with
  | unchanged =>
    rw [← hv, Function.update_eq_self]
    exact h
  | forgotten hidle =>
    refine h.update htransport rfl (fun hx => hx) (fun hmem => hmem) fun _ howner =>
      hkept howner ?_
    simp [hidle]
  | released hactive hleft =>
    obtain ⟨path, place, gone, rfl, howns⟩ := hinv.owns_of_active_eq hv hactive
    obtain ⟨hnext, hsockets, htree⟩ := release_unix_spec path gone f.site
    have hmem :
        ∀ {id}, id ∈ (Active.release ⟨.unix path, .unix gone, none⟩ f.site).sockets →
        id ∈ f.site.sockets ∧ id ≠ gone := by
      intro id hid
      rw [hsockets, List.mem_filter, bne_iff_ne] at hid
      exact hid
    refine h.update htransport hnext htree (fun hid => (hmem hid).1) fun hid howner =>
      hkept howner ?_
    intro path' hactive'
    rw [hactive] at hactive'
    cases hactive'
    exact (hmem hid).2 rfl
  | failed hidle hsocket hbind =>
    obtain ⟨hnext, hsockets, htree⟩ := hbind.of_error
    refine h.update htransport hnext htree (fun hid => hsockets ▸ hid) fun _ howner =>
      hkept howner ?_
    simp [hidle]
  | @started path _ _ hidle hsocket hbind =>
    cases hbind with
    | @bound made cleared tree place hmade hcleared hgains =>
      -- a socket that is not the new one was there before, so its number is an old one
      have hold : ∀ {x id}, cleared.kind? x = some (.socket id) →
          f.site.tree.kind? x = some (.socket id) :=
        fun hx => kind?_eq_socket_of_makeSocketDir hmade (hcleared.kind?_eq_socket hx)
      have hnew : ∀ {x id}, key x = key place → tree.kind? x = some (.socket id) →
          id = f.site.nextSocket := by
        intro x id hkey hx
        rw [kind?_of_key_eq hkey, hgains.hasSocket.kind?_eq] at hx
        cases hx
        rfl
      refine ⟨htransport, ?_, ?_⟩
      · intro x id hx
        rcases hgains.new hx with hbefore | hkey
        · exact Nat.lt_succ_of_lt (h.lt_nextSocket (hold hbefore))
        · rw [hnew hkey hx]
          exact Nat.lt_succ_self _
      · intro x id hmem hx
        rcases hgains.new hx with hbefore | hkey
        · have hlt := h.lt_nextSocket (hold hbefore)
          have hmem' : id ∈ f.site.sockets :=
            (List.mem_cons.mp hmem).resolve_left (Nat.ne_of_lt hlt)
          refine hkept (h.hasOwner hmem' (hold hbefore)) ?_
          simp [hidle]
        · rw [hnew hkey hx]
          exact ⟨op.service, _, path, place, update_eq_some_iff.mpr (.inl ⟨rfl, rfl⟩),
            ⟨rfl, rfl, hgains.hasSocket, List.mem_cons_self⟩, hkey.symm⟩

theorem Accounted.take (h : f.Accounted) (hinv : f.Invariant) {op : Op}
    (hadmits : f.Admits op) : Accounted (f.take op).2 := by
  rcases hadmits.take_cases with htake | ⟨v, r, hv, hr, htake⟩
  · rw [htake]
    exact h
  · rw [htake]
    exact h.of_outcome hinv hadmits.probeExact hv hr

theorem Accounted.admitsAll {ops : List Op} (h : f.Accounted) (hinv : f.Invariant)
    (hnames : ∀ op ∈ ops, ∀ path ∈ op.action.socket?, checkSocketPath path = .ok ()) :
    f.AdmitsAll ops := by
  induction ops generalizing f with
  | nil => trivial
  | cons op rest ih =>
    have hadmits : f.Admits op :=
      ⟨fun _ _ hv _ => h.transport_eq hv,
        h.probeExact hinv (hnames op List.mem_cons_self)⟩
    exact ⟨hadmits, ih (h.take hinv hadmits) (hinv.take hadmits)
      fun other hother => hnames other (List.mem_cons_of_mem _ hother)⟩

/-- Where nothing listened before the first service was started, everything may be done to
services that use sockets, as long as they are started only at paths that can be names of
sockets. -/
theorem IsNew.admitsAll (h : f.IsNew)
    (htransport : ∀ {i v}, f.services i = some v → v.settings.transport = .unix)
    (hsockets : f.site.sockets = [])
    (hold : ∀ {x id}, f.site.tree.kind? x = some (.socket id) → id < f.site.nextSocket)
    {ops : List Op}
    (hnames : ∀ op ∈ ops, ∀ path ∈ op.action.socket?, checkSocketPath path = .ok ()) :
    f.AdmitsAll ops := by
  have haccounted : f.Accounted :=
    ⟨htransport, hold, fun hmem _ => by simp [hsockets] at hmem⟩
  exact haccounted.admitsAll h.invariant hnames

-- The condition on the paths is needed: a spelling of more than 107 octets of a path that
-- is listened on cannot be connected to, so a service started there takes the socket for
-- a dead one and removes it.
example :
    let long := String.ofList ((List.replicate 54 ['/', '.']).flatten ++ ['/', 's'])
    let f : Fleet :=
      ⟨fun _ => some (Service.ofSettings Settings.default), Site.ofTree (Tree.bare [])⟩
    let after := f.run [⟨0, .startAt "/s"⟩, ⟨1, .startAt long⟩]
    (after.services 0).map Service.state = some .listening ∧
      after.site.tree.has "/s" = false := by
  decide +kernel

end Fleet

end CredRelay.Relay
