import CredRelay.Proofs.Relay.Binding
import Mathlib.Logic.Function.Basic
/-! Several services that share one system and listen on sockets. Every one of them either
does not listen, or its own socket stands at its path; and no two listen with one socket.
Whatever is done to one of them keeps this, as long as what answers to its probe is told
apart from what does not. -/
namespace CredRelay.Relay

open Host Tree

instance decidableEqResult {ε : Type} [DecidableEq ε] : DecidableEq (Except ε Unit)
  | .ok (), .ok () => .isTrue rfl
  | .error e, .error e' => decidable_of_iff (e = e') (by simp)
  | .ok _, .error _ => .isFalse nofun
  | .error _, .ok _ => .isFalse nofun

/-! ## Services that share a system -/

/-- Services by number, and the system they share. There is none under the number of a
service that was never made or was given up. -/
structure Fleet where
  services : Nat → Option Service
  site : Site

/-- What can be done to a service. -/
inductive Action where
  | start (root : String)
  | startAt (path : String)
  | stop
  | drop
  deriving DecidableEq, Repr

namespace Action

/-- Does something to a service. None is left where it was given up. -/
def apply (v : Service) (site : Site) :
    Action → Except Failure Unit × Option Service × Site
  | .start root =>
    match v.start root site with
    | (result, v, site) => (result, some v, site)
  | .startAt path =>
    match v.startAt (.unix path) site with
    | (result, v, site) => (result, some v, site)
  | .stop =>
    match v.stop site with
    | (v, site) => (.ok (), some v, site)
  | .drop => (.ok (), none, v.drop site)

/-- The path of the socket that a service is started at. -/
def socket? : Action → Option String
  | .start root => some (socketPath root)
  | .startAt path => some path
  | .stop | .drop => none

end Action

/-- Something that is done to the service of a number. -/
structure Op where
  service : Nat
  action : Action
  deriving DecidableEq, Repr

namespace Fleet

/-- Does something to one service. -/
def take (f : Fleet) (op : Op) : Except Failure Unit × Fleet :=
  match f.services op.service with
  | none => (.ok (), f)
  | some v =>
    match op.action.apply v f.site with
    | (result, v?, site) => (result, ⟨Function.update f.services op.service v?, site⟩)

/-- Does one thing after the other. -/
def run (f : Fleet) : List Op → Fleet
  | [] => f
  | op :: rest => run (f.take op).2 rest

end Fleet

/-! ## What an action comes to -/

/-- What an action can do to a service that uses sockets: it changes nothing, or a service
that does not listen is given up, or one that listens releases what it has, or an attempt
to listen fails or does not. -/
inductive ActionOutcome (v : Service) (site : Site) (action : Action) :
    Except Failure Unit × Option Service × Site → Prop
  | unchanged : ActionOutcome v site action (.ok (), some v, site)
  | forgotten (hidle : v.active = none) : ActionOutcome v site action (.ok (), none, site)
  | released {active : Active} {left : Option Service} (hactive : v.active = some active)
      (hleft : ∀ w ∈ left, w = { v with state := .stopped, active := none }) :
      ActionOutcome v site action (.ok (), left, active.release site)
  | failed {path : String} {failure : Failure} {after : Site} (hidle : v.active = none)
      (hsocket : action.socket? = some path)
      (hbind : BindOutcome path site (.error failure, after)) :
      ActionOutcome v site action
        (.error failure, some { v with state := .stopped }, after)
  | started {path : String} {active : Active} {after : Site} (hidle : v.active = none)
      (hsocket : action.socket? = some path)
      (hbind : BindOutcome path site (.ok active, after)) :
      ActionOutcome v site action
        (.ok (), some { v with state := .listening, active := some active }, after)

theorem startWith_outcome {v : Service} {site : Site} {action : Action} {path : String}
    (hsocket : action.socket? = some path) (root : Option String) :
    ActionOutcome v site action
      ((v.startWith (.unix path) root site).1,
        some (v.startWith (.unix path) root site).2.1,
        (v.startWith (.unix path) root site).2.2) := by
  cases hactive : v.active with
  | some active =>
    simp only [Service.startWith, hactive]
    exact .unchanged
  | none =>
    rw [startWith_unix hactive]
    have hbind := bindUnix_outcome path site
    generalize bindUnix path site = result at hbind
    obtain ⟨_ | active, after⟩ := result
    · exact .failed hactive hsocket hbind
    · exact .started hactive hsocket hbind

theorem apply_outcome {v : Service} {action : Action}
    (htransport : ∀ root, action = .start root → v.settings.transport = .unix)
    (site : Site) : ActionOutcome v site action (action.apply v site) := by
  cases action with
  | start root =>
    simp only [Action.apply, Service.start, Endpoint.ofSettings, htransport root rfl]
    exact startWith_outcome rfl (some root)
  | startAt path => exact startWith_outcome rfl none
  | stop =>
    rw [Action.apply, Service.stop]
    cases hactive : v.active with
    | none => exact .unchanged
    | some active => exact .released hactive (by simp)
  | drop =>
    rw [Action.apply, Service.drop]
    cases hactive : v.active with
    | none => exact .forgotten hactive
    | some active => exact .released hactive (by simp)

theorem settings_of_outcome {v w : Service} {site : Site} {action : Action}
    {r : Except Failure Unit × Option Service × Site} (h : ActionOutcome v site action r)
    (hw : r.2.1 = some w) : w.settings = v.settings := by
  cases h with
  | unchanged | failed | started =>
    cases hw
    rfl
  | forgotten => cases hw
  | released hactive hleft => rw [hleft w hw]

/-! ## Owners -/

/-- Whether a service listens with the socket of a number, which stands at its path, at a
place. -/
structure Owns (site : Site) (v : Service) (path : String) (place : List String)
    (id : Nat) : Prop where
  state_eq : v.state = .listening
  active_eq : v.active = some ⟨.unix path, .unix id, none⟩
  hasSocket : site.tree.HasSocket path place id
  mem_sockets : id ∈ site.sockets

/-- Whether a service is stopped and has nothing to listen with. -/
structure IsIdle (v : Service) : Prop where
  state_eq : v.state = .stopped
  active_eq : v.active = none

theorem Owns.of_tree {site : Site} {v : Service} {path : String}
    {place : List String} {id : Nat} (h : Owns site v path place id) {tree : Tree}
    (htree : tree.HasSocket path place id) : Owns { site with tree } v path place id :=
  ⟨h.state_eq, h.active_eq, htree, h.mem_sockets⟩

/-- Two sockets with different numbers stand at different places. -/
theorem Owns.key_ne {site : Site} {v w : Service} {path path' : String}
    {place place' : List String} {id id' : Nat} (h : Owns site v path place id)
    (h' : Owns site w path' place' id') (hne : id ≠ id') : key place ≠ key place' := by
  intro hkey
  have hkind := h.hasSocket.kind?_eq
  rw [kind?_of_key_eq hkey, h'.hasSocket.kind?_eq] at hkind
  cases hkind
  exact hne rfl

/-- When one service releases its socket, another one keeps its own. -/
theorem Owns.of_release {site : Site} {v w : Service} {path path' : String}
    {place place' : List String} {id id' : Nat} (h : Owns site w path place id)
    (hv : Owns site v path' place' id') (hne : id ≠ id') :
    Owns (Active.release ⟨.unix path', .unix id', none⟩ site) w path place id := by
  have hmem : id ∈ (site.closeUnix id').sockets :=
    List.mem_filter.mpr ⟨h.mem_sockets, by simpa using hne⟩
  have hclosed : Owns (site.closeUnix id') w path place id :=
    ⟨h.state_eq, h.active_eq, h.hasSocket, hmem⟩
  rw [release_unix]
  rcases removeIfPossible_cases (site.closeUnix id') path' with hsame |
    ⟨gone, htarget, hkind, hgone⟩
  · rw [hsame]
    exact hclosed
  · rw [hgone]
    have hplace : site.tree.target? path' = some (key gone) := htarget
    rw [hv.hasSocket.target?_eq, Option.some_inj] at hplace
    exact hclosed.of_tree (h.hasSocket.remove hkind (hplace ▸ hv.key_ne h hne.symm))

/-- What clears a path keeps the sockets that the path does not lead to, and the others if
they answer. -/
theorem HasSocket.of_cleared {site : Site} {tree : Tree} {path path' : String}
    {place : List String} {id : Nat} (h : site.tree.HasSocket path place id)
    (hcleared : Cleared path' site tree)
    (hlive : site.tree.target? path = site.tree.target? path' →
      site.isLive path' = true) :
    tree.HasSocket path place id := by
  cases hcleared with
  | kept => exact h
  | removed hdead htarget hkind =>
    refine h.remove hkind fun hkey => ?_
    rw [h.target?_eq, htarget, hkey, hdead] at hlive
    cases hlive rfl

namespace Fleet

/-- Whether the service of a number listens on the socket at a path. -/
def ListensOn (f : Fleet) (i : Nat) (path : String) : Prop :=
  ∃ v, f.services i = some v ∧ v.state = .listening ∧ v.endpoint? = some (.unix path)

/-- Whether a connection probe tells who listens: where a service that does not listen is
started, something answers exactly when a service listens on what stands at the path. -/
def ProbeExact (f : Fleet) (op : Op) : Prop :=
  ∀ (v : Service) (path : String) (made : Tree), f.services op.service = some v →
    v.active = none →
    op.action.socket? = some path → makeSocketDir path f.site.tree = .ok made →
      ({ f.site with tree := made }.isLive path = true ↔
        ∃ j path', f.ListensOn j path' ∧ made.target? path' = made.target? path)

/-- What may be done to services that share a system: one is started for a state root only
if it uses sockets, and what answers to its probe is told apart from what does not. -/
structure Admits (f : Fleet) (op : Op) : Prop where
  transport_eq : ∀ (v : Service) (root : String), f.services op.service = some v →
    op.action = .start root → v.settings.transport = .unix
  probeExact : f.ProbeExact op

/-- What holds of services that share a system all along. Numbers of sockets tell services
apart, and every number that is in use was given out. -/
structure Invariant (f : Fleet) : Prop where
  idle_or_owns {i : Nat} {v : Service} (hi : f.services i = some v) :
    IsIdle v ∨ ∃ path place id, Owns f.site v path place id
  lt_nextSocket {i : Nat} {v : Service} {path : String} {id : Nat}
    (hi : f.services i = some v)
    (hactive : v.active = some ⟨.unix path, .unix id, none⟩) : id < f.site.nextSocket
  eq_of_active {i j : Nat} {v w : Service} {path path' : String} {id : Nat}
    (hi : f.services i = some v) (hj : f.services j = some w)
    (hv : v.active = some ⟨.unix path, .unix id, none⟩)
    (hw : w.active = some ⟨.unix path', .unix id, none⟩) : i = j

variable {f : Fleet}

/-- What a service listens with is a socket that it owns. -/
theorem Invariant.owns_of_active_eq (h : f.Invariant) {i : Nat} {v : Service}
    {active : Active} (hi : f.services i = some v) (hactive : v.active = some active) :
    ∃ path place id, active = ⟨.unix path, .unix id, none⟩ ∧
      Owns f.site v path place id := by
  rcases h.idle_or_owns hi with hidle | ⟨path, place, id, howns⟩
  · rw [hidle.active_eq] at hactive
    cases hactive
  · rw [howns.active_eq] at hactive
    cases hactive
    exact ⟨path, place, id, rfl, howns⟩

theorem listensOn_of_owns {i : Nat} {v : Service} {path : String}
    {place : List String} {id : Nat} (hi : f.services i = some v)
    (h : Owns f.site v path place id) : f.ListensOn i path :=
  ⟨v, hi, h.state_eq, by simp [Service.endpoint?, h.active_eq]⟩

theorem Invariant.owns_of_listensOn (h : f.Invariant) {i : Nat} {path : String}
    (hi : f.ListensOn i path) :
    ∃ v place id, f.services i = some v ∧ Owns f.site v path place id := by
  obtain ⟨v, hv, -, hendpoint⟩ := hi
  rw [Service.endpoint?, Option.map_eq_some_iff] at hendpoint
  obtain ⟨active, hactive, hpath⟩ := hendpoint
  obtain ⟨_, place, id, rfl, howns⟩ := h.owns_of_active_eq hv hactive
  cases hpath
  exact ⟨v, place, id, hv, howns⟩

/-! ## What is done to one service spares the others -/

/-- Making the directory of a socket and clearing its path spares the socket of every
service. -/
theorem ProbeExact.hasSocket_of_cleared {op : Op} (hprobe : f.ProbeExact op)
    {v w : Service} {path path' : String} {place : List String} {id j : Nat}
    {made tree : Tree} (hv : f.services op.service = some v) (hidle : v.active = none)
    (hsocket : op.action.socket? = some path')
    (hmade : makeSocketDir path' f.site.tree = .ok made)
    (hcleared : Cleared path' { f.site with tree := made } tree)
    (hw : f.services j = some w) (howns : Owns f.site w path place id) :
    tree.HasSocket path place id := by
  have hthere : made.HasSocket path place id :=
    howns.hasSocket.of_grows (grows_of_makeSocketDir_eq_ok hmade)
  refine HasSocket.of_cleared hthere hcleared fun htarget => ?_
  exact (hprobe v path' made hv hidle hsocket hmade).mpr
    ⟨j, path, listensOn_of_owns hw howns, htarget⟩

/-- What is done to one service spares the socket of every other one. -/
theorem Invariant.owns_of_outcome (h : f.Invariant) {op : Op} (hprobe : f.ProbeExact op)
    {v w : Service} {path : String} {place : List String} {id j : Nat}
    {r : Except Failure Unit × Option Service × Site}
    (hv : f.services op.service = some v) (hr : ActionOutcome v f.site op.action r)
    (hne : j ≠ op.service) (hw : f.services j = some w)
    (howns : Owns f.site w path place id) : Owns r.2.2 w path place id := by
  -- a file is removed by a release, which has another number, and before listening, after
  -- the probe
  cases hr with
  | unchanged => exact howns
  | forgotten => exact howns
  | released hactive =>
    obtain ⟨_, _, id', rfl, howns'⟩ := h.owns_of_active_eq hv hactive
    refine howns.of_release howns' ?_
    rintro rfl
    exact hne (h.eq_of_active hw hv howns.active_eq howns'.active_eq)
  | failed hidle hsocket hbind =>
    cases hbind with
    | noDirectory => exact howns
    | inUse hmade =>
      exact howns.of_tree (howns.hasSocket.of_grows (grows_of_makeSocketDir_eq_ok hmade))
    | refused reason hmade hcleared =>
      exact howns.of_tree
        (hprobe.hasSocket_of_cleared hv hidle hsocket hmade hcleared hw howns)
  | started hidle hsocket hbind =>
    cases hbind with
    | bound hmade hcleared hgains =>
      have hthere := hprobe.hasSocket_of_cleared hv hidle hsocket hmade hcleared hw howns
      exact ⟨howns.state_eq, howns.active_eq, hthere.of_grows hgains.grows,
        List.mem_cons_of_mem _ howns.mem_sockets⟩

/-! ## The invariant along a run -/

theorem update_eq_some_iff {services : Nat → Option Service} {i j : Nat}
    {left : Option Service} {w : Service} :
    Function.update services i left j = some w ↔ j = i ∧ left = some w ∨ j ≠ i ∧
    services j = some w := by
  by_cases h : j = i
  · subst h
    simp
  · simp [h]

/-- Changing one service keeps the invariant, if the others keep their sockets and this
one is given up, or idle, or has a socket with a new number. -/
theorem Invariant.update (h : f.Invariant) {i : Nat} {left : Option Service} {site : Site}
    (hle : f.site.nextSocket ≤ site.nextSocket)
    (hothers : ∀ {j w path place id}, j ≠ i → f.services j = some w →
      Owns f.site w path place id → Owns site w path place id)
    (hleft : ∀ w ∈ left, IsIdle w ∨ ∃ path place id, Owns site w path place id ∧
      f.site.nextSocket ≤ id ∧ id < site.nextSocket) :
    Invariant ⟨Function.update f.services i left, site⟩ := by
  have hnew : ∀ {w path id}, left = some w →
      w.active = some ⟨.unix path, .unix id, none⟩ →
      f.site.nextSocket ≤ id ∧ id < site.nextSocket := by
    intro w path id hw hactive
    rcases hleft w hw with hidle | ⟨_, _, _, howns, hlt⟩
    · rw [hidle.active_eq] at hactive
      cases hactive
    · rw [howns.active_eq] at hactive
      cases hactive
      exact hlt
  constructor
  · intro j w hj
    rcases update_eq_some_iff.mp hj with ⟨-, hw⟩ | ⟨hne, hw⟩
    · rcases hleft w hw with hidle | ⟨path, place, id, howns, -⟩
      · exact .inl hidle
      · exact .inr ⟨path, place, id, howns⟩
    · rcases h.idle_or_owns hw with hidle | ⟨path, place, id, howns⟩
      · exact .inl hidle
      · exact .inr ⟨path, place, id, hothers hne hw howns⟩
  · intro j w path id hj hactive
    rcases update_eq_some_iff.mp hj with ⟨-, hw⟩ | ⟨-, hw⟩
    · exact (hnew hw hactive).2
    · exact Nat.lt_of_lt_of_le (h.lt_nextSocket hw hactive) hle
  · intro j k w u path path' id hj hk hw hu
    -- the number of the changed service is new, so no other one has it
    rcases update_eq_some_iff.mp hj with ⟨rfl, hleftw⟩ | ⟨-, hjw⟩ <;>
      rcases update_eq_some_iff.mp hk with ⟨rfl, hleftu⟩ | ⟨-, hku⟩
    · rfl
    · have hold := h.lt_nextSocket hku hu
      have hfresh := (hnew hleftw hw).1
      omega
    · have hold := h.lt_nextSocket hjw hw
      have hfresh := (hnew hleftu hu).1
      omega
    · exact h.eq_of_active hjw hku hw hu

/-- Whatever is done to one service keeps the invariant. -/
theorem Invariant.of_outcome (h : f.Invariant) {op : Op} (hprobe : f.ProbeExact op)
    {v : Service} {r : Except Failure Unit × Option Service × Site}
    (hv : f.services op.service = some v) (hr : ActionOutcome v f.site op.action r) :
    Invariant ⟨Function.update f.services op.service r.2.1, r.2.2⟩ := by
  have hothers : ∀ {j w path place id}, j ≠ op.service → f.services j = some w →
      Owns f.site w path place id → Owns r.2.2 w path place id :=
    fun hne hw howns => h.owns_of_outcome hprobe hv hr hne hw howns
  cases hr with
  | unchanged =>
    rw [← hv, Function.update_eq_self]
    exact h
  | forgotten => exact h.update (Nat.le_refl _) hothers (by simp)
  | released hactive hleft =>
    obtain ⟨path, place, id, rfl, howns⟩ := h.owns_of_active_eq hv hactive
    have hle := Nat.le_of_eq (release_unix_spec path id f.site).1.symm
    refine h.update hle hothers fun w hw => ?_
    rw [hleft w hw]
    exact .inl ⟨rfl, rfl⟩
  | failed hidle hsocket hbind =>
    refine h.update (Nat.le_of_eq hbind.of_error.1.symm) hothers ?_
    rintro w ⟨⟩
    exact .inl ⟨rfl, hidle⟩
  | started hidle hsocket hbind =>
    cases hbind with
    | @bound _ _ _ place hmade hcleared hgains =>
      refine h.update (Nat.le_succ _) hothers ?_
      rintro w ⟨⟩
      exact .inr ⟨_, place, _, ⟨rfl, rfl, hgains.hasSocket, List.mem_cons_self⟩,
        Nat.le_refl _, Nat.lt_succ_self _⟩

/-- Nothing is done to a service that is not there; any other one is left as the action
comes to. -/
theorem Admits.take_cases {op : Op} (h : f.Admits op) :
    f.take op = (.ok (), f) ∨
      ∃ v r, f.services op.service = some v ∧ ActionOutcome v f.site op.action r ∧
        f.take op = (r.1, ⟨Function.update f.services op.service r.2.1, r.2.2⟩) := by
  rw [take]
  cases hv : f.services op.service with
  | none => exact .inl rfl
  | some v =>
    have hr := apply_outcome (fun root hroot => h.transport_eq v root hv hroot) f.site
    exact .inr ⟨v, _, rfl, hr, rfl⟩

theorem Invariant.take (h : f.Invariant) {op : Op} (hadmits : f.Admits op) :
    Invariant (f.take op).2 := by
  rcases hadmits.take_cases with htake | ⟨v, r, hv, hr, htake⟩
  · rw [htake]
    exact h
  · rw [htake]
    exact h.of_outcome hadmits.probeExact hv hr

/-- Whether everything that is done may be done when its turn comes. -/
def AdmitsAll (f : Fleet) : List Op → Prop
  | [] => True
  | op :: rest => f.Admits op ∧ AdmitsAll (f.take op).2 rest

theorem admitsAll_append {ops ops' : List Op} :
    f.AdmitsAll (ops ++ ops') ↔ f.AdmitsAll ops ∧ (f.run ops).AdmitsAll ops' := by
  induction ops generalizing f with
  | nil => simp [AdmitsAll, run]
  | cons op rest ih =>
    rw [List.cons_append, AdmitsAll, AdmitsAll, ih, and_assoc]
    rfl

theorem Invariant.run {ops : List Op} (h : f.Invariant) (hadmits : f.AdmitsAll ops) :
    Invariant (f.run ops) := by
  induction ops generalizing f with
  | nil => exact h
  | cons op rest ih => exact ih (h.take hadmits.1) hadmits.2

/-- Whether nothing was done yet: every service is idle. -/
def IsNew (f : Fleet) : Prop :=
  ∀ i v, f.services i = some v → IsIdle v

theorem IsNew.invariant (h : f.IsNew) : f.Invariant where
  idle_or_owns hi := .inl (h _ _ hi)
  lt_nextSocket hi hactive := by
    rw [(h _ _ hi).active_eq] at hactive
    cases hactive
  eq_of_active hi _ hv _ := by
    rw [(h _ _ hi).active_eq] at hv
    cases hv

end Fleet

end CredRelay.Relay
