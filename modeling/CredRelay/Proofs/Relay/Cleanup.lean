import CredRelay.Proofs.Relay.Lifecycle
import Mathlib.Data.List.Induction
/-! What is left of a start. A start that succeeds makes a socket, or a file with the
address that is listened on, in a place that follows from the call alone, whatever the
system gives to listen on. The service that listens does so by the last start that
found it stopped, and the next stop removes the file of that start, unless the system
refuses. -/
namespace CredRelay.Relay

open Host Tree

variable {s : Settings} {v : Service}

/-! ## The files of a start -/

/-- The files that a start makes which succeeds: the socket that is listened on, or the
file in which a network address is published under a state root. -/
def Directive.files (s : Settings) : Directive → List String
  | .start root =>
    match s.transport with
    | .unix => [socketPath root]
    | .tcp => [addressFile root]
    | .pipe => []
  | .startAt (.unix path) => [path]
  | .startAt _ | .stop => []

/-- The files of what is listened on at an endpoint, for a state root or for none. -/
def Endpoint.files (root : Option String) : Endpoint → List String
  | .unix path => [path]
  | .tcp _ => root.toList.map addressFile
  | .pipe _ => []

/-- What is listened on is at the path or at a network address, as it was asked for, and
has no address file yet. -/
theorem Opening.binding_cases {opening : Opening} {endpoint : Endpoint}
    {site after : Site} {active : Active}
    (h : opening.binding s endpoint site = (.ok active, after)) :
    (∃ path id, endpoint = .unix path ∧ active = ⟨.unix path, .unix id, none⟩) ∨
    ∃ asked bound, endpoint = .tcp asked ∧ active = ⟨.tcp bound, .tcp bound, none⟩ := by
  cases endpoint with
  | pipe name => cases h
  | unix path =>
    simp only [Opening.binding] at h
    split at h
    · next id opened hopened =>
      cases h
      exact .inl ⟨path, id, rfl, rfl⟩
    · cases h
  | tcp asked =>
    simp only [Opening.binding] at h
    split at h
    · cases h
    · split at h
      · next bound opened hopened =>
        cases h
        exact .inr ⟨asked, bound, rfl, rfl⟩
      · cases h

/-- A network address that was announced has the address file of the state root. -/
theorem files_of_announce_tcp {root : Option String} {bound : Net.SocketAddress}
    {listener : Listener} {site after : Site} {active : Active}
    (h : announce root ⟨.tcp bound, listener, none⟩ site = (.ok active, after)) :
    active.files = root.toList.map addressFile := by
  cases root with
  | none =>
    cases h
    rfl
  | some root =>
    simp only [announce] at h
    split at h
    · cases h
      rfl
    · cases h

/-- What is listened on and announced has the files of the endpoint that was asked for. -/
theorem files_of_announced_eq_ok {opening : Opening} {endpoint : Endpoint}
    {root : Option String} {site after : Site} {active : Active}
    (h : (opening.binding s).announced endpoint root site = (.ok active, after)) :
    active.files = endpoint.files root := by
  rw [Binding.announced] at h
  split at h
  · next opened between hopened =>
    rcases Opening.binding_cases hopened with
      ⟨path, id, rfl, rfl⟩ | ⟨asked, bound, rfl, rfl⟩
    · cases h
      rfl
    · exact files_of_announce_tcp h
  · cases h

theorem files_of_ofSettings {root : String} {endpoint : Endpoint}
    (h : Endpoint.ofSettings s root = .ok endpoint) :
    endpoint.files (some root) = Directive.files s (.start root) := by
  rw [Endpoint.ofSettings] at h
  rw [Directive.files]
  cases htransport : s.transport with
  | unix | pipe =>
    rw [htransport] at h
    cases h
    rfl
  | tcp =>
    rw [htransport] at h
    dsimp only at h
    split at h
    · cases h
      rfl
    · cases h

/-! ## The start that prevails -/

/-- Whether a call is the start that a service listens by after some calls: it found the
service stopped and left it listening, and no stop came after it. -/
def Turn.Prevails (u : Turn) (s : Settings) (turns : List Turn) : Prop :=
  ∃ before later, turns = before ++ u :: later ∧
    ((Service.ofSettings s).after before).state = .stopped ∧
    ((Service.ofSettings s).after (before ++ [u])).state = .listening ∧
    ∀ w ∈ later, w.call ≠ .stop

theorem Service.after_append (v : Service) (turns more : List Turn) :
    v.after (turns ++ more) = (v.after turns).after more := by
  induction turns generalizing v with
  | nil => rfl
  | cons t rest ih => exact ih (t.apply v).2.1

/-- A service that listens is not changed before it is stopped. -/
theorem after_of_listening (hv : IsSettled s v) (hstate : v.state = .listening)
    {turns : List Turn} (h : ∀ w ∈ turns, w.call ≠ .stop) : v.after turns = v := by
  induction turns with
  | nil => rfl
  | cons w rest ih =>
    obtain ⟨hw, hrest⟩ := List.forall_mem_cons.mp h
    have hkept : (w.apply v).2.1 = v := ((turn_outcome w hv).eq_of_listening hw hstate).1
    rw [Service.after, hkept]
    exact ih hrest

/-- A service listens exactly if one of the starts before prevails. -/
theorem listening_iff_exists_prevails (s : Settings) (turns : List Turn) :
    ((Service.ofSettings s).after turns).state = .listening ↔
      ∃ u, Turn.Prevails u s turns := by
  constructor
  · -- from the last call backwards: it was a start of a stopped service, or it changed
    -- nothing
    induction turns using List.reverseRecOn with
    | nil =>
      intro h
      cases h
    | append_singleton turns t ih =>
      intro h
      have hv : IsSettled s ((Service.ofSettings s).after turns) :=
        IsSettled.after .stopped turns
      rcases hv.state_eq with hstopped | hlistening
      · exact ⟨t, turns, [], rfl, hstopped, h, by simp⟩
      · obtain ⟨u, before, later, rfl, hbefore, hstarted, hlater⟩ := ih hlistening
        refine ⟨u, before, later ++ [t], by simp, hbefore, hstarted, ?_⟩
        intro w hw
        rcases List.mem_append.mp hw with hw | hw
        · exact hlater w hw
        · rw [List.mem_singleton.mp hw]
          intro hcall
          have hleft := ((turn_outcome t hv).of_stop hcall).1
          rw [Service.after_append, Service.after, Service.after, hleft] at h
          cases h
  · rintro ⟨u, before, later, rfl, -, hstarted, hlater⟩
    have hv : IsSettled s ((Service.ofSettings s).after (before ++ [u])) :=
      IsSettled.after .stopped (before ++ [u])
    rw [List.append_cons, Service.after_append, after_of_listening hv hstarted hlater]
    exact hstarted

/-! ## What is left after a stop -/

/-- What a start makes that a service as it was made listens by. -/
theorem exists_active_of_apply {u : Turn} {opening : Opening}
    (hattempt : u.attempt = (opening.binding s).announced)
    (hstarted : (u.apply (.ofSettings s)).2.1.state = .listening) :
    ∃ active, (u.apply (.ofSettings s)).2.1 = ⟨s, .listening, some active⟩ ∧
      active.files = u.call.files s := by
  have hstart (endpoint : Endpoint) (root : Option String)
      (h : ((Service.ofSettings s).startWithBy u.attempt endpoint root u.site).2.1.state =
        .listening) :
      ∃ active, ((Service.ofSettings s).startWithBy u.attempt endpoint root u.site).2.1 =
          ⟨s, .listening, some active⟩ ∧ active.files = endpoint.files root := by
    rcases startWithBy_ofSettings s u.attempt endpoint root u.site with
      ⟨failure, after, hfailed⟩ | ⟨active, after, hopened, hlistens⟩
    · rw [hfailed] at h
      cases h
    · rw [hattempt] at hopened
      exact ⟨active, by rw [hlistens], files_of_announced_eq_ok hopened⟩
  obtain ⟨call, site, attempt, refused⟩ := u
  cases call with
  | stop => cases hstarted
  | startAt endpoint =>
    obtain ⟨active, hactive, hfiles⟩ := hstart endpoint none hstarted
    refine ⟨active, hactive, hfiles.trans ?_⟩
    cases endpoint <;> rfl
  | start root =>
    simp only [Turn.apply, Service.startBy] at hstarted ⊢
    cases hendpoint : Endpoint.ofSettings (Service.ofSettings s).settings root with
    | error failure =>
      rw [hendpoint] at hstarted
      cases hstarted
    | ok endpoint =>
      rw [hendpoint] at hstarted
      obtain ⟨active, hactive, hfiles⟩ := hstart endpoint (some root) hstarted
      refine ⟨active, hactive, hfiles.trans ?_⟩
      exact files_of_ofSettings hendpoint

/-- When a service was stopped, nothing that the system does not refuse to remove is left
of the files that its last start made. -/
theorem has_of_prevails {u t : Turn} {turns : List Turn} {opening : Opening}
    (hu : u.Prevails s turns) (hattempt : u.attempt = (opening.binding s).announced)
    (hcall : t.call = .stop) {path : String} (hpath : path ∈ u.call.files s) :
    (t.apply ((Service.ofSettings s).after turns)).2.2.tree.has path = false ∨
      Refuses t.refused t.site path := by
  obtain ⟨before, later, rfl, hbefore, hstarted, hlater⟩ := hu
  have hmade : IsSettled s ((Service.ofSettings s).after before) :=
    IsSettled.after .stopped before
  have hfirst : (Service.ofSettings s).after before = .ofSettings s :=
    hmade.eq_ofSettings (by simp [hbefore])
  have hv : IsSettled s ((Service.ofSettings s).after (before ++ [u])) :=
    IsSettled.after .stopped (before ++ [u])
  have hlast : (Service.ofSettings s).after (before ++ u :: later) =
      (u.apply (.ofSettings s)).2.1 := by
    rw [List.append_cons, Service.after_append, after_of_listening hv hstarted hlater,
      Service.after_append, hfirst]
    rfl
  rw [Service.after_append, hfirst] at hstarted
  obtain ⟨active, hactive, hfiles⟩ := exists_active_of_apply hattempt hstarted
  rw [hlast, hactive]
  have hv' : IsSettled s ⟨s, .listening, some active⟩ := .listening active
  exact ((turn_outcome t hv').of_stop hcall).2 active rfl path (hfiles ▸ hpath)

/-- Whatever was asked of a service before, and whatever happened to its site in between,
the next call leaves it in order. The service listens exactly if one of the starts before
prevails; when it is stopped then, neither the socket nor the address file that this start
made is left, unless the system refuses to remove it. -/
theorem orderly_of_turns (s : Settings) (turns : List Turn) (t : Turn) :
    let v := (Service.ofSettings s).after turns
    Orderly v t (t.apply v) ∧
      (v.state = .listening ↔ ∃ u, Turn.Prevails u s turns) ∧
      (t.call = .stop → ∀ (u : Turn) (opening : Opening), u.Prevails s turns →
        u.attempt = (opening.binding s).announced → ∀ path ∈ u.call.files s,
          (t.apply v).2.2.tree.has path = false ∨ Refuses t.refused t.site path) := by
  intro v
  have hv : IsSettled s v := IsSettled.after .stopped turns
  refine ⟨(turn_outcome t hv).orderly hv (hv.apply t),
    listening_iff_exists_prevails s turns, ?_⟩
  intro hcall u opening hu hattempt path hpath
  exact has_of_prevails hu hattempt hcall hpath

/-- A service that was started on a free port for a state root, and then in vain at a
socket: when it is stopped, the file with its address is gone. -/
theorem has_eq_false_of_two_starts :
    let s := { Settings.default with transport := .tcp, listen := "127.0.0.1:0" }
    let attempt : Attempt := (Service.ofSettings s).listen
    let first : Turn := ⟨.start "/r", .ofTree (.bare []), attempt, fun _ => false⟩
    let site := (first.apply (.ofSettings s)).2.2
    let second : Turn := ⟨.startAt (.unix "/r/s.sock"), site, attempt, fun _ => false⟩
    let last : Turn := ⟨.stop, site, attempt, fun _ => false⟩
    site.tree.has (addressFile "/r") = true ∧
      (last.apply ((Service.ofSettings s).after [first, second])).2.2.tree.has
        (addressFile "/r") = false := by
  intro s attempt first site second last
  have hattempt : attempt = (Opening.binding ⟨openPath, openAddress⟩ s).announced := by
    rw [← Service.bind_eq_binding]
    exact Service.listen_eq_announced (.ofSettings s)
  have hfirst : first.Prevails s [first, second] :=
    ⟨[], [second], rfl, rfl, by decide +kernel, by simp [second]⟩
  obtain ⟨-, -, hleft⟩ := orderly_of_turns s [first, second] last
  refine ⟨by decide +kernel, ?_⟩
  rcases hleft rfl first _ hfirst hattempt (addressFile "/r") List.mem_cons_self with
    hgone | hrefused | ⟨fault, hfault⟩
  · exact hgone
  · cases hrefused
  · have hunlinks : (site.tree.unlink (addressFile "/r")).toOption.isSome = true := by
      decide +kernel
    have hsite : last.site.tree = site.tree := rfl
    rw [← hsite, hfault] at hunlinks
    cases hunlinks

end CredRelay.Relay
