import CredRelay.Proofs.Host.Files
import CredRelay.Proofs.Relay.Binding
import CredRelay.Relay.Attempt
/-! The life of one service. It is started and stopped in whatever order, on a site that
anything may happen to in between, whatever comes of its attempts to listen and whichever
of its files cannot be removed; after each call it is stopped with nothing to listen with,
just as it was made, or listening with something. Starting it while it listens changes
nothing. -/
namespace CredRelay.Relay

open Host Tree

/-! ## Calls -/

/-- What can be asked of a service. -/
inductive Directive where
  | start (root : String)
  | startAt (endpoint : Endpoint)
  | stop
  deriving DecidableEq, Repr

/-- A call with the site it is made on, what comes there of an attempt to listen, and what
cannot be removed there. -/
structure Turn where
  call : Directive
  site : Site
  attempt : Attempt
  refused : Refusals

/-- What a call comes to. -/
def Turn.apply (t : Turn) (v : Service) : Except Failure Unit × Service × Site :=
  match t.call with
  | .start root => v.startBy t.attempt root t.site
  | .startAt endpoint => v.startWithBy t.attempt endpoint none t.site
  | .stop =>
    match v.stopUnless t.refused t.site with
    | (v, site) => (.ok (), v, site)

/-- A service after some calls. -/
def Service.after (v : Service) : List Turn → Service
  | [] => v
  | t :: rest => Service.after (t.apply v).2.1 rest

/-! ## Stopped as made, or listening -/

/-- Whether a service is as it was made from its settings, or listens with something. -/
inductive IsSettled (s : Settings) : Service → Prop
  | stopped : IsSettled s (.ofSettings s)
  | listening (active : Active) : IsSettled s ⟨s, .listening, some active⟩

variable {s : Settings} {v : Service}

theorem IsSettled.eq_ofSettings (h : IsSettled s v) (hstate : v.state ≠ .listening) :
    v = .ofSettings s := by
  cases h with
  | stopped => rfl
  | listening => exact absurd rfl hstate

theorem IsSettled.exists_active (h : IsSettled s v) (hstate : v.state = .listening) :
    ∃ active, v = ⟨s, .listening, some active⟩ := by
  cases h with
  | stopped => cases hstate
  | listening active => exact ⟨active, rfl⟩

theorem IsSettled.state_eq (h : IsSettled s v) :
    v.state = .stopped ∨ v.state = .listening := by
  cases h with
  | stopped => exact .inl rfl
  | listening => exact .inr rfl

theorem IsSettled.listening_iff (h : IsSettled s v) :
    v.state = .listening ↔ v.endpoint?.isSome = true := by
  cases h with
  | stopped => simp [Service.ofSettings, Service.endpoint?]
  | listening => simp [Service.endpoint?]

/-! ## What one call does -/

/-- A start of a service that listens is no attempt at all. -/
theorem startWithBy_of_active {active : Active} (h : v.active = some active)
    (attempt : Attempt) (endpoint : Endpoint) (root : Option String) (site : Site) :
    v.startWithBy attempt endpoint root site = (.ok (), v, site) := by
  simp only [Service.startWithBy, h]

/-- A start of a service as it was made either fails, and then it is as it was made, or it
listens. -/
theorem startWithBy_ofSettings (s : Settings) (attempt : Attempt) (endpoint : Endpoint)
    (root : Option String) (site : Site) :
    (∃ failure after, (Service.ofSettings s).startWithBy attempt endpoint root site =
        (.error failure, .ofSettings s, after)) ∨
      ∃ active after, attempt endpoint root site = (.ok active, after) ∧
        (Service.ofSettings s).startWithBy attempt endpoint root site =
          (.ok (), ⟨s, .listening, some active⟩, after) := by
  simp only [Service.startWithBy, Service.ofSettings]
  match attempt endpoint root site with
  | (.ok active, after) => exact .inr ⟨active, after, rfl, rfl⟩
  | (.error failure, after) => exact .inl ⟨failure, after, rfl⟩

theorem startBy_cases (v : Service) (attempt : Attempt) (root : String) (site : Site) :
    (∃ failure, v.startBy attempt root site = (.error failure, v, site)) ∨
      ∃ endpoint, v.startBy attempt root site = v.startWithBy attempt endpoint
      (some root) site := by
  rw [Service.startBy]
  cases Endpoint.ofSettings v.settings root with
  | error failure => exact .inl ⟨failure, rfl⟩
  | ok endpoint => exact .inr ⟨endpoint, rfl⟩

/-- Everything that a call can come to: a start that changes nothing, because something is
already listened on or because it fails early, or one that fails later, or one that
succeeds; a stop that changes nothing, or one that releases what was listened on. -/
inductive TurnOutcome (s : Settings) (t : Turn) :
    Service → Except Failure Unit × Service × Site → Prop
  | kept {v : Service} {result : Except Failure Unit} (hcall : t.call ≠ .stop)
      (hv : IsSettled s v)
      (hresult : v.state = .listening ∨ ∃ failure, result = .error failure) :
      TurnOutcome s t v (result, v, t.site)
  | failed {failure : Failure} {after : Site} (hcall : t.call ≠ .stop) :
      TurnOutcome s t (.ofSettings s) (.error failure, .ofSettings s, after)
  | started {active : Active} {after : Site} (hcall : t.call ≠ .stop) :
      TurnOutcome s t (.ofSettings s) (.ok (), ⟨s, .listening, some active⟩, after)
  | idle (hcall : t.call = .stop) :
  TurnOutcome s t (.ofSettings s) (.ok (), .ofSettings s, t.site)
  | released {active : Active} (hcall : t.call = .stop) :
      TurnOutcome s t ⟨s, .listening, some active⟩
      (.ok (), .ofSettings s, active.releaseUnless t.refused t.site)

theorem startWithBy_outcome {t : Turn} (hcall : t.call ≠ .stop) (hv : IsSettled s v)
    (endpoint : Endpoint) (root : Option String) :
    TurnOutcome s t v (v.startWithBy t.attempt endpoint root t.site) := by
  cases hv with
  | stopped =>
    rcases startWithBy_ofSettings s t.attempt endpoint root t.site with
      ⟨failure, after, h⟩ | ⟨active, after, -, h⟩
    · rw [h]
      exact .failed hcall
    · rw [h]
      exact .started hcall
  | listening active =>
    rw [startWithBy_of_active rfl]
    exact .kept hcall (.listening active) (.inl rfl)

theorem turn_outcome (t : Turn) (hv : IsSettled s v) : TurnOutcome s t v (t.apply v) := by
  rw [Turn.apply]
  cases hcall : t.call with
  | start root =>
    have hne : t.call ≠ .stop := by simp [hcall]
    rcases startBy_cases v t.attempt root t.site with ⟨failure, h⟩ | ⟨endpoint, h⟩
    · simp only [h]
      exact .kept hne hv (.inr ⟨failure, rfl⟩)
    · simp only [h]
      exact startWithBy_outcome hne hv endpoint (some root)
  | startAt endpoint => exact startWithBy_outcome (by simp [hcall]) hv endpoint none
  | stop =>
    cases hv with
    | stopped => exact .idle hcall
    | listening active => exact .released hcall

/-! ## What a run of calls does -/

theorem IsSettled.apply (h : IsSettled s v) (t : Turn) : IsSettled s (t.apply v).2.1 := by
  have hout := turn_outcome t h
  generalize t.apply v = r at hout
  cases hout with
  | kept => exact h
  | failed => exact .stopped
  | started => exact .listening _
  | idle => exact .stopped
  | released => exact .stopped

theorem IsSettled.after (h : IsSettled s v) (turns : List Turn) :
    IsSettled s (v.after turns) := by
  induction turns generalizing v with
  | nil => exact h
  | cons t rest ih => exact ih (h.apply t)

/-! ## Files that are left -/

variable {refused : Refusals} {files : List String} {site : Site}
  {path : String} {n : Node}

theorem removeUnless_atMostDirectory (h : refused path = false) (site : Site) :
    (removeUnless refused site path).tree.AtMostDirectory path := by
  simp only [removeUnless, h, Bool.false_eq_true, if_false, removeIfPossible]
  cases hunlink : site.tree.unlink path with
  | ok tree => exact atMostDirectory_of_unlink_eq_ok hunlink
  | error fault => exact atMostDirectory_of_unlink_eq_error hunlink

theorem stat_of_stat_removeUnless {other : String}
    (h : (removeUnless refused site other).tree.stat path = .ok n) :
    site.tree.stat path = .ok n := by
  rw [removeUnless] at h
  split at h
  · exact h
  · rcases removeIfPossible_cases site other with hsame | ⟨gone, -, -, hgone⟩
    · rwa [hsame] at h
    · rw [hgone] at h
      exact stat_eq_ok_of_remove h

/-- Removing files makes nothing stand where nothing stood. -/
theorem stat_of_stat_foldl
    (h : (files.foldl (removeUnless refused) site).tree.stat path = .ok n) :
    site.tree.stat path = .ok n := by
  induction files generalizing site with
  | nil => exact h
  | cons file rest ih => exact stat_of_stat_removeUnless (ih h)

/-- What is left of some files whose removal is not refused is no more than
directories. -/
theorem atMostDirectory_foldl (hrefused : refused path = false) (h : path ∈ files)
    (site : Site) :
    (files.foldl (removeUnless refused) site).tree.AtMostDirectory path := by
  induction files generalizing site with
  | nil => cases h
  | cons file rest ih =>
    rcases List.mem_cons.mp h with rfl | h
    · intro n hstat
      exact removeUnless_atMostDirectory hrefused site n (stat_of_stat_foldl hstat)
    · exact ih h _

theorem atMostDirectory_releaseUnless {active : Active} (hrefused : refused path = false)
    (h : path ∈ active.files) (site : Site) :
    (active.releaseUnless refused site).tree.AtMostDirectory path :=
  atMostDirectory_foldl hrefused h (active.listener.close site)

theorem tree_close (l : Listener) (site : Site) : (l.close site).tree = site.tree := by
  cases l <;> rfl

/-- Whether the system refuses to remove a file: in any case, or because of what its tree
holds. -/
def Refuses (refused : Refusals) (site : Site) (path : String) : Prop :=
  refused path = true ∨ ∃ fault, site.tree.unlink path = .error fault

/-- Of the files of what was listened on none is left that the system did not refuse to
remove. -/
theorem has_releaseUnless {active : Active} (h : path ∈ active.files) (refused : Refusals)
    (site : Site) :
    (active.releaseUnless refused site).tree.has path = false ∨
    Refuses refused site path := by
  cases hrefused : refused path with
  | true => exact .inr (.inl hrefused)
  | false =>
    rw [has]
    cases hstat : (active.releaseUnless refused site).tree.stat path with
    | error fault => exact .inl rfl
    | ok n =>
      have hdirectory := atMostDirectory_releaseUnless hrefused h site n hstat
      have hbefore : site.tree.stat path = .ok n := by
        rw [← tree_close active.listener site]
        exact stat_of_stat_foldl hstat
      refine .inr (.inr (AtMostDirectory.exists_unlink_eq_error fun m hm => ?_))
      rw [hbefore] at hm
      cases hm
      exact hdirectory

/-! ## Order -/

/-- Whether a service can be started wherever an attempt to listen succeeds. -/
def Service.CanStart (v : Service) : Prop :=
  ∀ (attempt : Attempt) (endpoint : Endpoint) (root : Option String) (site after : Site)
    (active : Active), attempt endpoint root site = (.ok active, after) →
    v.startWithBy attempt endpoint root site =
      (.ok (), { v with state := .listening, active := some active }, after)

theorem canStart_ofSettings (s : Settings) : (Service.ofSettings s).CanStart := by
  intro attempt endpoint root site after active h
  simp only [Service.startWithBy, Service.ofSettings, h]

/-- Whether a call left a service in order. It is stopped or listens, and listens exactly
if it has an endpoint. A start that failed on a stopped service left it stopped and able
to start; any start of one that listens left it and the site as they were. A stop left it
stopped, and of its files nothing that the system does not refuse to remove; if it did not
listen, it and the site are as they were. -/
structure Orderly (v : Service) (t : Turn) (r : Except Failure Unit × Service × Site) :
    Prop where
  state_eq : r.2.1.state = .stopped ∨ r.2.1.state = .listening
  listening_iff : r.2.1.state = .listening ↔ r.2.1.endpoint?.isSome = true
  failed {failure : Failure} (hcall : t.call ≠ .stop) (hv : v.state = .stopped)
    (hr : r.1 = .error failure) :
    r.2.1.state = .stopped ∧ r.2.1.endpoint? = none ∧ r.2.1.CanStart
  restarted (hcall : t.call ≠ .stop) (hv : v.state = .listening) :
    r.2.1 = v ∧ r.2.2 = t.site
  stopped (hcall : t.call = .stop) :
    r.2.1.state = .stopped ∧ r.2.1.endpoint? = none ∧
      ∀ active ∈ v.active, ∀ path ∈ active.files,
        r.2.2.tree.has path = false ∨ Refuses t.refused t.site path
  unstopped (hcall : t.call = .stop) (hv : v.state ≠ .listening) :
    r.2.1 = v ∧ r.2.2 = t.site

section

variable {t : Turn} {r : Except Failure Unit × Service × Site}

/-- A start that failed on a stopped service left it as it was made. -/
theorem TurnOutcome.eq_ofSettings_of_error (h : TurnOutcome s t v r) (hv : IsSettled s v)
    (hstate : v.state = .stopped) {failure : Failure} (hr : r.1 = .error failure) :
    r.2.1 = .ofSettings s := by
  cases h with
  | kept => exact hv.eq_ofSettings (by simp [hstate])
  | failed => rfl
  | started => cases hr
  | idle => rfl
  | released => rfl

/-- A start of a service that listens changed nothing. -/
theorem TurnOutcome.eq_of_listening (h : TurnOutcome s t v r) (hcall : t.call ≠ .stop)
    (hstate : v.state = .listening) : r.2.1 = v ∧ r.2.2 = t.site := by
  cases h with
  | kept => exact ⟨rfl, rfl⟩
  | failed => cases hstate
  | started => cases hstate
  | idle hstop => exact absurd hstop hcall
  | released hstop => exact absurd hstop hcall

/-- A stop left a service as it was made, and none of its files that could be removed. -/
theorem TurnOutcome.of_stop (h : TurnOutcome s t v r) (hcall : t.call = .stop) :
    r.2.1 = .ofSettings s ∧ ∀ active ∈ v.active, ∀ path ∈ active.files,
      r.2.2.tree.has path = false ∨ Refuses t.refused t.site path := by
  cases h with
  | kept hne => exact absurd hcall hne
  | failed hne => exact absurd hcall hne
  | started hne => exact absurd hcall hne
  | idle =>
    refine ⟨rfl, ?_⟩
    rintro active ⟨⟩
  | released =>
    refine ⟨rfl, ?_⟩
    rintro active ⟨⟩ path hpath
    exact has_releaseUnless hpath t.refused t.site

/-- A stop of a service that does not listen changed nothing. -/
theorem TurnOutcome.eq_of_stop (h : TurnOutcome s t v r) (hcall : t.call = .stop)
    (hstate : v.state ≠ .listening) : r.2.1 = v ∧ r.2.2 = t.site := by
  cases h with
  | kept hne => exact absurd hcall hne
  | failed hne => exact absurd hcall hne
  | started hne => exact absurd hcall hne
  | idle => exact ⟨rfl, rfl⟩
  | released => exact absurd rfl hstate

theorem TurnOutcome.orderly (h : TurnOutcome s t v r) (hv : IsSettled s v)
    (hr : IsSettled s r.2.1) : Orderly v t r where
  state_eq := hr.state_eq
  listening_iff := hr.listening_iff
  failed hcall hstate herror := by
    rw [h.eq_ofSettings_of_error hv hstate herror]
    exact ⟨rfl, rfl, canStart_ofSettings s⟩
  restarted hcall hstate := h.eq_of_listening hcall hstate
  stopped hcall := by
    obtain ⟨hleft, hfiles⟩ := h.of_stop hcall
    rw [hleft]
    exact ⟨rfl, rfl, hfiles⟩
  unstopped hcall hstate := h.eq_of_stop hcall hstate

end

/-! ## Starting again -/

/-- What a start for a state root makes of its settings before it looks whether the
service listens: the address to listen on is read, for any root. -/
def checkListen (s : Settings) : Except Failure Unit :=
  if s.transport = .tcp ∧ Net.SocketAddress.ofString? s.listen = none then
    .error (.settings (.badListenAddress s.listen))
  else .ok ()

theorem start_of_active {active : Active} (h : v.active = some active) (root : String)
    (site : Site) : v.start root site = (checkListen v.settings, v, site) := by
  rw [← Service.startBy_listen, Service.startBy, Endpoint.ofSettings, checkListen]
  cases htransport : v.settings.transport with
  | unix => simp [startWithBy_of_active h]
  | pipe => simp [startWithBy_of_active h]
  | tcp =>
    cases haddress : Net.SocketAddress.ofString? v.settings.listen with
    | none => simp
    | some address => simp [startWithBy_of_active h]

/-- However a service came to listen, a start at any endpoint succeeds and changes
nothing. A start for any state root changes nothing either, but succeeds only if the
settings have no address that cannot be read: the service may well have been started at an
endpoint of its own. -/
theorem start_of_listening (s : Settings) (turns : List Turn)
    (h : ((Service.ofSettings s).after turns).state = .listening) (root : String)
    (endpoint : Endpoint) (site : Site) :
    ((Service.ofSettings s).after turns).startAt endpoint site =
        (.ok (), (Service.ofSettings s).after turns, site) ∧
      ((Service.ofSettings s).after turns).start root site =
        (checkListen s, (Service.ofSettings s).after turns, site) := by
  obtain ⟨active, hv⟩ := (IsSettled.after .stopped turns).exists_active h
  rw [hv]
  refine ⟨?_, start_of_active rfl root site⟩
  rw [Service.startAt, ← Service.startWithBy_listen]
  exact startWithBy_of_active rfl _ endpoint none site

/-- A service that is to listen on an address that cannot be read can be started at a
socket, and is then refused a start for any state root, while it goes on listening. -/
theorem start_of_unreadable_listen :
    let s := { Settings.default with transport := .tcp, listen := "garbage" }
    let t : Turn := ⟨.startAt (.unix "/run/s.sock"), .ofTree (.bare ["home"]),
      (Service.ofSettings s).listen, fun _ => false⟩
    let v := (Service.ofSettings s).after [t]
    v.state = .listening ∧ v.endpoint? = some (.unix "/run/s.sock") ∧
      ∀ root site, v.start root site = (.error (.settings (.badListenAddress "garbage")),
        v, site) := by
  intro s t v
  have hstate : v.state = .listening := by decide +kernel
  have hlisten : Net.SocketAddress.ofString? s.listen = none := by decide +kernel
  refine ⟨hstate, by decide +kernel, fun root site => ?_⟩
  rw [(start_of_listening s [t] hstate root (.unix "/run/s.sock") site).2, checkListen,
    if_pos ⟨rfl, hlisten⟩]

end CredRelay.Relay
