import CredRelay.Proofs.Host.Files
import CredRelay.Proofs.Relay.Fleet
/-! Services that share a state root and publish their network addresses in one file
there. Every start that succeeds writes the file anew, and every end of a service that
listens removes it, whoever wrote it last. So what the file says depends on the last
service that began or ended to listen, and on nothing else. -/
namespace CredRelay.Relay

open Host Tree Net

/-! ## The file under a state root -/

/-- Whether the directory for the address file of a state root is there, so that the file
has a place. -/
structure Ready (root : String) (place : List String) (t : Tree) : Prop where
  makeDirectories_eq : t.makeDirectories (socketDir root) = .ok t
  place_eq : t.place (addressFile root) = .ok place
  last_ne : (addressFile root).toList.getLast? ≠ some '/'

variable {root : String} {place : List String} {t t' : Tree} {a : SocketAddress}

theorem Ready.of_keepsDirectories (h : Ready root place t)
    (hkept : KeepsDirectories t t') : Ready root place t' :=
  ⟨makeDirectories_eq_self h.makeDirectories_eq hkept,
    hkept.place_eq_ok h.place_eq, h.last_ne⟩

/-- An address that was published can be read in the file. -/
theorem exists_ready_of_publish_eq_ok (h : publish root a t = (.ok (), t')) :
    ∃ place, Ready root place t' ∧ t'.HasFile (addressFile root) place a.text.toUTF8 := by
  rw [publish] at h
  split at h
  · cases h
  · next made hmade =>
    split at h
    · next written hwritten =>
      cases h
      obtain ⟨place, mode, hplace, hlast, hkind, rfl⟩ :=
        exists_put_of_write_eq_ok hwritten
      have hfile :
          (made.put place (.file mode a.text.toUTF8)).HasFile (addressFile root) place
          a.text.toUTF8 := hasFile_put hplace hlast hkind mode
      have hkept : KeepsDirectories made (made.put place (.file mode a.text.toUTF8)) :=
        keepsDirectories_put (ne_directory_of_eq_none_or_file hkind)
      exact ⟨place, ⟨makeDirectories_eq_self hmade hkept, hfile.place_eq, hlast⟩, hfile⟩
    · cases h

theorem readText_of_publish_eq_ok (h : publish root a t = (.ok (), t')) :
    t'.readText (addressFile root) = .text a.text := by
  obtain ⟨place, -, hfile⟩ := exists_ready_of_publish_eq_ok h
  exact readText_of_read_eq_ok hfile.read_eq_ok

/-- Where an address was published once, another one can be published. -/
theorem Ready.publish_ne_error (h : Ready root place t)
    (hkind : t.kind? place = none ∨ t.kind? place = some .file) {failure : Failure} :
    publish root a t ≠ (.error failure, t') := by
  obtain ⟨mode, hwrite⟩ := exists_write_eq_ok h.place_eq h.last_ne hkind a.text.toUTF8
  rw [publish, h.makeDirectories_eq]
  simp only [hwrite]
  rintro ⟨⟩

/-- Where an address was published once, nothing is left of it when the file is
removed. -/
theorem Ready.removeIfPossible (site : Site) (h : Ready root place site.tree)
    (hkind : site.tree.kind? place = none ∨ site.tree.kind? place = some .file) :
    Ready root place (removeIfPossible site (addressFile root)).tree ∧
      (removeIfPossible site (addressFile root)).tree.kind? place = none := by
  rw [Relay.removeIfPossible]
  rcases hkind with hnone | hfile
  · have hhas := has_eq_false_of_kind?_eq_none h.place_eq hnone
    obtain ⟨fault, hunlink⟩ :=
      (atMostDirectory_of_has_eq_false hhas).exists_unlink_eq_error
    rw [hunlink]
    exact ⟨h, hnone⟩
  · have hne : site.tree.kind? place ≠ some .directory := by simp [hfile]
    have hroot : key place ≠ "/" := fun hroot => hne (kind?_root hroot)
    obtain ⟨mode, octets, hnode⟩ := kind?_eq_file_iff.mp hfile
    have hthere : site.tree.HasFile (addressFile root) place octets :=
      ⟨h.place_eq, ⟨mode, hnode⟩, h.last_ne⟩
    rw [hthere.unlink_eq_ok]
    exact ⟨h.of_keepsDirectories (keepsDirectories_remove hne), by
      simp [kind?_remove, hroot]⟩

/-! ## What a start comes to -/

/-- What the start of a service on a network address comes to for a state root: nothing
changes, because it listens or because its address cannot be read; or it fails, before or
when it publishes; or it has published what it listens on. -/
inductive StartOutcome (root : String) (v : Service) (site : Site) :
    Except Failure Unit × Service × Site → Prop
  | kept {result : Except Failure Unit} : StartOutcome root v site (result, v, site)
  | failed {failure : Failure} {after : Site} (hidle : v.active = none)
      (htree : after.tree = site.tree ∨
        ∃ (a : SocketAddress) (reason : Failure),
          publish root a site.tree = (.error reason, after.tree)) :
      StartOutcome root v site (.error failure, { v with state := .stopped }, after)
  | started {a : SocketAddress} {after : Site} (hidle : v.active = none)
      (hpublish : publish root a site.tree = (.ok (), after.tree)) :
      StartOutcome root v site (.ok (),
        { v with
          state := .listening, active := some ⟨.tcp a, .tcp a, some (addressFile root)⟩ },
        after)

theorem start_outcome {v : Service} (htcp : v.settings.transport = .tcp) (root : String)
    (site : Site) : StartOutcome root v site (v.start root site) := by
  rw [Service.start, Endpoint.ofSettings, htcp]
  cases SocketAddress.ofString? v.settings.listen with
  | none => exact .kept
  | some address =>
    dsimp only
    rw [Service.startWith]
    cases hactive : v.active with
    | some active => exact .kept
    | none =>
      simp only [Service.listen, bind]
      rcases bindTcp_cases v.settings address site with ⟨failure, hbind⟩ |
        ⟨after, hbind, htree⟩
      · rw [hbind]
        exact hactive ▸ .failed hactive (.inl rfl)
      · simp only [hbind, announce]
        cases hpublish : publish root (site.boundAddress address) after.tree with
        | mk result tree =>
          cases result with
          | ok => exact .started hactive (htree ▸ hpublish)
          | error failure =>
            exact hactive ▸ .failed hactive (.inr ⟨_, failure, htree ▸ hpublish⟩)

/-! ## The last event -/

/-- A service began to listen, or one that listened ended. -/
inductive Event where
  | began (service : Nat)
  | ended
  deriving DecidableEq, Repr

namespace Fleet

/-- Whether the service of a number listens. -/
def listens (f : Fleet) (i : Nat) : Bool :=
  (f.services i).any (·.state == .listening)

/-- Whether the service of a number began or ended to listen between two states. -/
def event? (f g : Fleet) (i : Nat) : Option Event :=
  match f.listens i, g.listens i with
  | false, true => some (.began i)
  | true, false => some .ended
  | _, _ => none

/-- The last event in a run. -/
def lastEvent? (f : Fleet) : List Op → Option Event
  | [] => none
  | op :: rest => ((f.take op).2.lastEvent? rest).or (f.event? (f.take op).2 op.service)

end Fleet

/-! ## What is published -/

/-- Whether a service listens on a network address that it published for a state root. -/
structure Announces (root : String) (v : Service) (a : SocketAddress) : Prop where
  state_eq : v.state = .listening
  active_eq : v.active = some ⟨.tcp a, .tcp a, some (addressFile root)⟩

theorem Announces.not_isIdle {v : Service} (h : Announces root v a) : ¬IsIdle v := by
  intro hidle
  have hstate := hidle.state_eq
  rw [h.state_eq] at hstate
  cases hstate

namespace Fleet

/-- What the address file of a state root holds after the last event: the address of the
service that began, if one did; nothing, if one ended. Without an event nothing listens,
and nothing is known of it. -/
def FileAfter (root : String) (f : Fleet) : Option Event → Prop
  | none => f.IsNew
  | some (.began i) => ∃ v a place, f.services i = some v ∧ Announces root v a ∧
      Ready root place f.site.tree ∧
      f.site.tree.HasFile (addressFile root) place a.text.toUTF8
  | some .ended => ∃ place, Ready root place f.site.tree ∧ f.site.tree.kind? place = none

variable {f : Fleet} {i : Nat} {v : Service} {last : Option Event}

/-- What holds of services that share a state root all along. -/
structure Publication (root : String) (f : Fleet) (last : Option Event) : Prop where
  transport_eq {i : Nat} {v : Service} (hi : f.services i = some v) :
    v.settings.transport = .tcp
  idle_or_announces {i : Nat} {v : Service} (hi : f.services i = some v) :
    IsIdle v ∨ ∃ a, Announces root v a
  fileAfter : FileAfter root f last

/-- Once an address was published, there is a place for it with at most a file. -/
theorem FileAfter.exists_ready (h : FileAfter root f last) (hlast : last ≠ none) :
    ∃ place, Ready root place f.site.tree ∧
      (f.site.tree.kind? place = none ∨ f.site.tree.kind? place = some .file) := by
  match last, h with
  | some (.began i), ⟨_, _, place, _, _, hready, hfile⟩ =>
    exact ⟨place, hready, .inr hfile.kind?_eq⟩
  | some .ended, ⟨place, hready, hkind⟩ => exact ⟨place, hready, .inl hkind⟩

/-- A service that listens was started, so there was an event. -/
theorem FileAfter.ne_none (h : FileAfter root f last) (hi : f.services i = some v)
    {a : SocketAddress} (hv : Announces root v a) : last ≠ none := by
  rintro rfl
  exact hv.not_isIdle (h i v hi)

namespace Publication

/-- What holds of all services is kept where one of them is changed or given up, as
long as it has its settings, is idle or has published its address, and the file is as
it must be. -/
theorem update (h : Publication root f last) (hi : f.services i = some v)
    {left : Option Service} {site : Site} {last' : Option Event}
    (hleft : ∀ w ∈ left, w.settings = v.settings ∧ (IsIdle w ∨ ∃ a, Announces root w a))
    (hfile : FileAfter root ⟨Function.update f.services i left, site⟩ last') :
    Publication root ⟨Function.update f.services i left, site⟩ last' := by
  refine ⟨?_, ?_, hfile⟩
  · intro j w hj
    rcases update_eq_some_iff.mp hj with ⟨-, hw⟩ | ⟨-, hw⟩
    · rw [(hleft w hw).1]
      exact h.transport_eq hi
    · exact h.transport_eq hw
  · intro j w hj
    rcases update_eq_some_iff.mp hj with ⟨-, hw⟩ | ⟨-, hw⟩
    · exact (hleft w hw).2
    · exact h.idle_or_announces hw

/-- Where a service does not listen before and after, and the files stay, there is no
event. -/
theorem of_idle (h : Publication root f last) (hi : f.services i = some v)
    (hidle : IsIdle v) {left : Option Service} (hleft : ∀ w ∈ left, w = v) {site : Site}
    (htree : last ≠ none → site.tree = f.site.tree) :
    Publication root ⟨Function.update f.services i left, site⟩ last := by
  refine h.update hi ?_ ?_
  · intro w hw
    rw [hleft w hw]
    exact ⟨rfl, .inl hidle⟩
  · match last, h.fileAfter with
    | none, hnew =>
      intro j w hj
      rcases update_eq_some_iff.mp hj with ⟨-, hw⟩ | ⟨-, hw⟩
      · rw [hleft w hw]
        exact hidle
      · exact hnew j w hw
    | some (.began j), ⟨w, a, place, hj, hw, hready, hfile⟩ =>
      rw [← htree nofun] at hready hfile
      refine ⟨w, a, place, update_eq_some_iff.mpr (.inr ⟨?_, hj⟩), hw, hready, hfile⟩
      -- the service that began listens, so it is not the idle one
      rintro rfl
      rw [hi] at hj
      cases hj
      exact hw.not_isIdle hidle
    | some .ended, ⟨place, hready, hkind⟩ =>
      rw [← htree nofun] at hready hkind
      exact ⟨place, hready, hkind⟩

/-- When a service that listens ends, the published address is gone, whoever
published it. -/
theorem of_release (h : Publication root f last) (hi : f.services i = some v)
    {a : SocketAddress} (hv : Announces root v a) {left : Option Service}
    (hleft : ∀ w ∈ left, w = { v with state := .stopped, active := none }) :
    Publication root ⟨Function.update f.services i left,
      Active.release ⟨.tcp a, .tcp a, some (addressFile root)⟩ f.site⟩ (some .ended) := by
  obtain ⟨place, hready, hkind⟩ := h.fileAfter.exists_ready (h.fileAfter.ne_none hi hv)
  refine h.update hi ?_ ⟨place, Ready.removeIfPossible (f.site.closeTcp a) hready hkind⟩
  intro w hw
  rw [hleft w hw]
  exact ⟨rfl, .inl ⟨rfl, rfl⟩⟩

/-- When a service begins to listen, its address is published, whatever was published
before. -/
theorem of_start (h : Publication root f last) (hi : f.services i = some v)
    {a : SocketAddress} {after : Site}
    (hpublish : publish root a f.site.tree = (.ok (), after.tree)) :
    Publication root ⟨Function.update f.services i (some
      { v with
        state := .listening, active := some ⟨.tcp a, .tcp a, some (addressFile root)⟩ }),
      after⟩ (some (.began i)) := by
  obtain ⟨place, hready, hfile⟩ := exists_ready_of_publish_eq_ok hpublish
  refine h.update hi ?_ ⟨_, a, place, Function.update_self i _ f.services, ⟨rfl, rfl⟩,
    hready, hfile⟩
  rintro w ⟨⟩
  exact ⟨rfl, .inr ⟨a, rfl, rfl⟩⟩

theorem isIdle_of_active_eq (h : Publication root f last) (hi : f.services i = some v)
    (hactive : v.active = none) : IsIdle v := by
  rcases h.idle_or_announces hi with hidle | ⟨a, ha⟩
  · exact hidle
  · rw [ha.active_eq] at hactive
    cases hactive

theorem exists_announces_of_active_eq (h : Publication root f last)
    (hi : f.services i = some v) {active : Active} (hactive : v.active = some active) :
    ∃ a, active = ⟨.tcp a, .tcp a, some (addressFile root)⟩ ∧ Announces root v a := by
  rcases h.idle_or_announces hi with hidle | ⟨a, ha⟩
  · rw [hidle.active_eq] at hactive
    cases hactive
  · rw [ha.active_eq] at hactive
    cases hactive
    exact ⟨a, rfl, ha⟩

end Publication

/-! ## What holds along a run -/

/-- The event where one service is replaced. -/
theorem event?_update (hi : f.services i = some v) (left : Option Service) (site : Site) :
    f.event? ⟨Function.update f.services i left, site⟩ i =
      match v.state == .listening, left.any (·.state == .listening) with
      | false, true => some (.began i)
      | true, false => some .ended
      | _, _ => none := by
  have hleft : listens ⟨Function.update f.services i left, site⟩ i =
      left.any (·.state == .listening) := by
    simp [listens]
  rw [event?, hleft]
  simp [listens, hi]

theorem event?_self : f.event? f i = none := by
  rw [event?]
  cases f.listens i <;> rfl

theorem Publication.take_start (h : Publication root f last)
    (hi : f.services i = some v) : Publication root (f.take ⟨i, .start root⟩).2
      ((f.event? (f.take ⟨i, .start root⟩).2 i).or last) := by
  have hout := start_outcome (h.transport_eq hi) root f.site
  simp only [take, hi, Action.apply]
  generalize v.start root f.site = r at hout
  cases hout with
  | kept =>
    dsimp only
    rw [← hi, Function.update_eq_self, event?_self]
    exact h
  | @failed failure after hactive htree =>
    have hidle := h.isIdle_of_active_eq hi hactive
    have hsame : { v with state := .stopped } = v := by rw [← hidle.state_eq]
    dsimp only
    rw [hsame, event?_update hi, Option.any_some, hidle.state_eq]
    refine h.of_idle hi hidle (fun w hw => (Option.some_inj.mp hw).symm) fun hlast => ?_
    -- after an event there is a place for the file, so it was not publishing that failed
    obtain ⟨place, hready, hkind⟩ := h.fileAfter.exists_ready hlast
    rcases htree with hsame | ⟨a, reason, hpublish⟩
    · exact hsame
    · exact absurd hpublish (hready.publish_ne_error hkind)
  | @started a after hactive hpublish =>
    have hidle := h.isIdle_of_active_eq hi hactive
    dsimp only
    rw [event?_update hi, hidle.state_eq]
    exact h.of_start hi hpublish

/-- Stopping a service and giving it up are alike: one that listens ends, any other one
changes nothing. -/
theorem Publication.take_end (h : Publication root f last) (hi : f.services i = some v)
    {action : Action} (haction : action = .stop ∨ action = .drop) :
    Publication root (f.take ⟨i, action⟩).2
    ((f.event? (f.take ⟨i, action⟩).2 i).or last) := by
  have hstart : ∀ root, action ≠ .start root := by
    rintro root rfl
    simp at haction
  have hsocket : action.socket? = none := by
    rcases haction with rfl | rfl <;> rfl
  have hout :=
    apply_outcome (v := v) (fun root hroot => absurd hroot (hstart root)) f.site
  simp only [take, hi]
  generalize action.apply v f.site = r at hout
  cases hout with
  | unchanged =>
    dsimp only
    rw [← hi, Function.update_eq_self, event?_self]
    exact h
  | forgotten hactive =>
    have hidle := h.isIdle_of_active_eq hi hactive
    dsimp only
    rw [event?_update hi, hidle.state_eq]
    exact h.of_idle hi hidle (by simp) fun _ => rfl
  | @released active left hactive hleft =>
    obtain ⟨a, rfl, ha⟩ := h.exists_announces_of_active_eq hi hactive
    have hstate : left.any (·.state == .listening) = false := by
      cases left with
      | none => rfl
      | some w =>
        rw [hleft w rfl]
        rfl
    dsimp only
    rw [event?_update hi, ha.state_eq, hstate]
    exact h.of_release hi ha hleft
  | failed _ hpath =>
    rw [hsocket] at hpath
    cases hpath
  | started _ hpath =>
    rw [hsocket] at hpath
    cases hpath

/-- What is done to services that share a state root: one is started for it, stopped or
given up. -/
def IsFor (root : String) (op : Op) : Prop :=
  op.action = .start root ∨ op.action = .stop ∨ op.action = .drop

theorem Publication.take (h : Publication root f last) {op : Op} (hop : IsFor root op) :
    Publication root (f.take op).2 ((f.event? (f.take op).2 op.service).or last) := by
  obtain ⟨i, action⟩ := op
  cases hi : f.services i with
  | none =>
    simp only [Fleet.take, hi, event?_self]
    exact h
  | some v =>
    rcases hop with rfl | hend
    · exact h.take_start hi
    · exact h.take_end hi hend

theorem Publication.run (h : Publication root f last) {ops : List Op}
    (hops : ∀ op ∈ ops, IsFor root op) :
    Publication root (f.run ops) ((f.lastEvent? ops).or last) := by
  induction ops generalizing f last with
  | nil => exact h
  | cons op rest ih =>
    rw [Fleet.run, lastEvent?, Option.or_assoc]
    exact ih (h.take (hops op List.mem_cons_self)) fun op' hop =>
      hops op' (List.mem_cons_of_mem op hop)

/-! ## Main results -/

/-- Whether the service of a number listens on a network address, and that address is what
the address file of a state root holds. -/
def Publishes (f : Fleet) (root : String) (i : Nat) : Prop :=
  ∃ v a, f.services i = some v ∧ v.state = .listening ∧ v.endpoint? = some (.tcp a) ∧
    f.site.tree.readText (addressFile root) = .text a.text

theorem FileAfter.publishes (h : FileAfter root f (some (.began i))) :
    f.Publishes root i := by
  obtain ⟨v, a, place, hi, hv, -, hfile⟩ := h
  exact ⟨v, a, hi, hv.state_eq, by simp [Service.endpoint?, hv.active_eq],
    readText_of_read_eq_ok hfile.read_eq_ok⟩

theorem FileAfter.has_eq_false (h : FileAfter root f (some .ended)) :
    f.site.tree.has (addressFile root) = false := by
  obtain ⟨place, hready, hkind⟩ := h
  exact has_eq_false_of_kind?_eq_none hready.place_eq hkind

theorem not_publishes_of_isNew (h : f.IsNew) : ¬f.Publishes root i := by
  rintro ⟨v, a, hi, hstate, -⟩
  rw [(h i v hi).state_eq] at hstate
  cases hstate

theorem not_publishes_of_has_eq_false (h : f.site.tree.has (addressFile root) = false) :
    ¬f.Publishes root i := by
  rintro ⟨v, a, -, -, -, hread⟩
  exact (atMostDirectory_of_has_eq_false h).readText_ne_text a.text hread

/-- Services that listen on network addresses and share a state root, on which anything
may stand, however they are started for it, stopped and given up: the address of one that
listens is published exactly if the last event was that a service began to listen, and
then it is the address of that one. If the last event was that a service ended, nothing is
published any more, even where others still listen. Nothing listens before the first
event. -/
theorem publishes_iff_of_run (h : f.IsNew) (root : String) {ops : List Op}
    (htransport : ∀ i v, f.services i = some v → v.settings.transport = .tcp)
    (hops : ∀ op ∈ ops, IsFor root op) :
    ((∃ i, (f.run ops).Publishes root i) ↔ ∃ i, f.lastEvent? ops = some (.began i)) ∧
      (∀ i, f.lastEvent? ops = some (.began i) → (f.run ops).Publishes root i) ∧
      (f.lastEvent? ops = some .ended →
        (f.run ops).site.tree.has (addressFile root) = false) ∧
      (f.lastEvent? ops = none → (f.run ops).IsNew) := by
  have hstart : Publication root f none := ⟨htransport _ _, fun hi => .inl (h _ _ hi), h⟩
  have hfile := (hstart.run hops).fileAfter
  rw [Option.or_none] at hfile
  have hbegan : ∀ i, f.lastEvent? ops = some (.began i) →
      (f.run ops).Publishes root i := by
    intro i hi
    rw [hi] at hfile
    exact hfile.publishes
  have hended : f.lastEvent? ops = some .ended →
      (f.run ops).site.tree.has (addressFile root) = false := by
    intro hi
    rw [hi] at hfile
    exact hfile.has_eq_false
  have hnone : f.lastEvent? ops = none → (f.run ops).IsNew := by
    intro hi
    rw [hi] at hfile
    exact hfile
  refine ⟨⟨?_, fun ⟨i, hi⟩ => ⟨i, hbegan i hi⟩⟩, hbegan, hended, hnone⟩
  rintro ⟨i, hi⟩
  cases hlast : f.lastEvent? ops with
  | none => exact absurd hi (not_publishes_of_isNew (hnone hlast))
  | some event =>
    cases event with
    | began j => exact ⟨j, rfl⟩
    | ended => exact absurd hi (not_publishes_of_has_eq_false (hended hlast))

/-- Two services at one state root: each one publishes its address over that of the other,
and when the first one stops, nothing is published, although the second one listens. -/
theorem not_publishes_of_two_services :
    let settings (port : String) : Settings :=
      { Settings.default with transport := .tcp, listen := "127.0.0.1:" ++ port }
    let f : Fleet := ⟨fun i =>
      if i = 0 then some (.ofSettings (settings "5001"))
      else if i = 1 then some (.ofSettings (settings "5002")) else none,
      .ofTree (.bare [])⟩
    let ops : List Op := [⟨0, .start "/r"⟩, ⟨1, .start "/r"⟩]
    (f.run ops).Publishes "/r" 1 ∧ (f.run (ops ++ [⟨0, .stop⟩])).listens 1 = true ∧
      ¬∃ i, (f.run (ops ++ [⟨0, .stop⟩])).Publishes "/r" i := by
  intro settings f ops
  have hservices : ∀ i v, f.services i = some v →
      ∃ port, v = .ofSettings (settings port) := by
    intro i v hi
    simp only [f] at hi
    split at hi
    · cases hi
      exact ⟨_, rfl⟩
    · split at hi
      · cases hi
        exact ⟨_, rfl⟩
      · cases hi
  have hnew : f.IsNew := by
    intro i v hi
    obtain ⟨port, rfl⟩ := hservices i v hi
    exact ⟨rfl, rfl⟩
  have htransport : ∀ i v, f.services i = some v → v.settings.transport = .tcp := by
    intro i v hi
    obtain ⟨port, rfl⟩ := hservices i v hi
    rfl
  have hops : ∀ op ∈ ops ++ [⟨0, .stop⟩], IsFor "/r" op := by
    simp [ops, IsFor]
  have hbefore := publishes_iff_of_run hnew "/r" htransport
    fun op hop => hops op (List.mem_append_left _ hop)
  have hafter := publishes_iff_of_run hnew "/r" htransport hops
  refine ⟨hbefore.2.1 1 (by decide +kernel), by decide +kernel, ?_⟩
  rw [hafter.1]
  have hlast : f.lastEvent? (ops ++ [⟨0, .stop⟩]) = some .ended := by decide +kernel
  simp [hlast]

end Fleet

end CredRelay.Relay
