import CredRelay.Proofs.Relay.Locality
import CredRelay.Proofs.Relay.Runs
import Mathlib.Data.List.Basic
import Mathlib.Data.List.Nodup
import Mathlib.Data.List.Perm.Basic
/-! Requests of several clients, served one at a time. Whatever order they are served in,
every request has the same reply and the same records are left, as long as requests about
one registry stand in the same order: what is filed under an identifier is only read and
changed by requests about it. -/
namespace CredRelay.Relay

open Memory

/-! ## Requests that touch one identifier -/

/-- The identifier of the registry that octets are about, if they are a request
about one. -/
def about? (octets : ByteArray) : Option String :=
  match Request.decode octets with
  | .ok request => request.about?
  | .error _ => none

theorem answerOctets_frame (octets : ByteArray) (l : Ledger) :
    (answerOctets Memory.store octets l).2.failure = l.failure ∧
      ∀ id, about? octets ≠ some id →
        (answerOctets Memory.store octets l).2.records.get? id = l.records.get? id := by
  rw [answerOctets, about?]
  cases Request.decode octets with
  | error fault => exact ⟨rfl, fun _ _ => rfl⟩
  | ok request => exact answer_frame request l

theorem answerOctets_congr {octets : ByteArray} {l l' : Ledger}
    (hfailure : l.failure = l'.failure)
    (hrecord : ∀ id ∈ about? octets, l.records.get? id = l'.records.get? id) :
    (answerOctets Memory.store octets l).1 = (answerOctets Memory.store octets l').1 ∧
      ∀ id ∈ about? octets, (answerOctets Memory.store octets l).2.records.get? id =
        (answerOctets Memory.store octets l').2.records.get? id := by
  rw [about?] at hrecord ⊢
  rw [answerOctets, answerOctets]
  cases hr : Request.decode octets with
  | error fault => simp
  | ok request =>
    rw [hr] at hrecord
    exact answer_congr hfailure hrecord

/-! ## Orders of service -/

/-- A request as it was sent: by which client, after how many others of that client, and
its octets. -/
structure Sent where
  client : Nat
  turn : Nat
  octets : ByteArray

namespace Sent

/-- The step that serves a request. -/
def step (q : Sent) : Step :=
  .request q.octets

/-- Whether a request is about the registry of an identifier. -/
def isAbout (id : String) (q : Sent) : Bool :=
  about? q.octets == some id

end Sent

/-- The requests of a client, in the order in which it sent them. -/
def sentBy (clients : List (List ByteArray)) (client : Nat) : List Sent :=
  (clients[client]?.getD []).mapIdx fun turn octets => ⟨client, turn, octets⟩

/-- Whether an order of service is made of the requests of all clients, each client's in
its order. -/
def IsInterleaving (clients : List (List ByteArray)) (order : List Sent) : Prop :=
  ∀ client, order.filter (fun q => q.client == client) = sentBy clients client

/-- The replies to requests that are served in an order, and what they leave behind. -/
def serveAll (order : List Sent) (l : Ledger) : List (Option Reply) × Ledger :=
  run (order.map Sent.step) l

theorem nodup_sentBy (clients : List (List ByteArray)) (client : Nat) :
    (sentBy clients client).Nodup := by
  rw [sentBy, List.nodup_iff_injective_getElem]
  intro i j h
  have hturn := congrArg Sent.turn h
  simpa [Fin.ext_iff] using hturn

theorem count_eq_count_sentBy [DecidableEq Sent] {clients : List (List ByteArray)}
    {order : List Sent} (h : IsInterleaving clients order) (q : Sent) :
    order.count q = (sentBy clients q.client).count q := by
  rw [← h q.client, List.count_filter (by simp)]

theorem nodup_of_isInterleaving {clients : List (List ByteArray)} {order : List Sent}
    (h : IsInterleaving clients order) : order.Nodup := by
  classical
  rw [List.nodup_iff_count_le_one]
  intro q
  rw [count_eq_count_sentBy h]
  exact List.nodup_iff_count_le_one.mp (nodup_sentBy clients q.client) q

theorem perm_of_isInterleaving {clients : List (List ByteArray)}
    {order order' : List Sent} (h : IsInterleaving clients order)
    (h' : IsInterleaving clients order') : order.Perm order' := by
  classical
  rw [List.perm_iff_count]
  intro q
  rw [count_eq_count_sentBy h, count_eq_count_sentBy h']

/-! ## What an order leaves -/

theorem failure_serveAll (order : List Sent) (l : Ledger) :
    (serveAll order l).2.failure = l.failure := by
  induction order generalizing l with
  | nil => rfl
  | cons q order ih =>
    show (serveAll order (answerOctets Memory.store q.octets l).2).2.failure = l.failure
    rw [ih, (answerOctets_frame q.octets l).1]

/-- What is left under an identifier depends on what was there and on the requests
about it. -/
theorem get?_serveAll_of_get?_eq {order : List Sent} {l l' : Ledger} {id : String}
    (hfailure : l.failure = l'.failure)
    (hrecord : l.records.get? id = l'.records.get? id) :
    (serveAll order l).2.records.get? id =
      (serveAll (order.filter (Sent.isAbout id)) l').2.records.get? id := by
  -- by induction on the order, for two stores that agree on the failure and on this one
  -- record
  induction order generalizing l l' with
  | nil => exact hrecord
  | cons q order ih =>
    obtain ⟨hkept, hframe⟩ := answerOctets_frame q.octets l
    obtain ⟨hkept', -⟩ := answerOctets_frame q.octets l'
    show (serveAll order (answerOctets Memory.store q.octets l).2).2.records.get? id = _
    by_cases hq : about? q.octets = some id
    · have hone : ∀ other ∈ about? q.octets,
          l.records.get? other = l'.records.get? other := by
        intro other hother
        rw [hq] at hother
        cases hother
        exact hrecord
      rw [List.filter_cons_of_pos (by simp [Sent.isAbout, hq])]
      exact ih (hkept.trans (hfailure.trans hkept'.symm))
        ((answerOctets_congr hfailure hone).2 id hq)
    · rw [List.filter_cons_of_neg (by simp [Sent.isAbout, hq])]
      exact ih (hkept.trans hfailure) ((hframe id hq).trans hrecord)

/-- What is left under an identifier is left by the requests about it, whatever else is
served. -/
theorem get?_serveAll_filter (order : List Sent) (l : Ledger) (id : String) :
    (serveAll order l).2.records.get? id =
      (serveAll (order.filter (Sent.isAbout id)) l).2.records.get? id :=
  get?_serveAll_of_get?_eq rfl rfl

/-- Whether two orders of service have the requests about each registry in one order. -/
def SameOrder (order order' : List Sent) : Prop :=
  ∀ id, order.filter (Sent.isAbout id) = order'.filter (Sent.isAbout id)

theorem get?_serveAll_eq {order order' : List Sent} (h : SameOrder order order')
    (l : Ledger) (id : String) :
    (serveAll order l).2.records.get? id = (serveAll order' l).2.records.get? id := by
  calc (serveAll order l).2.records.get? id
      = (serveAll (order.filter (Sent.isAbout id)) l).2.records.get? id :=
        get?_serveAll_filter order l id
    _ = (serveAll (order'.filter (Sent.isAbout id)) l).2.records.get? id := by rw [h id]
    _ = (serveAll order' l).2.records.get? id := (get?_serveAll_filter order' l id).symm

/-! ## Replies -/

/-- The reply to a request is made from what the requests before it leave. -/
theorem getElem?_serveAll (before after : List Sent) (q : Sent) (l : Ledger) :
    (serveAll (before ++ q :: after) l).1[before.length]? =
      some (some (answerOctets Memory.store q.octets (serveAll before l).2).1) := by
  have hstep := getElem?_run (before.map Sent.step) (after.map Sent.step) q.step l
  rw [List.length_map] at hstep
  rw [serveAll, List.map_append, List.map_cons, hstep]
  rfl

theorem not_mem_of_nodup {before after : List Sent} {q : Sent}
    (h : (before ++ q :: after).Nodup) : q ∉ before ∧ q ∉ after := by
  have hperm : (before ++ q :: after).Perm (q :: (before ++ after)) := List.perm_middle
  have hnot := (List.nodup_cons.mp (hperm.nodup_iff.mp h)).1
  simpa using hnot

/-- The requests about a registry that are served before one about it are the same
ones. -/
theorem filter_before_eq {before after before' after' : List Sent} {q : Sent}
    {id : String} (hnodup : (before ++ q :: after).Nodup) (hq : about? q.octets = some id)
    (h : SameOrder (before ++ q :: after) (before' ++ q :: after')) :
    before.filter (Sent.isAbout id) = before'.filter (Sent.isAbout id) := by
  obtain ⟨hbefore, hafter⟩ := not_mem_of_nodup hnodup
  have hpos : q.isAbout id = true := by simp [Sent.isAbout, hq]
  have hid := h id
  simp only [List.filter_append, List.filter_cons_of_pos hpos] at hid
  exact ((List.append_cons_inj_of_notMem (fun hmem => hbefore (List.mem_filter.mp hmem).1)
    (fun hmem => hafter (List.mem_filter.mp hmem).1)).mp hid).1

theorem reply_eq_of_sameOrder {before after before' after' : List Sent} {q : Sent}
    (hnodup : (before ++ q :: after).Nodup)
    (h : SameOrder (before ++ q :: after) (before' ++ q :: after')) (l : Ledger) :
    (answerOctets Memory.store q.octets (serveAll before l).2).1 =
      (answerOctets Memory.store q.octets (serveAll before' l).2).1 := by
  refine (answerOctets_congr ?_ ?_).1
  · rw [failure_serveAll, failure_serveAll]
  · intro id hid
    rw [get?_serveAll_filter before,
      filter_before_eq hnodup hid h, ← get?_serveAll_filter before']

theorem exists_append_of_getElem?_eq_some {order : List Sent} {i : Nat} {q : Sent}
    (h : order[i]? = some q) :
    ∃ before after, order = before ++ q :: after ∧ before.length = i := by
  obtain ⟨hi, rfl⟩ := List.getElem?_eq_some_iff.mp h
  refine ⟨order.take i, order.drop (i + 1), ?_, by simp; omega⟩
  rw [List.getElem_cons_drop, List.take_append_drop]

/-- Two requests that are not about one registry commute: either way round each has the
same reply, and the same records are left. -/
theorem run_swap {p q : ByteArray} (h : ∀ id, about? p = some id → about? q ≠ some id)
    (l : Ledger) :
    (run [.request p, .request q] l).1 = (run [.request q, .request p] l).1.reverse ∧
      ∀ id, (run [.request p, .request q] l).2.records.get? id =
        (run [.request q, .request p] l).2.records.get? id := by
  obtain ⟨hkeptp, hframep⟩ := answerOctets_frame p l
  obtain ⟨hkeptq, hframeq⟩ := answerOctets_frame q l
  constructor
  · have hp : (answerOctets Memory.store p (answerOctets Memory.store q l).2).1 =
        (answerOctets Memory.store p l).1 :=
      (answerOctets_congr hkeptq fun id hid => hframeq id (h id hid)).1
    have hq : (answerOctets Memory.store q (answerOctets Memory.store p l).2).1 =
        (answerOctets Memory.store q l).1 :=
      (answerOctets_congr hkeptp fun id hid => hframep id fun hid' => h id hid' hid).1
    exact congrArg₂ (fun reply reply' => [some reply, some reply']) hp.symm hq
  · let a : Sent := ⟨0, 0, p⟩
    let b : Sent := ⟨1, 0, q⟩
    have hsame : SameOrder [a, b] [b, a] := by
      intro id
      by_cases hp : about? p = some id
      · simp [Sent.isAbout, a, b, hp, h id hp]
      · have ha : a.isAbout id = false := by simp [Sent.isAbout, a, hp]
        simp [List.filter_cons, ha]
    exact get?_serveAll_eq hsame l

/-- Requests of any number of clients, served one at a time in two orders that have the
requests about each registry in one order: every request has the same reply in both, and
the records that are left are the same. Any two requests that are not about one registry
commute, and so does everything with what is about none: lists, octets that are no request
and addresses that are no registry. -/
theorem replies_and_records_eq_of_sameOrder (clients : List (List ByteArray)) (l : Ledger)
    {order order' : List Sent} (h : IsInterleaving clients order)
    (h' : IsInterleaving clients order') (hsame : SameOrder order order') :
    order.Perm order' ∧
      (∀ (i j : Nat) (q : Sent), order[i]? = some q → order'[j]? = some q →
        ∃ reply, (serveAll order l).1[i]? = some (some reply) ∧
          (serveAll order' l).1[j]? = some (some reply)) ∧
      (∀ id, (serveAll order l).2.records.get? id =
        (serveAll order' l).2.records.get? id) ∧
      ∀ p q : ByteArray, (∀ id, about? p = some id → about? q ≠ some id) →
        (run [.request p, .request q] l).1 = (run [.request q, .request p] l).1.reverse ∧
          ∀ id, (run [.request p, .request q] l).2.records.get? id =
            (run [.request q, .request p] l).2.records.get? id := by
  refine ⟨perm_of_isInterleaving h h', ?_, get?_serveAll_eq hsame l,
    fun p q hpq => run_swap hpq l⟩
  intro i j q hi hj
  obtain ⟨before, after, rfl, rfl⟩ := exists_append_of_getElem?_eq_some hi
  obtain ⟨before', after', rfl, rfl⟩ := exists_append_of_getElem?_eq_some hj
  refine ⟨_, getElem?_serveAll before after q l, ?_⟩
  rw [getElem?_serveAll, reply_eq_of_sameOrder (nodup_of_isInterleaving h) hsame l]

/-- A client stores a credential and asks for it under another spelling, while another
client's request about a second registry is served between the two or after them. -/
theorem replies_eq_of_two_clients :
    let p := (Request.store ⟨"ghcr.io", "octo", "s3cret"⟩).encode
    let p' := (Request.get "https://GHCR.io/").encode
    let q := (Request.erase "quay.io").encode
    let clients : List (List ByteArray) := [[p, p'], [q]]
    let order : List Sent := [⟨0, 0, p⟩, ⟨1, 0, q⟩, ⟨0, 1, p'⟩]
    let order' : List Sent := [⟨0, 0, p⟩, ⟨0, 1, p'⟩, ⟨1, 0, q⟩]
    IsInterleaving clients order ∧ IsInterleaving clients order' ∧
      SameOrder order order' ∧
      ∃ reply, (serveAll order Ledger.empty).1[2]? = some (some reply) ∧
        (serveAll order' Ledger.empty).1[1]? = some (some reply) := by
  intro p p' q clients order order'
  have hinterleaving : IsInterleaving clients order ∧ IsInterleaving clients order' := by
    constructor <;> (rintro (_ | _ | client) <;> rfl)
  have hp : about? p = some "ghcr.io:443" := by decide +kernel
  have hp' : about? p' = some "ghcr.io:443" := by decide +kernel
  have hq : about? q = some "quay.io:443" := by decide +kernel
  have hsame : SameOrder order order' := by
    intro id
    by_cases hid : id = "quay.io:443"
    · subst hid
      simp [order, order', Sent.isAbout, hp, hp', hq]
    · have hother : ("quay.io:443" == id) = false := by simpa using fun h => hid h.symm
      simp [order, order', List.filter_cons, Sent.isAbout, hq, hother]
  obtain ⟨-, hreplies, -⟩ := replies_and_records_eq_of_sameOrder clients Ledger.empty
    hinterleaving.1 hinterleaving.2 hsame
  exact ⟨hinterleaving.1, hinterleaving.2, hsame, hreplies 2 1 ⟨0, 1, p'⟩ rfl rfl⟩

end CredRelay.Relay
