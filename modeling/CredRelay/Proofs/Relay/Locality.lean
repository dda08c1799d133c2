import CredRelay.Proofs.Relay.Changes
/-! What a request to a store in memory depends on and what it can change: whether the
store fails, and what is filed under the one identifier that the request is about. Lists,
octets that are no request and addresses that are no registry are about none. -/
namespace CredRelay

open Memory

/-! ## What a request is about -/

namespace Request

/-- The identifier of the registry that a request is about. -/
def about? : Request → Option String
  | .get serverUrl | .erase serverUrl => (identify serverUrl).toOption
  | .store c => (identify c.serverUrl).toOption
  | .list => none

/-- The reply to a change of the registry of an address while the store fails. -/
def refusalOf (message serverUrl : String) : Reply :=
  match identify serverUrl with
  | .ok _ => .error (Failure.helperFailed message).message
  | .error failure => .error failure.message

/-- The reply to a request while the store fails. -/
def refusal (message : String) : Request → Reply
  | .get serverUrl =>
    .record (Credential.none ((identify serverUrl).toOption.getD serverUrl))
  | .store c => refusalOf message c.serverUrl
  | .erase serverUrl => refusalOf message serverUrl
  | .list => .error (Failure.helperFailed message).message

/-- A request changes what it is about, if anything. -/
theorem about?_of_change?_eq_some {request : Request} {change : Change}
    (h : request.change? = some change) : request.about? = some change.id := by
  cases request with
  | get serverUrl => cases h
  | list => cases h
  | store c =>
    obtain ⟨id, hid, rfl⟩ := Option.map_eq_some_iff.mp h
    exact hid
  | erase serverUrl =>
    obtain ⟨id, hid, rfl⟩ := Option.map_eq_some_iff.mp h
    exact hid

/-- The reply depends on what is filed under the identifier that the request is about. -/
theorem replyFrom_congr {request : Request} {records others : Table Credential}
    (h : ∀ id ∈ request.about?, records.get? id = others.get? id) :
    request.replyFrom records = request.replyFrom others := by
  cases request with
  | get serverUrl =>
    simp only [replyFrom, shown]
    cases hid : identify serverUrl with
    | error failure => rfl
    | ok id =>
      have hsame := h id (by simp [about?, hid, Except.toOption])
      simp only [hsame]
  | store c => rfl
  | erase serverUrl => rfl
  | list => rfl

end Request

/-! ## Answers of a store that fails -/

namespace Memory.Ledger

variable {l : Ledger} {message : String}

theorem enter_of_some (h : l.failure = some message) (call : Call)
    (answer : Ledger → Outcome × Ledger) :
    l.enter call answer = (.error (.helperFailed message), l.record call) := by
  simp only [enter, record, h]

end Memory.Ledger

namespace Relay

variable {l : Ledger} {message : String}

/-- What a request is answered and what it leaves behind, where the store fails: it is
refused, and the records stay. -/
def Refused (message : String) (request : Request) (l : Ledger)
    (result : Reply × Ledger) : Prop :=
  result.1 = request.refusal message ∧ result.2.records = l.records ∧
    result.2.failure = some message

/-- A request about a registry is refused by the store, or for its address. -/
theorem refused_answerAbout (h : l.failure = some message) {request : Request}
    {command : Command} {address : String} {ask : Registry → Ledger → Answer × Ledger}
    {call : Registry → Call}
    (hask : ∀ r, ask r l = (.error (.helperFailed message), l.record (call r)))
    (hreply : ∀ r, Registry.ofString address = .ok r →
      reply command r.identifier (.error (.helperFailed message)) =
        request.refusal message)
    (haddress : ∀ failure, Registry.ofString address = .error failure →
      reply command address (.error failure) = request.refusal message) :
    Refused message request l (answerAbout command address ask l) := by
  cases hr : Registry.ofString address with
  | error failure =>
    rw [answerAbout_of_error _ _ _ hr]
    exact ⟨haddress failure hr, rfl, h⟩
  | ok r =>
    rw [answerAbout_of_ok _ _ _ hr, hask r]
    exact ⟨hreply r hr, rfl, h⟩

/-- A store that fails refuses every request and keeps its records. -/
theorem refused (h : l.failure = some message) (request : Request) :
    Refused message request l (answer Memory.store request l) := by
  have hrefusal :
      ∀ {command : Command} {address : String} (_ : command = .store ∨ command = .erase),
      (∀ r, Registry.ofString address = .ok r →
        reply command r.identifier (.error (.helperFailed message)) =
          Request.refusalOf message address) ∧
      ∀ failure, Registry.ofString address = .error failure →
        reply command address (.error failure) = Request.refusalOf message address := by
    intro command address hcommand
    constructor
    · intro r hr
      rw [Request.refusalOf, identify_of_ok hr]
      rcases hcommand with rfl | rfl <;> rfl
    · intro failure hr
      rw [Request.refusalOf, identify_of_error hr]
      rcases hcommand with rfl | rfl <;> rfl
  cases request with
  | get serverUrl =>
    refine refused_answerAbout h
      (fun r => Ledger.enter_of_some h (.get r.identifier) _) ?_ ?_
    · intro r hr
      rw [Request.refusal, identify_of_ok hr]
      rfl
    · intro failure hr
      rw [Request.refusal, identify_of_error hr]
      rfl
  | store c =>
    exact refused_answerAbout h (fun r => Ledger.enter_of_some h (.store r.identifier) _)
      (hrefusal (.inl rfl)).1 (hrefusal (.inl rfl)).2
  | erase serverUrl =>
    exact refused_answerAbout h (fun r => Ledger.enter_of_some h (.erase r.identifier) _)
      (hrefusal (.inr rfl)).1 (hrefusal (.inr rfl)).2
  | list =>
    show Refused message .list l (reply .list "" (Ledger.list l).1, (Ledger.list l).2)
    rw [Ledger.list, Ledger.enter_of_some h]
    exact ⟨rfl, rfl, h⟩

/-! ## Locality -/

/-- A request keeps the failure, and the records of all registries that it is not
about. -/
theorem answer_frame (request : Request) (l : Ledger) :
    (answer Memory.store request l).2.failure = l.failure ∧
      ∀ id, request.about? ≠ some id →
        (answer Memory.store request l).2.records.get? id = l.records.get? id := by
  cases hfailure : l.failure with
  | some message =>
    obtain ⟨-, hrecords, hkept⟩ := refused hfailure request
    refine ⟨hkept, fun id _ => ?_⟩
    rw [hrecords]
  | none =>
    obtain ⟨-, hrecords, hkept⟩ := answered hfailure request
    refine ⟨hkept, fun id hid => ?_⟩
    rw [hrecords, get?_changed]
    cases hchange : request.change? with
    | none => rfl
    | some change =>
      have hne : id ≠ change.id := by
        rintro rfl
        exact hid (Request.about?_of_change?_eq_some hchange)
      simp only [hne, if_false]

/-- A request is answered alike, and leaves the same record, where the failure and the
record that it is about are the same. -/
theorem answer_congr {request : Request} {l l' : Ledger}
    (hfailure : l.failure = l'.failure)
    (hrecord : ∀ id ∈ request.about?, l.records.get? id = l'.records.get? id) :
    (answer Memory.store request l).1 = (answer Memory.store request l').1 ∧
      ∀ id ∈ request.about?, (answer Memory.store request l).2.records.get? id =
        (answer Memory.store request l').2.records.get? id := by
  cases hnone : l.failure with
  | some message =>
    obtain ⟨hreply, hrecords, -⟩ := refused hnone request
    obtain ⟨hreply', hrecords', -⟩ := refused (hfailure ▸ hnone) request
    rw [hreply, hreply', hrecords, hrecords']
    exact ⟨rfl, hrecord⟩
  | none =>
    obtain ⟨hreply, hrecords, -⟩ := answered hnone request
    obtain ⟨hreply', hrecords', -⟩ := answered (hfailure ▸ hnone) request
    rw [hreply, hreply', hrecords, hrecords']
    refine ⟨Request.replyFrom_congr hrecord, fun id hid => ?_⟩
    rw [get?_changed, get?_changed, hrecord id hid]

end Relay

end CredRelay
