import CredRelay.Relay.Answer
import CredRelay.Store.Memory
/-! What requests do to a store in memory that does not fail. Each either leaves the
records alone or changes one of them, under the identifier of a registry, and the reply
depends on the record under that identifier only. -/
namespace CredRelay

open Memory

theorem Table.erase_of_get?_eq_none {α : Type} {t : Table α} {key : String}
    (h : t.get? key = none) : t.erase key = t := by
  obtain ⟨entries⟩ := t
  have hkeys : ∀ e ∈ entries, (e.1 != key) = true := by
    intro e he
    have hne := List.lookup_eq_none_iff.mp h e he
    simpa [bne, BEq.comm] using hne
  exact congrArg Table.mk (List.filter_eq_self.mpr hkeys)

/-! ## Changes of records -/

/-- A change of the records of a store: one is filed under its own address, or removed. -/
inductive Change where
  | file (c : Credential)
  | remove (id : String)
  deriving DecidableEq, Repr

namespace Change

/-- The identifier that a change is about. -/
def id : Change → String
  | .file c => c.serverUrl
  | .remove id => id

/-- The record that a change leaves under its identifier. -/
def record? : Change → Option Credential
  | .file c => some c
  | .remove _ => none

/-- The records after a change. -/
def apply (change : Change) (records : Table Credential) : Table Credential :=
  match change with
  | .file c => records.insert c.serverUrl c
  | .remove id => records.erase id

theorem get?_apply (change : Change) (records : Table Credential) (id : String) :
    (change.apply records).get? id =
      if id = change.id then change.record? else records.get? id := by
  cases change with
  | file c => exact Table.get?_insert records c.serverUrl id c
  | remove key => exact Table.get?_erase records key id

/-- The records after some changes, one after another. -/
def applyAll (changes : List Change) (records : Table Credential) : Table Credential :=
  changes.foldl (fun records change => change.apply records) records

/-- The last of some changes of what is filed under an identifier. -/
def last? (id : String) (changes : List Change) : Option Change :=
  (changes.filter fun change => change.id == id).getLast?

theorem last?_cons (id : String) (change : Change) (changes : List Change) :
    last? id (change :: changes) =
      (last? id changes).or (if id = change.id then some change else none) := by
  by_cases h : id = change.id
  · subst h
    have hlast : last? change.id (change :: changes) =
        some ((last? change.id changes).getD change) := by
      rw [last?, List.filter_cons_of_pos (by simp), List.getLast?_cons]
      rfl
    rw [hlast, if_pos rfl]
    cases last? change.id changes <;> rfl
  · have hne : (change.id == id) = false := by simpa using fun heq => h heq.symm
    have hlast : last? id (change :: changes) = last? id changes :=
      congrArg List.getLast? (List.filter_cons_of_neg (by simp [hne]))
    rw [hlast, if_neg h, Option.or_none]

/-- What is held under an identifier is what its last change left there. -/
theorem get?_applyAll (changes : List Change) (records : Table Credential) (id : String) :
    (applyAll changes records).get? id =
      (last? id changes).elim (records.get? id) Change.record? := by
  -- the first change shows where no later one is of the same identifier
  induction changes generalizing records with
  | nil => rfl
  | cons change changes ih =>
    have hstep : (applyAll (change :: changes) records).get? id =
        (last? id changes).elim ((change.apply records).get? id) Change.record? := ih _
    rw [hstep, get?_apply, last?_cons]
    cases last? id changes with
    | some c => rfl
    | none => by_cases h : id = change.id <;> simp [h]

end Change

/-- Whether every record is filed under its own address. -/
def Filed (records : Table Credential) : Prop :=
  ∀ id c, records.get? id = some c → c.serverUrl = id

theorem filed_apply {records : Table Credential} (h : Filed records) (change : Change) :
    Filed (change.apply records) := by
  intro id c hc
  rw [Change.get?_apply] at hc
  by_cases hid : id = change.id
  · subst hid
    cases change with
    | file other =>
      simp only [if_true, Change.record?] at hc
      cases hc
      rfl
    | remove key => simp [Change.record?] at hc
  · rw [if_neg hid] at hc
    exact h id c hc

theorem filed_applyAll {records : Table Credential} (h : Filed records)
    (changes : List Change) : Filed (Change.applyAll changes records) := by
  induction changes generalizing records with
  | nil => exact h
  | cons change changes ih => exact ih (filed_apply h change)

namespace Request

/-- The change that a request asks for; none where its address is no registry. -/
def change? : Request → Option Change
  | .get _ => none
  | .store c =>
    (identify c.serverUrl).toOption.map fun id => .file ⟨id, c.username, c.secret⟩
  | .erase serverUrl => (identify serverUrl).toOption.map .remove
  | .list => none

/-- The reply to a change of the registry of an address. -/
def confirmation (serverUrl : String) : Reply :=
  match identify serverUrl with
  | .ok _ => .empty
  | .error failure => .error failure.message

/-- The record that is shown for an address, given those that are held. -/
def shown (records : Table Credential) (serverUrl : String) : Credential :=
  match identify serverUrl with
  | .ok id => (records.get? id).getD (Credential.none id)
  | .error _ => Credential.none serverUrl

/-- The reply to a request, given the records that are held. -/
def replyFrom (records : Table Credential) : Request → Reply
  | .get serverUrl => .record (shown records serverUrl)
  | .store c => confirmation c.serverUrl
  | .erase serverUrl => confirmation serverUrl
  | .list => .empty

end Request

/-- The records after a change, if there is one. -/
def changed (change : Option Change) (records : Table Credential) : Table Credential :=
  Change.applyAll change.toList records

theorem changed_none (records : Table Credential) : changed none records = records := rfl

/-- What is held under an identifier after a change, if there is one. -/
theorem get?_changed (change : Option Change) (records : Table Credential) (id : String) :
    (changed change records).get? id =
      match change with
      | some change => if id = change.id then change.record? else records.get? id
      | none => records.get? id := by
  cases change with
  | none => rfl
  | some change => exact Change.get?_apply change records id

/-! ## The store in memory -/

namespace Memory.Ledger

variable {l : Ledger}

theorem enter_of_none (h : l.failure = none) (call : Call)
    (answer : Ledger → Outcome × Ledger) :
    l.enter call answer = (.ok (answer (l.record call)).1,
      (answer (l.record call)).2) := by
  simp only [enter, record, h]

theorem get_spec (h : l.failure = none) (r : Registry) :
    (Ledger.get r l).1 = .ok ((l.records.get? r.identifier).elim .notFound .found) ∧
      (Ledger.get r l).2.records = l.records ∧ (Ledger.get r l).2.failure = none := by
  rw [Ledger.get, enter_of_none h]
  cases hc : l.records.get? r.identifier <;> simp [record, hc, h]

theorem store_spec (h : l.failure = none) (r : Registry) (c : Credential) :
    (Ledger.store r c l).1 = .ok .completed ∧
      (Ledger.store r c l).2.records = l.records.insert r.identifier c ∧
      (Ledger.store r c l).2.failure = none := by
  rw [Ledger.store, enter_of_none h]
  exact ⟨rfl, rfl, h⟩

/-- Whether or not there was a record, erasing succeeds and leaves none. -/
theorem erase_spec (h : l.failure = none) (r : Registry) :
    (∃ outcome, (Ledger.erase r l).1 = .ok outcome) ∧
      (Ledger.erase r l).2.records = l.records.erase r.identifier ∧
      (Ledger.erase r l).2.failure = none := by
  rw [Ledger.erase, enter_of_none h]
  refine ⟨⟨_, rfl⟩, ?_⟩
  cases hc : l.records.get? r.identifier with
  | none => simp [record, hc, h, Table.erase_of_get?_eq_none hc]
  | some c => simp [record, hc, h]

theorem list_spec (h : l.failure = none) :
    (∃ outcome, (Ledger.list l).1 = .ok outcome) ∧
      (Ledger.list l).2.records = l.records ∧ (Ledger.list l).2.failure = none := by
  rw [Ledger.list, enter_of_none h]
  exact ⟨⟨_, rfl⟩, rfl, h⟩

end Memory.Ledger

/-! ## Answers -/

namespace Relay

section

variable {σ : Type} {address : String} (command : Command)
  (ask : Registry → σ → Answer × σ) (s : σ)

theorem answerAbout_of_ok {r : Registry} (h : Registry.ofString address = .ok r) :
    answerAbout command address ask s =
      (reply command r.identifier (ask r s).1, (ask r s).2) := by
  rw [answerAbout, h]

theorem answerAbout_of_error {failure : Failure}
    (h : Registry.ofString address = .error failure) :
    answerAbout command address ask s = (reply command address (.error failure), s) := by
  rw [answerAbout, h]

end

theorem identify_of_ok {address : String} {r : Registry}
    (h : Registry.ofString address = .ok r) : identify address = .ok r.identifier := by
  rw [identify, h]
  rfl

theorem identify_of_error {address : String} {failure : Failure}
    (h : Registry.ofString address = .error failure) :
    identify address = .error failure := by
  rw [identify, h]
  rfl

theorem identify_eq_ok {address id : String} (h : (identify address).toOption = some id) :
    identify address = .ok id :=
  eq_ok_of_toOption h

/-- What a request is answered and what it leaves behind, where the store does not fail:
the reply is made from the records that are held, and these change as the request asks. -/
def Answered (request : Request) (l : Ledger) (result : Reply × Ledger) : Prop :=
  result.1 = request.replyFrom l.records ∧
    result.2.records = changed request.change? l.records ∧ result.2.failure = none

variable {l : Ledger}

theorem answered_get (h : l.failure = none) (serverUrl : String) :
    Answered (.get serverUrl) l (answer Memory.store (.get serverUrl) l) := by
  rw [answer]
  cases hr : Registry.ofString serverUrl with
  | error failure =>
    rw [answerAbout_of_error _ _ _ hr]
    refine ⟨?_, rfl, h⟩
    simp only [Request.replyFrom, Request.shown, identify_of_error hr]
    rfl
  | ok r =>
    obtain ⟨hanswer, hrecords, hfailure⟩ := Ledger.get_spec h r
    rw [answerAbout_of_ok _ _ _ hr]
    refine ⟨?_, hrecords, hfailure⟩
    simp only [Request.replyFrom, Request.shown, identify_of_ok hr]
    rw [show Memory.store.get r l = Ledger.get r l from rfl, hanswer]
    cases l.records.get? r.identifier <;> rfl

/-- A request that changes a registry is confirmed, or refused for its address. -/
theorem answered_change (h : l.failure = none) {request : Request} {command : Command}
    {address : String} {ask : Registry → Ledger → Answer × Ledger}
    {change : String → Change} (hcommand : command = .store ∨ command = .erase)
    (hreply : request.replyFrom l.records = Request.confirmation address)
    (hchange : request.change? = (identify address).toOption.map change)
    (hask : ∀ r, (∃ outcome, (ask r l).1 = .ok outcome) ∧
      (ask r l).2.records = (change r.identifier).apply l.records ∧
      (ask r l).2.failure = none) :
    Answered request l (answerAbout command address ask l) := by
  rw [Answered, hreply, hchange, Request.confirmation]
  cases hr : Registry.ofString address with
  | error failure =>
    rw [answerAbout_of_error _ _ _ hr, identify_of_error hr]
    refine ⟨?_, rfl, h⟩
    rcases hcommand with rfl | rfl <;> rfl
  | ok r =>
    obtain ⟨⟨outcome, hanswer⟩, hrecords, hfailure⟩ := hask r
    rw [answerAbout_of_ok _ _ _ hr, identify_of_ok hr, hanswer]
    refine ⟨?_, hrecords, hfailure⟩
    rcases hcommand with rfl | rfl <;> rfl

theorem answered_store (h : l.failure = none) (c : Credential) :
    Answered (.store c) l (answer Memory.store (.store c) l) :=
  answered_change h (.inl rfl) rfl rfl fun r =>
    ⟨⟨_, (Ledger.store_spec h r _).1⟩, (Ledger.store_spec h r _).2⟩

theorem answered_erase (h : l.failure = none) (serverUrl : String) :
    Answered (.erase serverUrl) l (answer Memory.store (.erase serverUrl) l) :=
  answered_change h (.inr rfl) rfl rfl fun r => Ledger.erase_spec h r

theorem answered_list (h : l.failure = none) :
    Answered .list l (answer Memory.store .list l) := by
  obtain ⟨⟨outcome, hanswer⟩, hrecords, hfailure⟩ := Ledger.list_spec h
  refine ⟨?_, hrecords, hfailure⟩
  show reply .list "" (Ledger.list l).1 = _
  rw [hanswer]
  rfl

/-- A request is answered from the records that are held, and changes them as it asks. -/
theorem answered (h : l.failure = none) (request : Request) :
    Answered request l (answer Memory.store request l) := by
  cases request with
  | get serverUrl => exact answered_get h serverUrl
  | store c => exact answered_store h c
  | erase serverUrl => exact answered_erase h serverUrl
  | list => exact answered_list h

end Relay

end CredRelay
