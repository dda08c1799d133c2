import CredRelay.Proofs.Relay.Locality
import CredRelay.Proofs.Relay.Runs
/-! What a store in memory remembers of a run, and what a failure keeps from happening.
Each request that reaches the store is remembered once, whether it fails or not; octets
that are no request and addresses that are no registry leave no trace. While a failure is
set nothing but a record filed from outside changes the records. -/
namespace CredRelay

open Memory Text

/-! ## Calls -/

namespace Request

/-- The call of the store that a request leads to; none where its address is no
registry. -/
def call? : Request → Option Call
  | .get serverUrl => (identify serverUrl).toOption.map .get
  | .store c => (identify c.serverUrl).toOption.map .store
  | .erase serverUrl => (identify serverUrl).toOption.map .erase
  | .list => some .list

/-- What a request changes is what its call is about. -/
theorem call?_of_change?_eq_some {request : Request} {change : Change}
    (h : request.change? = some change) :
    request.call? = some (.store change.id) ∨
    request.call? = some (.erase change.id) := by
  cases request with
  | get serverUrl => cases h
  | list => cases h
  | store c =>
    obtain ⟨id, hid, rfl⟩ := Option.map_eq_some_iff.mp h
    exact .inl (congrArg (Option.map Call.store) hid)
  | erase serverUrl =>
    obtain ⟨id, hid, rfl⟩ := Option.map_eq_some_iff.mp h
    exact .inr (congrArg (Option.map Call.erase) hid)

end Request

namespace Memory.Ledger

attribute [ext] Ledger

variable (l : Ledger) (r : Registry)

/-- A call is remembered before it is answered, so that it is there even if it fails. -/
theorem calls_enter (call : Call) {answer : Ledger → Outcome × Ledger}
    (h : ∀ l, (answer l).2.calls = l.calls) :
    (l.enter call answer).2.calls = l.calls ++ [call] := by
  cases hfailure : l.failure with
  | some message => rw [enter_of_some hfailure]; rfl
  | none => rw [enter_of_none hfailure]; exact h _

theorem calls_get : (Ledger.get r l).2.calls = l.calls ++ [.get r.identifier] := by
  refine calls_enter l _ fun l => ?_
  cases l.records.get? r.identifier <;> rfl

theorem calls_store (c : Credential) :
    (Ledger.store r c l).2.calls = l.calls ++ [.store r.identifier] :=
  calls_enter l _ fun _ => rfl

theorem calls_erase : (Ledger.erase r l).2.calls = l.calls ++ [.erase r.identifier] := by
  refine calls_enter l _ fun l => ?_
  cases l.records.get? r.identifier <;> rfl

theorem calls_list : l.list.2.calls = l.calls ++ [.list] :=
  calls_enter l _ fun _ => rfl

end Memory.Ledger

namespace Relay

theorem calls_answerAbout {command : Command} {ask : Registry → Ledger → Answer × Ledger}
    {call : String → Call} {l : Ledger}
    (hask : ∀ r, (ask r l).2.calls = l.calls ++ [call r.identifier]) (address : String) :
    (answerAbout command address ask l).2.calls =
      l.calls ++ ((identify address).toOption.map call).toList := by
  cases hr : Registry.ofString address with
  | error failure =>
    rw [answerAbout_of_error _ _ _ hr, identify_of_error hr]
    exact (List.append_nil l.calls).symm
  | ok r =>
    rw [answerAbout_of_ok _ _ _ hr, identify_of_ok hr]
    exact hask r

/-- A request is remembered by its call, if it leads to one. -/
theorem calls_answer (request : Request) (l : Ledger) :
    (answer Memory.store request l).2.calls = l.calls ++ request.call?.toList := by
  cases request with
  | get serverUrl => exact calls_answerAbout (fun r => Ledger.calls_get l r) serverUrl
  | store c => exact calls_answerAbout (fun r => Ledger.calls_store l r _) c.serverUrl
  | erase serverUrl => exact calls_answerAbout (fun r => Ledger.calls_erase l r) serverUrl
  | list => exact Ledger.calls_list l

/-! ## Steps -/

namespace Step

/-- The call that a step leads to. -/
def call? : Step → Option Call
  | .request octets =>
    match Request.decode octets with
    | .ok r => r.call?
    | .error _ => none
  | .insert _ | .fail _ => none

/-- What a step sets the failure to, if it does. -/
def setting? : Step → Option (Option String)
  | .fail failure => some failure
  | .request _ | .insert _ => none

/-- The change that a step makes while the failure is this one. -/
def effect? (failure : Option String) : Step → Option Change
  | .request octets => if failure.isNone then (Step.request octets).change? else none
  | .insert c => some (.file c)
  | .fail _ => none

/-- Whether a step may change what is filed under an identifier while the failure is this
one: it files a record from outside, or leads to a store or an erasure there and nothing
fails. -/
def Touches (failure : Option String) (id : String) (step : Step) : Prop :=
  (∃ c, step = .insert c ∧ c.serverUrl = id) ∨
    failure = none ∧ (step.call? = some (.store id) ∨ step.call? = some (.erase id))

theorem touches_of_effect?_eq_some {failure : Option String} {step : Step}
    {change : Change} (h : step.effect? failure = some change) :
    step.Touches failure change.id := by
  cases step with
  | insert c =>
    cases h
    exact .inl ⟨c, rfl, rfl⟩
  | fail other => cases h
  | request octets =>
    cases failure with
    | some message => cases h
    | none =>
      refine .inr ⟨rfl, ?_⟩
      change (Step.request octets).change? = some change at h
      rw [change?] at h
      rw [call?]
      cases hr : Request.decode octets with
      | error fault =>
        rw [hr] at h
        cases h
      | ok r =>
        rw [hr] at h
        exact Request.call?_of_change?_eq_some h

theorem calls_take (step : Step) (l : Ledger) :
    (step.take l).2.calls = l.calls ++ step.call?.toList := by
  cases step with
  | request octets =>
    rw [take, answerOctets, call?]
    cases Request.decode octets with
    | error fault => exact (List.append_nil l.calls).symm
    | ok r => exact calls_answer r l
  | insert c => exact (List.append_nil l.calls).symm
  | fail failure => exact (List.append_nil l.calls).symm

theorem failure_take (step : Step) (l : Ledger) :
    (step.take l).2.failure = step.setting?.getD l.failure := by
  cases step with
  | request octets =>
    rw [take, answerOctets]
    cases Request.decode octets with
    | error fault => rfl
    | ok r => exact (answer_frame r l).1
  | insert c => rfl
  | fail failure => rfl

theorem records_take (step : Step) (l : Ledger) :
    (step.take l).2.records = changed (step.effect? l.failure) l.records := by
  cases step with
  | request octets =>
    rw [take, answerOctets, effect?, change?]
    cases Request.decode octets with
    | error fault => rw [ite_self]; rfl
    | ok r =>
      cases hfailure : l.failure with
      | none => exact (answered hfailure r).2.1
      | some message => exact (refused hfailure r).2.1
  | insert c => rfl
  | fail failure => rfl

end Step

/-! ## Runs -/

/-- The failure that is set after some steps: what the last step that set it set it to. -/
def failureAfter (failure : Option String) (steps : List Step) : Option String :=
  (steps.filterMap Step.setting?).getLast?.getD failure

theorem failureAfter_cons (failure : Option String) (step : Step) (steps : List Step) :
    failureAfter failure (step :: steps) = failureAfter
    (step.setting?.getD failure) steps := by
  cases hstep : step.setting? with
  | none =>
    rw [failureAfter, List.filterMap_cons_none hstep]
    rfl
  | some other =>
    rw [failureAfter, List.filterMap_cons_some hstep, List.getLast?_cons]
    rfl

theorem failure_run (steps : List Step) (l : Ledger) :
    (run steps l).2.failure = failureAfter l.failure steps := by
  induction steps generalizing l with
  | nil => rfl
  | cons step steps ih =>
    show (run steps (step.take l).2).2.failure = _
    rw [ih, Step.failure_take, failureAfter_cons]

theorem calls_run (steps : List Step) (l : Ledger) :
    (run steps l).2.calls = l.calls ++ steps.filterMap Step.call? := by
  induction steps generalizing l with
  | nil => exact (List.append_nil l.calls).symm
  | cons step steps ih =>
    show (run steps (step.take l).2).2.calls = _
    rw [ih, Step.calls_take, List.append_assoc, List.filterMap_cons]
    cases step.call? with
    | none => rfl
    | some call => rfl

theorem run_concat (steps : List Step) (step : Step) (l : Ledger) :
    (run (steps ++ [step]) l).2 = (step.take (run steps l).2).2 := by
  rw [run_append]
  rfl

/-- A step changes the records as its effect says, and nothing else does. -/
theorem records_run_concat (steps : List Step) (step : Step) (l : Ledger) :
    (run (steps ++ [step]) l).2.records =
      changed (step.effect? (failureAfter l.failure steps)) (run steps l).2.records := by
  rw [run_concat, Step.records_take, failure_run]

theorem touches_of_get?_ne {failure : Option String} {step : Step}
    {records : Table Credential} {id : String}
    (h : (changed (step.effect? failure) records).get? id ≠ records.get? id) :
    step.Touches failure id := by
  cases heffect : step.effect? failure with
  | none =>
    rw [heffect] at h
    exact absurd rfl h
  | some change =>
    rw [heffect] at h
    by_cases hid : id = change.id
    · rw [hid]
      exact Step.touches_of_effect?_eq_some heffect
    · refine absurd ?_ h
      show (change.apply records).get? id = _
      rw [Change.get?_apply, if_neg hid]

/-! ## Replies while a failure is set -/

/-- The text of a failure of the store on the wire: what it fails with, on one line. -/
theorem encode_helperFailed (message : String) :
    (Reply.error (Failure.helperFailed message).message).encode =
      utf8 ("error: credential helper failed: " ++ Request.oneLine message) := by
  have hmark : Request.withoutBreaks "credential helper failed: " =
      "credential helper failed: " := by
    decide
  show utf8 (Reply.errorMark ++ Request.withoutBreaks
    ("credential helper failed: " ++ message)) = _
  rw [Request.withoutBreaks_append, hmark, Request.withoutBreaks_eq_oneLine,
    ← String.append_assoc]
  rfl

/-- While a failure is set, a lookup shows that there is no credential. -/
theorem refusal_of_get {request : Request} {id : String}
    (h : request.call? = some (.get id)) (message : String) :
    request.refusal message = .record (Credential.none id) := by
  cases request with
  | get serverUrl =>
    obtain ⟨other, hid, heq⟩ := Option.map_eq_some_iff.mp h
    cases heq
    rw [Request.refusal, hid]
    rfl
  | store c =>
    obtain ⟨other, -, heq⟩ := Option.map_eq_some_iff.mp h
    cases heq
  | erase serverUrl =>
    obtain ⟨other, -, heq⟩ := Option.map_eq_some_iff.mp h
    cases heq
  | list => cases h

/-- While a failure is set, any other request that reaches the store says what it fails
with. -/
theorem refusal_of_ne_get {request : Request} {call : Call}
    (h : request.call? = some call) (hget : ∀ id, call ≠ .get id) (message : String) :
    request.refusal message = .error (Failure.helperFailed message).message := by
  cases request with
  | get serverUrl =>
    obtain ⟨id, -, rfl⟩ := Option.map_eq_some_iff.mp h
    exact absurd rfl (hget id)
  | store c =>
    obtain ⟨id, hid, -⟩ := Option.map_eq_some_iff.mp h
    rw [Request.refusal, Request.refusalOf, identify_eq_ok hid]
  | erase serverUrl =>
    obtain ⟨id, hid, -⟩ := Option.map_eq_some_iff.mp h
    rw [Request.refusal, Request.refusalOf, identify_eq_ok hid]
  | list => rfl

/-! ## Rejections and failures -/

/-- A rejected request leaves everything as it was. -/
theorem run_concat_of_rejected {octets : ByteArray}
    (h : (Step.request octets).call? = none) (steps : List Step) (l : Ledger) :
    (run (steps ++ [.request octets]) l).2 = (run steps l).2 := by
  have heffect : (Step.request octets).effect? (failureAfter l.failure steps) = none := by
    rw [Option.eq_none_iff_forall_ne_some]
    intro change hchange
    rcases Step.touches_of_effect?_eq_some hchange with ⟨c, hc, -⟩ | ⟨-, hcall⟩
    · cases hc
    · rw [h] at hcall
      rcases hcall with hcall | hcall <;> cases hcall
  have hrecords := records_run_concat steps (.request octets) l
  have hcalls := Step.calls_take (.request octets) (run steps l).2
  have hfailure := Step.failure_take (.request octets) (run steps l).2
  rw [heffect, changed_none] at hrecords
  rw [h, ← run_concat, Option.toList_none, List.append_nil] at hcalls
  rw [← run_concat] at hfailure
  exact Ledger.ext hrecords hcalls hfailure

/-- Along every run each request that reaches the store is remembered once, in order, with
its verb and identifier, and a rejected one leaves everything as it was. The records
change by what is filed from outside, and by a remembered store or erasure while nothing
fails, each under its one identifier. While a failure is set a lookup shows that there is
no credential, and every other request that reaches the store is answered with what it
fails with, on one line. -/
theorem calls_records_and_replies_of_run (l : Ledger) :
    (∀ steps, (run steps l).2.calls = l.calls ++ steps.filterMap Step.call?) ∧
    (∀ steps octets, (Step.request octets).call? = none →
      (run (steps ++ [.request octets]) l).2 = (run steps l).2) ∧
    (∀ steps step,
      (run (steps ++ [step]) l).2.records =
          changed (step.effect? (failureAfter l.failure steps)) (run steps l).2.records ∧
        ∀ id, (run (steps ++ [step]) l).2.records.get? id ≠
          (run steps l).2.records.get? id →
          step.Touches (failureAfter l.failure steps) id) ∧
    ∀ before octets after request message, Request.decode octets = .ok request →
      failureAfter l.failure before = some message →
        (∀ id, request.call? = some (.get id) →
          (run (before ++ .request octets :: after) l).1[before.length]? =
            some (some (.record (Credential.none id)))) ∧
        ∀ call, request.call? = some call → (∀ id, call ≠ .get id) →
          (run (before ++ .request octets :: after) l).1[before.length]? =
              some (some (.error ("credential helper failed: " ++ message))) ∧
            (Reply.error ("credential helper failed: " ++ message)).encode =
              utf8 ("error: credential helper failed: " ++ Request.oneLine message) := by
  refine ⟨fun steps => calls_run steps l,
    fun steps octets h => run_concat_of_rejected h steps l,
    fun steps step => ⟨records_run_concat steps step l, fun id h => ?_⟩, ?replies⟩
  · rw [records_run_concat] at h
    exact touches_of_get?_ne h
  case replies =>
    intro before octets after request message hr hmessage
    have hfailure : (run before l).2.failure = some message :=
      (failure_run before l).trans hmessage
    have hreply : (run (before ++ .request octets :: after) l).1[before.length]? =
        some (some (request.refusal message)) := by
      rw [getElem?_run, Step.take, answerOctets, hr]
      exact congrArg (some <| some ·) (refused hfailure request).1
    rw [hreply]
    refine ⟨fun id hid => ?_, fun call hcall hget => ⟨?_, encode_helperFailed message⟩⟩
    · rw [refusal_of_get hid]
    · rw [refusal_of_ne_get hcall hget]
      rfl

/-- A store that arrives while the store fails is remembered and answered on one line, and
leaves the record that was filed; a rejected lookup before it is not remembered, and a
removal after the failure was lifted is. -/
theorem calls_records_and_replies_of_failing :
    let octo : Request := .store ⟨"https://GHCR.io/v2/", "octo", "s3cret"⟩
    let before : List Step := [.insert ⟨"ghcr.io:443", "old", "old"⟩,
      .request (Request.get "ftp://example.com").encode, .fail (some "keychain\nlocked")]
    let after : List Step := [.fail none, .request (Request.erase "ghcr.io").encode]
    (run (before ++ .request octo.encode :: after) Ledger.empty).2.calls =
        [.store "ghcr.io:443", .erase "ghcr.io:443"] ∧
      (run (before ++ .request octo.encode :: after) Ledger.empty).1[before.length]? =
        some (some (.error "credential helper failed: keychain\nlocked")) ∧
      (Reply.error "credential helper failed: keychain\nlocked").encode =
        utf8 "error: credential helper failed: keychainlocked" ∧
      (run (before ++ [.request octo.encode]) Ledger.empty).2.records.get? "ghcr.io:443" =
        some ⟨"ghcr.io:443", "old", "old"⟩ := by
  intro octo before after
  have hread : Request.decode octo.encode = .ok octo :=
    Request.decode_encode_of_isWhole (r := octo) (by decide)
  have hcall : octo.call? = some (.store "ghcr.io:443") := by decide +kernel
  have hmessage : failureAfter Ledger.empty.failure before = some "keychain\nlocked" := by
    decide
  obtain ⟨hcalls, -, hrecords, hreplies⟩ := calls_records_and_replies_of_run Ledger.empty
  obtain ⟨hreply, hencode⟩ :=
    (hreplies before _ after octo _ hread hmessage).2 _ hcall fun id h => by cases h
  refine ⟨(hcalls _).trans (by decide +kernel), hreply, hencode.trans ?_, ?_⟩
  · exact congrArg utf8 (by decide)
  · have hheld : (run before Ledger.empty).2.records.get? "ghcr.io:443" =
        some ⟨"ghcr.io:443", "old", "old"⟩ := by decide +kernel
    refine hheld ▸ Classical.not_not.mp fun hne => ?_
    rcases (hrecords before (.request octo.encode)).2 _ hne with ⟨c, hc, -⟩ | ⟨hnone, -⟩
    · cases hc
    · rw [hmessage] at hnone
      cases hnone

end Relay

end CredRelay
