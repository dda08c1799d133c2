import CredRelay.Guest.Helper
import CredRelay.Proofs.Guest.Client
import CredRelay.Proofs.Relay.Changes
import CredRelay.Relay.Service
import Mathlib.Logic.Function.Basic
/-! The helper of the guest as a keyed store. Behind a relay whose store in memory does
not fail, calls of the helper give what they give on bindings of identifiers to user names
and secrets. -/
namespace CredRelay.Guest

open Text Request Relay Memory

/-! ## Bindings -/

/-- The user name and the secret that are bound to each identifier. -/
abbrev Bindings := String → Option (String × String)

/-- A call of the helper: its command, and the text of its standard input. -/
structure Call where
  command : Command
  input : String
  deriving DecidableEq, Repr

/-- What the helper fails with when the relay refuses a request. -/
def refused (reason : String) : HelperFault :=
  .relay (.remote (cleanField reason))

namespace Bindings

/-- The bindings of a store without records. -/
def empty : Bindings := fun _ => none

/-- What is bound to the registry of an address, as JSON. -/
def get (m : Bindings) (input : String) : Except HelperFault String :=
  if trim input = "" then .error .noServerUrl
  else
    match identify (cleanField input) with
    | .error _ => .error .notFound
    | .ok id =>
      match m id with
      | none => .error .notFound
      | some (username, secret) => .ok (Wire.recordText ⟨id, username, secret⟩)

/-- Binds or unbinds the registry of an address. -/
def set (m : Bindings) (serverUrl : String) (entry : Option (String × String)) :
    Except HelperFault String × Bindings :=
  match identify (cleanField serverUrl) with
  | .error failure => (.error (refused failure.message), m)
  | .ok id => (.ok "", Function.update m id entry)

/-- Binds what a record in JSON says, if none of its parts is missing. -/
def store (m : Bindings) (input : String) : Except HelperFault String × Bindings :=
  match Wire.recordOfText? (trim input) with
  | none => (.error (.badPayload "not a credential record"), m)
  | some c =>
    if trim c.serverUrl = "" then (.error .noServerUrl, m)
    else if cleanField c.username = "" ∨ cleanField c.secret = "" then
      (.error (refused (Request.store c).shortfall.message), m)
    else m.set c.serverUrl (some (cleanField c.username, cleanField c.secret))

/-- Unbinds the registry of an address. -/
def erase (m : Bindings) (input : String) : Except HelperFault String × Bindings :=
  if trim input = "" then (.error .noServerUrl, m) else m.set input none

/-- What a call gives on bindings. -/
def take (m : Bindings) (call : Call) : Except HelperFault String × Bindings :=
  match call.command with
  | .get => (m.get call.input, m)
  | .store => m.store call.input
  | .erase => m.erase call.input
  | .list => (.ok "\x7b\x7d", m)

/-- What some calls give on bindings, one after another. -/
def run : List Call → Bindings → List (Except HelperFault String) × Bindings
  | [], m => ([], m)
  | call :: calls, m =>
    let (result, m) := m.take call
    let (results, m) := run calls m
    (result :: results, m)

theorem set_trim (m : Bindings) (serverUrl : String) (entry : Option (String × String)) :
    m.set (trim serverUrl) entry = m.set serverUrl entry := by
  rw [set, set, cleanField_trim]

end Bindings

/-! ## Calls -/

variable {σ : Type}

/-- What a call gives where the relay is reached. -/
def Call.take (exchange : Exchange σ) (call : Call) (s : σ) :
    Except HelperFault String × σ :=
  execute (.command call.command) (some exchange) call.input s

/-- What some calls give where the relay is reached, one after another. -/
def runCalls (exchange : Exchange σ) :
    List Call → σ → List (Except HelperFault String) × σ
  | [], s => ([], s)
  | call :: calls, s =>
    let (result, s) := call.take exchange s
    let (results, s) := runCalls exchange calls s
    (result :: results, s)

section

variable (exchange : Exchange σ) (input : String) (s : σ)

theorem execute_get :
    execute (.command .get) (some exchange) input s =
      match serverUrlOf input with
      | .error fault => (.error fault, s)
      | .ok serverUrl =>
        (written (Guest.get exchange serverUrl s).1,
          (Guest.get exchange serverUrl s).2) := by
  -- the equations of `execute` are slow to make, so it is opened once for each command
  delta execute
  cases serverUrlOf input <;> rfl

theorem execute_store :
    execute (.command .store) (some exchange) input s =
      match recordOf input with
      | .error fault => (.error fault, s)
      | .ok c =>
        (done "" (Guest.run exchange (.store c) s).1,
          (Guest.run exchange (.store c) s).2) := by
  delta execute
  cases recordOf input <;> rfl

theorem execute_erase :
    execute (.command .erase) (some exchange) input s =
      match serverUrlOf input with
      | .error fault => (.error fault, s)
      | .ok serverUrl =>
        (done "" (Guest.run exchange (.erase serverUrl) s).1,
          (Guest.run exchange (.erase serverUrl) s).2) := by
  delta execute
  cases serverUrlOf input <;> rfl

theorem execute_list :
    execute (.command .list) (some exchange) input s =
      (done "\x7b\x7d" (Guest.run exchange .list s).1, (Guest.run exchange .list s).2) :=
  rfl

end

/-- The request that a call makes, unless its input is refused. -/
def Call.request? (call : Call) : Option Request :=
  match call.command with
  | .get => (serverUrlOf call.input).toOption.map .get
  | .store => (recordOf call.input).toOption.map .store
  | .erase => (serverUrlOf call.input).toOption.map .erase
  | .list => some .list

/-- Whether the requests of some calls and the replies to them are carried whole. -/
def AllCarried (exchange : Exchange σ) (store : Store σ) (limit : Nat) :
    List Call → σ → Prop
  | [], _ => True
  | call :: calls, s =>
    (∀ r ∈ call.request?, Carried store limit r s) ∧
      AllCarried exchange store limit calls (call.take exchange s).2

instance decidableAllCarried (exchange : Exchange σ) (store : Store σ) (limit : Nat) :
    (calls : List Call) → (s : σ) → Decidable (AllCarried exchange store limit calls s)
  | [], _ => isTrue trivial
  | call :: calls, s =>
    have := decidableAllCarried exchange store limit calls (call.take exchange s).2
    inferInstanceAs (Decidable (_ ∧ _))

/-! ## Bindings and records -/

theorem answered_encode {l : Ledger} {r : Request} (h : l.failure = none)
    (hwhole : r.IsWhole) :
    Answered r.cleaned l (answerOctets Memory.store r.encode l) := by
  rw [answerOctets_of_isWhole Memory.store hwhole]
  exact answered h r.cleaned

/-- The change that binds or unbinds an identifier. -/
def changeTo (id : String) : Option (String × String) → Change
  | some (username, secret) => .file ⟨id, username, secret⟩
  | none => .remove id

theorem changeTo_id (id : String) (entry : Option (String × String)) :
    (changeTo id entry).id = id := by
  cases entry <;> rfl

/-- Whether bindings are those that the records of a store make, and no part of one is
missing. -/
structure Mirrors (m : Bindings) (l : Ledger) : Prop where
  works : l.failure = none
  records : ∀ id, l.records.get? id = (m id).map fun entry => ⟨id, entry.1, entry.2⟩
  whole : ∀ id entry, m id = some entry → entry.1 ≠ "" ∧ entry.2 ≠ ""

namespace Mirrors

variable {m : Bindings} {l l' : Ledger}

theorem empty : Mirrors Bindings.empty Ledger.empty where
  works := rfl
  records := by
    intro id
    rfl
  whole := by
    intro id entry h
    cases h

theorem of_same (h : Mirrors m l) (hworks : l'.failure = none)
    (hrecords : l'.records = l.records) : Mirrors m l' where
  works := hworks
  records := by
    rw [hrecords]
    exact h.records
  whole := h.whole

theorem set (h : Mirrors m l) {id : String} {entry : Option (String × String)}
    (hworks : l'.failure = none)
    (hrecords : l'.records = (changeTo id entry).apply l.records)
    (hwhole : ∀ e ∈ entry, e.1 ≠ "" ∧ e.2 ≠ "") :
    Mirrors (Function.update m id entry) l' where
  works := hworks
  records := by
    intro other
    rw [hrecords, Change.get?_apply, changeTo_id, Function.update_apply]
    by_cases hid : other = id
    · subst hid
      rw [if_pos rfl, if_pos rfl]
      cases entry <;> rfl
    · rw [if_neg hid, if_neg hid]
      exact h.records other
  whole := by
    intro other e he
    rw [Function.update_apply] at he
    by_cases hid : other = id
    · rw [if_pos hid] at he
      exact hwhole e he
    · rw [if_neg hid] at he
      exact h.whole other e he

end Mirrors

/-! ## Inputs -/

theorem serverUrlOf_of_blank {input : String} (h : trim input = "") :
    serverUrlOf input = .error .noServerUrl := by
  simp [serverUrlOf, h]

theorem serverUrlOf_of_not_blank {input : String} (h : trim input ≠ "") :
    serverUrlOf input = .ok (trim input) := by
  simp [serverUrlOf, h]

theorem cleanField_trim_ne_empty {input : String} (h : trim input ≠ "") :
    cleanField (trim input) ≠ "" := by
  rw [cleanField_trim, Ne, cleanField_eq_empty_iff]
  exact h

theorem recordOf_of_none {input : String} (h : Wire.recordOfText? (trim input) = none) :
    recordOf input = .error (.badPayload "not a credential record") := by
  delta recordOf
  rw [h]

section

variable {input : String} {c : Credential}

theorem recordOf_of_blank (h : Wire.recordOfText? (trim input) = some c)
    (hurl : trim c.serverUrl = "") : recordOf input = .error .noServerUrl := by
  delta recordOf
  simp [h, hurl]

theorem recordOf_of_some (h : Wire.recordOfText? (trim input) = some c)
    (hurl : trim c.serverUrl ≠ "") : recordOf input = .ok c := by
  delta recordOf
  simp [h, hurl]

end

/-! ## Simulation -/

/-- Whether a result over a store is the one on bindings, with bindings and records that
match. -/
def Simulates (actual : Except HelperFault String × Ledger)
    (expected : Except HelperFault String × Bindings) : Prop :=
  actual.1 = expected.1 ∧ Mirrors expected.2 actual.2

theorem simulates_mk {m : Bindings} {l : Ledger}
    {result expected : Except HelperFault String} (hresult : result = expected)
    (h : Mirrors m l) : Simulates (result, l) (expected, m) :=
  ⟨hresult, h⟩

section

variable {relay : Exchange Ledger} {limit : Nat}
variable {m : Bindings} {l : Ledger}

/-- A request that is refused for what it lacks leaves everything as it was. -/
theorem simulates_refused (hcarries : Carries relay limit Memory.store) (h : Mirrors m l)
    {r : Request} (hcarried : Carried Memory.store limit r l) (hwhole : ¬r.IsWhole) :
    Simulates
      (done "" (run relay r l).1, (run relay r l).2)
      (.error (refused r.shortfall.message), m) := by
  have hanswer := answerOctets_of_not_isWhole Memory.store hwhole l
  have hreply : (answerOctets Memory.store r.encode l).1 =
      .error r.shortfall.message := by
    rw [hanswer]
  rw [run_of_error hcarries hcarried hreply, hanswer]
  exact ⟨rfl, h⟩

/-- A request that changes the registry of an address binds or unbinds it. -/
theorem simulates_set (hcarries : Carries relay limit Memory.store) (h : Mirrors m l)
    {r : Request} (hcarried : Carried Memory.store limit r l) (hwhole : r.IsWhole)
    {entry : Option (String × String)} (hentry : ∀ e ∈ entry, e.1 ≠ "" ∧ e.2 ≠ "")
    (hreply : r.cleaned.replyFrom l.records = confirmation (cleanField r.serverUrl))
    (hchange : r.cleaned.change? =
      (identify (cleanField r.serverUrl)).toOption.map fun id => changeTo id entry) :
    Simulates
      (done "" (run relay r l).1, (run relay r l).2)
      (m.set r.serverUrl entry) := by
  obtain ⟨hanswer, hrecords, hworks⟩ := answered_encode h.works hwhole
  rw [hreply, confirmation] at hanswer
  rw [hchange] at hrecords
  rw [Bindings.set]
  -- both sides go by whether the address is that of a registry
  cases hid : identify (cleanField r.serverUrl) with
  | error failure =>
    rw [hid] at hanswer hrecords
    rw [run_of_error hcarries hcarried hanswer]
    exact ⟨rfl, h.of_same hworks hrecords⟩
  | ok id =>
    rw [hid] at hanswer hrecords
    rw [run_of_empty hcarries hcarried hanswer]
    exact ⟨rfl, h.set hworks hrecords hentry⟩

/-- What a lookup writes, given the record that is shown for the registry. -/
theorem written_shown (h : Mirrors m l) {input : String} (hinput : trim input ≠ "") :
    written (.ok (if (shown l.records (cleanField input)).isEmpty then none
      else some (shown l.records (cleanField input)))) = m.get input := by
  rw [Bindings.get, if_neg hinput, shown]
  cases hid : identify (cleanField input) with
  | error failure => rfl
  | ok id =>
    simp only [h.records id]
    cases hm : m id with
    | none => rfl
    | some entry =>
      obtain ⟨username, secret⟩ := entry
      -- the client takes a record without any part for none, so it matters that none is
      -- missing
      obtain ⟨husername, -⟩ := h.whole id _ hm
      have hfull : Credential.isEmpty ⟨id, username, secret⟩ = false := by
        simp [Credential.isEmpty, husername]
      simp only [Option.map_some, Option.getD_some, hfull]
      rfl

theorem simulates_get (hcarries : Carries relay limit Memory.store) (h : Mirrors m l)
    (input : String)
    (hcarried : ∀ r ∈ Call.request? ⟨.get, input⟩, Carried Memory.store limit r l) :
    Simulates (Call.take relay ⟨.get, input⟩ l)
      (m.get input, m) := by
  rw [Call.take, execute_get]
  by_cases hinput : trim input = ""
  · rw [serverUrlOf_of_blank hinput, Bindings.get, if_pos hinput]
    exact ⟨rfl, h⟩
  · have hurl := serverUrlOf_of_not_blank hinput
    have hsent :=
      hcarried (.get (trim input)) (by simp [Call.request?, hurl, Except.toOption])
    obtain ⟨hanswer, hrecords, hworks⟩ := answered_encode h.works
      (show (Request.get (trim input)).IsWhole from cleanField_trim_ne_empty hinput)
    rw [cleaned, replyFrom, cleanField_trim] at hanswer
    rw [cleaned, Request.change?, changed_none] at hrecords
    have hmirrors := h.of_same hworks hrecords
    rw [hurl]
    simp only [get_of_record hcarries hsent hanswer]
    exact simulates_mk (written_shown h hinput) hmirrors

theorem simulates_store (hcarries : Carries relay limit Memory.store) (h : Mirrors m l)
    (input : String)
    (hcarried : ∀ r ∈ Call.request? ⟨.store, input⟩, Carried Memory.store limit r l) :
    Simulates (Call.take relay ⟨.store, input⟩ l)
      (m.store input) := by
  rw [Call.take, execute_store]
  delta Bindings.store
  cases hc : Wire.recordOfText? (trim input) with
  | none =>
    rw [recordOf_of_none hc]
    exact ⟨rfl, h⟩
  | some c =>
    by_cases hurl : trim c.serverUrl = ""
    · rw [recordOf_of_blank hc hurl]
      simp only [if_pos hurl]
      exact ⟨rfl, h⟩
    · have hrecord := recordOf_of_some hc hurl
      have hsent :=
        hcarried (.store c) (by simp [Call.request?, hrecord, Except.toOption])
      rw [hrecord]
      simp only [if_neg hurl]
      by_cases hparts : cleanField c.username = "" ∨ cleanField c.secret = ""
      · rw [if_pos hparts]
        exact simulates_refused hcarries h hsent fun hwhole =>
          hparts.elim hwhole.1 hwhole.2
      · rw [if_neg hparts]
        obtain ⟨husername, hsecret⟩ := not_or.mp hparts
        refine simulates_set hcarries h hsent ⟨husername, hsecret⟩ ?_ rfl rfl
        intro e he
        rw [← Option.mem_some_iff.mp he]
        exact ⟨husername, hsecret⟩

theorem simulates_erase (hcarries : Carries relay limit Memory.store) (h : Mirrors m l)
    (input : String)
    (hcarried : ∀ r ∈ Call.request? ⟨.erase, input⟩, Carried Memory.store limit r l) :
    Simulates (Call.take relay ⟨.erase, input⟩ l)
      (m.erase input) := by
  rw [Call.take, execute_erase, Bindings.erase]
  by_cases hinput : trim input = ""
  · rw [serverUrlOf_of_blank hinput, if_pos hinput]
    exact ⟨rfl, h⟩
  · have hurl := serverUrlOf_of_not_blank hinput
    have hsent :=
      hcarried (.erase (trim input)) (by simp [Call.request?, hurl, Except.toOption])
    rw [hurl, if_neg hinput, ← Bindings.set_trim]
    refine simulates_set hcarries h hsent (cleanField_trim_ne_empty hinput) ?_ rfl rfl
    intro e he
    cases he

theorem simulates_list (hcarries : Carries relay limit Memory.store) (h : Mirrors m l)
    (input : String)
    (hcarried : ∀ r ∈ Call.request? ⟨.list, input⟩, Carried Memory.store limit r l) :
    Simulates (Call.take relay ⟨.list, input⟩ l)
      (.ok "\x7b\x7d", m) := by
  have hsent := hcarried .list rfl
  obtain ⟨hanswer, hrecords, hworks⟩ := answered_encode (r := .list) h.works trivial
  have hmirrors := h.of_same hworks hrecords
  rw [Call.take, execute_list, run_of_empty hcarries hsent hanswer]
  exact ⟨rfl, hmirrors⟩

/-- One call gives what it gives on bindings that match the records. -/
theorem simulates_take (hcarries : Carries relay limit Memory.store) (h : Mirrors m l)
    (call : Call) (hcarried : ∀ r ∈ call.request?, Carried Memory.store limit r l) :
    Simulates (call.take relay l) (m.take call) := by
  obtain ⟨command, input⟩ := call
  cases command with
  | get => exact simulates_get hcarries h input hcarried
  | store => exact simulates_store hcarries h input hcarried
  | erase => exact simulates_erase hcarries h input hcarried
  | list => exact simulates_list hcarries h input hcarried

theorem simulates_run (hcarries : Carries relay limit Memory.store) (h : Mirrors m l)
    (calls : List Call) (hcarried : AllCarried relay Memory.store limit calls l) :
    (runCalls relay calls l).1 = (Bindings.run calls m).1 ∧
      Mirrors (Bindings.run calls m).2 (runCalls relay calls l).2 := by
  -- on the calls, for all bindings and records that match: the first call leaves a pair
  -- that does
  induction calls generalizing m l with
  | nil => exact ⟨rfl, h⟩
  | cons call calls ih =>
    obtain ⟨hfirst, hrest⟩ := hcarried
    obtain ⟨hresult, hmirrors⟩ := simulates_take hcarries h call hfirst
    obtain ⟨hresults, hfinal⟩ := ih hmirrors hrest
    exact ⟨congrArg₂ List.cons hresult hresults, hfinal⟩

end

/-- Where the relay has a store that is empty at first and does not fail, serves the
connections that are made to it, and all that is sent is carried whole, calls of the
helper give what they give on bindings, which match the records at the end. What a lookup
writes reads back as the record of the binding. -/
theorem runCalls_eq_run_bindings (site : Host.Site) (endpoint : Endpoint) (limit : Nat)
    (hreach : reach site endpoint = .ok true) (calls : List Call)
    (hcarried : AllCarried (exchange site endpoint limit Memory.store)
      Memory.store limit calls Ledger.empty) :
    let relay := exchange site endpoint limit Memory.store
    (runCalls relay calls Ledger.empty).1 = (Bindings.run calls Bindings.empty).1 ∧
      Mirrors (Bindings.run calls Bindings.empty).2
        (runCalls relay calls Ledger.empty).2 ∧
      ∀ c, Wire.recordOfText? (Wire.recordText c) = some c := by
  intro relay
  have hcarries : Carries relay limit Memory.store :=
    carries_exchange Memory.store hreach limit
  obtain ⟨hresults, hmirrors⟩ := simulates_run hcarries Mirrors.empty calls hcarried
  exact ⟨hresults, hmirrors, Wire.recordOfText?_recordText⟩

/-- A credential that is stored under one spelling is found under another until it is
erased, where the relay was started on a free port of the loopback address. -/
theorem runCalls_of_other_spelling :
    let interfaces : Host.Interfaces := ⟨fun _ => .ok (), fun a => .ok a.address, .ok ()⟩
    let started :=
      (Service.ofSettings Settings.default).startAt (.tcp ⟨.v4 0x7f000001#32, 0, 0⟩)
      { Host.Site.ofTree (Host.Tree.bare []) with interfaces }
    let endpoint : Endpoint := .tcp ⟨.v4 0x7f000001#32, 0, 49152⟩
    let calls : List Call := [
      ⟨.store, Wire.recordText ⟨"Quay.io/v2", "u\r\n", "s"⟩⟩,
      ⟨.get, "quay.io\n"⟩, ⟨.erase, "quay.io:443"⟩, ⟨.get, "quay.io"⟩]
    started.2.1.endpoint? = some endpoint ∧
      ((runCalls (exchange started.2.2 endpoint 4096 Memory.store) calls
          Ledger.empty).1.map Except.toOption) =
        [some "", some (Wire.recordText ⟨"quay.io:443", "u", "s"⟩), some "", none] := by
  intro interfaces started endpoint calls
  have hreach : reach started.2.2 endpoint = .ok true :=
    eq_ok_of_toOption (by decide +kernel)
  have hcarried :
      AllCarried (exchange started.2.2 endpoint 4096 Memory.store) Memory.store 4096
      calls Ledger.empty := by decide +kernel
  refine ⟨by decide +kernel, ?_⟩
  rw [(runCalls_eq_run_bindings started.2.2 endpoint 4096 hreach calls hcarried).1]
  decide +kernel

end CredRelay.Guest
