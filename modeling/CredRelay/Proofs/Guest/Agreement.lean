import CredRelay.Proofs.Guest.Client
import CredRelay.Store.Memory
/-! What the client makes of a reply, against what the relay meant by it. A lookup gives a
record where the store found one, and fails only where its address is blank; the other
requests are done, or fail with what the relay holds against them. The client never takes
a reply for a malformed one. -/
namespace CredRelay

open Request

theorem Request.command_cleaned (r : Request) : r.cleaned.command = r.command := by
  cases r <;> simp only [cleaned, command]

/-! ## What the relay means -/

namespace Relay

variable {σ : Type} (store : Store σ) (s : σ)

/-- The failure that an answer is. -/
def failureOf? : Answer → Option Failure
  | .error failure => some failure
  | .ok _ => none

/-- The record that an answer gives, unless it is empty. -/
def foundIn? : Answer → Option Credential
  | .ok (.found c) => if c.isEmpty then none else some c
  | _ => none

/-- The failure of a request about the registry of an address: of reading the address, or
of the store. -/
def failureAbout? (address : String) (ask : Registry → Answer) : Option Failure :=
  match Registry.ofString address with
  | .error failure => some failure
  | .ok r => failureOf? (ask r)

/-- The failure that a request is answered with. A lookup never is, and a list not for
want of a helper. -/
def failure? : Request → Option Failure
  | .get _ => none
  | .store c =>
    failureAbout? c.serverUrl fun r =>
      (store.store r ⟨r.identifier, c.username, c.secret⟩ s).1
  | .erase address => failureAbout? address fun r => (store.erase r s).1
  | .list => (failureOf? (store.list s).1).filter fun failure => !failure.isResolution

/-- What the relay says against a request as it was sent: what it lacks, or how it
failed. -/
def complaint? (r : Request) : Option String :=
  if r.IsWhole then (failure? store s r.cleaned).map Failure.message else
    some r.shortfall.message

/-- The record that the store finds for an address, unless it is empty. -/
def found? (address : String) : Option Credential :=
  match Registry.ofString address with
  | .error _ => none
  | .ok r => foundIn? (store.get r s).1

/-- The reply that a complaint makes. -/
def replyOf : Option String → Reply
  | none => .empty
  | some text => .error text

theorem reply_change {command : Command} (hcommand : command = .store ∨ command = .erase)
    (serverUrl : String) (answer : Answer) :
    reply command serverUrl answer =
      replyOf ((failureOf? answer).map Failure.message) := by
  rcases hcommand with rfl | rfl <;> cases answer <;> rfl

theorem reply_list (answer : Answer) :
    reply .list "" answer = replyOf
      (((failureOf? answer).filter fun failure => !failure.isResolution).map
        Failure.message) := by
  cases answer with
  | ok outcome => rfl
  | error failure =>
    show (if failure.isResolution then Reply.empty else .error failure.message) = _
    cases hresolution : failure.isResolution <;>
      simp [failureOf?, Option.filter_some, hresolution, replyOf]

/-- A lookup is answered with the record that was found, or with an empty one. -/
theorem reply_get (serverUrl : String) (answer : Answer) :
    ∃ c, reply .get serverUrl answer = .record c ∧
      (if c.isEmpty then none else some c) = foundIn? answer := by
  rcases answer with failure | outcome
  · exact ⟨Credential.none serverUrl, rfl, rfl⟩
  · cases outcome with
    | found c => exact ⟨c, rfl, rfl⟩
    | notFound | completed | listed => exact ⟨Credential.none serverUrl, rfl, rfl⟩

theorem foundIn?_eq_some_iff {answer : Answer} {c : Credential} :
    foundIn? answer = some c ↔ c.isEmpty = false ∧ answer = .ok (.found c) := by
  rcases answer with failure | outcome
  · simp [foundIn?]
  · cases outcome with
    | found other =>
      rw [foundIn?, Except.ok.injEq, Outcome.found.injEq]
      cases hempty : other.isEmpty
      · constructor
        · rintro ⟨⟩
          exact ⟨hempty, rfl⟩
        · rintro ⟨-, rfl⟩
          rfl
      · constructor
        · rintro ⟨⟩
        · rintro ⟨hc, rfl⟩
          rw [hempty] at hc
          cases hc
    | notFound | completed | listed => simp [foundIn?]

theorem answerAbout_eq_replyOf {command : Command}
    (hcommand : command = .store ∨ command = .erase) (address : String)
    (ask : Registry → σ → Answer × σ) : (answerAbout command address ask s).1 =
      replyOf ((failureAbout? address fun r => (ask r s).1).map Failure.message) := by
  rw [answerAbout, failureAbout?]
  cases Registry.ofString address with
  | error failure => exact reply_change hcommand address (.error failure)
  | ok r => exact reply_change hcommand r.identifier (ask r s).1

/-- A request other than a lookup is answered with its failure, or with nothing. -/
theorem answer_eq_replyOf {r : Request} (h : r.command ≠ .get) :
    (answer store r s).1 = replyOf ((failure? store s r).map Failure.message) := by
  cases r with
  | get address => exact absurd rfl h
  | store c => exact answerAbout_eq_replyOf s (.inl rfl) c.serverUrl _
  | erase address => exact answerAbout_eq_replyOf s (.inr rfl) address _
  | list => exact reply_list (store.list s).1

/-- A request other than a lookup is answered with what the relay says against it, if
anything. -/
theorem answerOctets_encode_eq_replyOf {r : Request} (h : r.command ≠ .get) :
    (answerOctets store r.encode s).1 = replyOf (complaint? store s r) := by
  have hcleaned : r.cleaned.command ≠ .get := by
    rw [command_cleaned]
    exact h
  by_cases hwhole : r.IsWhole
  · rw [answerOctets_of_isWhole store hwhole, answer_eq_replyOf store s hcleaned,
      complaint?, if_pos hwhole]
  · rw [answerOctets_of_not_isWhole store hwhole, complaint?, if_neg hwhole]
    rfl

/-- A lookup is answered with the record that the store finds, or with an empty one. -/
theorem answer_get_eq_record (address : String) :
    ∃ c, (answer store (.get address) s).1 = .record c ∧
      (if c.isEmpty then none else some c) = found? store s address := by
  show ∃ c, (answerAbout .get address store.get s).1 = .record c ∧ _
  rw [answerAbout, found?]
  cases Registry.ofString address with
  | error failure => exact ⟨Credential.none address, rfl, rfl⟩
  | ok r => exact reply_get r.identifier (store.get r s).1

theorem found?_eq_some_iff {address : String} {c : Credential} :
    found? store s address = some c ↔
      c.isEmpty = false ∧
        ∃ r, Registry.ofString address = .ok r ∧ (store.get r s).1 = .ok (.found c) := by
  rw [found?]
  cases Registry.ofString address with
  | error failure => simp
  | ok r => simp [foundIn?_eq_some_iff]

end Relay

/-! ## What the client makes of it -/

namespace Guest

open Relay

variable {σ : Type} {store : Store σ} {s : σ}
variable {relay : Exchange σ} {limit : Nat}

/-- What a request other than a lookup comes to. -/
def doneUnless : Option String → Except Failure Unit
  | none => .ok ()
  | some text => .error (.remote (cleanField text))

theorem run_eq_doneUnless (hcarries : Carries relay limit store) {r : Request}
    (hr : r.command ≠ .get) (h : Carried store limit r s) :
    (run relay r s).1 = doneUnless (complaint? store s r) := by
  have hreply := answerOctets_encode_eq_replyOf store s hr
  cases hcomplaint : complaint? store s r with
  | none =>
    rw [hcomplaint] at hreply
    rw [run_of_empty hcarries h hreply]
    rfl
  | some text =>
    rw [hcomplaint] at hreply
    rw [run_of_error hcarries h hreply]
    rfl

theorem get_of_blank (hcarries : Carries relay limit store) {address : String}
    (h : Carried store limit (.get address) s) (hblank : cleanField address = "") :
    (get relay address s).1 =
      .error (.remote (cleanField (Request.get address).shortfall.message)) := by
  have hwhole : ¬(Request.get address).IsWhole := fun hne => hne hblank
  rw [get, request_of_carried hcarries h, answerOctets_of_not_isWhole store hwhole]
  rfl

theorem get_of_not_blank (hcarries : Carries relay limit store) {address : String}
    (h : Carried store limit (.get address) s) (hblank : cleanField address ≠ "") :
    (get relay address s).1 =
      .ok (found? store s (cleanField address)) := by
  have hwhole : (Request.get address).IsWhole := hblank
  obtain ⟨c, hrecord, hfound⟩ := answer_get_eq_record store s (cleanField address)
  have hreply : (answerOctets store (Request.get address).encode s).1 = .record c := by
    rw [answerOctets_of_isWhole store hwhole]
    exact hrecord
  rw [get_of_record hcarries h hreply, hfound]

/-- What a lookup of an address comes to, whatever the store answers. -/
structure LookedUp (store : Store σ) (s : σ) (address : String)
    (result : Except Failure (Option Credential)) : Prop where
  remote_iff : (∃ reason, result = .error (.remote reason)) ↔ cleanField address = ""
  some_iff : ∀ c, result = .ok (some c) ↔
    cleanField address ≠ "" ∧ c.isEmpty = false ∧
      ∃ r, Registry.ofString (cleanField address) = .ok r ∧
        (store.get r s).1 = .ok (.found c)
  none_iff : result = .ok none ↔
    cleanField address ≠ "" ∧
      ∀ r c, Registry.ofString (cleanField address) = .ok r →
        (store.get r s).1 = .ok (.found c) → c.isEmpty = true
  not_malformed : ∀ fault, result ≠ .error (.wire fault)

theorem lookedUp_of_blank {address reason : String} (h : cleanField address = "") :
    LookedUp store s address (.error (.remote reason)) where
  remote_iff := by simp [h]
  some_iff := by simp [h]
  none_iff := by simp [h]
  not_malformed := by
    intro fault hfault
    cases hfault

theorem lookedUp_found? {address : String} (h : cleanField address ≠ "") :
    LookedUp store s address (.ok (found? store s (cleanField address))) where
  remote_iff := by simp [h]
  some_iff := by
    intro c
    rw [Except.ok.injEq, found?_eq_some_iff]
    simp [h]
  none_iff := by
    rw [Except.ok.injEq, Option.eq_none_iff_forall_ne_some]
    simp only [Ne, found?_eq_some_iff, h, not_false_eq_true, true_and]
    constructor
    · intro hnone r c hr hc
      by_contra hempty
      exact hnone c ⟨by simpa using hempty, r, hr, hc⟩
    · rintro hall c ⟨hempty, r, hr, hc⟩
      rw [hall r c hr hc] at hempty
      cases hempty
  not_malformed := by
    intro fault hfault
    cases hfault

theorem lookedUp_get (hcarries : Carries relay limit store) {address : String}
    (h : Carried store limit (.get address) s) :
    LookedUp store s address (get relay address s).1 := by
  by_cases hblank : cleanField address = ""
  · rw [get_of_blank hcarries h hblank]
    exact lookedUp_of_blank hblank
  · rw [get_of_not_blank hcarries h hblank]
    exact lookedUp_found? hblank

theorem doneUnless_ne_wire (complaint : Option String) (fault : WireFault) :
    doneUnless complaint ≠ .error (.wire fault) := by
  cases complaint with
  | none => exact fun h => nomatch h
  | some text => exact fun h => nomatch h

/-- Over a connection that is served and carries requests and replies whole, the client
learns what the relay meant, whatever the store answers. A lookup fails only for a blank
address; it gives the record that the store found for the registry of its address, unless
that is empty, and otherwise none. Any other request is done, or fails with what the relay
says against it. No reply counts as malformed. -/
theorem lookedUp_get_and_run_eq_doneUnless (store : Store σ) (s : σ) (site : Host.Site)
    (endpoint : Endpoint) (limit : Nat) (hreach : reach site endpoint = .ok true) :
    let relay := exchange site endpoint limit store
    (∀ address, Carried store limit (.get address) s →
      LookedUp store s address (get relay address s).1) ∧
    ∀ r : Request, r.command ≠ .get → Carried store limit r s →
      (run relay r s).1 = doneUnless (complaint? store s r) ∧
        ∀ fault, (run relay r s).1 ≠ .error (.wire fault) := by
  intro relay
  have hcarries : Carries relay limit store := carries_exchange store hreach limit
  constructor
  · intro address h
    exact lookedUp_get hcarries h
  · intro r hr h
    rw [run_eq_doneUnless hcarries hr h]
    exact ⟨rfl, doneUnless_ne_wire _⟩

/-- A store that fails with a text of several lines, behind a relay that listens on all
version 6 addresses and serves those of one network: a lookup gives none, and a removal
fails with the text on one line. -/
theorem run_of_failing_store :
    let interfaces : Host.Interfaces :=
      ⟨fun _ => .ok (), fun _ => .ok (.v4 0xc0a80502#32), .error .refused⟩
    let site := { Host.Site.ofTree (Host.Tree.bare []) with
      interfaces
      addresses := [⟨⟨.v6 0#128, 0, 47365⟩, [.v4 0xc0a80500#32 24]⟩] }
    let endpoint : Endpoint := .tcp ⟨.v4 0xc0a80501#32, 0, 47365⟩
    let l := Memory.Ledger.empty.failWith (some "keychain\r\nlocked ")
    let relay := exchange site endpoint 4096 Memory.store
    (get relay "quay.io\n" l).1 = .ok none ∧
      (run relay (.erase "quay.io") l).1 =
        .error (.remote "credential helper failed: keychainlocked") := by
  intro interfaces site endpoint l relay
  have hreach : reach site endpoint = .ok true := eq_ok_of_toOption (by decide +kernel)
  have hget : Carried Memory.store 4096 (.get "quay.io\n") l := by decide +kernel
  have herase : Carried Memory.store 4096 (.erase "quay.io") l := by decide +kernel
  obtain ⟨hlookup, hrun⟩ :=
    lookedUp_get_and_run_eq_doneUnless Memory.store l site endpoint 4096 hreach
  refine ⟨(hlookup _ hget).none_iff.mpr ⟨by decide, ?_⟩, ?_⟩
  · intro r c hr hc
    cases hc
  · rw [(hrun (.erase "quay.io") (by decide) herase).1]
    have hcomplaint : complaint? Memory.store l (.erase "quay.io") =
        some "credential helper failed: keychain\r\nlocked " := by decide +kernel
    rw [hcomplaint]
    exact congrArg (fun text => Except.error (Failure.remote text)) (by decide)

end Guest

end CredRelay
