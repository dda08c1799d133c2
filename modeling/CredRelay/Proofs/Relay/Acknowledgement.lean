import CredRelay.Proofs.Wire.RequestRoundTrip
import CredRelay.Relay.Answer
import CredRelay.Store.Native
/-! When a relay over the helpers of a machine acknowledges that a credential was stored:
a helper must have been chosen, and its run must have ended with code zero or with output
that says that there is no such credential. Everything else is answered with an error. -/
namespace CredRelay

open Text Host Helper

/-! ## Runs -/

namespace Host.Run

/-- Whether a program ended with code zero. -/
def Succeeded : Run → Prop
  | .ended code _ _ => code = some 0
  | .refused _ | .unended => False

/-- Whether a program failed and wrote that there is no such credential. -/
def ReportsMissing : Run → Prop
  | .ended code output errors =>
    (Output.ofStreams code output errors).reportsMissing = true
  | .refused _ | .unended => False

instance (run : Run) : Decidable run.Succeeded :=
  match run with
  | .ended _ _ _ => inferInstanceAs (Decidable (_ = _))
  | .refused _ | .unended => inferInstanceAs (Decidable False)

instance (run : Run) : Decidable run.ReportsMissing :=
  match run with
  | .ended _ _ _ => inferInstanceAs (Decidable (_ = _))
  | .refused _ | .unended => inferInstanceAs (Decidable False)

end Host.Run

namespace Helper

/-- A failed call is an outcome only where the helper says that there is no such
credential. -/
theorem exists_outcomeOf_eq_ok_iff {read : Output → Answer}
    (hread : ∀ o, ∃ outcome, read o = .ok outcome) (o : Output) :
    (∃ outcome, outcomeOf read o = .ok outcome) ↔ o.success = true ∨
      o.reportsMissing = true := by
  rw [outcomeOf]
  by_cases hsuccess : o.success = true
  · rw [if_pos hsuccess]
    exact ⟨fun _ => .inl hsuccess, fun _ => hread o⟩
  by_cases hmissing : o.reportsMissing = true
  · rw [if_neg hsuccess, if_pos hmissing]
    exact ⟨fun _ => .inr hmissing, fun _ => ⟨_, rfl⟩⟩
  · rw [if_neg hsuccess, if_neg hmissing]
    constructor
    · rintro ⟨outcome, h⟩
      cases h
    · rintro (h | h)
      · exact absurd h hsuccess
      · exact absurd h hmissing

/-- A change is an outcome where the helper succeeds, and also where it fails for a
missing credential. -/
theorem exists_answerOfRun_eq_ok_iff {verb : Command}
    (hverb : verb = .store ∨ verb = .erase) (path : String) (seconds : Nat) (run : Run) :
    (∃ outcome, answerOfRun path seconds verb run = .ok outcome) ↔
      run.Succeeded ∨ run.ReportsMissing := by
  cases run with
  | refused reason => simp [answerOfRun, outputOfRun, Run.Succeeded, Run.ReportsMissing]
  | unended => simp [answerOfRun, outputOfRun, Run.Succeeded, Run.ReportsMissing]
  | ended code output errors =>
    have hread : ∀ o, ∃ outcome, reader verb o = .ok outcome := by
      intro o
      rcases hverb with rfl | rfl <;> exact ⟨_, rfl⟩
    have hsuccess : (Output.ofStreams code output errors).success = true ↔
        code = some 0 := by
      simp [Output.ofStreams, Output.success]
    show (∃ outcome, outcomeOf (reader verb) (Output.ofStreams code output errors) =
      .ok outcome) ↔ _
    rw [exists_outcomeOf_eq_ok_iff hread, hsuccess]
    rfl

end Helper

/-! ## Stores -/

namespace Native

variable {σ : Type} (setup : Setup) (machine : Machine σ) (s : σ)

/-- The run of a chosen helper that is given a record to store. -/
def storeRun (chosen : Chosen) (c : Credential) : Run :=
  (machine.run chosen.path .store (utf8 (Wire.recordText c)) s).1

theorem exists_store_eq_ok_iff (r : Registry) (c : Credential) :
    (∃ outcome, ((Native.store setup machine).store r c s).1 = .ok outcome) ↔
      ∃ chosen, setup.choose machine r.lookupKeys s = .ok chosen ∧
        ((storeRun machine s chosen c).Succeeded ∨
          (storeRun machine s chosen c).ReportsMissing) := by
  show (∃ outcome, (setup.ask machine r.lookupKeys .store (Wire.recordText c) s).1 =
    .ok outcome) ↔ _
  rw [Setup.ask]
  cases hchoose : setup.choose machine r.lookupKeys s with
  | error failure => simp
  | ok chosen =>
    have hcall := exists_answerOfRun_eq_ok_iff (.inl rfl) chosen.path setup.seconds
      (storeRun machine s chosen c)
    constructor
    · intro h
      exact ⟨chosen, rfl, hcall.mp h⟩
    · rintro ⟨other, hother, h⟩
      cases hother
      exact hcall.mpr h

end Native

/-! ## Replies -/

namespace Relay

/-- A store is confirmed where it has an outcome of whatever kind, and is refused
otherwise. -/
theorem reply_store (serverUrl : String) (answer : Answer) :
    (reply .store serverUrl answer = .empty ↔ ∃ outcome, answer = .ok outcome) ∧
      (reply .store serverUrl answer ≠ .empty →
        ∃ reason, reply .store serverUrl answer = .error reason) := by
  cases answer with
  | ok outcome => exact ⟨⟨fun _ => ⟨_, rfl⟩, fun _ => rfl⟩, fun h => absurd rfl h⟩
  | error failure =>
    refine ⟨⟨fun h => ?_, fun h => ?_⟩, fun _ => ⟨_, rfl⟩⟩
    · cases h
    · obtain ⟨outcome, h⟩ := h
      cases h

variable {σ : Type} (setup : Native.Setup) (machine : Machine σ) (s : σ)

/-- A store is answered with what becomes of it at the helper for its registry. -/
theorem answerOctets_store_native {octets : ByteArray} {c : Credential} {r : Registry}
    (h : Request.decode octets = .ok (.store c))
    (hr : Registry.ofString c.serverUrl = .ok r) :
    (answerOctets (Native.store setup machine) octets s).1 =
      reply .store r.identifier
        ((Native.store setup machine).store r
          ⟨r.identifier, c.username, c.secret⟩ s).1 := by
  rw [answerOctets, h]
  show (answerAbout .store c.serverUrl _ s).1 = _
  rw [answerAbout, hr]

/-- A store for an address that is no registry is refused. -/
theorem answerOctets_store_of_error {store : Store σ} {octets : ByteArray}
    {c : Credential} {failure : Failure} (h : Request.decode octets = .ok (.store c))
    (hr : Registry.ofString c.serverUrl = .error failure) :
    (answerOctets store octets s).1 = .error failure.message := by
  rw [answerOctets, h]
  show (answerAbout .store c.serverUrl _ s).1 = _
  rw [answerAbout, hr]
  rfl

/-- A well-formed store is acknowledged exactly where its address is a registry, a helper
is chosen for it, and the run of that helper ends with code zero, or fails and says that
there is no such credential. Every other store is answered with an error. -/
theorem acknowledged_iff {octets : ByteArray} {c : Credential}
    (h : Request.decode octets = .ok (.store c)) :
    ((answerOctets (Native.store setup machine) octets s).1 = .empty ↔
      ∃ r chosen, Registry.ofString c.serverUrl = .ok r ∧
        setup.choose machine r.lookupKeys s = .ok chosen ∧
        ((Native.storeRun machine s chosen ⟨r.identifier, c.username,
          c.secret⟩).Succeeded ∨
          (Native.storeRun machine s chosen ⟨r.identifier, c.username,
            c.secret⟩).ReportsMissing)) ∧
      ((answerOctets (Native.store setup machine) octets s).1 ≠ .empty →
        ∃ reason, (answerOctets (Native.store setup machine) octets s).1 =
          .error reason) := by
  cases hr : Registry.ofString c.serverUrl with
  | error failure =>
    rw [answerOctets_store_of_error s h hr]
    refine ⟨⟨fun hempty => ?_, ?_⟩, fun _ => ⟨_, rfl⟩⟩
    · cases hempty
    · rintro ⟨r, chosen, hother, -⟩
      cases hother
  | ok r =>
    obtain ⟨hempty, herror⟩ := reply_store r.identifier
      ((Native.store setup machine).store r ⟨r.identifier, c.username, c.secret⟩ s).1
    rw [answerOctets_store_native setup machine s h hr]
    refine ⟨?_, herror⟩
    rw [hempty, Native.exists_store_eq_ok_iff]
    constructor
    · rintro ⟨chosen, hchosen, hrun⟩
      exact ⟨r, chosen, rfl, hchosen, hrun⟩
    · rintro ⟨other, chosen, hother, hchosen, hrun⟩
      cases hother
      exact ⟨chosen, hchosen, hrun⟩

/-! ## A store that is lost -/

/-- A machine whose only helper fails and says that there is no such credential. -/
def forgetful : Machine Unit where
  readText _ _ := .text "\x7b\"credsStore\":\"c\"\x7d"
  isProgram _ path := path == "/h/docker-credential-c"
  run _ _ _ s :=
    (.ended (some 1) ByteArray.empty (utf8 "credentials not found in native keychain\n"),
      s)

/-- A setup that looks for helpers in one directory. -/
def oneDirectory : Native.Setup :=
  ⟨"/root/config.json", ⟨["/h"], [], []⟩, 30⟩

/-- The helper of that machine is chosen and loses what it is given, and the store is
acknowledged. -/
theorem acknowledged_of_forgetful :
    let c : Credential := ⟨"ghcr.io", "u", "s"⟩
    let chosen : Chosen :=
      ⟨"docker-credential-c", "/h/docker-credential-c", .globalDefault⟩
    let filed : Credential := ⟨"ghcr.io:443", "u", "s"⟩
    Request.decode (Request.store c).encode = .ok (.store c) ∧
      (answerOctets (Native.store oneDirectory forgetful) (Request.store c).encode ()).1 =
        .empty ∧
      oneDirectory.choose forgetful ["ghcr.io:443", "ghcr.io"] () = .ok chosen ∧
      ¬(Native.storeRun forgetful () chosen filed).Succeeded := by
  intro c chosen filed
  have hcleaned : (Request.store c).cleaned = .store c := by decide +kernel
  have hread : Request.decode (Request.store c).encode = .ok (.store c) := by
    rw [Request.decode_encode_of_isWhole (by decide +kernel : (Request.store c).IsWhole),
      hcleaned]
  have hr : Registry.ofString c.serverUrl = .ok ⟨.https, "ghcr.io", 443, "", none⟩ :=
    eq_ok_of_toOption (by decide +kernel)
  have hchosen : oneDirectory.choose forgetful ["ghcr.io:443", "ghcr.io"] () =
      .ok chosen :=
    eq_ok_of_toOption (by decide +kernel)
  have hkeys : Registry.lookupKeys ⟨.https, "ghcr.io", 443, "", none⟩ =
      ["ghcr.io:443", "ghcr.io"] := by
    decide +kernel
  have hmissing : (Native.storeRun forgetful () chosen filed).ReportsMissing := by
    decide +kernel
  refine ⟨hread, (acknowledged_iff oneDirectory forgetful () hread).1.mpr ?_,
    hchosen, by decide +kernel⟩
  refine ⟨_, chosen, hr, ?_, .inr ?_⟩
  · rw [hkeys]
    exact hchosen
  · exact hmissing

end Relay

end CredRelay
