import CredRelay.Proofs.Relay.CallLog
import Mathlib.Data.List.Forall2
/-! What a run shows of the credentials that are stored in it. Two runs that differ in
nothing but the user names and the secrets of some stores are told apart by lookups only:
the store is called in the same way, every other request is answered alike, and what a
lookup shows differs only where the registry that it asks for had one of these stores. -/
namespace CredRelay.Relay

open Memory

/-! ## Steps that differ in secrets -/

namespace Step

/-- Whether two steps are one, or are stores under one address. -/
inductive SameButSecrets : Step → Step → Prop
  | same (step : Step) : SameButSecrets step step
  | store {octets octets' : ByteArray} {c c' : Credential}
      (hread : Request.decode octets = .ok (.store c))
      (hread' : Request.decode octets' = .ok (.store c'))
      (haddress : c.serverUrl = c'.serverUrl) :
      SameButSecrets (.request octets) (.request octets')

/-- Whether two steps store different credentials for the registry of an identifier. -/
def DifferAt (id : String) (step step' : Step) : Prop :=
  ∃ octets octets' c c', step = .request octets ∧ step' = .request octets' ∧
    Request.decode octets = .ok (.store c) ∧ Request.decode octets' = .ok (.store c') ∧
    c ≠ c' ∧ identify c.serverUrl = .ok id

variable {step step' : Step}

theorem SameButSecrets.call?_eq (h : SameButSecrets step step') :
    step.call? = step'.call? := by
  cases h with
  | same step => rfl
  | store hread hread' haddress =>
    simp only [call?, hread, hread', Request.call?, haddress]

theorem SameButSecrets.setting?_eq (h : SameButSecrets step step') :
    step.setting? = step'.setting? := by
  cases h with
  | same step => rfl
  | store hread hread' haddress => rfl

/-- Such steps change the same records, and only the credentials that they file may
differ. -/
theorem SameButSecrets.effect?_cases (h : SameButSecrets step step')
    (failure : Option String) : step.effect? failure = step'.effect? failure ∨
      ∃ c c', step.effect? failure = some (.file c) ∧
        step'.effect? failure = some (.file c') ∧
        c.serverUrl = c'.serverUrl ∧ DifferAt c.serverUrl step step' := by
  cases h with
  | same step => exact .inl rfl
  | @store octets octets' c c' hread hread' haddress =>
    by_cases hne : c = c'
    · left
      simp only [effect?, change?, hread, hread', hne]
    cases failure with
    | some message => exact .inl rfl
    | none =>
      simp only [effect?, change?, hread, hread', Request.change?, ← haddress]
      cases hid : identify c.serverUrl with
      | error fault => exact .inl rfl
      | ok id =>
        refine .inr ⟨⟨id, c.username, c.secret⟩, ⟨id, c'.username, c'.secret⟩, rfl,
          rfl, rfl, ?_⟩
        exact ⟨octets, octets', c, c', rfl, rfl, hread, hread', hne, hid⟩

end Step

/-! ## Stores that agree -/

/-- Whether two stores differ at most in the user names and secrets that they hold for the
registries of some identifiers. -/
structure Agree (exposed : String → Prop) (l l' : Ledger) : Prop where
  calls : l.calls = l'.calls
  failure : l.failure = l'.failure
  address : ∀ id, (l.records.get? id).map Credential.serverUrl =
    (l'.records.get? id).map Credential.serverUrl
  record : ∀ id, ¬exposed id → l.records.get? id = l'.records.get? id

variable {exposed more : String → Prop} {l l' : Ledger}

theorem Agree.refl (exposed : String → Prop) (l : Ledger) : Agree exposed l l :=
  ⟨rfl, rfl, fun _ => rfl, fun _ _ => rfl⟩

theorem Agree.weaken (h : Agree exposed l l') (hmore : ∀ id, exposed id → more id) :
    Agree more l l' where
  calls := h.calls
  failure := h.failure
  address := h.address
  record id hid := h.record id fun hexposed => hid (hmore id hexposed)

/-- Two records that are filed under one identifier are there for both, under one
address. -/
theorem Agree.cases (h : Agree exposed l l') (id : String) :
    l.records.get? id = l'.records.get? id ∨
      exposed id ∧ ∃ c c', l.records.get? id = some c ∧ l'.records.get? id = some c' ∧
        c.serverUrl = c'.serverUrl := by
  by_cases hid : exposed id
  · have haddress := h.address id
    cases hc : l.records.get? id with
    | none =>
      rw [hc] at haddress
      exact .inl (Option.map_eq_none_iff.mp haddress.symm).symm
    | some c =>
      rw [hc] at haddress
      obtain ⟨c', hc', hsame⟩ := Option.map_eq_some_iff.mp haddress.symm
      exact .inr ⟨hid, c, c', rfl, hc', hsame.symm⟩
  · exact .inl (h.record id hid)

/-- Steps that differ in secrets keep stores in agreement, but for the registries that
they are about. -/
theorem Agree.take {step step' : Step} (h : Agree exposed l l')
    (hstep : step.SameButSecrets step') :
    Agree (fun id => exposed id ∨ Step.DifferAt id step step') (step.take l).2
    (step'.take l').2 where
  calls := by rw [Step.calls_take, Step.calls_take, h.calls, hstep.call?_eq]
  failure := by rw [Step.failure_take, Step.failure_take, h.failure, hstep.setting?_eq]
  address id := by
    rw [Step.records_take, Step.records_take, ← h.failure, get?_changed, get?_changed]
    rcases hstep.effect?_cases l.failure with heq | ⟨c, c', hc, hc', hsame, -⟩
    · rw [heq]
      cases step'.effect? l.failure with
      | none => exact h.address id
      | some change =>
        dsimp only
        split
        · rfl
        · exact h.address id
    · rw [hc, hc']
      show (if id = c.serverUrl then some c else _).map _ =
        (if id = c'.serverUrl then some c' else _).map _
      rw [← hsame]
      split
      · exact congrArg some hsame
      · exact h.address id
  record id hid := by
    rw [not_or] at hid
    have hkept := h.record id hid.1
    rw [Step.records_take, Step.records_take, ← h.failure, get?_changed,
      get?_changed, hkept]
    rcases hstep.effect?_cases l.failure with heq | ⟨c, c', hc, hc', hsame, hdiffer⟩
    · rw [heq]
    · have hne : id ≠ c.serverUrl := by
        rintro rfl
        exact hid.2 hdiffer
      rw [hc, hc']
      show (if id = c.serverUrl then some c else _) = if id =
        c'.serverUrl then some c' else _
      rw [← hsame, if_neg hne, if_neg hne]

/-! ## Replies -/

/-- Every step is answered from the records and the failure only. -/
theorem reply_take (octets : ByteArray) (l : Ledger) :
    (Step.take (.request octets) l).1 =
      some (match Request.decode octets with
        | .error fault => .error fault.message
        | .ok request =>
          match l.failure with
          | none => request.replyFrom l.records
          | some message => request.refusal message) := by
  rw [Step.take, answerOctets]
  cases Request.decode octets with
  | error fault => rfl
  | ok request =>
    cases hfailure : l.failure with
    | none => exact congrArg some (answered hfailure request).1
    | some message => exact congrArg some (refused hfailure request).1

/-- Where two stores agree, only a lookup can show a difference, and only in a user name
and a secret. -/
theorem Agree.replyFrom_cases (h : Agree exposed l l') (request : Request) :
    request.replyFrom l.records = request.replyFrom l'.records ∨
      ∃ address id c c', request = .get address ∧ identify address = .ok id ∧ exposed id ∧
        request.replyFrom l.records = .record c ∧
        request.replyFrom l'.records = .record c' ∧
        c.serverUrl = c'.serverUrl := by
  cases request with
  | get address =>
    cases hid : identify address with
    | error fault =>
      left
      simp only [Request.replyFrom, Request.shown, hid]
    | ok id =>
      have hshown (records : Table Credential) : (Request.get address).replyFrom records =
          .record ((records.get? id).getD (Credential.none id)) := by
        simp only [Request.replyFrom, Request.shown, hid]
      rw [hshown, hshown]
      rcases h.cases id with heq | ⟨hexposed, c, c', hc, hc', hsame⟩
      · exact .inl (by rw [heq])
      · exact .inr ⟨address, id, c, c', rfl, hid,
          hexposed, by rw [hc]; rfl, by rw [hc']; rfl, hsame⟩
  | store c => exact .inl rfl
  | erase serverUrl => exact .inl rfl
  | list => exact .inl rfl

/-- Steps that differ in secrets are answered alike by stores that agree, unless they are
a lookup of a registry for which these may hold different credentials. -/
theorem Agree.reply_cases {step step' : Step} (h : Agree exposed l l')
    (hstep : step.SameButSecrets step') :
    (step.take l).1 = (step'.take l').1 ∨
      ∃ octets address id c c', step = .request octets ∧
        Request.decode octets = .ok (.get address) ∧
        identify address = .ok id ∧ exposed id ∧ (step.take l).1 = some (.record c) ∧
        (step'.take l').1 = some (.record c') ∧ c.serverUrl = c'.serverUrl := by
  cases hstep with
  | store hread hread' haddress =>
    left
    simp only [reply_take, hread, hread', ← h.failure, Request.replyFrom,
      Request.refusal, haddress]
  | same step =>
    cases step with
    | insert c => exact .inl rfl
    | fail failure => exact .inl rfl
    | request octets =>
      simp only [reply_take, ← h.failure]
      cases hread : Request.decode octets with
      | error fault => exact .inl rfl
      | ok request =>
        cases l.failure with
        | some message => exact .inl rfl
        | none =>
          rcases h.replyFrom_cases request with heq |
            ⟨address, id, c, c', rfl, hid, hexposed, hc, hc', hsame⟩
          · exact .inl (congrArg some heq)
          · exact .inr ⟨octets, address, id, c, c', rfl, hread, hid, hexposed,
              congrArg some hc, congrArg some hc', hsame⟩

/-! ## Runs -/

/-- Whether two runs store different credentials for the registry of an identifier
somewhere. -/
def Exposed (steps steps' : List Step) (id : String) : Prop :=
  ∃ pair ∈ steps.zip steps', Step.DifferAt id pair.1 pair.2

theorem Agree.run {steps steps' : List Step}
    (hsteps : List.Forall₂ Step.SameButSecrets steps steps') (h : Agree exposed l l') :
    Agree (fun id => exposed id ∨ Exposed steps steps' id) (run steps l).2
    (run steps' l').2 := by
  -- by induction on the steps; each adds the registry that it exposes to those before
  induction hsteps generalizing l l' exposed with
  | nil => exact h.weaken fun id hid => .inl hid
  | @cons step step' steps steps' hstep _ ih =>
    refine (ih (h.take hstep)).weaken ?_
    rintro id ((hid | hid) | ⟨pair, hpair, hid⟩)
    · exact .inl hid
    · exact .inr ⟨(step, step'), List.mem_cons_self, hid⟩
    · exact .inr ⟨pair, List.mem_cons_of_mem _ hpair, hid⟩

theorem agree_run {steps steps' : List Step}
    (h : List.Forall₂ Step.SameButSecrets steps steps') (l : Ledger) :
    Agree (Exposed steps steps') (run steps l).2 (run steps' l).2 :=
  ((Agree.refl (fun _ => False) l).run h).weaken fun _ hid => hid.resolve_left id

/-- Each step of a run is answered from what the steps before it leave. -/
theorem getElem?_run_eq (steps : List Step) (l : Ledger) (i : Nat) :
    (run steps l).1[i]? = steps[i]?.map fun step =>
    (step.take (run (steps.take i) l).2).1 := by
  induction steps generalizing l i with
  | nil => rfl
  | cons step steps ih =>
    cases i with
    | zero => rfl
    | succ i => exact ih (step.take l).2 i

/-- In two runs that differ at most in the user names and secrets of stores, the store is
called in the same way. Each request is answered alike in both, unless it is a lookup of a
registry for which different credentials were stored before it: then the two records that
are shown have one address. -/
theorem calls_eq_and_reply_eq_of_sameButSecrets (l : Ledger) {steps steps' : List Step}
    (h : List.Forall₂ Step.SameButSecrets steps steps') :
    (run steps l).2.calls = (run steps' l).2.calls ∧
      ∀ i, (run steps l).1[i]? = (run steps' l).1[i]? ∨
        ∃ octets address id c c', steps[i]? = some (.request octets) ∧
          Request.decode octets = .ok (.get address) ∧ identify address = .ok id ∧
          Exposed (steps.take i) (steps'.take i) id ∧
          (run steps l).1[i]? = some (some (.record c)) ∧
          (run steps' l).1[i]? = some (some (.record c')) ∧
          c.serverUrl = c'.serverUrl := by
  refine ⟨(agree_run h l).calls, fun i => ?_⟩
  rw [getElem?_run_eq, getElem?_run_eq]
  by_cases hi : i < steps.length
  · have hi' : i < steps'.length := h.length_eq ▸ hi
    have hstep : Step.SameButSecrets steps[i] steps'[i] := h.get hi hi'
    have hagree := agree_run (List.forall₂_take i h) l
    rw [List.getElem?_eq_getElem hi, List.getElem?_eq_getElem hi', Option.map_some,
      Option.map_some]
    rcases hagree.reply_cases hstep with heq |
      ⟨octets, address, id, c, c', hoctets, hshown⟩
    · exact .inl (congrArg some heq)
    · obtain ⟨hread, hid, hexposed, hc, hc', hsame⟩ := hshown
      exact .inr ⟨octets, address, id, c, c', congrArg some hoctets, hread, hid, hexposed,
        congrArg some hc, congrArg some hc', hsame⟩
  · have hi' : ¬i < steps'.length := h.length_eq ▸ hi
    left
    rw [List.getElem?_eq_none (Nat.le_of_not_lt hi),
      List.getElem?_eq_none (Nat.le_of_not_lt hi')]
    rfl

/-- A different secret is stored in each of two runs, and then removed while nothing fails
and again while the store fails: the calls are the same, and so are the replies to the
removals. -/
theorem calls_eq_and_reply_eq_of_two_secrets :
    let p := (Request.store ⟨"https://GHCR.io/v2/", "octo", "s3cret"⟩).encode
    let p' := (Request.store ⟨"https://GHCR.io/v2/", "cat", "m30w"⟩).encode
    let q := (Request.erase "ghcr.io").encode
    let steps : List Step :=
      [.request p, .request q, .fail (some "keychain locked"), .request q]
    let steps' : List Step :=
      [.request p', .request q, .fail (some "keychain locked"), .request q]
    List.Forall₂ Step.SameButSecrets steps steps' ∧ Exposed steps steps' "ghcr.io:443" ∧
      (run steps Ledger.empty).2.calls = (run steps' Ledger.empty).2.calls ∧
      (run steps Ledger.empty).1[1]? = (run steps' Ledger.empty).1[1]? ∧
      (run steps Ledger.empty).1[3]? = (run steps' Ledger.empty).1[3]? := by
  intro p p' q steps steps'
  have hp : Request.decode p = .ok (.store ⟨"https://GHCR.io/v2/", "octo", "s3cret"⟩) :=
    Request.decode_encode_of_isWhole
      (r := .store ⟨"https://GHCR.io/v2/", "octo", "s3cret"⟩) (by decide)
  have hp' : Request.decode p' = .ok (.store ⟨"https://GHCR.io/v2/", "cat", "m30w"⟩) :=
    Request.decode_encode_of_isWhole (r := .store ⟨"https://GHCR.io/v2/", "cat", "m30w"⟩)
      (by decide)
  have hq : Request.decode q = .ok (.erase "ghcr.io") :=
    Request.decode_encode_of_isWhole (r := .erase "ghcr.io") (by decide)
  have hid : identify "https://GHCR.io/v2/" = .ok "ghcr.io:443" :=
    identify_eq_ok (by decide +kernel)
  have hsteps : List.Forall₂ Step.SameButSecrets steps steps' :=
    .cons (.store hp hp' rfl) (.cons (.same _) (.cons (.same _) (.cons (.same _) .nil)))
  have hexposed : Exposed steps steps' "ghcr.io:443" :=
    ⟨(.request p, .request p'), List.mem_cons_self, p, p', _, _, rfl, rfl, hp,
      hp', by decide, hid⟩
  obtain ⟨hcalls, hreplies⟩ := calls_eq_and_reply_eq_of_sameButSecrets Ledger.empty hsteps
  have hsame : ∀ i : Nat, steps[i]? = some (Step.request q) →
      (run steps Ledger.empty).1[i]? = (run steps' Ledger.empty).1[i]? := by
    intro i hi
    rcases hreplies i with heq | ⟨octets, address, id, c, c', hoctets, hread, -⟩
    · exact heq
    · rw [hi] at hoctets
      cases hoctets
      rw [hq] at hread
      cases hread
  exact ⟨hsteps, hexposed, hcalls, hsame 1 rfl, hsame 3 rfl⟩

end CredRelay.Relay
