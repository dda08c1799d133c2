import CredRelay.Proofs.Relay.Changes
import CredRelay.Proofs.Wire.RequestRoundTrip
/-! Runs of a relay over a store in memory: octets arrive one after another, and in
between records are filed from outside and failures are set. While nothing fails, the
records are those that the changes in the run leave, so that a lookup shows what the last
change of its registry left. -/
namespace CredRelay.Relay

open Memory

/-- A step of a run: octets arrive, a record is filed from outside, or a failure is set or
lifted. -/
inductive Step where
  | request (octets : ByteArray)
  | insert (c : Credential)
  | fail (failure : Option String)

namespace Step

/-- What a step is answered, if it is a request, and what it leaves behind. -/
def take (step : Step) (l : Ledger) : Option Reply × Ledger :=
  match step with
  | .request octets =>
    let (reply, l) := answerOctets Memory.store octets l
    (some reply, l)
  | .insert c => (none, l.insert c)
  | .fail failure => (none, l.failWith failure)

/-- Whether a step sets or lifts a failure. -/
def isFailure : Step → Bool
  | .fail _ => true
  | .request _ | .insert _ => false

/-- The change that a step makes while nothing fails. -/
def change? : Step → Option Change
  | .request octets =>
    match Request.decode octets with
    | .ok r => r.change?
    | .error _ => none
  | .insert c => some (.file c)
  | .fail _ => none

/-- Whether a step changes what is filed under an identifier. -/
def changes (id : String) (step : Step) : Bool :=
  step.change?.any fun change => change.id == id

end Step

/-- The replies to the steps of a run, and what the run leaves behind. -/
def run : List Step → Ledger → List (Option Reply) × Ledger
  | [], l => ([], l)
  | step :: steps, l =>
    let (reply, l) := step.take l
    let (replies, l) := run steps l
    (reply :: replies, l)

theorem run_append (steps more : List Step) (l : Ledger) :
    run (steps ++ more) l =
      ((run steps l).1 ++ (run more (run steps l).2).1,
        (run more (run steps l).2).2) := by
  induction steps generalizing l with
  | nil => rfl
  | cons step steps ih =>
    simp only [List.cons_append, run]
    rw [ih]

theorem length_run (steps : List Step) (l : Ledger) :
    (run steps l).1.length = steps.length := by
  induction steps generalizing l with
  | nil => rfl
  | cons step steps ih => exact congrArg (· + 1) (ih _)

/-- A step is answered from what the steps before it leave, whatever comes after it. -/
theorem getElem?_run (before after : List Step) (step : Step) (l : Ledger) :
    (run (before ++ step :: after) l).1[before.length]? =
      some (step.take (run before l).2).1 := by
  rw [run_append, ← length_run before l, List.getElem?_append_right (Nat.le_refl _),
    Nat.sub_self]
  rfl

/-! ## Records along a run -/

section

variable {l : Ledger} {steps : List Step}

/-- A step that is no failure makes its change and nothing else. -/
theorem take_of_none (h : l.failure = none) {step : Step}
    (hstep : step.isFailure = false) :
    (step.take l).2.records = changed step.change? l.records ∧
      (step.take l).2.failure = none := by
  cases step with
  | request octets =>
    rw [Step.take, answerOctets, Step.change?]
    cases hr : Request.decode octets with
    | error fault => exact ⟨rfl, h⟩
    | ok request => exact (answered h request).2
  | insert c => exact ⟨rfl, h⟩
  | fail failure => cases hstep

theorem run_of_none (h : l.failure = none)
    (hsteps : ∀ step ∈ steps, step.isFailure = false) :
    (run steps l).2.records = Change.applyAll (steps.filterMap Step.change?) l.records ∧
      (run steps l).2.failure = none := by
  induction steps generalizing l with
  | nil => exact ⟨rfl, h⟩
  | cons step steps ih =>
    obtain ⟨hstep, hrest⟩ := List.forall_mem_cons.mp hsteps
    obtain ⟨hrecords, hfailure⟩ := take_of_none h hstep
    obtain ⟨hrun, hnone⟩ := ih hfailure hrest
    refine ⟨?_, hnone⟩
    show (run steps (step.take l).2).2.records = _
    rw [hrun, hrecords, changed]
    cases hc : step.change? with
    | none => rw [List.filterMap_cons_none hc]; rfl
    | some change => rw [List.filterMap_cons_some hc]; rfl

theorem filed_run (h : l.failure = none) (hsteps : ∀ step ∈ steps, step.isFailure = false)
    (hfiled : Filed l.records) : Filed (run steps l).2.records := by
  rw [(run_of_none h hsteps).1]
  exact filed_applyAll hfiled _

end

/-! ## Lookups -/

/-- The last change of what is filed under an identifier, where a record that is held at
the start counts as filed before the first step. -/
def latest? (records : Table Credential) (id : String) (steps : List Step) :
    Option Change :=
  (Change.last? id (steps.filterMap Step.change?)).or ((records.get? id).map .file)

/-- The record that is shown for an identifier after its last change. -/
def shownAfter (id : String) : Option Change → Credential
  | some (.file c) => ⟨id, c.username, c.secret⟩
  | some (.remove _) | none => Credential.none id

theorem get?_run {l : Ledger} {steps : List Step} (h : l.failure = none)
    (hsteps : ∀ step ∈ steps, step.isFailure = false) (id : String) :
    (run steps l).2.records.get? id =
    (latest? l.records id steps).bind Change.record? := by
  rw [(run_of_none h hsteps).1, Change.get?_applyAll, latest?]
  cases Change.last? id (steps.filterMap Step.change?) with
  | some change => rfl
  | none => cases l.records.get? id <;> rfl

/-- A lookup shows what the last change left, since every record is filed under its own
address. -/
theorem shown_run {l : Ledger} {steps : List Step} (h : l.failure = none)
    (hsteps : ∀ step ∈ steps, step.isFailure = false) (hfiled : Filed l.records)
    {address id : String} (hid : identify address = .ok id) :
    Request.shown (run steps l).2.records address =
      shownAfter id (latest? l.records id steps) := by
  have hget := get?_run h hsteps id
  simp only [Request.shown, hid]
  cases hlast : latest? l.records id steps with
  | none =>
    rw [hget, hlast]
    rfl
  | some change =>
    cases change with
    | file c =>
      have hc : (run steps l).2.records.get? id = some c := by rw [hget, hlast]; rfl
      -- the record itself is shown, and it carries the identifier since it is filed
      -- under it
      have hurl : c.serverUrl = id := filed_run h hsteps hfiled id c hc
      rw [hc, shownAfter, ← hurl]
      rfl
    | remove key =>
      rw [hget, hlast]
      rfl

/-- Only the steps that change an identifier count for its last change. -/
theorem latest?_filter (records : Table Credential) (id : String) (steps : List Step) :
    latest? records id (steps.filter (Step.changes id)) = latest? records id steps := by
  have hsame : (steps.filter (Step.changes id)).filterMap Step.change? =
      (steps.filterMap Step.change?).filter fun change => change.id == id := by
    rw [List.filterMap_filter, List.filter_filterMap]
    congr 1
    funext step
    rw [Step.changes]
    cases step.change? with
    | none => rfl
    | some change => rfl
  rw [latest?, hsame, Change.last?, List.filter_filter]
  simp only [Bool.and_self]
  rfl

theorem take_get {l : Ledger} (h : l.failure = none) {octets : ByteArray}
    {address : String} (hget : Request.decode octets = .ok (.get address)) :
    (Step.take (.request octets) l).1 =
      some (.record (Request.shown l.records address)) := by
  rw [Step.take, answerOctets, hget]
  exact congrArg some (answered h (.get address)).1

/-- Where the store does not fail and holds each record under its own address, a lookup is
answered with what the last change of its registry left, whatever the spelling. All other
steps may be left out: octets that are no request, addresses that are no registry, lists
and requests about other registries. For an address that is no registry the record is
empty. -/
theorem reply_get_eq_shownAfter_latest (l : Ledger) (hnone : l.failure = none)
    (hfiled : Filed l.records) (before after : List Step)
    (hbefore : ∀ step ∈ before, step.isFailure = false) (octets : ByteArray)
    (address : String) (hget : Request.decode octets = .ok (.get address)) :
    (∀ id, identify address = .ok id →
      (run (before ++ .request octets :: after) l).1[before.length]? =
          some (some (.record (shownAfter id (latest? l.records id before)))) ∧
        (run (before.filter (Step.changes id) ++ [.request octets]) l).1.getLast? =
          (run (before ++ .request octets :: after) l).1[before.length]?) ∧
      ∀ failure, identify address = .error failure →
        (run (before ++ .request octets :: after) l).1[before.length]? =
          some (some (.record (Credential.none address))) := by
  have hreply : ∀ steps : List Step, (∀ step ∈ steps, step.isFailure = false) →
      (Step.take (.request octets) (run steps l).2).1 =
        some (.record (Request.shown (run steps l).2.records address)) :=
    fun steps hsteps => take_get (run_of_none hnone hsteps).2 hget
  constructor
  · intro id hid
    have hrelevant : ∀ step ∈ before.filter (Step.changes id), step.isFailure = false :=
      fun step hstep => hbefore step (List.mem_filter.mp hstep).1
    have hlast :
        (run (before.filter (Step.changes id) ++ [.request octets]) l).1.getLast? =
        some (Step.take (.request octets)
          (run (before.filter (Step.changes id)) l).2).1 := by
      rw [run_append]
      exact List.getLast?_concat
    rw [getElem?_run, hreply before hbefore, shown_run hnone hbefore hfiled hid, hlast,
      hreply _ hrelevant, shown_run hnone hrelevant hfiled hid, latest?_filter]
    exact ⟨rfl, rfl⟩
  · intro failure hid
    rw [getElem?_run, hreply before hbefore]
    simp only [Request.shown, hid]

/-- A credential that is stored under one spelling is found under another, past octets
that are no request and the removal of another registry. -/
theorem reply_get_of_other_spelling :
    let octo : Credential := ⟨"https://GHCR.io/v2/", "octo", "s3cret"⟩
    let before : List Step := [.insert ⟨"ghcr.io:443", "old", "old"⟩,
      .request (Request.store octo).encode, .request (Text.utf8 "get"),
      .request (Request.erase "quay.io").encode]
    (run (before ++ [.request (Request.get "ghcr.io").encode])
      Ledger.empty).1[before.length]? =
      some (some (.record ⟨"ghcr.io:443", "octo", "s3cret"⟩)) := by
  intro octo before
  have hid : identify "ghcr.io" = .ok "ghcr.io:443" := identify_eq_ok (by decide +kernel)
  have hlatest : latest? Ledger.empty.records "ghcr.io:443" before =
      some (.file ⟨"ghcr.io:443", "octo", "s3cret"⟩) := by
    decide +kernel
  have hread : Request.decode (Request.get "ghcr.io").encode = .ok (.get "ghcr.io") :=
    Request.decode_encode_of_isWhole (r := .get "ghcr.io") (by decide)
  have hshown :=
    (reply_get_eq_shownAfter_latest Ledger.empty rfl (by intro id c hc; cases hc)
    before [] (by decide) _ _ hread).1 _ hid
  rw [hlatest] at hshown
  exact hshown.1

end CredRelay.Relay
