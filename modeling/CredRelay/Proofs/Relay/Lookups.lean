import CredRelay.Proofs.Helper.Choice
import CredRelay.Proofs.Helper.Inline
import CredRelay.Proofs.Wire.RequestRoundTrip
import CredRelay.Relay.Answer
/-! What a lookup at a relay over the helpers of a machine is answered: always with a
record. A credential in it was either handed out by the helper that was chosen, in a run
that ended with code zero, or it is written down in the configuration and no helper was
chosen. Where neither holds the record is empty. -/
namespace CredRelay

open Text Host Helper

/-! ## Credentials that are written down -/

namespace Helper

theorem ne_empty_of_decodeAuth?_eq_some {s username secret : String}
    (h : decodeAuth? s = some (username, secret)) : username ≠ "" ∧ secret ≠ "" := by
  obtain ⟨text, -, hpair⟩ := decodeAuth?_eq_some_iff_exists.mp h
  obtain ⟨-, -, hne⟩ := namedSecret?_eq_some_iff.mp hpair
  exact hne

/-- A credential of an entry has both its parts. -/
theorem InlineEntry.ne_empty_of_credential?_eq_some {entry : InlineEntry}
    {username secret : String} (h : entry.credential? = some (username, secret)) :
    username ≠ "" ∧ secret ≠ "" := by
  cases credential?_eq_some_iff.mp h with
  | apart hapart =>
    obtain ⟨-, -, hne⟩ := hapart
    exact hne
  | encoded hnot hauth hdecode => exact ne_empty_of_decodeAuth?_eq_some hdecode

theorem Config.ne_empty_of_inlineCredential?_eq_some {config : Config}
    {keys : List String} {username secret : String}
    (h : config.inlineCredential? keys = some (username, secret)) :
    username ≠ "" ∧ secret ≠ "" := by
  obtain ⟨entry, -, hentry⟩ := Option.bind_eq_some_iff.mp h
  exact InlineEntry.ne_empty_of_credential?_eq_some hentry

/-! ## Runs that hand out a credential -/

/-- Whether a run ended with code zero and wrote a record that holds a credential, with
nothing but blanks around it. -/
def HandsOut (run : Run) (c : Credential) : Prop :=
  ∃ output errors, run = .ended (some 0) output errors ∧
    Wire.recordOfText? (trim (String.ofList (ofUtf8Lenient output.toList))) = some c ∧
    c.isEmpty = false

theorem readFound_eq_found_iff {o : Output} {c : Credential} :
    readFound o = .ok (.found c) ↔
      Wire.recordOfText? (trim o.written) = some c ∧ c.isEmpty = false := by
  rw [readFound]
  cases hrecord : Wire.recordOfText? (trim o.written) with
  | none => simp
  | some other =>
    by_cases hempty : other.isEmpty = true
    · simp only [hempty, if_true, Option.some.injEq]
      constructor
      · intro h
        cases h
      · rintro ⟨rfl, h⟩
        rw [hempty] at h
        cases h
    · simp only [if_neg hempty, Except.ok.injEq, Outcome.found.injEq, Option.some.injEq]
      constructor
      · rintro rfl
        exact ⟨rfl, by simpa using hempty⟩
      · exact fun h => h.1

theorem answerOfRun_get_eq_found_iff {path : String} {seconds : Nat} {run : Run}
    {c : Credential} :
    answerOfRun path seconds .get run = .ok (.found c) ↔ HandsOut run c := by
  cases run with
  | refused reason => simp [answerOfRun, outputOfRun, HandsOut]
  | unended => simp [answerOfRun, outputOfRun, HandsOut]
  | ended code output errors =>
    show outcomeOf readFound (Output.ofStreams code output errors) = _ ↔ _
    rw [outcomeOf]
    by_cases hcode : code = some 0
    · subst hcode
      have hsuccess : (Output.ofStreams (some 0) output errors).success = true := rfl
      rw [if_pos hsuccess, readFound_eq_found_iff]
      simp [HandsOut, Output.ofStreams]
    · have hfailed : (Output.ofStreams code output errors).success = false := by
        simp [Output.success, Output.ofStreams, hcode]
      simp only [hfailed, Bool.false_eq_true, if_false, HandsOut, Run.ended.injEq, hcode,
        false_and, exists_const, iff_false]
      split <;> simp

end Helper

/-! ## Lookups -/

namespace Native

variable {σ : Type} (setup : Setup) (machine : Machine σ) (s : σ) (r : Registry)

/-- The run of a chosen helper that is asked for the credential of a registry. -/
def lookupRun (chosen : Chosen) : Run :=
  (machine.run chosen.path .get (utf8 r.identifier) s).1

/-- Where a credential that is found for a registry comes from: the chosen helper handed
it out, or it is written down for the registry and no helper was chosen. -/
inductive Source : Credential → Prop
  | helper {chosen : Chosen} {c : Credential}
      (hchosen : setup.choose machine r.lookupKeys s = .ok chosen)
      (hrun : HandsOut (lookupRun machine s r chosen) c) : Source c
  | written {failure : Failure} {username secret : String}
      (hnone : setup.choose machine r.lookupKeys s = .error failure)
      (hwritten : (setup.config machine s).inlineCredential? r.lookupKeys =
        some (username, secret)) :
      Source ⟨r.identifier, username, secret⟩

variable {setup machine s r}

/-- What is found holds a credential. -/
theorem Source.isEmpty_eq_false {c : Credential} (h : Source setup machine s r c) :
    c.isEmpty = false := by
  cases h with
  | helper _ hrun =>
    obtain ⟨_, _, -, -, hc⟩ := hrun
    exact hc
  | written _ hwritten =>
    obtain ⟨hname, -⟩ := Config.ne_empty_of_inlineCredential?_eq_some hwritten
    simp [Credential.isEmpty, hname]

/-- A credential is found exactly where it has a source. -/
theorem get_eq_found_iff {c : Credential} :
    (get setup machine r s).1 = .ok (.found c) ↔ Source setup machine s r c := by
  rw [get]
  cases hchoose : setup.choose machine r.lookupKeys s with
  | ok chosen =>
    show answerOfRun chosen.path setup.seconds .get (lookupRun machine s r chosen) = _ ↔ _
    rw [answerOfRun_get_eq_found_iff]
    constructor
    · exact fun hrun => .helper hchoose hrun
    · intro h
      cases h with
      | helper hchosen hrun =>
        rw [hchoose] at hchosen
        cases hchosen
        exact hrun
      | written hnone =>
        rw [hchoose] at hnone
        cases hnone
  | error failure =>
    have hresolution : failure.isResolution = true :=
      isResolution_of_choose_eq_error hchoose
    simp only [hresolution, if_true, inlineAnswer]
    constructor
    · intro h
      split at h
      · next username secret hwritten =>
        cases h
        exact .written hchoose hwritten
      · cases h
    · intro h
      cases h with
      | helper hchosen =>
        rw [hchoose] at hchosen
        cases hchosen
      | written _ hwritten => simp only [hwritten]

theorem Source.unique {c other : Credential} (h : Source setup machine s r c)
    (h' : Source setup machine s r other) : c = other := by
  have hsame := (get_eq_found_iff.mpr h).symm.trans (get_eq_found_iff.mpr h')
  simpa using hsame

end Native

namespace Relay

variable {σ : Type} (setup : Native.Setup) (machine : Machine σ) (s : σ)

/-- A lookup is answered with the record that was found, and with an empty one
otherwise. -/
theorem reply_get_of_ne_found {serverUrl : String} {answer : Answer}
    (h : ∀ c, answer ≠ .ok (.found c)) :
    reply .get serverUrl answer = .record (Credential.none serverUrl) := by
  rcases answer with failure | outcome
  · rfl
  · cases outcome with
    | found c => exact absurd rfl (h c)
    | notFound | completed | listed => rfl

/-- A lookup is always answered with a record. Where the address is no registry it is the
empty one for that address. Otherwise it holds a credential that was handed out by the
chosen helper, in a run that ended with code zero, or that is written down where no helper
was chosen; and if there is no such credential, it is the empty one for the identifier. -/
theorem reply_get_eq_record_of_source {octets : ByteArray} {address : String}
    (h : Request.decode octets = .ok (.get address)) :
    (∀ failure, Registry.ofString address = .error failure →
      (answerOctets (Native.store setup machine) octets s).1 =
        .record (Credential.none address)) ∧
    ∀ r, Registry.ofString address = .ok r →
      ∃ c, (answerOctets (Native.store setup machine) octets s).1 = .record c ∧
        ((c.isEmpty = false ∧ Native.Source setup machine s r c) ∨
          (c = Credential.none r.identifier ∧
            ∀ other, ¬Native.Source setup machine s r other)) := by
  have hanswer : (answerOctets (Native.store setup machine) octets s).1 =
      (answerAbout .get address (Native.get setup machine) s).1 := by
    rw [answerOctets, h]
    rfl
  rw [hanswer, answerAbout]
  constructor
  · intro failure hr
    rw [hr]
    rfl
  · intro r hr
    rw [hr]
    show ∃ c, reply .get r.identifier (Native.get setup machine r s).1 = .record c ∧ _
    by_cases hfound : ∃ c, (Native.get setup machine r s).1 = .ok (.found c)
    · obtain ⟨c, hc⟩ := hfound
      have hsource := Native.get_eq_found_iff.mp hc
      rw [hc]
      exact ⟨c, rfl, .inl ⟨hsource.isEmpty_eq_false, hsource⟩⟩
    · have hnone : ∀ c, (Native.get setup machine r s).1 ≠ .ok (.found c) :=
        fun c hc => hfound ⟨c, hc⟩
      refine ⟨_, reply_get_of_ne_found hnone, .inr ⟨rfl, fun other hother => ?_⟩⟩
      exact hnone other (Native.get_eq_found_iff.mpr hother)

/-- The code that a helper ends with which knows one registry and is killed when asked for
another. -/
def fragileCode (input : ByteArray) : Option Nat :=
  if input.toList = (utf8 "ghcr.io:443").toList then some 0 else none

/-- A machine whose only helper writes the same credential before it ends, whatever it is
asked. -/
def fragile : Machine Unit where
  readText _ _ := .text "\x7b\"credsStore\":\"c\"\x7d"
  isProgram _ path := path == "/h/docker-credential-c"
  run _ _ input s :=
    (.ended (fragileCode input)
      (utf8 (" " ++ Wire.recordText ⟨"ghcr.io", "octo", ""⟩ ++ "\n"))
      ByteArray.empty, s)

/-- What that helper writes is the answer for the registry that it knows, and for no
other. -/
theorem reply_get_of_fragile :
    let setup : Native.Setup := ⟨"/root/config.json", ⟨["/h"], [], []⟩, 30⟩
    let reply := fun address =>
      (answerOctets (Native.store setup fragile) (Request.get address).encode ()).1
    reply "https://GHCR.io/v2/" = .record ⟨"ghcr.io", "octo", ""⟩ ∧
      reply "quay.io" = .record (Credential.none "quay.io:443") := by
  intro setup reply
  let ghcr : Registry := ⟨.https, "ghcr.io", 443, "/v2/", none⟩
  let quay : Registry := ⟨.https, "quay.io", 443, "", none⟩
  let chosen : Chosen := ⟨"docker-credential-c", "/h/docker-credential-c", .globalDefault⟩
  constructor
  · have hr : Registry.ofString "https://GHCR.io/v2/" = .ok ghcr :=
      eq_ok_of_toOption (by decide +kernel)
    have hchosen : setup.choose fragile ghcr.lookupKeys () = .ok chosen :=
      eq_ok_of_toOption (by decide +kernel)
    have hcode : fragileCode (utf8 ghcr.identifier) = some 0 := by decide +kernel
    have hrun :
        HandsOut (Native.lookupRun fragile () ghcr chosen) ⟨"ghcr.io", "octo", ""⟩ :=
      ⟨_, _, congrArg (Run.ended · _ _) hcode, by decide +kernel, by decide⟩
    obtain ⟨c, hreply, ⟨-, hc⟩ | ⟨-, hnone⟩⟩ :=
      (reply_get_eq_record_of_source setup fragile ()
      (Request.decode_encode_of_isWhole (r := .get "https://GHCR.io/v2/") (by decide))).2
        ghcr hr
    · rw [hc.unique (.helper hchosen hrun)] at hreply
      exact hreply
    · exact absurd (.helper hchosen hrun) (hnone _)
  · have hr : Registry.ofString "quay.io" = .ok quay :=
      eq_ok_of_toOption (by decide +kernel)
    have hchosen : (setup.choose fragile quay.lookupKeys ()).toOption.isSome = true := by
      decide +kernel
    have hcode : fragileCode (utf8 quay.identifier) ≠ some 0 := by decide +kernel
    obtain ⟨c, hreply, ⟨-, hc⟩ | ⟨rfl, -⟩⟩ :=
      (reply_get_eq_record_of_source setup fragile ()
      (Request.decode_encode_of_isWhole (r := .get "quay.io") (by decide))).2 quay hr
    · cases hc with
      | helper _ hrun =>
        obtain ⟨output, errors, hrun, -⟩ := hrun
        exact absurd (Run.ended.inj hrun).1 hcode
      | written hnone =>
        rw [hnone] at hchosen
        cases hchosen
    · exact hreply

end Relay

end CredRelay
