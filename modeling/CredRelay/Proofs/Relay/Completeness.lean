import CredRelay.Proofs.Relay.Lookups
/-! Which records that a relay over the helpers of a machine gives lack a part. A
credential that is written down is taken only with both its parts. What a helper hands out
is taken as soon as it has one: such a record, with a user name and no secret or the other
way round, is passed on as it is. -/
namespace CredRelay

open Text Host Helper

namespace Credential

/-- Whether a record has both a user name and a secret. -/
def IsComplete (c : Credential) : Prop :=
  c.username ≠ "" ∧ c.secret ≠ ""

/-- Whether a record has a user name or a secret, but not both. -/
def IsPartial (c : Credential) : Prop :=
  ¬(c.username = "" ↔ c.secret = "")

instance (c : Credential) : Decidable c.IsComplete :=
  inferInstanceAs (Decidable (_ ∧ _))

instance (c : Credential) : Decidable c.IsPartial :=
  inferInstanceAs (Decidable (¬(_ ↔ _)))

/-- A record is empty, complete or partial. -/
theorem isEmpty_eq_false_iff (c : Credential) :
    c.isEmpty = false ↔ c.IsComplete ∨ c.IsPartial := by
  by_cases husername : c.username = "" <;> by_cases hsecret : c.secret = "" <;>
    simp [isEmpty, IsComplete, IsPartial, husername, hsecret]

theorem IsPartial.not_isComplete {c : Credential} (h : c.IsPartial) : ¬c.IsComplete := by
  rintro ⟨husername, hsecret⟩
  exact h ⟨fun hu => absurd hu husername, fun hs => absurd hs hsecret⟩

theorem not_isPartial_none (serverUrl : String) :
    ¬(Credential.none serverUrl).IsPartial :=
  fun h => h Iff.rfl

end Credential

namespace Native

variable {σ : Type} {setup : Setup} {machine : Machine σ} {s : σ} {r : Registry}

/-- A partial record is found exactly where the chosen helper handed it out. -/
theorem source_iff_of_isPartial {c : Credential} (h : c.IsPartial) :
    Source setup machine s r c ↔
      ∃ chosen, setup.choose machine r.lookupKeys s = .ok chosen ∧
        HandsOut (lookupRun machine s r chosen) c := by
  constructor
  · intro hsource
    cases hsource with
    | helper hchosen hrun => exact ⟨_, hchosen, hrun⟩
    | written _ hwritten =>
      exact absurd (Config.ne_empty_of_inlineCredential?_eq_some hwritten)
        h.not_isComplete
  · rintro ⟨chosen, hchosen, hrun⟩
    exact .helper hchosen hrun

/-- What is found is complete and has a source, or it is partial and a helper handed
it out. -/
theorem get_eq_found_iff_isComplete_or_isPartial {c : Credential} :
    (get setup machine r s).1 = .ok (.found c) ↔
      c.IsComplete ∧ Source setup machine s r c ∨
        c.IsPartial ∧ ∃ chosen, setup.choose machine r.lookupKeys s = .ok chosen ∧
          HandsOut (lookupRun machine s r chosen) c := by
  rw [get_eq_found_iff]
  constructor
  · intro hsource
    rcases c.isEmpty_eq_false_iff.mp hsource.isEmpty_eq_false with hcomplete | hpartial
    · exact .inl ⟨hcomplete, hsource⟩
    · exact .inr ⟨hpartial, (source_iff_of_isPartial hpartial).mp hsource⟩
  · rintro (⟨-, hsource⟩ | ⟨hpartial, hhelper⟩)
    · exact hsource
    · exact (source_iff_of_isPartial hpartial).mpr hhelper

end Native

namespace Relay

variable {σ : Type} (setup : Native.Setup) (machine : Machine σ) (s : σ)

/-- A partial record is the reply to a lookup exactly where it was found. -/
theorem reply_get_eq_record_iff_of_isPartial {c : Credential} (h : c.IsPartial)
    (serverUrl : String) (answer : Answer) :
    reply .get serverUrl answer = .record c ↔ answer = .ok (.found c) := by
  constructor
  · intro hreply
    by_cases hfound : ∃ other, answer = .ok (.found other)
    · obtain ⟨other, rfl⟩ := hfound
      cases hreply
      rfl
    · rw [reply_get_of_ne_found fun other hother => hfound ⟨other, hother⟩] at hreply
      cases hreply
      exact absurd h (Credential.not_isPartial_none serverUrl)
  · rintro rfl
    rfl

/-- Where a lookup finds something, or answers with a record that is not empty, that is a
complete record with a source or a partial one that the chosen helper handed out, in a run
that ended with code zero. A credential that is written down is never found in part. -/
theorem found_and_record_iff_of_isPartial {octets : ByteArray} {address : String}
    {r : Registry} (h : Request.decode octets = .ok (.get address))
    (hr : Registry.ofString address = .ok r) :
    (∀ c, (Native.get setup machine r s).1 = .ok (.found c) ↔
      c.IsComplete ∧ Native.Source setup machine s r c ∨
        c.IsPartial ∧ ∃ chosen, setup.choose machine r.lookupKeys s = .ok chosen ∧
          HandsOut (Native.lookupRun machine s r chosen) c) ∧
    ∀ c, c.IsPartial →
      ((answerOctets (Native.store setup machine) octets s).1 = .record c ↔
        ∃ chosen, setup.choose machine r.lookupKeys s = .ok chosen ∧
          HandsOut (Native.lookupRun machine s r chosen) c) := by
  refine ⟨fun c => Native.get_eq_found_iff_isComplete_or_isPartial, fun c hpartial => ?_⟩
  have hanswer : (answerOctets (Native.store setup machine) octets s).1 =
      reply .get r.identifier (Native.get setup machine r s).1 := by
    rw [answerOctets, h]
    show (answerAbout .get address (Native.get setup machine) s).1 = _
    rw [answerAbout, hr]
  rw [hanswer, reply_get_eq_record_iff_of_isPartial hpartial, Native.get_eq_found_iff]
  exact Native.source_iff_of_isPartial hpartial

/-- A machine whose only helper writes a user name and leaves the secret out. -/
def forthcoming : Machine Unit where
  readText _ _ := .text "\x7b\"credsStore\":\"c\"\x7d"
  isProgram _ path := path == "/h/docker-credential-c"
  run _ _ _ s :=
    (.ended (some 0) (utf8 "\x7b\"ServerURL\":\"ghcr.io\",\"Username\":\"octo\"\x7d")
      ByteArray.empty, s)

/-- That user name is the reply to a lookup. -/
theorem record_of_forthcoming :
    let setup : Native.Setup := ⟨"/root/config.json", ⟨["/h"], [], []⟩, 30⟩
    (Native.get setup forthcoming ⟨.https, "ghcr.io", 443, "", none⟩ ()).1 =
        .ok (.found ⟨"ghcr.io", "octo", ""⟩) ∧
      (answerOctets (Native.store setup forthcoming)
          (Request.get "ghcr.io").encode ()).1 =
        .record ⟨"ghcr.io", "octo", ""⟩ := by
  intro setup
  let r : Registry := ⟨.https, "ghcr.io", 443, "", none⟩
  let chosen : Chosen := ⟨"docker-credential-c", "/h/docker-credential-c", .globalDefault⟩
  have hr : Registry.ofString "ghcr.io" = .ok r := eq_ok_of_toOption (by decide +kernel)
  have hchosen : setup.choose forthcoming r.lookupKeys () = .ok chosen :=
    eq_ok_of_toOption (by decide +kernel)
  have hpartial : Credential.IsPartial ⟨"ghcr.io", "octo", ""⟩ := by decide
  have hrun :
      HandsOut (Native.lookupRun forthcoming () r chosen) ⟨"ghcr.io", "octo", ""⟩ :=
    ⟨_, _, rfl, by decide +kernel, by decide⟩
  obtain ⟨hfound, hreply⟩ := found_and_record_iff_of_isPartial setup forthcoming ()
    (Request.decode_encode_of_isWhole (r := .get "ghcr.io") (by decide)) hr
  exact ⟨(hfound _).mpr (.inr ⟨hpartial, chosen, hchosen, hrun⟩),
    (hreply _ hpartial).mpr ⟨chosen, hchosen, hrun⟩⟩

end Relay

end CredRelay
