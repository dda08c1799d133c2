import CredRelay.Proofs.Relay.Lookups
import CredRelay.Proofs.Wire.RecordRoundTrip
/-! Which programs the store over the helpers of a machine starts. What is asked about one
registry starts the helper that is chosen for it and nothing else, however the
configuration is read again each time; where none is chosen nothing is started. A list
starts the helper for all registries only. -/
namespace CredRelay

open Text Host Helper

/-! ## Programs that are started -/

namespace Host

/-- A start of a program: with a verb, and with octets on its standard input. -/
structure Start where
  path : String
  verb : Command
  input : ByteArray

/-- A machine that notes which programs it starts, in order. -/
def Machine.noting {σ : Type} (machine : Machine σ) : Machine (σ × List Start) where
  readText s path := machine.readText s.1 path
  isProgram s path := machine.isProgram s.1 path
  run path verb input s :=
    let (run, t) := machine.run path verb input s.1
    (run, t, s.2 ++ [⟨path, verb, input⟩])

end Host

namespace Native

/-- What a store can be asked. -/
inductive Operation where
  | get (r : Registry)
  | store (r : Registry) (c : Credential)
  | erase (r : Registry)
  | list

namespace Operation

/-- The registry that an operation is about, if it is about one. -/
def about? : Operation → Option Registry
  | .get r | .store r _ | .erase r => some r
  | .list => none

/-- The lookup keys that a helper is chosen by. -/
def keys (op : Operation) : List String :=
  op.about?.elim [] Registry.lookupKeys

/-- The verb that a helper is asked with. -/
def verb : Operation → Command
  | .get _ => .get
  | .store _ _ => .store
  | .erase _ => .erase
  | .list => .list

/-- What a helper gets on its standard input. -/
def input : Operation → String
  | .get r | .erase r => r.identifier
  | .store _ c => Wire.recordText c
  | .list => ""

/-- Asks a store. -/
def perform {σ : Type} (store : Store σ) : Operation → σ → Answer × σ
  | .get r, s => store.get r s
  | .store r c, s => store.store r c s
  | .erase r, s => store.erase r s
  | .list, s => store.list s

/-- The answer where no helper was chosen. -/
def withoutHelper (config : Config) (failure : Failure) : Operation → Answer
  | .get r => inlineAnswer config r failure
  | _ => .error failure

end Operation

variable {σ : Type} (setup : Setup) (machine : Machine σ) (op : Operation) (s t : σ)
  (r : Registry)

/-- The programs that an operation starts, in order. -/
def starts : List Start :=
  (op.perform (store setup machine.noting) (s, [])).2.2

theorem ask_eq (keys : List String) (verb : Command) (input : String) :
    setup.ask machine keys verb input s =
      match setup.choose machine keys s with
      | .ok chosen => call machine setup.seconds chosen verb input s
      | .error failure => (.error failure, s) := by
  rw [Setup.ask]
  cases setup.choose machine keys s <;> rfl

/-- Whatever is asked, one helper is chosen and called, or none is. -/
theorem perform_store :
    op.perform (store setup machine) s =
      match setup.choose machine op.keys s with
      | .ok chosen => call machine setup.seconds chosen op.verb op.input s
      | .error failure => (op.withoutHelper (setup.config machine s) failure, s) := by
  cases op with
  | get r =>
    show get setup machine r s = _
    rw [get]
    show _ = match setup.choose machine r.lookupKeys s with
      | .ok chosen => _
      | .error failure => _
    cases hchoose : setup.choose machine r.lookupKeys s with
    | ok chosen => rfl
    | error failure =>
      have hresolution : failure.isResolution = true :=
        isResolution_of_choose_eq_error hchoose
      simp only [hresolution, if_true]
      rfl
  | store r c => exact ask_eq setup machine s r.lookupKeys .store (Wire.recordText c)
  | erase r => exact ask_eq setup machine s r.lookupKeys .erase r.identifier
  | list => exact ask_eq setup machine s [] .list ""

theorem starts_eq :
    starts setup machine op s =
      match setup.choose machine op.keys s with
      | .ok chosen => [⟨chosen.path, op.verb, utf8 op.input⟩]
      | .error _ => [] := by
  rw [starts, perform_store]
  show (match setup.choose machine op.keys s with
    | .ok chosen => call machine.noting setup.seconds chosen op.verb op.input (s, [])
    | .error failure => _).2.2 = _
  cases setup.choose machine op.keys s <;> rfl

/-- Noting what is started changes neither the answer nor what is left behind. -/
theorem perform_store_noting (notes : List Start) :
    op.perform (store setup machine.noting) (s, notes) =
      ((op.perform (store setup machine) s).1, (op.perform (store setup machine) s).2,
        notes ++ starts setup machine op s) := by
  rw [starts_eq, perform_store, perform_store]
  show (match setup.choose machine op.keys s with
    | .ok chosen => call machine.noting setup.seconds chosen op.verb op.input (s, notes)
    | .error failure => (op.withoutHelper (setup.config machine s) failure, s, notes)) = _
  cases setup.choose machine op.keys s with
  | ok chosen => rfl
  | error failure =>
    simp only [List.append_nil]

/-! ## Files that stay -/

/-- Whether two states have the same files where a setup looks: the configuration, and the
programs in the directories. -/
structure SameFiles : Prop where
  config : machine.readText t setup.configPath = machine.readText s setup.configPath
  programs : ∀ directory ∈ setup.places.all, ∀ program,
    machine.isProgram t (Path.join directory program) =
      machine.isProgram s (Path.join directory program)

section

variable {setup machine s t}

theorem SameFiles.config_eq (h : SameFiles setup machine s t) :
    setup.config machine t = setup.config machine s := by
  rw [Setup.config, Setup.config, h.config]

theorem SameFiles.locate?_eq (h : SameFiles setup machine s t) (program : String) :
    setup.places.locate? (machine.isProgram t) program =
      setup.places.locate? (machine.isProgram s) program := by
  rw [Places.locate?, Places.locate?, ← List.head?_filter, ← List.head?_filter]
  apply congrArg List.head?
  apply List.filter_congr
  intro path hpath
  obtain ⟨directory, hdirectory, rfl⟩ := List.mem_map.mp hpath
  exact h.programs directory hdirectory program

theorem firstInstalled_congr {places : Places} {isProgram other : String → Bool}
    (h : ∀ program, places.locate? isProgram program = places.locate? other program)
    (candidates : List (String × Scope)) (missing : List String) :
    firstInstalled places isProgram missing candidates =
      firstInstalled places other missing candidates := by
  induction candidates generalizing missing with
  | nil => rfl
  | cons candidate rest ih =>
    obtain ⟨name, scope⟩ := candidate
    simp only [firstInstalled, h, ih]

/-- The choice is the same as long as the files are. -/
theorem SameFiles.choose_eq (h : SameFiles setup machine s t) (keys : List String) :
    setup.choose machine keys t = setup.choose machine keys s := by
  rw [Setup.choose, Setup.choose, Helper.choose, Helper.choose, h.config_eq]
  exact firstInstalled_congr h.locate?_eq _ _

end

/-! ## The helper for all registries -/

/-- The program of the helper that the configuration names for all registries, if it is
there. -/
def Setup.defaultPath? : Option String :=
  ((setup.config machine s).defaultHelper?.filter isValidName).bind fun name =>
    setup.places.locate? (machine.isProgram s) (programName name)

theorem choose_nil :
    (setup.choose machine [] s).toOption.map Chosen.path =
      setup.defaultPath? machine s := by
  have hcandidates : candidates (setup.config machine s) [] =
      ((setup.config machine s).defaultHelper?.map fun name =>
        (name, Scope.globalDefault)).toList :=
    rfl
  rw [Setup.choose, Helper.choose, hcandidates, Setup.defaultPath?]
  cases (setup.config machine s).defaultHelper? with
  | none => rfl
  | some name =>
    simp only [Option.map_some, Option.toList_some, firstInstalled]
    by_cases hvalid : isValidName name = true
    · rw [if_pos hvalid, Option.filter_some_pos hvalid, Option.bind_some]
      cases setup.places.locate? (machine.isProgram s) (programName name) <;> rfl
    · rw [if_neg hvalid, Option.filter_some_neg (Bool.not_eq_true _ ▸ hvalid)]
      rfl

theorem starts_list :
    starts setup machine .list s =
      ((setup.defaultPath? machine s).map fun path => ⟨path, .list, utf8 ""⟩).toList := by
  rw [starts_eq, ← choose_nil]
  show (match setup.choose machine [] s with
    | .ok chosen => [(⟨chosen.path, .list, utf8 ""⟩ : Start)]
    | .error _ => []) = _
  cases setup.choose machine [] s <;> rfl

/-! ## What is started and answered -/

section

variable {setup machine op s t r}

theorem keys_of_about?_eq_some (h : op.about? = some r) : op.keys = r.lookupKeys := by
  rw [Operation.keys, h]
  rfl

/-- An operation about a registry starts the helper that is chosen for it, and its answer
is what comes of that run. -/
theorem starts_and_answer_of_chosen (op : Operation) {chosen : Chosen}
    (h : setup.choose machine r.lookupKeys s = .ok chosen)
    (hfiles : SameFiles setup machine s t) (hop : op.about? = some r) :
    starts setup machine op t = [⟨chosen.path, op.verb, utf8 op.input⟩] ∧
      (op.perform (store setup machine) t).1 =
        answerOfRun chosen.path setup.seconds op.verb
        (machine.run chosen.path op.verb (utf8 op.input) t).1 := by
  have hchosen : setup.choose machine op.keys t = .ok chosen := by
    rw [keys_of_about?_eq_some hop, hfiles.choose_eq, h]
  rw [starts_eq, perform_store, hchosen]
  exact ⟨rfl, rfl⟩

theorem starts_and_answer_of_not_chosen (op : Operation) {failure : Failure}
    (h : setup.choose machine r.lookupKeys s = .error failure)
    (hfiles : SameFiles setup machine s t) (hop : op.about? = some r) :
    starts setup machine op t = [] ∧ (op.perform (store setup machine) t).1 =
      op.withoutHelper (setup.config machine s) failure := by
  have hfailure : setup.choose machine op.keys t = .error failure := by
    rw [keys_of_about?_eq_some hop, hfiles.choose_eq, h]
  rw [starts_eq, perform_store, hfailure, hfiles.config_eq]
  exact ⟨rfl, rfl⟩

end

/-- As long as the files stay, whatever is asked about a registry starts the one helper
that is chosen for it, with the verb and its operand, and a credential is found only if
that helper hands it out. Where no helper is chosen nothing is started: changes fail for
that reason, and a lookup finds what is written down. A list starts the helper for all
registries or nothing. -/
theorem starts_and_answers_of_sameFiles :
    (∀ chosen, setup.choose machine r.lookupKeys s = .ok chosen →
      ∀ t, SameFiles setup machine s t →
        starts setup machine (.get r) t = [⟨chosen.path, .get, utf8 r.identifier⟩] ∧
        (∀ c, starts setup machine (.store r c) t =
            [⟨chosen.path, .store, utf8 (Wire.recordText c)⟩] ∧
          Wire.recordOfText? (Wire.recordText c) = some c) ∧
        starts setup machine (.erase r) t = [⟨chosen.path, .erase, utf8 r.identifier⟩] ∧
        ((store setup machine).get r t).1 =
          answerOfRun chosen.path setup.seconds .get (lookupRun machine t r chosen) ∧
        ∀ c, ((store setup machine).get r t).1 = .ok (.found c) →
          HandsOut (lookupRun machine t r chosen) c) ∧
    (∀ failure, setup.choose machine r.lookupKeys s = .error failure →
      failure.isResolution = true ∧ ∀ t, SameFiles setup machine s t →
        (∀ op : Operation, op.about? = some r → starts setup machine op t = []) ∧
        (∀ c, ((store setup machine).store r c t).1 = .error failure) ∧
        ((store setup machine).erase r t).1 = .error failure ∧
        ((store setup machine).get r t).1 =
          match (setup.config machine s).inlineCredential? r.lookupKeys with
          | some (username, secret) => .ok (.found ⟨r.identifier, username, secret⟩)
          | none => .error failure) ∧
    ∀ t, starts setup machine .list t =
      ((setup.defaultPath? machine t).map fun path => ⟨path, .list, utf8 ""⟩).toList := by
  refine ⟨?chosen, ?missing, fun t => starts_list setup machine t⟩
  case chosen =>
    intro chosen hchosen t hfiles
    have hop : ∀ op : Operation, op.about? = some r → _ :=
      fun op => starts_and_answer_of_chosen op hchosen hfiles
    obtain ⟨hget, hanswer⟩ := hop (.get r) rfl
    refine ⟨hget, fun c => ⟨(hop (.store r c) rfl).1, Wire.recordOfText?_recordText c⟩,
      (hop (.erase r) rfl).1, hanswer, ?_⟩
    intro c hfound
    exact answerOfRun_get_eq_found_iff.mp (hanswer.symm.trans hfound)
  case missing =>
    intro failure hfailure
    refine ⟨isResolution_of_choose_eq_error hfailure, fun t hfiles => ?_⟩
    have hop : ∀ op : Operation, op.about? = some r → _ :=
      fun op => starts_and_answer_of_not_chosen op hfailure hfiles
    exact ⟨fun op h => (hop op h).1, fun c => (hop (.store r c) rfl).2,
      (hop (.erase r) rfl).2, (hop (.get r) rfl).2⟩

/-- A machine that counts its runs, with the helper of one registry and without that for
all others. Its helper knows no credential, and both registries have one that is written
down. -/
def counting : Machine Nat where
  readText _ _ := .text (
    "\x7b\"credsStore\":\"c\",\"credHelpers\":\x7b\"ghcr.io\":\"d\"\x7d,\"auths\":" ++
    "\x7b\"ghcr.io\":\x7b\"username\":\"u\",\"password\":\"p\"\x7d," ++
    "\"quay.io\":\x7b\"username\":\"u\",\"password\":\"p\"\x7d\x7d\x7d")
  isProgram _ path := path == "/h/docker-credential-d"
  run _ _ _ n := (.ended (some 1) ByteArray.empty (utf8 "credentials not found"), n + 1)

/-- What is written down is found for the registry without a helper only. -/
theorem starts_and_answers_of_counting :
    let setup : Setup := ⟨"/root/config.json", ⟨["/h"], [], []⟩, 30⟩
    let ghcr : Registry := ⟨.https, "ghcr.io", 443, "", none⟩
    let quay : Registry := ⟨.https, "quay.io", 443, "", none⟩
    starts setup counting (.erase ghcr) 1 =
      [⟨"/h/docker-credential-d", .erase, utf8 "ghcr.io:443"⟩] ∧
      ((store setup counting).get ghcr 1).1 = .ok .notFound ∧
      starts setup counting (.get quay) 1 = [] ∧
      ((store setup counting).get quay 1).1 = .ok (.found ⟨"quay.io:443", "u", "p"⟩) ∧
      starts setup counting .list 1 = [] := by
  intro setup ghcr quay
  let chosen : Chosen := ⟨"docker-credential-d", "/h/docker-credential-d", .perRegistry⟩
  let failure : Failure := .noHelper "docker-credential-c not found"
  have hfiles : SameFiles setup counting 0 1 := ⟨rfl, fun _ _ _ => rfl⟩
  let entry : InlineEntry := ⟨none, some "u", some "p"⟩
  have hconfig : setup.config counting 0 = ⟨some "c", Table.empty.insert "ghcr.io" "d",
      (Table.empty.insert "ghcr.io" entry).insert "quay.io" entry⟩ := by
    decide +kernel
  have hchosen : setup.choose counting ghcr.lookupKeys 0 = .ok chosen := by
    rw [Setup.choose, hconfig]
    exact eq_ok_of_toOption (by decide +kernel)
  have hmissing : setup.choose counting quay.lookupKeys 0 = .error failure := by
    rw [Setup.choose, hconfig]
    decide +kernel
  have hwritten : (setup.config counting 0).inlineCredential? quay.lookupKeys =
      some ("u", "p") := by
    rw [hconfig]
    decide +kernel
  have hdefault : setup.defaultPath? counting 1 = none := by
    rw [Setup.defaultPath?, hfiles.config_eq, hconfig]
    decide +kernel
  obtain ⟨hghcr, -, -⟩ := starts_and_answers_of_sameFiles setup counting 0 ghcr
  obtain ⟨-, hquay, hlist⟩ := starts_and_answers_of_sameFiles setup counting 0 quay
  obtain ⟨-, -, herase, hanswer, -⟩ := hghcr chosen hchosen 1 hfiles
  obtain ⟨-, hnone⟩ := hquay failure hmissing
  obtain ⟨hstarts, -, -, hfound⟩ := hnone 1 hfiles
  rw [hwritten] at hfound
  refine ⟨herase, hanswer.trans ?_, hstarts (.get quay) rfl, hfound, ?_⟩
  · exact eq_ok_of_toOption (by decide +kernel)
  · rw [hlist, hdefault]
    rfl

end Native

end CredRelay
