import CredRelay.Proofs.Host.Files
import CredRelay.Store.Native
/-! Which helper is chosen for a registry. Candidates come in order of preference, the
helper of its own before the one for all, and those without a safe name are left out; the
first one whose program is in some directory is chosen, from the first directory that has
it. Where there is none, the failure names the programs that were looked for. -/
namespace CredRelay

open Text Host

namespace Helper

/-! ## Candidates -/

section

variable {config : Config} {keys : List String} {name : String} {scope : Scope}

/-- Whether a configuration gives a helper to a registry with some lookup keys: it stands
under the first of the keys with an entry that is not empty. -/
def IsOwn (config : Config) (keys : List String) (name : String) : Prop :=
  ∃ before key after, keys = before ++ key :: after ∧
    config.helpers.get? key = some name ∧
    name ≠ "" ∧ ∀ other ∈ before, ∀ entry ∈ config.helpers.get? other, entry = ""

/-- The names that come into question, with the scope of each. -/
inductive IsCandidate (config : Config) (keys : List String) : String → Scope → Prop
  | own {name : String} (h : IsOwn config keys name) :
  IsCandidate config keys name .perRegistry
  | common {name : String} (h : config.defaultHelper = some name) (hne : name ≠ "") :
      IsCandidate config keys name .globalDefault

theorem map_snd_helperFor? : (config.helperFor? keys).map Prod.snd =
    keys.findSome? fun key => (config.helpers.get? key).filter fun entry =>
      !entry.isEmpty := by
  rw [Config.helperFor?, List.map_findSome?]
  congr 1
  funext key
  rw [Function.comp_apply]
  cases config.helpers.get? key with
  | none => rfl
  | some entry =>
    rw [Option.filter_some]
    show (if entry.isEmpty = true then none else some (key, entry)).map Prod.snd = _
    cases entry.isEmpty <;> rfl

theorem map_snd_helperFor?_eq_some_iff :
    (config.helperFor? keys).map Prod.snd = some name ↔ IsOwn config keys name := by
  rw [map_snd_helperFor?, List.findSome?_eq_some_iff, IsOwn]
  simp [Option.filter_eq_some_iff, Option.filter_eq_none_iff, and_assoc]

theorem defaultHelper?_eq_some_iff :
    config.defaultHelper? = some name ↔ config.defaultHelper = some name ∧ name ≠ "" := by
  rw [Config.defaultHelper?, Option.filter_eq_some_iff]
  simp

theorem mem_candidates_iff :
    (name, scope) ∈ candidates config keys ↔ IsCandidate config keys name scope := by
  have hown : (name, scope) ∈ ((config.helperFor? keys).map fun found =>
      (found.2, Scope.perRegistry)).toList ↔ IsOwn config keys name ∧
        scope = .perRegistry := by
    rw [← map_snd_helperFor?_eq_some_iff]
    cases config.helperFor? keys <;> simp [eq_comm]
  have hcommon : (name, scope) ∈ (config.defaultHelper?.map fun helper =>
      (helper, Scope.globalDefault)).toList ↔
        (config.defaultHelper = some name ∧ name ≠ "") ∧ scope = .globalDefault := by
    rw [← defaultHelper?_eq_some_iff]
    cases config.defaultHelper? <;> simp [eq_comm]
  rw [candidates, List.mem_append]
  refine (or_congr hown hcommon).trans ?_
  constructor
  · rintro (⟨h, rfl⟩ | ⟨⟨h, hne⟩, rfl⟩)
    · exact .own h
    · exact .common h hne
  · rintro (h | ⟨h, hne⟩)
    · exact .inl ⟨h, rfl⟩
    · exact .inr ⟨⟨h, hne⟩, rfl⟩

/-- Of two candidates the first one is the helper of its own, and the second one that
for all. -/
theorem pairwise_candidates (config : Config) (keys : List String) :
    (candidates config keys).Pairwise fun a b =>
      a.2 = .perRegistry ∧ b.2 = .globalDefault := by
  rw [candidates]
  cases config.helperFor? keys <;> cases config.defaultHelper? <;> simp

end

/-- Those of some candidates that have a safe name. -/
def safe (l : List (String × Scope)) : List (String × Scope) :=
  l.filter fun candidate => isValidName candidate.1

theorem safe_cons (name : String) (scope : Scope) (rest : List (String × Scope)) :
    safe ((name, scope) :: rest) =
      if isValidName name then (name, scope) :: safe rest else safe rest :=
  List.filter_cons

/-- The candidates with a safe name, in order of preference. -/
def kept (config : Config) (keys : List String) : List (String × Scope) :=
  safe (candidates config keys)

theorem pairwise_kept (config : Config) (keys : List String) :
    (kept config keys).Pairwise fun a b => a.2 = .perRegistry ∧ b.2 = .globalDefault :=
  (pairwise_candidates config keys).filter _

/-! ## Programs -/

section

variable {places : Places} {isProgram : String → Bool} {program path : String}

/-- Whether no directory has a program. -/
def IsMissing (places : Places) (isProgram : String → Bool) (program : String) : Prop :=
  ∀ directory ∈ places.first ++ places.environment ++ places.last,
    isProgram (Path.join directory program) = false

/-- Whether a directory is the first one that has a program. -/
def IsFirst (places : Places) (isProgram : String → Bool) (program directory : String) :
    Prop :=
  ∃ before after, places.first ++ places.environment ++ places.last =
    before ++ directory :: after ∧
    isProgram (Path.join directory program) = true ∧
    ∀ other ∈ before, isProgram (Path.join other program) = false

theorem locate?_eq_none_iff :
    places.locate? isProgram program = none ↔ IsMissing places isProgram program := by
  rw [Places.locate?, List.find?_map, Option.map_eq_none_iff, List.find?_eq_none]
  simp only [Function.comp_apply, Bool.not_eq_true]
  rfl

theorem locate?_eq_some_iff : places.locate? isProgram program = some path ↔
    ∃ directory, IsFirst places isProgram program directory ∧
      path = Path.join directory program := by
  rw [Places.locate?, List.find?_map, Option.map_eq_some_iff]
  refine exists_congr fun directory => and_congr ?_ eq_comm
  rw [List.find?_eq_some_iff_append]
  constructor
  · rintro ⟨hthere, before, after, hall, hbefore⟩
    exact ⟨before, after, hall, hthere,
      fun other hother => by simpa using hbefore other hother⟩
  · rintro ⟨before, after, hall, hthere, hbefore⟩
    exact ⟨hthere, before, after, hall,
      fun other hother => by simp [hbefore other hother]⟩

end

/-! ## The choice -/

section

variable {places : Places} {isProgram : String → Bool}

/-- The helper of a candidate, if its program is there. -/
def installed? (places : Places) (isProgram : String → Bool)
    (candidate : String × Scope) : Option Chosen :=
  (places.locate? isProgram (programName candidate.1)).map fun path =>
    ⟨programName candidate.1, path, candidate.2⟩

/-- Why none could be chosen, after some programs were looked for. -/
def shortage (programs : List String) : Failure :=
  if programs = [] then .unsupportedPlatform "linux"
  else .noHelper (joinWith ", " programs ++ " not found")

/-- The programs of some candidates. -/
def programs (candidates : List (String × Scope)) : List String :=
  candidates.map fun candidate => programName candidate.1

theorem firstInstalled_eq (missing : List String) (l : List (String × Scope)) :
    firstInstalled places isProgram missing l =
      match (safe l).findSome? (installed? places isProgram) with
      | some chosen => .ok chosen
      | none => .error (shortage (missing.reverse ++ programs (safe l))) := by
  induction l generalizing missing with
  | nil =>
    rw [firstInstalled]
    cases missing with
    | nil => rfl
    | cons program missing => simp [safe, shortage, programs]
  | cons candidate rest ih =>
    obtain ⟨name, scope⟩ := candidate
    rw [firstInstalled, safe_cons]
    by_cases hvalid : isValidName name = true
    · rw [if_pos hvalid, if_pos hvalid, List.findSome?_cons]
      cases hlocate : places.locate? isProgram (programName name) with
      | some path => simp only [installed?, hlocate, Option.map_some]
      | none =>
        simp only [installed?, hlocate, Option.map_none]
        rw [ih, List.reverse_cons, List.append_assoc]
        rfl
    · rw [if_neg hvalid, if_neg hvalid]
      exact ih missing

variable {config : Config} {keys : List String}

theorem choose_eq : choose places isProgram config keys =
    match (kept config keys).findSome? (installed? places isProgram) with
    | some chosen => .ok chosen
    | none => .error (shortage (programs (kept config keys))) :=
  firstInstalled_eq [] (candidates config keys)

theorem installed?_eq_none_iff {candidate : String × Scope} :
    installed? places isProgram candidate = none ↔
      IsMissing places isProgram (programName candidate.1) := by
  rw [installed?, Option.map_eq_none_iff, locate?_eq_none_iff]

theorem installed?_eq_some_iff {name : String} {scope : Scope} {chosen : Chosen} :
    installed? places isProgram (name, scope) = some chosen ↔
      ∃ directory, IsFirst places isProgram (programName name) directory ∧
        chosen = ⟨programName name, Path.join directory (programName name), scope⟩ := by
  rw [installed?, Option.map_eq_some_iff]
  simp only [locate?_eq_some_iff]
  constructor
  · rintro ⟨path, ⟨directory, hfirst, rfl⟩, rfl⟩
    exact ⟨directory, hfirst, rfl⟩
  · rintro ⟨directory, hfirst, rfl⟩
    exact ⟨_, ⟨directory, hfirst, rfl⟩, rfl⟩

/-- The first candidate whose program is somewhere is chosen, from the first directory
that has it. -/
theorem choose_eq_ok_iff {chosen : Chosen} :
    choose places isProgram config keys = .ok chosen ↔
    ∃ before name scope after directory,
      kept config keys = before ++ (name, scope) :: after ∧
      (∀ other ∈ before, IsMissing places isProgram (programName other.1)) ∧
      IsFirst places isProgram (programName name) directory ∧
      chosen = ⟨programName name, Path.join directory (programName name), scope⟩ := by
  have hfind : choose places isProgram config keys = .ok chosen ↔
      (kept config keys).findSome? (installed? places isProgram) = some chosen := by
    rw [choose_eq]
    cases (kept config keys).findSome? (installed? places isProgram) <;> simp
  rw [hfind, List.findSome?_eq_some_iff]
  constructor
  · rintro ⟨before, ⟨name, scope⟩, after, hkept, hchosen, hbefore⟩
    obtain ⟨directory, hfirst, rfl⟩ := installed?_eq_some_iff.mp hchosen
    exact ⟨before, name, scope, after, directory, hkept,
      fun other hother => installed?_eq_none_iff.mp (hbefore other hother), hfirst, rfl⟩
  · rintro ⟨before, name, scope, after, directory, hkept, hbefore, hfirst, hchosen⟩
    exact ⟨before, (name, scope), after, hkept,
      installed?_eq_some_iff.mpr ⟨directory, hfirst, hchosen⟩,
      fun other hother => installed?_eq_none_iff.mpr (hbefore other hother)⟩

/-- None is chosen where no directory has a program of a candidate. -/
theorem choose_eq_error_iff {failure : Failure} :
    choose places isProgram config keys = .error failure ↔
      (∀ candidate ∈ kept config keys,
        IsMissing places isProgram (programName candidate.1)) ∧
        failure = shortage (programs (kept config keys)) := by
  rw [choose_eq]
  cases hfind : (kept config keys).findSome? (installed? places isProgram) with
  | some chosen =>
    obtain ⟨before, candidate, after, hkept, hchosen, -⟩ :=
      List.findSome?_eq_some_iff.mp hfind
    have hmem : candidate ∈ kept config keys := by simp [hkept]
    refine ⟨fun h => (by cases h), fun ⟨hmissing, _⟩ => ?_⟩
    rw [installed?_eq_none_iff.mpr (hmissing candidate hmem)] at hchosen
    cases hchosen
  | none =>
    have hmissing := List.findSome?_eq_none_iff.mp hfind
    refine ⟨fun h => ⟨fun candidate hmem => installed?_eq_none_iff.mp
      (hmissing candidate hmem), ?_⟩, fun h => congrArg Except.error h.2.symm⟩
    cases h
    rfl

/-- A helper is chosen exactly where some directory has the program of a candidate. -/
theorem exists_choose_eq_ok_iff :
    (∃ chosen, choose places isProgram config keys = .ok chosen) ↔
    ∃ candidate ∈ kept config keys,
      ∃ directory ∈ places.first ++ places.environment ++ places.last,
      isProgram (Path.join directory (programName candidate.1)) = true := by
  constructor
  · rintro ⟨chosen, h⟩
    obtain ⟨before, name, scope, after, directory, hkept, -,
      ⟨dirs, rest, hall, hthere, -⟩, -⟩ :=
      choose_eq_ok_iff.mp h
    exact ⟨(name, scope), by simp [hkept], directory, by simp [hall], hthere⟩
  · rintro ⟨candidate, hmem, directory, hdirectory, hthere⟩
    cases h : choose places isProgram config keys with
    | ok chosen => exact ⟨chosen, rfl⟩
    | error failure =>
      have hmissing := (choose_eq_error_iff.mp h).1 candidate hmem directory hdirectory
      rw [hthere] at hmissing
      cases hmissing

theorem isResolution_shortage (programs : List String) :
    (shortage programs).isResolution = true := by
  rw [shortage]
  split <;> rfl

/-- A helper is not chosen only because there is none to choose. -/
theorem isResolution_of_choose_eq_error {failure : Failure}
    (h : choose places isProgram config keys = .error failure) :
    failure.isResolution = true := by
  rw [(choose_eq_error_iff.mp h).2]
  exact isResolution_shortage _

end

end Helper

namespace Native

open Helper

/-- A lookup finds what is written down where no helper was chosen. -/
theorem get_of_choose_eq_error {σ : Type} {setup : Setup} {machine : Machine σ} {s : σ}
    {r : Registry} {failure : Failure}
    (h : setup.choose machine r.lookupKeys s = .error failure) :
    get setup machine r s = (inlineAnswer (setup.config machine s) r failure, s) := by
  rw [get, h]
  exact if_pos (isResolution_of_choose_eq_error h)

/-- Of the candidates with a safe name the first one is chosen that is the program of some
directory, and from the first directory that has it; candidates are the helper under the
first lookup key with an entry that is not empty, and after it the one for all registries.
Where there is none the failure says that nothing names a helper, or lists the programs of
the candidates in order, and a lookup then finds what is written down for the registry. In
a tree of files a program is a regular file that may be executed. -/
theorem choose_eq_ok_iff_and_get_of_choose_eq_error (places : Places)
    (isProgram : String → Bool) (config : Config) (r : Registry) :
    (∀ name scope, (name, scope) ∈ kept config r.lookupKeys ↔
      IsCandidate config r.lookupKeys name scope ∧ isValidName name = true) ∧
    ((kept config r.lookupKeys).Pairwise fun a b =>
      a.2 = .perRegistry ∧ b.2 = .globalDefault) ∧
    ((∃ chosen, choose places isProgram config r.lookupKeys = .ok chosen) ↔
      ∃ candidate ∈ kept config r.lookupKeys,
        ∃ directory ∈ places.first ++ places.environment ++ places.last,
          isProgram (Path.join directory (programName candidate.1)) = true) ∧
    (∀ chosen, choose places isProgram config r.lookupKeys = .ok chosen ↔
      ∃ before name scope after directory,
        kept config r.lookupKeys = before ++ (name, scope) :: after ∧
          (∀ other ∈ before, IsMissing places isProgram (programName other.1)) ∧
          IsFirst places isProgram (programName name) directory ∧
          chosen = ⟨programName name, Path.join directory (programName name), scope⟩) ∧
    (∀ failure, choose places isProgram config r.lookupKeys = .error failure ↔
      (∀ candidate ∈ kept config r.lookupKeys,
        IsMissing places isProgram (programName candidate.1)) ∧
        failure = if kept config r.lookupKeys = [] then .unsupportedPlatform "linux"
          else .noHelper (joinWith ", " ((kept config r.lookupKeys).map fun candidate =>
            programName candidate.1) ++ " not found")) ∧
    (∀ failure, choose places isProgram config r.lookupKeys = .error failure →
      failure.isResolution = true) ∧
    (∀ (tree : Tree) (path : String), tree.isProgram path = true ↔
      ∃ mode octets, tree.stat path = .ok (.file mode octets) ∧ mode &&& 0o111 ≠ 0) ∧
    ∀ {σ : Type} (setup : Setup) (machine : Machine σ) (s : σ) (failure : Failure),
      setup.choose machine r.lookupKeys s = .error failure →
        get setup machine r s =
          ((match (setup.config machine s).inlineCredential? r.lookupKeys with
            | some (username, secret) => .ok (.found ⟨r.identifier, username, secret⟩)
            | none => .error failure), s) := by
  refine ⟨fun name scope => ?_, pairwise_kept config r.lookupKeys,
    exists_choose_eq_ok_iff, fun chosen => choose_eq_ok_iff, fun failure => ?_,
    fun failure => isResolution_of_choose_eq_error, fun tree path => Tree.isProgram_iff,
    fun setup machine s failure h => get_of_choose_eq_error h⟩
  · rw [kept, safe, List.mem_filter, mem_candidates_iff]
  · rw [choose_eq_error_iff, shortage, programs]
    simp only [List.map_eq_nil_iff]

/-- A machine without programs. Its configuration names a helper for one registry and one
for all others, and a credential of the first one is written down. -/
def barren : Machine Unit where
  readText _ _ := .text (
    "\x7b\"credsStore\":\"pass\",\"credHelpers\":" ++
    "\x7b\"ghcr.io:443\":\"\",\"ghcr.io\":\"lost\"\x7d," ++
    "\"auths\":\x7b\"ghcr.io\":\x7b\"username\":\"u\",\"password\":\"p\"\x7d\x7d\x7d")
  isProgram _ _ := false
  run _ _ _ s := (.unended, s)

/-- Past an empty entry and a helper whose program is lost, the one for all registries is
chosen from the last directory. Where it is lost as well, both are named, and what is
written down is found. -/
theorem choose_of_lost :
    let setup : Setup := ⟨"/root/config.json", ⟨["/h"], [], ["/g"]⟩, 30⟩
    let ghcr : Registry := ⟨.https, "ghcr.io", 443, "", none⟩
    choose setup.places (· == "/g/docker-credential-pass")
        (setup.config barren ()) ghcr.lookupKeys =
        .ok ⟨"docker-credential-pass", "/g/docker-credential-pass", .globalDefault⟩ ∧
      setup.choose barren ghcr.lookupKeys () =
        .error (.noHelper "docker-credential-lost, docker-credential-pass not found") ∧
      get setup barren ghcr () = (.ok (.found ⟨"ghcr.io:443", "u", "p"⟩), ()) := by
  intro setup ghcr
  have hkept : kept (setup.config barren ()) ghcr.lookupKeys =
      [("lost", .perRegistry), ("pass", .globalDefault)] := by decide +kernel
  have hwritten : (setup.config barren ()).inlineCredential? ghcr.lookupKeys =
      some ("u", "p") := by
    decide +kernel
  have hid : ghcr.identifier = "ghcr.io:443" := by decide +kernel
  obtain ⟨-, -, -, hchosen, -⟩ := choose_eq_ok_iff_and_get_of_choose_eq_error setup.places
    (· == "/g/docker-credential-pass") (setup.config barren ()) ghcr
  obtain ⟨-, -, -, -, hmissing, -, -, hget⟩ :=
    choose_eq_ok_iff_and_get_of_choose_eq_error setup.places
    (barren.isProgram ()) (setup.config barren ()) ghcr
  rw [hkept] at hmissing
  have hnone : setup.choose barren ghcr.lookupKeys () =
      .error (.noHelper "docker-credential-lost, docker-credential-pass not found") :=
    (hmissing _).mpr ⟨fun _ _ _ _ => rfl, by decide⟩
  refine ⟨(hchosen _).mpr ⟨[("lost", .perRegistry)], "pass", .globalDefault, [], "/g",
    hkept, ?_, ?_, rfl⟩, hnone, ?_⟩
  · unfold IsMissing
    decide
  · exact ⟨["/h"], [], rfl, by decide, by decide⟩
  · rw [hget setup barren () _ hnone, hwritten, hid]

end Native

end CredRelay
