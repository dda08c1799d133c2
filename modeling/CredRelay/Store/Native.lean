import CredRelay.Helper.Call
import CredRelay.Settings.Basic
/-! The store that asks the helpers of the machine. Their configuration is read anew for
every request; one that cannot be read counts as empty. A credential written down in the
configuration is found where no helper could be chosen. -/
namespace CredRelay.Native

open Host Helper

/-- Where the configuration of helpers is, where their programs are looked for, and how
many seconds a call may take. -/
structure Setup where
  configPath : String
  places : Places
  seconds : Nat
  deriving DecidableEq, Repr

/-- The setup that settings ask for, for a state root. Helpers are looked for in the
directories that are set, among those that come with the state root, beside the running
program where its directory is known, on the path of the environment, and last in the
directories set for that. -/
def Setup.ofSettings (s : Settings) (dirs : UserDirs) (root : String)
    (own : Option String) (environment : List String) : Setup where
  configPath := s.helperConfigPath dirs root
  places :=
    ⟨s.searchPaths dirs ++ Path.join root "cred-helpers" :: own.toList, environment,
      s.fallbackPaths dirs⟩
  seconds := s.helperTimeout

/-- Reads the configuration of helpers; a missing file is an empty one. -/
def loadConfig (path : String) : FileText → Except SettingsFault Config
  | .missing => .ok Config.empty
  | .unreadable reason => .error (.unreadable path reason)
  | .text s =>
    match Config.ofText? s with
    | some config => .ok config
    | none => .error (.badHelperConfig path "not a helper configuration")

/-- The configuration that counts. -/
def configOf (path : String) (file : FileText) : Config :=
  match loadConfig path file with
  | .ok config => config
  | .error _ => Config.empty

variable {σ : Type}

/-- The configuration that counts at this moment. -/
def Setup.config (setup : Setup) (machine : Machine σ) (s : σ) : Config :=
  configOf setup.configPath (machine.readText s setup.configPath)

/-- The helper that is chosen at this moment for some lookup keys. -/
def Setup.choose (setup : Setup) (machine : Machine σ) (keys : List String) (s : σ) :
    Except Failure Chosen :=
  Helper.choose setup.places (machine.isProgram s) (setup.config machine s) keys

/-- Asks the helper for some lookup keys, if one can be chosen. -/
def Setup.ask (setup : Setup) (machine : Machine σ) (keys : List String) (verb : Command)
    (input : String) (s : σ) : Answer × σ :=
  match setup.choose machine keys s with
  | .error failure => (.error failure, s)
  | .ok chosen => call machine setup.seconds chosen verb input s

/-- What is found for a registry when no helper was chosen. -/
def inlineAnswer (config : Config) (r : Registry) (failure : Failure) : Answer :=
  match config.inlineCredential? r.lookupKeys with
  | some (username, secret) => .ok (.found ⟨r.identifier, username, secret⟩)
  | none => .error failure

/-- Looks a credential up. -/
def get (setup : Setup) (machine : Machine σ) (r : Registry) (s : σ) : Answer × σ :=
  match setup.choose machine r.lookupKeys s with
  | .error failure =>
    if failure.isResolution then (inlineAnswer (setup.config machine s) r failure, s)
    else (.error failure, s)
  | .ok chosen => call machine setup.seconds chosen .get r.identifier s

/-- The store that asks the helpers of a machine. -/
def store (setup : Setup) (machine : Machine σ) : Store σ where
  get := get setup machine
  store r c s := setup.ask machine r.lookupKeys .store (Wire.recordText c) s
  erase r s := setup.ask machine r.lookupKeys .erase r.identifier s
  list s := setup.ask machine [] .list "" s

end CredRelay.Native
