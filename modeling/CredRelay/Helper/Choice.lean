import CredRelay.Failure
import CredRelay.Helper.Config
import CredRelay.Path
import CredRelay.Registry.Identifier
/-! Choosing the helper of a registry. Candidates are the helper that the configuration
gives to the registry and then the one it gives to all; the first candidate with a safe
name whose program is in one of the directories wins. -/
namespace CredRelay.Helper

open Text

/-- Why a helper was chosen. -/
inductive Scope where
  | perRegistry
  | globalDefault
  | systemDefault
  deriving DecidableEq, Repr

/-- The name of a scope. -/
def Scope.text : Scope → String
  | .perRegistry => "per-registry"
  | .globalDefault => "global-default"
  | .systemDefault => "os-default"

/-- A helper that was chosen. -/
structure Chosen where
  program : String
  path : String
  scope : Scope
  deriving DecidableEq, Repr

/-- The system that the relay runs on, which has no helper of its own. -/
def systemName : String := "linux"

/-- Where programs are looked for: first, on the path of the environment, and last. -/
structure Places where
  first : List String
  environment : List String
  last : List String
  deriving DecidableEq, Repr

/-- All directories in the order they are looked through. -/
def Places.all (places : Places) : List String :=
  places.first ++ places.environment ++ places.last

/-- The path of the first program of a name in the directories. -/
def Places.locate? (places : Places) (isProgram : String → Bool) (program : String) :
    Option String :=
  (places.all.map fun directory => Path.join directory program).find? isProgram

/-- The helpers that come into question, for one registry or for none in particular. -/
def candidates (config : Config) (keys : List String) : List (String × Scope) :=
  ((config.helperFor? keys).map fun (_, helper) => (helper, Scope.perRegistry)).toList ++
    (config.defaultHelper?.map fun helper => (helper, Scope.globalDefault)).toList

/-- The first candidate whose program is there; `missing` collects the programs that were
not, last first. -/
def firstInstalled (places : Places) (isProgram : String → Bool) (missing : List String) :
    List (String × Scope) → Except Failure Chosen
  | [] =>
    if missing.isEmpty then .error (.unsupportedPlatform systemName)
    else .error (.noHelper (joinWith ", " missing.reverse ++ " not found"))
  | (name, scope) :: rest =>
    if isValidName name then
      match places.locate? isProgram (programName name) with
      | some path => .ok ⟨programName name, path, scope⟩
      | none => firstInstalled places isProgram (programName name :: missing) rest
    else firstInstalled places isProgram missing rest

/-- The helper that the configuration chooses for some lookup keys. -/
def choose (places : Places) (isProgram : String → Bool) (config : Config)
    (keys : List String) : Except Failure Chosen :=
  firstInstalled places isProgram [] (candidates config keys)

end CredRelay.Helper
