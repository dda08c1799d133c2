import CredRelay.Host.Basic
import CredRelay.Settings.Basic
import CredRelay.Toml.Document
/-! Reading settings. Each group of settings is a table, or an array of its values in
order; what is missing takes its default and what is unknown is skipped. -/
namespace CredRelay.Settings

open Toml Host

/-- The values of the named fields of a group, where given. -/
def fields? (names : List String) : Value → Option (List (Option Value))
  | .table _ entries => some (names.map fun name => entries.lookup name)
  | .array items => some ((List.range names.length).map fun i => items[i]?)
  | .tables items =>
    some ((List.range names.length).map fun i => items[i]?.map (Value.table .header))
  | _ => none

/-- A field that takes a default where it is missing. -/
def field? {α : Type} (read : Value → Option α) (default : α) : Option Value → Option α
  | none => some default
  | some v => read v

/-- A text. -/
def text? : Value → Option String
  | .text s => some s
  | _ => none

/-- A list of texts. -/
def texts? : Value → Option (List String)
  | .array items => items.mapM text?
  | _ => none

/-- A whole number that is not negative. -/
def count? : Value → Option Nat
  | .integer (.ofNat n) => some n
  | _ => none

/-- Whether a value has nothing in it. -/
def isHollow : Value → Bool
  | .array [] => true
  | .table _ [] => true
  | _ => false

/-- A transport: its name, or a table with its name as the only key and nothing in it. -/
def transport? : Value → Option Transport
  | .text s => Transport.ofText? s
  | .table _ [(name, v)] => if isHollow v then Transport.ofText? name else none
  | _ => none

/-- The group of settings about reaching the relay and about limits. -/
def readBridge? (s : Settings) (v : Value) : Option Settings :=
  match fields? ["root_dir", "transport", "read_timeout_secs", "helper_timeout_secs",
      "max_request_bytes"] v with
  | some [rootDir, transport, readTimeout, helperTimeout, maxRequestBytes] => do
    let rootDir ← field? (fun v => (text? v).map some) s.rootDir rootDir
    let transport ← field? transport? s.transport transport
    let readTimeout ← field? count? s.readTimeout readTimeout
    let helperTimeout ← field? count? s.helperTimeout helperTimeout
    let maxRequestBytes ← field? count? s.maxRequestBytes maxRequestBytes
    some { s with rootDir, transport, readTimeout, helperTimeout, maxRequestBytes }
  | _ => none

/-- The group of settings about the network. -/
def readTcp? (s : Settings) (v : Value) : Option Settings :=
  match fields? ["listen", "allowed_networks"] v with
  | some [listen, allowedNetworks] => do
    let listen ← field? text? s.listen listen
    let allowedNetworks ← field? texts? s.allowedNetworks allowedNetworks
    some { s with listen, allowedNetworks }
  | _ => none

/-- The group of settings about helpers. -/
def readHelpers? (s : Settings) (v : Value) : Option Settings :=
  match fields? ["docker_config", "search_dirs", "fallback_dirs"] v with
  | some [helperConfig, searchDirs, fallbackDirs] => do
    let helperConfig ← field? (fun v => (text? v).map some) s.helperConfig helperConfig
    let searchDirs ← field? texts? s.searchDirs searchDirs
    let fallbackDirs ← field? texts? s.fallbackDirs fallbackDirs
    some { s with helperConfig, searchDirs, fallbackDirs }
  | _ => none

/-- Reads a group of settings, if it is there. -/
def group? (read : Settings → Value → Option Settings) (v : Option Value) (s : Settings) :
    Option Settings :=
  match v with
  | none => some s
  | some v => read s v

/-- The settings of a document. -/
def ofEntries? (entries : Entries) : Option Settings :=
  ((group? readBridge? (entries.lookup "bridge") default).bind
    (group? readTcp? (entries.lookup "tcp"))).bind (group? readHelpers?
      (entries.lookup "helpers"))

/-- The settings that a text holds. -/
def ofText? (s : String) : Option Settings :=
  (Toml.read? s.toList).bind ofEntries?

/-- The settings in a file. -/
def load (path : String) : FileText → Except SettingsFault Settings
  | .missing => .ok default
  | .unreadable reason => .error (.unreadable path reason)
  | .text s =>
    match ofText? s with
    | some settings => .ok settings
    | none => .error (.badSettings path "not a settings document")

end CredRelay.Settings
