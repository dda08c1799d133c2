import CredRelay.Failure
import CredRelay.Path
/-! Settings of the relay: how it is reached, which limits hold, and where helpers and
their configuration are found. -/
namespace CredRelay

/-- How the relay is reached: by a socket in the file system, by a named pipe, or over the
network. -/
inductive Transport where
  | unix
  | pipe
  | tcp
  deriving DecidableEq, Repr

/-- The name of a transport. -/
def Transport.text : Transport → String
  | .unix => "unix"
  | .pipe => "pipe"
  | .tcp => "tcp"

/-- The transport of a name. -/
def Transport.ofText? (s : String) : Option Transport :=
  [Transport.unix, .pipe, .tcp].find? fun t => t.text == s

/-- The settings. Times are in seconds; an empty text counts as not given. -/
structure Settings where
  rootDir : Option String
  transport : Transport
  readTimeout : Nat
  helperTimeout : Nat
  maxRequestBytes : Nat
  listen : String
  allowedNetworks : List String
  helperConfig : Option String
  searchDirs : List String
  fallbackDirs : List String
  deriving DecidableEq, Repr

/-- The directories that a user's files are kept in: the home directory, and those for
configuration and for data where they lie elsewhere. -/
structure UserDirs where
  home : Option String
  config : Option String
  data : Option String
  deriving DecidableEq, Repr

/-- The name under which files of the relay are kept. -/
def projectName : String := "credbridge"

/-- A directory of the relay: in the one given, if it counts from the root, or else in the
home directory. -/
def UserDirs.projectDir? (dirs : UserDirs) (given : Option String) (usual : String) :
    Option String :=
  match dirs.home with
  | none => none
  | some home =>
    let base := match given with
      | some dir => if Path.isAbsolute dir then dir else Path.join home usual
      | none => Path.join home usual
    some (Path.join base projectName)

/-- Where the settings are, unless said otherwise. -/
def UserDirs.settingsPath (dirs : UserDirs) : Except SettingsFault String :=
  match dirs.projectDir? dirs.config ".config" with
  | some dir => .ok (Path.join dir "config.toml")
  | none => .error .noConfigDirectory

/-- Where data of the relay are. -/
def UserDirs.dataDir (dirs : UserDirs) : Except SettingsFault String :=
  match dirs.projectDir? dirs.data ".local/share" with
  | some dir => .ok dir
  | none => .error .noDataDirectory

/-- A path with a tilde at its start, alone or before a slash, replaced by the home
directory. -/
def UserDirs.expand (dirs : UserDirs) (path : String) : String :=
  match path.toList, dirs.home with
  | ['~'], some home => home
  | '~' :: '/' :: rest, some home => home ++ String.ofList ('/' :: rest)
  | _, _ => path

namespace Settings

/-- The settings where nothing is said. -/
def default : Settings where
  rootDir := none
  transport := .unix
  readTimeout := 10
  helperTimeout := 30
  maxRequestBytes := 4096
  listen := "127.0.0.1:47365"
  allowedNetworks := ["127.0.0.0/8", "192.168.5.0/24"]
  helperConfig := none
  searchDirs := []
  fallbackDirs := ["/usr/local/bin", "/opt/homebrew/bin"]

/-- A text that is given and not empty. -/
def given? (s : Option String) : Option String :=
  s.filter (fun s => !s.isEmpty)

/-- The state root: the one that is set, or else the directory for data. -/
def root (s : Settings) (dirs : UserDirs) : Except SettingsFault String :=
  match given? s.rootDir with
  | some dir => .ok (dirs.expand dir)
  | none => dirs.dataDir

/-- Where the configuration of helpers is, for a state root. -/
def helperConfigPath (s : Settings) (dirs : UserDirs) (root : String) : String :=
  match given? s.helperConfig with
  | some path => dirs.expand path
  | none => Path.join root "config.json"

/-- The most that a request may be long, whatever is set. -/
def requestLimit : Nat := 1048576

/-- How long a request may be: at least one octet and at most the limit. -/
def requestBytes (s : Settings) : Nat :=
  min (max s.maxRequestBytes 1) requestLimit

/-- The directories that are searched before others. -/
def searchPaths (s : Settings) (dirs : UserDirs) : List String :=
  s.searchDirs.map dirs.expand

/-- The directories that are searched after others. -/
def fallbackPaths (s : Settings) (dirs : UserDirs) : List String :=
  s.fallbackDirs.map dirs.expand

end Settings

end CredRelay
