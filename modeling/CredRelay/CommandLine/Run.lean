import CredRelay.CommandLine.Invocation
import CredRelay.CommandLine.Output
import CredRelay.Host.Scripted
import CredRelay.Relay.Connection
import CredRelay.Relay.Service
import CredRelay.Settings.Writer
import CredRelay.Store.Native
/-! Running the program. Settings are read first and the state root is found; then the
task is done. A relay that serves takes connections until it is interrupted. -/
namespace CredRelay.CommandLine

open Host

/-- What a program is started with: the directories of the user, those that the
environment names for programs, its own directory where known, and standard input, which
may be a connection. -/
structure Situation where
  dirs : UserDirs
  path : List String
  own : Option String
  input : ByteArray
  connected : Bool

/-- The result of a task: what was written, what was sent back on each connection, and the
machine afterwards. -/
structure Result where
  output : Output
  replies : List (Except Failure ByteArray)
  machine : Scripted

/-- The name of the program with its version. -/
def versionText : String := "credbridge 0.4.0"

/-- How the program is used. -/
def usageText : String :=
  "Usage: credbridge [--config FILE] [--root DIR] <serve|inetd|login|logout|config>\n"

/-- A result without connections. -/
def Result.plain (m : Scripted) (output : Output) : Result :=
  ⟨output, [], m⟩

/-- A result that is a complaint. -/
def Result.complaint (m : Scripted) (c : Complaint) : Result :=
  .plain m (.failure "" "" c)

/-- The setup for the helpers of a state root. -/
def Situation.setup (situation : Situation) (s : Settings) (root : String) :
    Native.Setup :=
  Native.Setup.ofSettings s situation.dirs root situation.own situation.path

/-- The store that asks the helpers of a machine. -/
def Situation.store (situation : Situation) (s : Settings) (root : String) :
    Store Scripted :=
  Native.store (situation.setup s root) Scripted.machine

/-- Sends each of some requests over a connection of its own. -/
def visitAll (exchange : ByteArray → Scripted → Except Failure ByteArray × Scripted) :
    List ByteArray → Scripted → List (Except Failure ByteArray) × Scripted
  | [], m => ([], m)
  | octets :: rest, m =>
    let (reply, m) := exchange octets m
    let (replies, m) := visitAll exchange rest m
    (reply :: replies, m)

/-- Takes connections on an endpoint. -/
def visitEndpoint (store : Store Scripted) (limit : Nat) (endpoint : Relay.Endpoint)
    (octets : ByteArray) (m : Scripted) : Except Failure ByteArray × Scripted :=
  Relay.exchange m.site endpoint limit store octets m

/-- Serves the requests that come before the interrupt. -/
def serve (situation : Situation) (s : Settings) (root : String)
    (requests : List ByteArray) (m : Scripted) : Result :=
  match m.tree.makeDirectories root with
  | .error fault => .complaint m (.stateRoot root fault.message)
  | .ok tree =>
    let m := m.withTree tree
    match (Relay.Service.ofSettings s).start root m.site with
    | (.error failure, _, site) => .complaint { m with site } (.relay failure)
    | (.ok (), service, site) =>
      let m := { m with site }
      let endpoints := service.endpoint?.toList
      let visit := fun endpoint =>
        visitEndpoint (situation.store s root) s.requestBytes endpoint
      let (replies, m) := match endpoints with
        | endpoint :: _ => visitAll (visit endpoint) requests m
        | [] => ([], m)
      let (_, site) := service.stop m.site
      let greeting := endpoints.map fun e =>
        "Credential bridge listening on " ++ e.text ++ "\n"
      ⟨⟨0, "", String.join greeting ++ "Shutting down\n"⟩, replies, { m with site }⟩

/-- Serves the connection on standard input. -/
def inetd (situation : Situation) (s : Settings) (root : String) (m : Scripted) :
    Result :=
  if situation.connected then
    match Relay.attend s.requestBytes (situation.store s root)
      (.octets situation.input) m with
    | (.ok visit, m) => ⟨.success "", [.ok visit.reply], m⟩
    | (.error failure, m) => .complaint m (.relay failure)
  else .complaint m (.relay (.io SystemFault.notSocket.message))

/-- The registry of an address; the usual one where none is given. -/
def registryOf (server : Option String) : Except Complaint Registry :=
  match Registry.ofString (server.getD "") with
  | .ok r => .ok r
  | .error failure => .error (.relay failure)

/-- Checks what is given for a login and asks the registry. -/
def verifyLogin (attempt : Login.Attempt) (input : ByteArray) :
    Except Complaint (Registry × Credential) :=
  match registryOf attempt.server with
  | .error c => .error c
  | .ok r =>
    match attempt.checkedUsername with
    | .error refusal => .error (.login refusal)
    | .ok username =>
      match attempt.checkedSecret input with
      | .error refusal => .error (.login refusal)
      | .ok secret =>
        match Login.verify r with
        | .error failure => .error (.loginFailed r.identifier failure)
        | .ok () => .ok (r, ⟨r.identifier, username, secret⟩)

/-- Verifies a credential and stores it. -/
def login (situation : Situation) (s : Settings) (root : String) (attempt : Login.Attempt)
    (m : Scripted) : Result :=
  match verifyLogin attempt situation.input with
  | .error c => .complaint m c
  | .ok (r, c) =>
    match (situation.store s root).store r c m with
    | (.ok _, m) => .plain m (.success "Login Succeeded\n")
    | (.error failure, m) => .complaint m (.relay failure)

/-- Removes the credential of a registry. -/
def logout (situation : Situation) (s : Settings) (root : String) (server : Option String)
    (m : Scripted) : Result :=
  match registryOf server with
  | .error c => .complaint m c
  | .ok r =>
    match (situation.store s root).erase r m with
    | (.error failure, m) => .complaint m (.relay failure)
    | (.ok .notFound, m) =>
      .plain m (.success ("Not logged in to " ++ r.identifier ++ "\n"))
    | (.ok _, m) =>
      .plain m (.success ("Removing login credentials for " ++ r.identifier ++ "\n"))

/-- Where the settings are. -/
def settingsPath (situation : Situation) (given : Option String) :
    Except SettingsFault String :=
  match given with
  | some path => .ok path
  | none => situation.dirs.settingsPath

/-- Writes the settings to a file that is not there yet. -/
def writeSettings (s : Settings) (path : String) (m : Scripted) : Result :=
  if m.tree.has path then .complaint m (.settingsExist path)
  else
    match s.saveTo m.tree path with
    | (.ok (), tree) => .plain (m.withTree tree) (.success ("Wrote " ++ path ++ "\n"))
    | (.error fault, tree) => .complaint (m.withTree tree) (.settings fault)

/-- What is said of where things are. -/
def describePlaces (situation : Situation) (s : Settings) (path root : String)
    (m : Scripted) : String :=
  let note := if m.tree.has path then "" else " (not created yet)"
  "# Config file: " ++ path ++ note ++ "\n" ++ "# State root: " ++ root ++ "\n" ++
    "# Helper config: " ++ s.helperConfigPath situation.dirs root ++ "\n\n"

/-- Shows the settings that hold, or writes them. -/
def config (situation : Situation) (s : Settings) (path root : String) (init : Bool)
    (m : Scripted) : Result :=
  if init then writeSettings s path m
  else
    let places := describePlaces situation s path root m
    match s.toText with
    | .ok text => .plain m (.success (places ++ text ++ "\n"))
    | .error fault => .plain m (.failure places "" (.settings fault))

/-- Does a task with the settings and the state root that hold. -/
def runTask (situation : Situation) (requests : List ByteArray) (s : Settings)
    (given : Option String) (root : String) (m : Scripted) : Task → Result
  | .serve transport =>
    serve situation { s with transport := transport.getD s.transport } root requests m
  | .inetd => inetd situation s root m
  | .login attempt => login situation s root attempt m
  | .logout server => logout situation s root server m
  | .config init =>
    match settingsPath situation given with
    | .ok path => config situation s path root init m
    | .error fault => .complaint m (.settings fault)

/-- The settings and the state root that hold for an invocation. -/
def Invocation.prepare (i : Invocation) (situation : Situation) (m : Scripted) :
    Except SettingsFault (Settings × String) :=
  match settingsPath situation i.config with
  | .error fault => .error fault
  | .ok path =>
    match Settings.loadFrom m.tree path with
    | .error fault => .error fault
    | .ok s =>
      match i.root with
      | some root => .ok (s, root)
      | none =>
        match s.root situation.dirs with
        | .ok root => .ok (s, root)
        | .error fault => .error fault

/-- Runs the program on its arguments. The requests are those that reach a serving relay
before it is interrupted. -/
def run (situation : Situation) (arguments : List String) (requests : List ByteArray)
    (m : Scripted) : Result :=
  match Invocation.ofArguments arguments with
  | .error (.final .version) => .plain m (.success (versionText ++ "\n"))
  | .error (.final _) => .plain m (.success usageText)
  | .error .unusable => .plain m ⟨2, "", usageText⟩
  | .ok i =>
    match i.prepare situation m with
    | .error fault => .complaint m (.settings fault)
    | .ok (s, root) => runTask situation requests s i.config root m i.task

end CredRelay.CommandLine
