import CredRelay.CommandLine.Run
import CredRelay.Guest.Program
/-! The program: it gathers what it was started with, lets the library do the work, and
writes down what came of it. It starts no other programs and listens nowhere, so helpers
count as not installed. Under the name of a credential helper it is the helper of the
guest. -/
namespace CredRelay.Program

open CommandLine Host

/-- Adds what stands at a path to a tree; what cannot be read as a file counts as a
directory. -/
def gather (tree : Tree) (path : String) : IO Tree := do
  try
    let octets ← IO.FS.readBinFile path
    return tree.plant path (.file 0o644 octets)
  catch
    | .noFileOrDirectory .. => return tree
    | _ => return tree.plant path (.directory 0o755)

/-- The variables of the environment that matter. -/
def gatherVariables : IO (String → Option String) := do
  let names := ["HOME", "XDG_CONFIG_HOME", "XDG_DATA_HOME", "PATH", Guest.rootVariable,
    Guest.systemVariable]
  let values ← names.mapM fun name => do return (name, ← IO.getEnv name)
  return fun name => (values.lookup name).join

/-- All of standard input. -/
def gatherInput : IO ByteArray := do
  (← IO.getStdin).readBinToEnd

/-- Writes what a program leaves behind and gives its exit code. -/
def report (output : Output) : IO UInt32 := do
  (← IO.getStdout).putStr output.written
  (← IO.getStderr).putStr output.errors
  return UInt32.ofNat output.code

/-- Runs the helper of the guest, which reaches no relay from here. -/
def runGuest (arguments : List String) : IO UInt32 := do
  let env ← gatherVariables
  let bare := Tree.bare (Path.names (← IO.currentDir).toString)
  let tree ← match Guest.rootOf env with
    | some root => gather bare (Relay.addressFile root)
    | none => pure bare
  let reads := arguments.head?.any fun word => (Guest.Verb.ofText word).readsInput
  let input ← if reads then gatherInput else pure ByteArray.empty
  let exchange : Relay.Endpoint → Guest.Exchange Unit := fun endpoint octets s =>
    match Relay.reach (Site.ofTree tree) endpoint with
    | .error failure => (.error failure, s)
    | .ok _ => (.ok octets, s)
  report (Guest.runHelper arguments env tree.readText input exchange ()).1

/-- Whether an invocation reads standard input. -/
def readsInput (i : Invocation) : Bool :=
  match i.task with
  | .inetd => true
  | .login attempt => attempt.readSecret
  | _ => false

/-- The tree of the files that an invocation may look at. -/
def gatherFiles (situation : Situation) (i : Invocation) : IO Tree := do
  let bare := Tree.bare (Path.names (← IO.currentDir).toString)
  match settingsPath situation i.config with
  | .error _ => return bare
  | .ok path =>
    let tree ← gather bare path
    match i.prepare situation (Scripted.ofTree tree) with
    | .error _ => return tree
    | .ok (s, root) => gather tree (s.helperConfigPath situation.dirs root)

/-- Writes down the settings where running the program has made a file of them. -/
def keepSettings (situation : Situation) (i : Invocation) (before after : Tree) :
    IO Unit := do
  match settingsPath situation i.config with
  | .error _ => return ()
  | .ok path =>
    match before.has path, after.read path with
    | false, .ok octets =>
      IO.FS.createDirAll ((Path.parent? path).getD ".")
      IO.FS.writeBinFile path octets
    | _, _ => return ()

/-- Runs a task of the relay. -/
def runInvocation (situation : Situation) (arguments : List String) (i : Invocation) :
    IO UInt32 := do
  match i.task with
  | .serve _ => report (.failure "" "" (.relay (.unsupportedPlatform "listening")))
  | _ =>
    let input ← if readsInput i then gatherInput else pure ByteArray.empty
    let tree ← gatherFiles situation i
    let r :=
      run { situation with input, connected := true } arguments [] (Scripted.ofTree tree)
    keepSettings situation i tree r.machine.tree
    for reply in r.replies do
      match reply with
      | .ok octets => (← IO.getStdout).write octets
      | .error _ => pure ()
    report r.output

/-- The situation of the program before it has read its input. -/
def gatherSituation : IO Situation := do
  let env ← gatherVariables
  let path := ((env "PATH").getD "").toList.splitOn ':' |>.map String.ofList
  return ⟨⟨env "HOME", env "XDG_CONFIG_HOME", env "XDG_DATA_HOME"⟩, path, none,
    ByteArray.empty, false⟩

/-- Whether the program was started under the name of a credential helper. -/
def isGuest : IO Bool := do
  return Text.occurs (Helper.programName "").toList (← IO.appPath).toString.toList

/-- Runs the program under the name that it was started with. -/
def start (arguments : List String) : IO UInt32 := do
  if ← isGuest then runGuest arguments
  else
    let situation ← gatherSituation
    match Invocation.ofArguments arguments with
    | .ok i => runInvocation situation arguments i
    | .error _ =>
      report (run situation arguments [] (Scripted.ofTree (Tree.bare []))).output

end CredRelay.Program

/-- The entry of the program. -/
def main (arguments : List String) : IO UInt32 :=
  CredRelay.Program.start arguments
