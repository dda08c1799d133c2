import CredRelay.CommandLine.Output
import CredRelay.Guest.Helper
/-! The helper of the guest as a program: its verb is the first argument, its operand
comes on standard input, and the environment says where the relay is. Faults are written
to standard output, where callers of helpers look for them. -/
namespace CredRelay.Guest

open CommandLine Host Relay

/-- How the helper is used. -/
def usageText : String :=
  "Usage: docker-credential-credbridge <get|store|erase|list|version>\n"

/-- The state root that the environment names, unless it is blank. -/
def rootOf (env : String → Option String) : Option String :=
  (env rootVariable).filter fun root => !(Text.trim root).isEmpty

/-- Where the relay is reached, if the environment says so. -/
def endpointOf? (env : String → Option String) (readText : String → FileText) :
    Option Endpoint :=
  (rootOf env).map fun root =>
    endpointFor ((env systemVariable).getD "") (readText (addressFile root))

/-- A text with the end of a line, unless there is none. -/
def line (s : String) : String :=
  if s.isEmpty then "" else s ++ "\n"

/-- What the helper leaves behind after a verb. -/
def outputOf : Except HelperFault String → Output
  | .ok text => .success (line text)
  | .error fault => ⟨1, fault.message ++ "\n", ""⟩

/-- The text of standard input, for verbs that read it. -/
def inputOf? (verb : Verb) (input : ByteArray) : Option String :=
  if verb.readsInput then Text.ofUtf8? input else some ""

variable {σ : Type}

/-- Runs the helper on its arguments. -/
def runHelper (arguments : List String) (env : String → Option String)
    (readText : String → FileText) (input : ByteArray)
    (exchange : Endpoint → Exchange σ) (s : σ) : Output × σ :=
  match arguments with
  | [] => (⟨1, "", usageText⟩, s)
  | word :: _ =>
    let verb := Verb.ofText word
    match inputOf? verb input with
    | none => (⟨1, "failed to read stdin: stream did not contain valid UTF-8\n", ""⟩, s)
    | some text =>
      let relay := (endpointOf? env readText).map exchange
      let (result, s) := execute verb relay text s
      (outputOf result, s)

end CredRelay.Guest
