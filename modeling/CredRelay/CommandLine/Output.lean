import CredRelay.Failure
import CredRelay.Login.Attempt
/-! What a program leaves behind when it ends: its exit code and what it wrote; and what
it complains of when it fails. -/
namespace CredRelay.CommandLine

/-- An exit code with what was written to standard output and to standard error. -/
structure Output where
  code : Nat
  written : String
  errors : String
  deriving DecidableEq, Repr

/-- Success with some output. -/
def Output.success (written : String) : Output :=
  ⟨0, written, ""⟩

/-- What the program complains of. -/
inductive Complaint where
  | settings (fault : SettingsFault)
  | relay (failure : Failure)
  | stateRoot (root reason : String)
  | settingsExist (path : String)
  | login (refusal : Login.Refusal)
  | loginFailed (id : String) (failure : Failure)
  deriving DecidableEq, Repr

/-- The wording of a complaint and of the causes that it quotes. -/
def Complaint.chain : Complaint → List String
  | .settings fault => fault.chain
  | .relay failure => failure.chain
  | .stateRoot root reason => ["Failed to create state root " ++ root, reason]
  | .settingsExist path => ["Config file already exists at " ++ path]
  | .login refusal => refusal.chain
  | .loginFailed id failure => ("Login to " ++ id ++ " failed") :: failure.chain

/-- A complaint as it is written to standard error. -/
def Complaint.text (c : Complaint) : String :=
  "Error: " ++ Text.joinWith ": " c.chain ++ "\n"

/-- Failure after some output. -/
def Output.failure (written errors : String) (c : Complaint) : Output :=
  ⟨1, written, errors ++ c.text⟩

end CredRelay.CommandLine
