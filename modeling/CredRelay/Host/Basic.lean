import CredRelay.Wire.Request
/-! What the relay asks of the machine that it runs on: the text of a file, whether a
program is there, and running it. -/
namespace CredRelay.Host

open Text

/-- What reading a file as text gives. -/
inductive FileText where
  | missing
  | unreadable (reason : String)
  | text (s : String)
  deriving DecidableEq, Repr

/-- What running a program gives: it could not be started, it did not end in time, or it
ended with an exit code, unless a signal ended it, and with what it wrote. -/
inductive Run where
  | refused (reason : String)
  | unended
  | ended (code : Option Nat) (output errors : ByteArray)

/-- A machine whose state is of type `σ`. -/
structure Machine (σ : Type) where
  readText : σ → String → FileText
  isProgram : σ → String → Bool
  run : (path : String) → (verb : Command) → (input : ByteArray) → σ → Run × σ

/-- The text of some octets read from a file. -/
def FileText.ofOctets (octets : ByteArray) : FileText :=
  match ofUtf8? octets with
  | some s => .text s
  | none => .unreadable "stream did not contain valid UTF-8"

end CredRelay.Host
