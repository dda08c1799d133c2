import CredRelay.Helper.Choice
import CredRelay.Host.Basic
import CredRelay.Store.Basic
import CredRelay.Wire.Record
/-! Calling helpers. A helper is run with a verb and gets its operand on standard input;
what it writes and how it ends make the outcome. A failing helper that says it has no such
credential is believed. -/
namespace CredRelay.Helper

open Text Host

/-- What a call of a helper produced: how it ended, what it wrote, and that together with
what it wrote as errors, trimmed. -/
structure Output where
  code : Option Nat
  written : String
  combined : String
  deriving DecidableEq, Repr

/-- Whether a call succeeded. -/
def Output.success (o : Output) : Bool :=
  o.code == some 0

/-- What helpers say about a missing credential, in any case of letters. -/
def missingMark : List Char :=
  "credentials not found".toList

/-- Whether a failed call says that there is no such credential. -/
def Output.reportsMissing (o : Output) : Bool :=
  !o.success && occurs missingMark (lowerAscii o.combined).toList

/-- The output of a program that ended. -/
def Output.ofStreams (code : Option Nat) (output errors : ByteArray) : Output :=
  let written := ofUtf8Lenient output.toList
  ⟨code, String.ofList written,
    String.ofList (trimChars (written ++ ofUtf8Lenient errors.toList))⟩

/-- The output of a run, or why there is none. -/
def outputOfRun (path : String) (seconds : Nat) : Run → Except Failure Output
  | .refused reason =>
    .error (.helperFailed ("failed to start " ++ path ++ ": " ++ reason))
  | .unended => .error (.helperTimeout seconds)
  | .ended code output errors => .ok (Output.ofStreams code output errors)

/-- The outcome of a call whose success is read by `read`. -/
def outcomeOf (read : Output → Answer) (o : Output) : Answer :=
  if o.success then read o
  else if o.reportsMissing then .ok .notFound
  else
    let code := match o.code with
      | some n => decimal n
      | none => "signal"
    .error (.helperFailed ("exit status " ++ code ++ ": " ++ o.combined))

/-- The outcome of a successful lookup. -/
def readFound (o : Output) : Answer :=
  match Wire.recordOfText? (trim o.written) with
  | some c => if c.isEmpty then .ok .notFound else .ok (.found c)
  | none =>
    .error (.helperFailed "failed to parse credential response: not a credential record")

/-- The outcome of a successful change. -/
def readDone (_ : Output) : Answer :=
  .ok .completed

/-- The outcome of a successful listing. -/
def readListed (o : Output) : Answer :=
  let body := trim o.written
  if body.isEmpty then .ok (.listed Table.empty)
  else
    match (Json.read? body.toList).bind (Config.tableOfValue? Json.Value.string?) with
    | some entries => .ok (.listed entries)
    | none => .error (.helperFailed "failed to parse list response: not a map of texts")

/-- How a verb reads a successful call. -/
def reader : Command → Output → Answer
  | .get => readFound
  | .store | .erase => readDone
  | .list => readListed

/-- The outcome of a run of a helper with a verb. -/
def answerOfRun (path : String) (seconds : Nat) (verb : Command) (run : Run) : Answer :=
  match outputOfRun path seconds run with
  | .error failure => .error failure
  | .ok o => outcomeOf (reader verb) o

/-- Calls a chosen helper. -/
def call {σ : Type} (machine : Machine σ) (seconds : Nat) (chosen : Chosen)
    (verb : Command) (input : String) (s : σ) : Answer × σ :=
  let (run, s) := machine.run chosen.path verb (utf8 input) s
  (answerOfRun chosen.path seconds verb run, s)

end CredRelay.Helper
