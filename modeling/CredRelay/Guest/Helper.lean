import CredRelay.Guest.Client
import CredRelay.Wire.Record
/-! The credential helper of the guest: it takes the verbs of such helpers and passes them
on to the relay. Without a relay there are no credentials to find and none can be kept. -/
namespace CredRelay.Guest

open Text

/-- Why a call of the helper failed. -/
inductive HelperFault where
  | notFound
  | unknownVerb (name : String)
  | noServerUrl
  | badPayload (detail : String)
  | notConfigured
  | relay (failure : Failure)
  deriving DecidableEq, Repr

/-- The wording of a fault of the helper. -/
def HelperFault.message : HelperFault → String
  | .notFound => "credentials not found in native keychain"
  | .unknownVerb name => "unknown verb: " ++ name
  | .noServerUrl => "no server URL on stdin"
  | .badPayload detail => "invalid credential payload: " ++ detail
  | .notConfigured => "credbridge is not configured: set " ++ rootVariable
  | .relay failure => failure.message

/-- What the helper calls itself. -/
def versionText : String := "docker-credential-credbridge 0.4.0"

/-- The address on standard input. -/
def serverUrlOf (input : String) : Except HelperFault String :=
  if (trim input).isEmpty then .error .noServerUrl else .ok (trim input)

/-- The record on standard input. -/
def recordOf (input : String) : Except HelperFault Credential :=
  match Wire.recordOfText? (trim input) with
  | none => .error (.badPayload "not a credential record")
  | some c => if (trim c.serverUrl).isEmpty then .error .noServerUrl else .ok c

/-- What is written for a lookup: the record, or that there is none for whatever
reason. -/
def written : Except Failure (Option Credential) → Except HelperFault String
  | .ok (some c) => .ok (Wire.recordText c)
  | _ => .error .notFound

/-- What is written for a change. -/
def done (text : String) : Except Failure Unit → Except HelperFault String
  | .ok () => .ok text
  | .error failure => .error (.relay failure)

/-- A verb of the helper. -/
inductive Verb where
  | command (c : Command)
  | version
  | other (name : String)
  deriving DecidableEq, Repr

/-- The verb that a word means. -/
def Verb.ofText (s : String) : Verb :=
  match Command.ofText? s with
  | some c => .command c
  | none => if s = "version" then .version else .other s

/-- Whether a verb takes an operand on standard input. -/
def Verb.readsInput : Verb → Bool
  | .command .list | .version | .other _ => false
  | .command _ => true

variable {σ : Type}

/-- Runs a verb of the helper on the text of standard input. -/
def execute (verb : Verb) (relay : Option (Exchange σ)) (input : String) (s : σ) :
    Except HelperFault String × σ :=
  match verb with
  | .version => (.ok versionText, s)
  | .other name => (.error (.unknownVerb name), s)
  | .command .list =>
    match relay with
    | none => (.ok "\x7b\x7d", s)
    | some exchange =>
      let (result, s) := list exchange s
      (done "\x7b\x7d" result, s)
  | .command .get =>
    match serverUrlOf input, relay with
    | .error fault, _ => (.error fault, s)
    | .ok _, none => (.error .notFound, s)
    | .ok serverUrl, some exchange =>
      let (result, s) := get exchange serverUrl s
      (written result, s)
  | .command .store =>
    match recordOf input, relay with
    | .error fault, _ => (.error fault, s)
    | .ok _, none => (.error .notConfigured, s)
    | .ok c, some exchange =>
      let (result, s) := store exchange c s
      (done "" result, s)
  | .command .erase =>
    match serverUrlOf input, relay with
    | .error fault, _ => (.error fault, s)
    | .ok _, none => (.error .notConfigured, s)
    | .ok serverUrl, some exchange =>
      let (result, s) := erase exchange serverUrl s
      (done "" result, s)

end CredRelay.Guest
