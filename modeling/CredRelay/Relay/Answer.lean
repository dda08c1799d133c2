import CredRelay.Store.Basic
import CredRelay.Wire.Reply
/-! Answering requests. A lookup is always answered with a record, empty where there is no
credential; the other requests are answered with nothing when they succeed and with an
error otherwise. -/
namespace CredRelay.Relay

variable {σ : Type}

/-- The reply to a command about an address, given the answer of the store. -/
def reply (command : Command) (serverUrl : String) (answer : Answer) : Reply :=
  match command, answer with
  | .get, .ok (.found c) => .record c
  | .get, _ => .record (Credential.none serverUrl)
  | _, .ok _ => .empty
  | .list, .error failure => if failure.isResolution then .empty else
      .error failure.message
  | _, .error failure => .error failure.message

/-- Answers a request about the registry of an address; one that is no registry is not
passed on. -/
def answerAbout (command : Command) (address : String)
    (ask : Registry → σ → Answer × σ) (s : σ) : Reply × σ :=
  match Registry.ofString address with
  | .error failure => (reply command address (.error failure), s)
  | .ok r =>
    let (answer, s) := ask r s
    (reply command r.identifier answer, s)

/-- Answers a request from a store. -/
def answer (store : Store σ) (request : Request) (s : σ) : Reply × σ :=
  match request with
  | .get address => answerAbout .get address store.get s
  | .erase address => answerAbout .erase address store.erase s
  | .store c =>
    answerAbout .store c.serverUrl
      (fun r => store.store r ⟨r.identifier, c.username, c.secret⟩) s
  | .list =>
    let (answer, s) := store.list s
    (reply .list "" answer, s)

/-- Answers the octets of a request from a store. Octets that are no request are not
passed on. -/
def answerOctets (store : Store σ) (octets : ByteArray) (s : σ) : Reply × σ :=
  match Request.decode octets with
  | .ok request => answer store request s
  | .error fault => (.error fault.message, s)

end CredRelay.Relay
