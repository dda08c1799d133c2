import CredRelay.Host.Basic
import CredRelay.Relay.Endpoint
import CredRelay.Wire.Reply
/-! The client of the relay. It sends a request over a connection of its own and reads the
reply, up to a limit. A lookup gives a record or none; the other requests give nothing
unless they fail. -/
namespace CredRelay.Guest

open Host Relay

/-- What sending octets to the relay gives: the octets of the reply, or why there are
none. -/
abbrev Exchange (σ : Type) := ByteArray → σ → Except Failure ByteArray × σ

/-- The most that is read of a reply. -/
def replyLimit : Nat := 65536

/-- The variable of the environment that names the state root. -/
def rootVariable : String := "CREDBRIDGE_ROOT"

/-- The variable of the environment that names the system the relay runs on. -/
def systemVariable : String := "CREDBRIDGE_HOST_OS"

/-- The socket that is forwarded from the system that the relay runs on. -/
def forwardedSocket : String := "/run/credbridge-user-sockets/creds.sock"

/-- The address of the relay where none is published. -/
def usualAddress : Net.SocketAddress :=
  ⟨.v4 0x7f000001#32, 0, 47365⟩

/-- The address in a published file. -/
def publishedAddress? : FileText → Option Net.SocketAddress
  | .text s => Net.SocketAddress.ofString? (Text.trim s)
  | _ => none

/-- Where the relay is reached, given the system it runs on and the published file. -/
def endpointFor (system : String) (published : FileText) : Endpoint :=
  if Text.sameLetters system "windows" then
    .tcp ((publishedAddress? published).getD usualAddress)
  else .unix forwardedSocket

/-- What is said when no reply comes in time. -/
def noReply (endpoint : Endpoint) : Failure :=
  .io ("no reply from " ++ endpoint.text)

variable {σ : Type}

/-- The reply to a request. -/
def request (exchange : Exchange σ) (r : Request) (s : σ) : Except Failure Reply × σ :=
  match exchange r.encode s with
  | (.error failure, s) => (.error failure, s)
  | (.ok octets, s) =>
    match Reply.decode (octets.extract 0 replyLimit) (r.command == .get) with
    | .ok reply => (.ok reply, s)
    | .error fault => (.error (.wire fault), s)

/-- What a reply to a lookup says. -/
def credentialOfReply : Reply → Except Failure (Option Credential)
  | .record c => .ok (if c.isEmpty then none else some c)
  | .empty => .ok none
  | .error reason => .error (.remote reason)

/-- What a reply to another command says. -/
def doneOfReply (command : Command) : Reply → Except Failure Unit
  | .empty => .ok ()
  | .error reason => .error (.remote reason)
  | .record _ =>
    .error (.wire (.malformedReply ("unexpected record in reply to " ++ command.text)))

/-- Looks a credential up. -/
def get (exchange : Exchange σ) (serverUrl : String) (s : σ) :
    Except Failure (Option Credential) × σ :=
  let (reply, s) := request exchange (.get serverUrl) s
  (reply.bind credentialOfReply, s)

/-- Makes a request that is answered with nothing. -/
def run (exchange : Exchange σ) (r : Request) (s : σ) : Except Failure Unit × σ :=
  let (reply, s) := request exchange r s
  (reply.bind (doneOfReply r.command), s)

/-- Stores a credential. -/
def store (exchange : Exchange σ) (c : Credential) (s : σ) : Except Failure Unit × σ :=
  run exchange (.store c) s

/-- Removes a credential. -/
def erase (exchange : Exchange σ) (serverUrl : String) (s : σ) :
    Except Failure Unit × σ :=
  run exchange (.erase serverUrl) s

/-- Asks for a list, which is answered with nothing. -/
def list (exchange : Exchange σ) (s : σ) : Except Failure Unit × σ :=
  run exchange .list s

end CredRelay.Guest
