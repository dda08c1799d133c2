import CredRelay.Relay.Answer
import CredRelay.Relay.Endpoint
import CredRelay.Host.Site
/-! Connections: each carries one request and one reply. A request that is longer than
allowed is not looked at, and where nothing is sent there is no reply. A request is taken
in by a single read, for which there is room for one octet more than is allowed. -/
namespace CredRelay.Relay

open Host

variable {σ : Type}

/-- What is sent back for the octets that arrived on a connection. -/
def serve (limit : Nat) (store : Store σ) (octets : ByteArray) (s : σ) : ByteArray × σ :=
  if octets.size = 0 then (ByteArray.empty, s)
  else if limit < octets.size then
    ((Reply.error (WireFault.tooLarge limit).message).encode, s)
  else
    let (reply, s) := answerOctets store octets s
    (reply.encode, s)

theorem serve_of_lt {limit : Nat} {octets : ByteArray} (h : limit < octets.size)
    (store : Store σ) (s : σ) :
    serve limit store octets s =
      ((Reply.error (WireFault.tooLarge limit).message).encode, s) := by
  rw [serve, if_neg (by omega), if_pos h]

theorem serve_of_size_le {limit : Nat} {octets : ByteArray} (hpos : octets.size ≠ 0)
    (h : octets.size ≤ limit) (store : Store σ) (s : σ) :
    serve limit store octets s =
      ((answerOctets store octets s).1.encode, (answerOctets store octets s).2) := by
  rw [serve, if_neg hpos, if_neg (Nat.not_lt.mpr h)]

/-- The largest number of a machine word, 2 ^ 64 - 1. -/
def wordLimit : Nat := 18446744073709551615

/-- The room for a request: one octet more than it may have, which shows that a request is
too long. -/
def room (limit : Nat) : Nat :=
  min (limit + 1) wordLimit

/-- How much more is read of a request that is too long: a connection that is closed with
octets unread is reset, and its reply is lost. -/
def discardLimit : Nat := 1048576

/-- What one read gives where there is room for so many octets, and what it leaves. -/
def readOnce (room : Nat) (octets : ByteArray) : ByteArray × ByteArray :=
  (octets.extract 0 room, octets.extract room octets.size)

/-- What comes of the wait for a request. -/
inductive Arrival where
  /-- Nothing comes for as long as the relay waits. -/
  | silence
  /-- The connection fails. -/
  | fault (message : String)
  /-- There are octets to read; none where the other side sends nothing and is done. -/
  | octets (octets : ByteArray)

/-- A connection that is done with: what was sent back and what was left unread. -/
structure Visit where
  reply : ByteArray
  unread : ByteArray

/-- Takes in what arrives on a connection and answers it. -/
def attend (limit : Nat) (store : Store σ) (arrival : Arrival) (s : σ) :
    Except Failure Visit × σ :=
  match arrival with
  | .silence => (.ok ⟨.empty, .empty⟩, s)
  | .fault message => (.error (.io message), s)
  | .octets octets =>
    let (octets, rest) := readOnce (room limit) octets
    let unread := if limit < octets.size then (readOnce discardLimit rest).2 else rest
    let (reply, s) := serve limit store octets s
    (.ok ⟨reply, unread⟩, s)

/-- What is said of an endpoint that this system has no means to reach. -/
def notAvailable (endpoint : Endpoint) : String :=
  endpoint.text ++ " is not available on this platform"

/-- Whether a connection to an endpoint is served, or why there is none. -/
def reach (site : Site) : Endpoint → Except Failure Bool
  | .unix path =>
    match site.connect path with
    | .ok _ => .ok true
    | .error fault => .error (.io fault.message)
  | .tcp address =>
    match site.dial address with
    | .ok served => .ok served
    | .error fault => .error (.io fault.message)
  | .pipe name => .error (.io (notAvailable (.pipe name)))

/-- Whether something answers at an endpoint. -/
def isLive (site : Site) (endpoint : Endpoint) : Bool :=
  match reach site endpoint with
  | .ok _ => true
  | .error _ => false

/-- What is learnt over a connection that is turned away. -/
def turnedAway (site : Site) : Except Failure ByteArray :=
  match site.interfaces.turnedAway with
  | .ok () => .ok ByteArray.empty
  | .error fault => .error (.io fault.message)

/-- Sends octets over a connection to an endpoint, where `limit` and `store` are those of
whoever listens there. -/
def exchange (site : Site) (endpoint : Endpoint) (limit : Nat) (store : Store σ)
    (octets : ByteArray) (s : σ) : Except Failure ByteArray × σ :=
  match reach site endpoint with
  | .error failure => (.error failure, s)
  | .ok false => (turnedAway site, s)
  | .ok true =>
    let (reply, s) := serve limit store octets s
    (.ok reply, s)

end CredRelay.Relay
