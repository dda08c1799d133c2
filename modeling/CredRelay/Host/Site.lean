import CredRelay.Host.FileTree
import CredRelay.Net.Network
/-! The parts of a system that programs share: its tree of files, the sockets and network
addresses that are listened on, and what its network does. A socket in the tree is
answered as long as it is listened on, and outlives that. -/
namespace CredRelay.Host

open Net

/-- What the network of a system does. -/
structure Interfaces where
  /-- Whether an address can be listened on, or why not. -/
  listens : SocketAddress → Except SystemFault Unit
  /-- From where a connection to an address comes when it arrives at this system, or why
  it does not arrive. -/
  connects : SocketAddress → Except SystemFault Address
  /-- Whether a connection that is closed at once looks like one that has ended, or why it
  fails. -/
  turnedAway : Except SystemFault Unit

/-- A network address that is listened on, and the networks whose peers are served
there. -/
structure Listening where
  address : SocketAddress
  allowed : List Network

/-- A site. Sockets have numbers; those and free ports are given out in order. -/
structure Site where
  tree : Tree
  sockets : List Nat
  addresses : List Listening
  nextSocket : Nat
  nextPort : Nat
  interfaces : Interfaces

/-- The version 4 address that an address is or contains, or its own bits. -/
def plainAddress : Address → Address
  | .v4 bits => .v4 bits
  | .v6 bits =>
    match mapped? bits with
    | some inner => .v4 inner
    | none => .v6 bits

/-- Whether an address stands for all addresses of the system. -/
def isWildcard : Address → Bool
  | .v4 bits => bits.toNat == 0
  | .v6 bits => bits.toNat == 0

/-- Whether two socket addresses cannot both be listened on. -/
def clash (a b : SocketAddress) : Bool :=
  let x := plainAddress a.address
  let y := plainAddress b.address
  a.port == b.port && (x == y || isWildcard x || isWildcard y)

/-- Whether a version 6 address is only valid on one link. -/
def isLinkLocal (bits : BitVec 128) : Bool :=
  bits.toNat >>> 118 == 0x3fa

/-- Whether a version 6 address stands for a group of systems. -/
def isMulticast (bits : BitVec 128) : Bool :=
  bits.toNat >>> 120 == 0xff

/-- Whether a connection to one address is taken up by who listens on another. -/
def takesUp (bound asked : SocketAddress) : Bool :=
  bound.port == asked.port &&
    match plainAddress bound.address, plainAddress asked.address with
    | .v4 here, .v4 there => here == there || here.toNat == 0
    | .v6 here, .v6 there => here == there || here.toNat == 0
    | .v6 here, .v4 _ => here.toNat == 0
    | .v4 _, .v6 _ => false

/-- Whether an address can be listened on without any device: version 4 addresses can, and
of the version 6 addresses the one that stands for all. -/
def listensIsolated (a : SocketAddress) : Except SystemFault Unit :=
  match plainAddress a.address with
  | .v4 _ => .ok ()
  | .v6 bits =>
    if bits.toNat = 0 then .ok ()
    else if isMulticast bits then .error .badArgument
    else if isLinkLocal bits then
      if a.scope = 0 then .error .badArgument
      else if a.scope = 1 then .error .addressNotHere
      else .error .noSuchDevice
    else .error .addressNotHere

/-- The network of a system without devices, where no connection arrives. -/
def Interfaces.isolated : Interfaces where
  listens := listensIsolated
  connects _ := .error .unreachable
  turnedAway := .ok ()

/-- Whether a path can be the name of a socket. -/
def checkSocketPath (path : String) : Except SystemFault Unit :=
  if path.toList.contains '\x00' then .error .nulInSocketName
  else if 108 ≤ path.utf8ByteSize then .error .socketNameTooLong
  else .ok ()

namespace Site

/-- A system with a tree and without network devices, on which nothing listens. -/
def ofTree (tree : Tree) : Site :=
  ⟨tree, [], [], 0, 49152, .isolated⟩

/-- Connects to the socket at a path. -/
def connect (site : Site) (path : String) : Except SystemFault Nat :=
  match checkSocketPath path with
  | .error fault => .error fault
  | .ok () => site.tree.connect site.sockets.contains path

/-- Whether something answers at the path of a socket. -/
def isLive (site : Site) (path : String) : Bool :=
  match site.connect path with
  | .ok _ => true
  | .error _ => false

/-- Makes a socket and listens on it. -/
def listenUnix (site : Site) (path : String) : Except SystemFault (Nat × Site) :=
  match checkSocketPath path with
  | .error fault => .error fault
  | .ok () =>
    match site.tree.bindSocket path site.nextSocket with
    | .error fault => .error fault
    | .ok tree =>
      .ok (site.nextSocket,
        { site with
          tree, sockets := site.nextSocket :: site.sockets
          nextSocket := site.nextSocket + 1 })

/-- The scope of an address that is listened on: only addresses of one link have any. -/
def boundScope (a : SocketAddress) : Nat :=
  match a.address with
  | .v4 _ => 0
  | .v6 bits => if isLinkLocal bits then a.scope else 0

/-- The socket address that is bound for one that is asked for, with a port in place of
zero. -/
def boundAddress (site : Site) (a : SocketAddress) : SocketAddress :=
  ⟨a.address, boundScope a, if a.port = 0 then site.nextPort else a.port⟩

/-- Listens on a network address, to serve the peers in some networks; port zero asks for
a free port. -/
def listenTcp (site : Site) (a : SocketAddress) (allowed : List Network) :
    Except SystemFault (SocketAddress × Site) :=
  match site.interfaces.listens a with
  | .error fault => .error fault
  | .ok () =>
    let bound := site.boundAddress a
    if site.addresses.any (clash bound ·.address) then .error .addressInUse
    else
      .ok (bound,
        { site with
          addresses := ⟨bound, allowed⟩ :: site.addresses
          nextPort := if a.port = 0 then site.nextPort + 1 else site.nextPort })

/-- Connects to a network address, and says whether the connection is served: who listens
there turns it away if it comes from none of the networks that are allowed. -/
def dial (site : Site) (a : SocketAddress) : Except SystemFault Bool :=
  match site.interfaces.connects a with
  | .error fault => .error fault
  | .ok peer =>
    match site.addresses.find? (takesUp ·.address a) with
    | some listening => .ok (admits listening.allowed peer)
    | none => .error .refused

/-- Stops listening on a socket, which stays in the tree. -/
def closeUnix (site : Site) (id : Nat) : Site :=
  { site with sockets := site.sockets.filter (· != id) }

/-- Stops listening on a network address. -/
def closeTcp (site : Site) (a : SocketAddress) : Site :=
  { site with addresses := site.addresses.filter (·.address != a) }

end Site

end CredRelay.Host
