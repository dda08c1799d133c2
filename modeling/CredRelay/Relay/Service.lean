import CredRelay.Host.Site
import CredRelay.Net.Network
import CredRelay.Relay.Endpoint
/-! A service: it listens on at most one endpoint at a time. Starting makes the socket, or
publishes the bound address under the state root; stopping takes both away again. Starting
a service that listens changes nothing, and so does stopping one that does not. -/
namespace CredRelay.Relay

open Host Net

/-- Where a service is in its life. -/
inductive State where
  | stopped
  | starting
  | listening
  | stopping
  deriving DecidableEq, Repr

/-- The name of a state. -/
def State.text : State → String
  | .stopped => "stopped"
  | .starting => "starting"
  | .listening => "listening"
  | .stopping => "stopping"

/-- What a service listens with: a numbered socket or a network address. -/
inductive Listener where
  | unix (id : Nat)
  | tcp (address : SocketAddress)
  deriving DecidableEq, Repr

/-- An endpoint that is listened on, and the file that its address was published in. -/
structure Active where
  endpoint : Endpoint
  listener : Listener
  addressFile : Option String
  deriving DecidableEq, Repr

/-- A service with its settings. -/
structure Service where
  settings : Settings
  state : State
  active : Option Active
  deriving DecidableEq, Repr

/-- Makes the directory of a socket, for its owner and their group. -/
def makeSocketDir (path : String) (tree : Tree) : Except SystemFault Tree :=
  match Path.parent? path with
  | none => .ok tree
  | some dir =>
    match tree.makeDirectories dir with
    | .error fault => .error fault
    | .ok tree => tree.setMode dir 0o750

/-- Removes what is left at the path of a socket that nothing listens on. -/
def clearSocket (path : String) (site : Site) : Except Failure Site :=
  if site.tree.has path then
    if site.isLive path then .error (.endpointInUse path)
    else
      match site.tree.unlink path with
      | .ok tree => .ok { site with tree }
      | .error fault => .error (.io fault.message)
  else .ok site

/-- Listens on a new socket, which only its owner may use. -/
def openSocket (path : String) (site : Site) : Except Failure (Nat × Site) :=
  match site.listenUnix path with
  | .error fault => .error (.io fault.message)
  | .ok (id, site) =>
    match site.tree.setMode path 0o600 with
    | .ok tree => .ok (id, { site with tree })
    | .error fault => .error (.io fault.message)

/-- Makes a socket at a path to listen on. One that nothing listens on any more is
replaced. -/
def openPath (path : String) (site : Site) : Except Failure Nat × Site :=
  match makeSocketDir path site.tree with
  | .error fault => (.error (.io fault.message), site)
  | .ok tree =>
    let site := { site with tree }
    match clearSocket path site with
    | .error failure => (.error failure, site)
    | .ok site =>
      match openSocket path site with
      | .error failure => (.error failure, site)
      | .ok (id, site) => (.ok id, site)

/-- What the refusal of a network address means: that it is in use, or something else. -/
def listenFailure (address : SocketAddress) (fault : SystemFault) : Failure :=
  if fault = .addressInUse then .endpointInUse address.text else .io fault.message

/-- Takes a network address to listen on. -/
def openAddress (address : SocketAddress) (allowed : List Network) (site : Site) :
    Except Failure SocketAddress × Site :=
  match site.listenTcp address allowed with
  | .error fault => (.error (listenFailure address fault), site)
  | .ok (bound, site) => (.ok bound, site)

/-- Listens on a socket at a path. -/
def bindUnix (path : String) (site : Site) : Except Failure Active × Site :=
  match openPath path site with
  | (.ok id, site) => (.ok ⟨.unix path, .unix id, none⟩, site)
  | (.error failure, site) => (.error failure, site)

/-- Listens on a network address, once the networks that may connect are known. -/
def bindTcp (s : Settings) (address : SocketAddress) (site : Site) :
    Except Failure Active × Site :=
  match networks s.allowedNetworks with
  | .error text => (.error (.settings (.badNetwork text)), site)
  | .ok allowed =>
    match openAddress address allowed site with
    | (.ok bound, site) => (.ok ⟨.tcp bound, .tcp bound, none⟩, site)
    | (.error failure, site) => (.error failure, site)

/-- Listens on an endpoint. There are no named pipes on this system. -/
def bind (s : Settings) (endpoint : Endpoint) (site : Site) :
    Except Failure Active × Site :=
  match endpoint with
  | .unix path => bindUnix path site
  | .tcp address => bindTcp s address site
  | .pipe name => (.error (.unsupportedPlatform ("named pipes (" ++ name ++ ")")), site)

/-- Stops listening. -/
def Listener.close (l : Listener) (site : Site) : Site :=
  match l with
  | .unix id => site.closeUnix id
  | .tcp address => site.closeTcp address

/-- Writes the address of a network endpoint to the file under the state root. -/
def publish (root : String) (address : SocketAddress) (tree : Tree) :
    Except Failure Unit × Tree :=
  match tree.makeDirectories (socketDir root) with
  | .error fault => (.error (.io fault.message), tree)
  | .ok tree =>
    match tree.write (addressFile root) address.text.toUTF8 with
    | .ok tree => (.ok (), tree)
    | .error fault => (.error (.io fault.message), tree)

/-- Publishes the address of a network endpoint that was started for a state root. If that
fails, it is no longer listened on. -/
def announce (root : Option String) (active : Active) (site : Site) :
    Except Failure Active × Site :=
  match active.endpoint, root with
  | .tcp address, some root =>
    match publish root address site.tree with
    | (.ok (), tree) =>
      (.ok { active with addressFile := some (addressFile root) }, { site with tree })
    | (.error failure, tree) => (.error failure, active.listener.close { site with tree })
  | _, _ => (.ok active, site)

/-- Removes a file if it is there and can be removed. -/
def removeIfPossible (site : Site) (path : String) : Site :=
  match site.tree.unlink path with
  | .ok tree => { site with tree }
  | .error _ => site

/-- The files that belong to an endpoint that is listened on. -/
def Active.files (a : Active) : List String :=
  (match a.endpoint with
    | .unix path => [path]
    | _ => []) ++ a.addressFile.toList

/-- Stops listening and removes the files. -/
def Active.release (a : Active) (site : Site) : Site :=
  a.files.foldl removeIfPossible (a.listener.close site)

namespace Service

/-- A service that does not listen yet. -/
def ofSettings (s : Settings) : Service :=
  ⟨s, .stopped, none⟩

/-- Where a service listens, if it does. -/
def endpoint? (v : Service) : Option Endpoint :=
  v.active.map Active.endpoint

/-- Listens on an endpoint and announces it. -/
def listen (v : Service) (endpoint : Endpoint) (root : Option String) (site : Site) :
    Except Failure Active × Site :=
  match bind v.settings endpoint site with
  | (.ok active, site) => announce root active site
  | (.error failure, site) => (.error failure, site)

/-- Starts a service at an endpoint, for a state root or for none. -/
def startWith (v : Service) (endpoint : Endpoint) (root : Option String) (site : Site) :
    Except Failure Unit × Service × Site :=
  match v.active with
  | some _ => (.ok (), v, site)
  | none =>
    let v := { v with state := .starting }
    match v.listen endpoint root site with
    | (.ok active, site) =>
      (.ok (), { v with state := .listening, active := some active }, site)
    | (.error failure, site) => (.error failure, { v with state := .stopped }, site)

/-- Starts a service at an endpoint. -/
def startAt (v : Service) (endpoint : Endpoint) (site : Site) :
    Except Failure Unit × Service × Site :=
  v.startWith endpoint none site

/-- Starts a service for a state root. -/
def start (v : Service) (root : String) (site : Site) :
    Except Failure Unit × Service × Site :=
  match Endpoint.ofSettings v.settings root with
  | .error failure => (.error failure, v, site)
  | .ok endpoint => v.startWith endpoint (some root) site

/-- Stops a service. -/
def stop (v : Service) (site : Site) : Service × Site :=
  match v.active with
  | none => (v, site)
  | some active => ({ v with state := .stopped, active := none }, active.release site)

/-- What is left when a service is given up, listening or not. -/
def drop (v : Service) (site : Site) : Site :=
  match v.active with
  | none => site
  | some active => active.release site

end Service

end CredRelay.Relay
