import CredRelay.Relay.Service
/-! Services on systems that may refuse anything. What comes of listening is given from
outside here: an attempt may fail for any reason at all and leave any site behind, and the
removal of any file may be refused. With attempts of its own and no refusals a service
does what it does on a site. -/
namespace CredRelay.Relay

open Host

/-- What comes of listening on an endpoint and announcing it for a state root, on each
site. -/
abbrev Attempt := Endpoint → Option String → Site → Except Failure Active × Site

/-- What comes of listening alone, on each site. -/
abbrev Binding := Endpoint → Site → Except Failure Active × Site

/-- Listens as `binding` has it, and then announces what is listened on. -/
def Binding.announced (binding : Binding) : Attempt := fun endpoint root site =>
  match binding endpoint site with
  | (.ok active, site) => announce root active site
  | (.error failure, site) => (.error failure, site)

/-- What comes of asking a system for something to listen on, on each site: a socket at a
path, for which its number is given, or a network address for the peers in some networks,
for which the address that was taken is given. -/
structure Opening where
  path : String → Site → Except Failure Nat × Site
  address : Net.SocketAddress → List Net.Network → Site →
    Except Failure Net.SocketAddress × Site

/-- Listens on what a system gives. There are no named pipes on any. -/
def Opening.binding (opening : Opening) (s : Settings) : Binding := fun endpoint site =>
  match endpoint with
  | .unix path =>
    match opening.path path site with
    | (.ok id, site) => (.ok ⟨.unix path, .unix id, none⟩, site)
    | (.error failure, site) => (.error failure, site)
  | .tcp address =>
    match Net.networks s.allowedNetworks with
    | .error text => (.error (.settings (.badNetwork text)), site)
    | .ok allowed =>
      match opening.address address allowed site with
      | (.ok bound, site) => (.ok ⟨.tcp bound, .tcp bound, none⟩, site)
      | (.error failure, site) => (.error failure, site)
  | .pipe name => (.error (.unsupportedPlatform ("named pipes (" ++ name ++ ")")), site)

/-- The files that the system refuses to remove, whatever its tree holds. -/
abbrev Refusals := String → Bool

/-- Removes a file if it is there and its removal is not refused. -/
def removeUnless (refused : Refusals) (site : Site) (path : String) : Site :=
  if refused path then site else removeIfPossible site path

/-- Stops listening and removes the files whose removal is not refused. -/
def Active.releaseUnless (a : Active) (refused : Refusals) (site : Site) : Site :=
  a.files.foldl (removeUnless refused) (a.listener.close site)

namespace Service

/-- Starts a service at an endpoint, where `attempt` says what comes of it. -/
def startWithBy (v : Service) (attempt : Attempt) (endpoint : Endpoint)
    (root : Option String) (site : Site) : Except Failure Unit × Service × Site :=
  match v.active with
  | some _ => (.ok (), v, site)
  | none =>
    match attempt endpoint root site with
    | (.ok active, site) =>
      (.ok (), { v with state := .listening, active := some active }, site)
    | (.error failure, site) => (.error failure, { v with state := .stopped }, site)

/-- Starts a service for a state root, where `attempt` says what comes of it. -/
def startBy (v : Service) (attempt : Attempt) (root : String) (site : Site) :
    Except Failure Unit × Service × Site :=
  match Endpoint.ofSettings v.settings root with
  | .error failure => (.error failure, v, site)
  | .ok endpoint => v.startWithBy attempt endpoint (some root) site

/-- Stops a service, where the removal of its files may be refused. -/
def stopUnless (v : Service) (refused : Refusals) (site : Site) : Service × Site :=
  match v.active with
  | none => (v, site)
  | some active =>
    ({ v with state := .stopped, active := none }, active.releaseUnless refused site)

theorem bind_eq_binding (s : Settings) :
    bind s = Opening.binding ⟨openPath, openAddress⟩ s := by
  funext endpoint site
  cases endpoint <;> rfl

theorem listen_eq_announced (v : Service) :
    v.listen = Binding.announced (bind v.settings) := by
  rfl

@[simp] theorem startWithBy_listen (v : Service) (endpoint : Endpoint)
    (root : Option String) (site : Site) :
    v.startWithBy v.listen endpoint root site = v.startWith endpoint root site := by
  rfl

@[simp] theorem startBy_listen (v : Service) (root : String) (site : Site) :
    v.startBy v.listen root site = v.start root site := by
  rfl

@[simp] theorem stopUnless_false (v : Service) (site : Site) :
    v.stopUnless (fun _ => false) site = v.stop site := by
  rfl

end Service

end CredRelay.Relay
