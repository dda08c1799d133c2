import CredRelay.Registry.Basic
/-! Identifiers of registries. Credentials are filed under the identifier of a registry,
which leaves out what does not tell registries apart: host and port for a plain registry,
the whole chain for a proxy, and one fixed address for the public Docker registry. -/
namespace CredRelay

open Text Net

namespace Registry

/-- The host without brackets. -/
def hostname (r : Registry) : String :=
  String.ofList (dropEndWhile (· == ']') (r.host.toList.dropWhile (· == '[')))

/-- The host and the port. -/
def hostPort (r : Registry) : String :=
  r.host ++ ":" ++ decimal r.port

/-- Whether this is the public Docker registry. -/
def isDockerIndex (r : Registry) : Bool :=
  r.scheme == .https && r.hostname == "index.docker.io" && r.path == "/v1/" &&
    r.port == standardPort

/-- The identifier that credentials of the registry are filed under. -/
def identifier : Registry → String
  | ⟨scheme, host, port, path, behind⟩ =>
    let own : Registry := ⟨scheme, host, port, path, none⟩
    if own.isDockerIndex then dockerIndex
    else
      match behind with
      | some inner =>
        Scheme.proxy.text ++ "://" ++ inner.identifier ++ "/host/" ++ own.hostPort ++ path
      | none => own.hostPort

/-- A list without elements that repeat the one before them. -/
def dropRepeats : List String → List String
  | a :: b :: rest =>
    if a = b then dropRepeats (b :: rest) else a :: dropRepeats (b :: rest)
  | l => l

/-- The names that settings for the registry are looked up under, the most exact one
first. -/
def lookupKeys (r : Registry) : List String :=
  dropRepeats [r.identifier, r.hostPort, r.hostname]

/-- The address of the registry itself. -/
def text (r : Registry) : String :=
  r.scheme.text ++ "://" ++ r.hostPort ++ r.path

/-- Whether the host is the machine itself. -/
def isLoopback (r : Registry) : Bool :=
  sameLetters r.hostname "localhost" ||
    (Address.ofString? r.hostname).any Address.isLoopback

/-- Where the registry answers requests; on the machine itself without encryption. -/
def serviceAddress (r : Registry) : String :=
  if r.identifier = dockerIndex then "https://registry-1.docker.io"
  else (if r.isLoopback then "http" else "https") ++ "://" ++ r.hostPort

end Registry

/-- The identifier of the registry that an address means. -/
def identify (address : String) : Except Failure String :=
  (Registry.ofString address).map Registry.identifier

end CredRelay
