import CredRelay.Host.Basic
import CredRelay.Host.Fault
import CredRelay.Path
import CredRelay.Table
/-! A tree of files: directories, files with their octets, and sockets, each with its
permission bits. Operations take paths as programs give them and fail as the system
does. -/
namespace CredRelay.Host

open Text

/-- What stands at a place of the tree. -/
inductive Node where
  | directory (mode : Nat)
  | file (mode : Nat) (octets : ByteArray)
  | socket (mode : Nat) (id : Nat)

/-- Whether a node is a directory. -/
def Node.isDirectory : Node → Bool
  | .directory _ => true
  | _ => false

/-- The permission bits of a node. -/
def Node.mode : Node → Nat
  | .directory mode | .file mode _ | .socket mode _ => mode

/-- A node with other permission bits. -/
def Node.withMode (mode : Nat) : Node → Node
  | .directory _ => .directory mode
  | .file _ octets => .file mode octets
  | .socket _ id => .socket mode id

/-- A tree, by the names that lead from the root to each node, and the directory that
relative paths count from. -/
structure Tree where
  nodes : Table Node
  here : List String

namespace Tree

/-- The key of a place. -/
def key (place : List String) : String :=
  Path.ofNames true place

/-- The tree that has its working directory and nothing else. -/
def bare (here : List String) : Tree :=
  ⟨(List.range here.length).foldl
    (fun t i => t.insert (key (here.take (i + 1))) (.directory 0o755)) Table.empty, here⟩

/-- What stands at a place; the root is always there. -/
def node? (t : Tree) (place : List String) : Option Node :=
  if key place = "/" then some (.directory 0o755) else t.nodes.get? (key place)

/-- The tree with a node at a place. -/
def put (t : Tree) (place : List String) (node : Node) : Tree :=
  { t with nodes := t.nodes.insert (key place) node }

/-- The tree with nothing at a place. -/
def remove (t : Tree) (place : List String) : Tree :=
  { t with nodes := t.nodes.erase (key place) }

/-- The place that a name leads to. -/
def follow (place : List String) (name : String) : List String :=
  if name = ".." then place.dropLast else place ++ [name]

/-- The place that some names lead to from a place that is a directory. The last one need
not exist. -/
def walk (t : Tree) (place : List String) : List String → Except SystemFault (List String)
  | [] => .ok place
  | [name] => .ok (follow place name)
  | name :: rest =>
    match t.node? (follow place name) with
    | some (.directory _) => walk t (follow place name) rest
    | some _ => .error .notDirectory
    | none => .error .noEntry

/-- Whether the system takes a path at all. -/
def checkPath (path : String) : Except SystemFault Unit :=
  if path.isEmpty then .error .noEntry
  else if path.toList.contains '\x00' then .error .nulInName
  else if 4095 < path.utf8ByteSize ∨ (Path.names path).any (255 < ·.utf8ByteSize) then
    .error .nameTooLong
  else .ok ()

/-- Whether a path ends in a dot behind a slash. -/
def endsInDot (path : String) : Bool :=
  match path.toList.reverse with
  | '.' :: '/' :: _ => true
  | _ => false

/-- Where a path starts from. -/
def start (t : Tree) (path : String) : List String :=
  if Path.isAbsolute path then [] else t.here

/-- The place of a path whose last name is followed by a dot: there must be a
directory. -/
def enter (t : Tree) (place : List String) : Except SystemFault (List String) :=
  match t.node? place with
  | some (.directory _) => .ok place
  | some _ => .error .notDirectory
  | none => .error .noEntry

/-- The place of a path. -/
def place (t : Tree) (path : String) : Except SystemFault (List String) :=
  match checkPath path with
  | .error fault => .error fault
  | .ok () =>
    match t.walk (t.start path) (Path.names path) with
    | .error fault => .error fault
    | .ok place => if endsInDot path then t.enter place else .ok place

/-- What stands at a path. A slash at the end demands a directory. -/
def stat (t : Tree) (path : String) : Except SystemFault Node :=
  match t.place path with
  | .error fault => .error fault
  | .ok place =>
    match t.node? place with
    | none => .error .noEntry
    | some node =>
      if path.toList.getLast? = some '/' ∧ !node.isDirectory then .error .notDirectory
      else .ok node

/-- Whether something stands at a path. -/
def has (t : Tree) (path : String) : Bool :=
  match t.stat path with
  | .ok _ => true
  | .error _ => false

/-- Whether a directory stands at a path. -/
def isDirectory (t : Tree) (path : String) : Bool :=
  match t.stat path with
  | .ok node => node.isDirectory
  | .error _ => false

/-- Whether a program stands at a path: a file that someone may execute. -/
def isProgram (t : Tree) (path : String) : Bool :=
  match t.stat path with
  | .ok (.file mode _) => mode &&& 0o111 != 0
  | _ => false

/-- The octets of the file at a path. -/
def read (t : Tree) (path : String) : Except SystemFault ByteArray :=
  match t.stat path with
  | .ok (.file _ octets) => .ok octets
  | .ok (.directory _) => .error .isDirectory
  | .ok (.socket _ _) => .error .noDevice
  | .error fault => .error fault

/-- The file at a path as text. -/
def readText (t : Tree) (path : String) : FileText :=
  match t.read path with
  | .ok octets => FileText.ofOctets octets
  | .error .noEntry => .missing
  | .error fault => .unreadable fault.message

/-- Writes a file. A new one may be read by all and written by its owner. -/
def write (t : Tree) (path : String) (octets : ByteArray) : Except SystemFault Tree :=
  match t.place path with
  | .error fault => .error fault
  | .ok place =>
    match t.node? place with
    | none =>
      if path.toList.getLast? = some '/' then .error .isDirectory
      else .ok (t.put place (.file 0o644 octets))
    | some (.file mode _) =>
      if path.toList.getLast? = some '/' then .error .notDirectory
      else .ok (t.put place (.file mode octets))
    | some (.directory _) => .error .isDirectory
    | some (.socket _ _) => .error .noDevice

/-- Makes a directory. -/
def makeDirectory (t : Tree) (path : String) : Except SystemFault Tree :=
  match t.place path with
  | .error fault => .error fault
  | .ok place =>
    match t.node? place with
    | some _ => .error .alreadyExists
    | none => .ok (t.put place (.directory 0o755))

/-- Makes the directories that some names lead through. -/
def makeAlong (t : Tree) (place : List String) : List String → Except SystemFault Tree
  | [] => .ok t
  | name :: rest =>
    let next := follow place name
    match t.node? next with
    | some (.directory _) => makeAlong t next rest
    | some _ => .error (if rest.isEmpty then .alreadyExists else .notDirectory)
    | none => makeAlong (t.put next (.directory 0o755)) next rest

/-- Makes a directory and those that it lies in, as far as they are missing. -/
def makeDirectories (t : Tree) (path : String) : Except SystemFault Tree :=
  if path.isEmpty then .ok t
  else
    match checkPath path with
    | .error fault => .error fault
    | .ok () => t.makeAlong (t.start path) (Path.names path)

/-- Changes the permission bits at a path. -/
def setMode (t : Tree) (path : String) (mode : Nat) : Except SystemFault Tree :=
  match t.stat path, t.place path with
  | .ok node, .ok place => .ok (t.put place (node.withMode mode))
  | .error fault, _ => .error fault
  | _, .error fault => .error fault

/-- Removes a file or a socket. -/
def unlink (t : Tree) (path : String) : Except SystemFault Tree :=
  match t.stat path, t.place path with
  | .ok (.directory _), _ => .error .isDirectory
  | .ok _, .ok place => .ok (t.remove place)
  | .error fault, _ => .error fault
  | _, .error fault => .error fault

/-- Makes a socket. -/
def bindSocket (t : Tree) (path : String) (id : Nat) : Except SystemFault Tree :=
  match t.place path with
  | .error fault => .error fault
  | .ok place =>
    match t.node? place with
    | some _ => .error .addressInUse
    | none =>
      if path.toList.getLast? = some '/' then .error .noEntry
      else .ok (t.put place (.socket 0o755 id))

/-- The socket at a path, if it is one that is listened on. -/
def connect (t : Tree) (listening : Nat → Bool) (path : String) :
    Except SystemFault Nat :=
  match t.stat path with
  | .ok (.socket _ id) => if listening id then .ok id else .error .refused
  | .ok _ => .error .refused
  | .error fault => .error fault

/-- Puts a file at a path with the directories that it lies in. -/
def plant (t : Tree) (path : String) (node : Node) : Tree :=
  let names := Path.names path
  let start := t.start path
  let t := match t.makeAlong start names.dropLast with
    | .ok t => t
    | .error _ => t
  t.put (names.foldl follow start) node

/-- The places below a place with their permission bits, in order of the names along their
paths. -/
def listing (t : Tree) (place : List String) : List (String × Nat) :=
  let start := key place ++ "/"
  let below := t.nodes.entries.filter fun e => (after? start.toList e.1.toList).isSome
  (below.map fun e => (e.1, e.2.mode)).mergeSort fun a b => Path.notAfter a.1 b.1

end Tree

end CredRelay.Host
