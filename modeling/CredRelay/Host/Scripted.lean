import CredRelay.Host.Site
/-! A machine whose programs follow a script, so that the relay can be tried without
helpers of its own. A program answers each verb in a fixed way and has its calls
remembered, or it keeps credentials as a helper would, or it does nothing at all. -/
namespace CredRelay.Host

open Text

/-- How a scripted program answers a verb: what it writes, the code it ends with unless a
signal ends it, whether it ends at all, and whether it reads its input. -/
structure Response where
  output : ByteArray
  errors : ByteArray
  code : Option Nat
  ends : Bool
  reads : Bool

/-- A program of the machine. -/
inductive Program where
  | scripted (name : String) (respond : Command → Response)
  | keeper
  | idle
  | broken

/-- A call of a scripted program that read its input. -/
structure Called where
  name : String
  verb : Command
  input : ByteArray

/-- A machine: its files and sockets, programs by their place, what the keepers among them
have kept, and the calls so far, last first. -/
structure Scripted where
  site : Site
  programs : Table Program
  kept : Table (List UInt8)
  log : List Called

namespace Scripted

/-- A machine without programs. -/
def ofTree (tree : Tree) : Scripted :=
  ⟨Site.ofTree tree, Table.empty, Table.empty, []⟩

/-- The files of a machine. -/
def tree (m : Scripted) : Tree :=
  m.site.tree

/-- A machine with other files. -/
def withTree (m : Scripted) (tree : Tree) : Scripted :=
  { m with site := { m.site with tree } }

/-- The calls so far, in order. -/
def calls (m : Scripted) : List Called :=
  m.log.reverse

/-- The key of a path. -/
def keyOf (m : Scripted) (path : String) : String :=
  match m.tree.place path with
  | .ok place => Tree.key place
  | .error _ => path

/-- Puts a program at a path. -/
def install (m : Scripted) (path : String) (mode : Nat) (program : Program) : Scripted :=
  let m := m.withTree (m.tree.plant path (.file mode ByteArray.empty))
  { m with programs := m.programs.insert (m.keyOf path) program }

/-- What a keeper says about a credential that it does not have. -/
def absentText : String := "credentials not found in native keychain\n"

/-- A run that ended with a code after writing something. -/
def ended (code : Nat) (output : List UInt8) : Run :=
  .ended (some code) ⟨output.toArray⟩ ByteArray.empty

/-- Whether an octet stays in the name of a kept entry. -/
def staysInName (b : UInt8) : Bool :=
  let c := Char.ofNat b.toNat
  b < 128 && (c.isAlphanum || c == '.' || c == '-')

/-- The name under which an entry for an address is kept. -/
def entryName (address : List UInt8) : String :=
  String.ofList (address.map fun b => if staysInName b then Char.ofNat b.toNat else '_')

/-- Where a keeper keeps its entry for an address. -/
def entryKey (place : String) (address : List UInt8) : String :=
  place ++ "\n" ++ entryName address

/-- Octets without line feeds at the end. -/
def withoutFinalBreaks (octets : List UInt8) : List UInt8 :=
  (octets.reverse.dropWhile (· == 10)).reverse

/-- What stands before an address in a record. -/
def addressMark : List UInt8 :=
  "\"ServerURL\":\"".toUTF8.toList

/-- The octets after `start`, where some begin so. -/
def afterOctets? : List UInt8 → List UInt8 → Option (List UInt8)
  | [], s => some s
  | a :: start, b :: s => if a == b then afterOctets? start s else none
  | _ :: _, [] => none

/-- The octets up to the next quote. -/
def quoted? (octets : List UInt8) : Option (List UInt8) :=
  let before := octets.takeWhile (· != 34)
  if before.length < octets.length then some before else none

/-- The last address that a line names. -/
def addressIn? : List UInt8 → Option (List UInt8)
  | [] => none
  | b :: rest =>
    match addressIn? rest with
    | some address => some address
    | none => (afterOctets? addressMark (b :: rest)).bind quoted?

/-- The addresses that a text names, one to a line. -/
def addressesIn (octets : List UInt8) : List UInt8 :=
  [(10 : UInt8)].intercalate ((octets.splitOn 10).filterMap addressIn?)

/-- Runs a keeper that stands at a place. -/
def runKeeper (place : String) (verb : Command) (input : List UInt8) (m : Scripted) :
    Run × Scripted :=
  let operand := withoutFinalBreaks input
  let key := entryKey place operand
  match verb with
  | .list => (ended 0 "\x7b\x7d\n".toUTF8.toList, m)
  | .store =>
    let address := withoutFinalBreaks (addressesIn operand)
    if address.isEmpty then (ended 1 "missing ServerURL\n".toUTF8.toList, m)
    else (ended 0 [], { m with kept := m.kept.insert (entryKey place address) operand })
  | .get =>
    match m.kept.get? key with
    | some entry => (ended 0 entry, m)
    | none => (ended 1 absentText.toUTF8.toList, m)
  | .erase =>
    match m.kept.get? key with
    | some _ => (ended 0 [], { m with kept := m.kept.erase key })
    | none => (ended 1 absentText.toUTF8.toList, m)

/-- Runs a scripted program. -/
def runScript (name : String) (response : Response) (verb : Command) (input : ByteArray)
    (m : Scripted) : Run × Scripted :=
  if !response.ends then (.unended, m)
  else
    let log := if response.reads then ⟨name, verb, input⟩ :: m.log else m.log
    (.ended response.code response.output response.errors, { m with log })

/-- Runs a program at a path. -/
def runProgram (path : String) (verb : Command) (input : ByteArray) (m : Scripted) :
    Run × Scripted :=
  match m.programs.get? (m.keyOf path) with
  | some (.scripted name respond) => runScript name (respond verb) verb input m
  | some .keeper => runKeeper (m.keyOf path) verb input.toList m
  | some .idle | none => (ended 0 [], m)
  | some .broken => (.refused SystemFault.noEntry.message, m)

/-- Runs what stands at a path, if it is a program. -/
def run (path : String) (verb : Command) (input : ByteArray) (m : Scripted) :
    Run × Scripted :=
  match m.tree.stat path with
  | .error fault => (.refused fault.message, m)
  | .ok (.file mode _) =>
    if mode &&& 0o111 = 0 then (.refused SystemFault.denied.message, m)
    else runProgram path verb input m
  | .ok _ => (.refused SystemFault.denied.message, m)

/-- The machine as the relay sees it. -/
def machine : Machine Scripted where
  readText m path := m.tree.readText path
  isProgram m path := m.tree.isProgram path
  run := run

end Scripted

end CredRelay.Host
