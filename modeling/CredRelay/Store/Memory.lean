import CredRelay.Store.Basic
/-! A store in memory. It keeps records by identifier, remembers every call, and can be
told to fail. -/
namespace CredRelay.Memory

/-- A call of the store, with the identifier that it was about. -/
inductive Call where
  | get (id : String)
  | store (id : String)
  | erase (id : String)
  | list
  deriving DecidableEq, Repr

/-- The state of a store in memory: its records, its calls in order, and what it fails
with. -/
structure Ledger where
  records : Table Credential
  calls : List Call
  failure : Option String
  deriving DecidableEq, Repr, Inhabited

namespace Ledger

/-- A store without records and calls. -/
def empty : Ledger :=
  ⟨Table.empty, [], none⟩

/-- Files a record under its own address. -/
def insert (l : Ledger) (c : Credential) : Ledger :=
  { l with records := l.records.insert c.serverUrl c }

/-- A store that holds some records. -/
def ofRecords (records : List Credential) : Ledger :=
  records.foldl insert empty

/-- Makes every later call fail, or none. -/
def failWith (l : Ledger) (failure : Option String) : Ledger :=
  { l with failure := failure }

/-- Remembers a call. -/
def record (l : Ledger) (call : Call) : Ledger :=
  { l with calls := l.calls ++ [call] }

/-- Remembers a call and answers it, unless the store fails. -/
def enter (l : Ledger) (call : Call) (answer : Ledger → Outcome × Ledger) :
    Answer × Ledger :=
  let l := l.record call
  match l.failure with
  | some message => (.error (.helperFailed message), l)
  | none =>
    let (outcome, l) := answer l
    (.ok outcome, l)

/-- Looks a record up. -/
def get (r : Registry) (l : Ledger) : Answer × Ledger :=
  l.enter (.get r.identifier) fun l =>
    match l.records.get? r.identifier with
    | some c => (.found c, l)
    | none => (.notFound, l)

/-- Files a record under the identifier of a registry. -/
def store (r : Registry) (c : Credential) (l : Ledger) : Answer × Ledger :=
  l.enter (.store r.identifier) fun l =>
    (.completed, { l with records := l.records.insert r.identifier c })

/-- Removes a record. -/
def erase (r : Registry) (l : Ledger) : Answer × Ledger :=
  l.enter (.erase r.identifier) fun l =>
    match l.records.get? r.identifier with
    | some _ => (.completed, { l with records := l.records.erase r.identifier })
    | none => (.notFound, l)

/-- Lists the records. -/
def list (l : Ledger) : Answer × Ledger :=
  l.enter .list fun l =>
    (.listed (Table.ofList (l.records.entries.map fun e =>
      (e.2.serverUrl, e.2.username))), l)

end Ledger

/-- The store in memory. -/
def store : Store Ledger :=
  ⟨Ledger.get, Ledger.store, Ledger.erase, Ledger.list⟩

end CredRelay.Memory
