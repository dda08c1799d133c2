import CredRelay.Toml.Value
/-! Tables of a document while it is read. A key may be given once; a dotted key may only
go through tables that dotted keys or headers for inner tables brought about, and a header
may only claim a table that so far was there for its inner tables alone. -/
namespace CredRelay.Toml

/-- The entries of a table. -/
abbrev Entries := List (String × Value)

/-- The entries with the value of a key replaced or added at the end. -/
def setEntry (key : String) (v : Value) : Entries → Entries
  | [] => [(key, v)]
  | (k, w) :: rest => if k = key then (k, v) :: rest else (k, w) :: setEntry key v rest

/-- Changes the table that some keys lead to; missing tables come about on the way. The
table changed is given with its origin. -/
def changeAt (dotted : Bool) (change : Origin → Entries → Option Entries) :
    List String → Origin → Entries → Option Entries
  | [], origin, entries => change origin entries
  | key :: rest, _, entries =>
    match entries.lookup key with
    | none =>
      let origin := if dotted then Origin.dotted else Origin.parent
      (changeAt dotted change rest origin []).map fun inner =>
        setEntry key (.table origin inner) entries
    | some (.table origin inner) =>
      if origin = .inPlace ∨ (dotted ∧ origin = .header) then none
      else
        (changeAt dotted change rest origin inner).map fun inner =>
          setEntry key (.table origin inner) entries
    | some (.tables items) =>
      match items.reverse with
      | [] => none
      | last :: before =>
        (changeAt dotted change rest .header last).map fun last =>
          setEntry key (.tables (last :: before).reverse) entries
    | some _ => none

/-- Adds a value under a dotted key. The last of the tables on the way must stem from a
dotted key. -/
def addValue (path : List String) (key : String) (v : Value) (entries : Entries) :
    Option Entries :=
  changeAt true
    (fun origin entries =>
      if !path.isEmpty && origin != .dotted then none
      else if (entries.lookup key).isSome then none
      else some (entries ++ [(key, v)]))
    path .header entries

/-- A document while it is read: its tables so far, the table whose entries are being
read, the keys that lead to it, and whether it is one of several. -/
structure Draft where
  done : Entries
  current : Entries
  path : List String
  repeated : Bool

/-- The draft that nothing was read of yet. -/
def Draft.start : Draft :=
  ⟨[], [], [], false⟩

/-- Files the current table under the keys that lead to it. -/
def Draft.close? (d : Draft) : Option Entries :=
  match d.path.getLast? with
  | none => some d.current
  | some key =>
    changeAt false
      (fun _ entries =>
        match entries.lookup key with
        | none =>
          if d.repeated then some (entries ++ [(key, .tables [d.current])])
          else some (entries ++ [(key, .table .header d.current)])
        | some (.tables items) =>
          if d.repeated then some (setEntry key (.tables (items ++ [d.current])) entries)
          else none
        | some _ => none)
      d.path.dropLast .header d.done

/-- Checks that a table may be opened at some keys and takes what is already there out of
the document. -/
def claim? (repeated : Bool) (path : List String) (key : String) (entries : Entries) :
    Option (Entries × Entries) :=
  let found := changeAt false (fun _ inner => some inner) path .header entries
  let inner := findAt path entries
  match inner.lookup key with
  | none => found.map fun entries => (entries, [])
  | some (.table .parent inside) =>
    if repeated then none
    else
      (changeAt false (fun _ inner => some (inner.filter (fun e => e.1 != key)))
        path .header entries).map fun entries => (entries, inside)
  | some (.tables _) => if repeated then found.map fun entries => (entries, []) else none
  | some _ => none
where
  /-- The entries that some keys lead to. -/
  findAt : List String → Entries → Entries
    | [], entries => entries
    | key :: rest, entries =>
      match entries.lookup key with
      | some (.table _ inner) => findAt rest inner
      | some (.tables items) => findAt rest (items.getLastD [])
      | _ => []

/-- Opens the table of a header. -/
def Draft.open? (d : Draft) (repeated : Bool) (path : List String) : Option Draft :=
  match d.close?, path.getLast? with
  | some done, some key =>
    (claim? repeated path.dropLast key done).map fun (done, inside) =>
      ⟨done, inside, path, repeated⟩
  | _, _ => none

/-- Adds an entry to the current table. -/
def Draft.add? (d : Draft) (path : List String) (v : Value) : Option Draft :=
  match path.getLast? with
  | some key => (addValue path.dropLast key v d.current).map fun current =>
    { d with current }
  | none => none

end CredRelay.Toml
