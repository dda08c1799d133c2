import CredRelay.Text.Cut
/-! Paths of files: names between slashes. A path that starts with a slash counts from the
root, any other from the directory of the reader. -/
namespace CredRelay.Path

/-- A path followed from a directory. -/
def join (directory path : String) : String :=
  if path.toList.head? = some '/' then path
  else if directory.isEmpty then path
  else if directory.toList.getLast? = some '/' then directory ++ path
  else directory ++ "/" ++ path

/-- Whether a path counts from the root. -/
def isAbsolute (path : String) : Bool :=
  path.toList.head? == some '/'

/-- The names along a path, without empty ones and those that stay in place. -/
def names (path : String) : List String :=
  ((path.toList.splitOn '/').map String.ofList).filter (fun n => !n.isEmpty && n != ".")

/-- A path of some names, from the root or not. -/
def ofNames (absolute : Bool) (names : List String) : String :=
  (if absolute then "/" else "") ++ Text.joinWith "/" names

/-- The directory that a path lies in; none for the root and for the empty path. A path
that starts with a dot keeps it. -/
def parent? (path : String) : Option String :=
  let dot :=
    !isAbsolute path && (path == "." || (Text.after? ['.', '/'] path.toList).isSome)
  let all := if dot then "." :: names path else names path
  if all.isEmpty then none else some (ofNames (isAbsolute path) all.dropLast)

/-- The names along a path, each as the numbers of its characters. -/
def codes (path : String) : List (List Nat) :=
  (names path).map fun n => n.toList.map Char.toNat

/-- Whether a path does not stand after another one: paths are ordered by their names, and
names by their characters, so that a directory stands before what lies in it. -/
def notAfter (a b : String) : Bool :=
  !(codes b).lex (codes a) (fun x y => x.lex y Nat.blt)

end CredRelay.Path
