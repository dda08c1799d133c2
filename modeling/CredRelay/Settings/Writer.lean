import CredRelay.Host.FileTree
import CredRelay.Settings.Reader
import CredRelay.Toml.Printer
/-! Writing settings. Each group is a table; texts that are not given are left out.
Numbers that are too large for the format are refused. -/
namespace CredRelay.Settings

open Toml Host

/-- The largest number that can be written. -/
def countLimit : Nat := 9223372036854775807

/-- What is said of a number that is too large to be written. -/
def countTooLarge : String := "out-of-range value for u64 type"

/-- A line for a text, if it is given. -/
def optionalPair (key : String) : Option String → List Char
  | some s => writtenPair key (writtenText s.toList)
  | none => []

/-- A line for a number. -/
def countPair (key : String) (n : Nat) : List Char :=
  writtenPair key (Text.decimal n).toList

/-- The settings as they are written. -/
def written (s : Settings) : List Char :=
  writtenHeader "bridge" ++ optionalPair "root_dir" s.rootDir ++
    writtenPair "transport" (writtenText s.transport.text.toList) ++
    countPair "read_timeout_secs" s.readTimeout ++
    countPair "helper_timeout_secs" s.helperTimeout ++
    countPair "max_request_bytes" s.maxRequestBytes ++ ['\n'] ++
    writtenHeader "tcp" ++ writtenPair "listen" (writtenText s.listen.toList) ++
    writtenPair "allowed_networks" (writtenTexts s.allowedNetworks) ++ ['\n'] ++
    writtenHeader "helpers" ++ optionalPair "docker_config" s.helperConfig ++
    writtenPair "search_dirs" (writtenTexts s.searchDirs) ++
    writtenPair "fallback_dirs" (writtenTexts s.fallbackDirs)

/-- The text of settings, if all their numbers can be written. -/
def toText (s : Settings) : Except SettingsFault String :=
  if countLimit < s.readTimeout ∨ countLimit < s.helperTimeout ∨
      countLimit < s.maxRequestBytes then
    .error (.unwritableValue countTooLarge)
  else .ok (String.ofList s.written)

/-- The settings in a file of a tree. One that is not there at all counts as missing. -/
def loadFrom (tree : Tree) (path : String) : Except SettingsFault Settings :=
  if tree.has path then load path (tree.readText path) else .ok default

/-- Writes settings to a file of a tree and makes the directories it lies in. The tree is
given back also where writing fails. -/
def saveTo (s : Settings) (tree : Tree) (path : String) :
    Except SettingsFault Unit × Tree :=
  match tree.makeDirectories ((Path.parent? path).getD "") with
  | .error fault => (.error (.unwritable path fault.message), tree)
  | .ok tree =>
    match s.toText with
    | .error fault => (.error fault, tree)
    | .ok text =>
      match tree.write path text.toUTF8 with
      | .ok tree => (.ok (), tree)
      | .error fault => (.error (.unwritable path fault.message), tree)

end CredRelay.Settings
