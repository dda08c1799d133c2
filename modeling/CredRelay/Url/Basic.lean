import CredRelay.Text.Blank
import CredRelay.Url.Host
import CredRelay.Url.Path
import CredRelay.Url.Query
/-! Addresses of resources. A text is first cleaned and parted into what stands before the
query, the query, and whether a fragment follows; the front is then read as a scheme and,
where two slashes follow it, a host with an optional port, and a path. -/
namespace CredRelay.Url

open Text

/-- Controls and the space, which are dropped at both ends of an address. -/
def isControlOrSpace (c : Char) : Bool :=
  c.toNat ≤ 0x20

/-- Tabs and line ends, which are dropped anywhere in an address. -/
def isLayout (c : Char) : Bool :=
  c == '\t' || c == '\n' || c == '\r'

/-- The text of an address without what is dropped from it. -/
def clean (s : List Char) : List Char :=
  (trimWhere isControlOrSpace s).filter (fun c => !isLayout c)

/-- An address before it is read: its front, its query, and whether anything stands after
the front. -/
structure Parts where
  front : List Char
  query : Option (List Char)
  more : Bool
  deriving DecidableEq, Repr

/-- The part of a text before its fragment. -/
def beforeFragment (s : List Char) : List Char :=
  s.takeWhile (· != '#')

/-- Parts a text at its first question mark and its first hash sign. -/
def Parts.ofChars (s : List Char) : Parts :=
  let text := clean s
  let body := beforeFragment text
  match cut '?' body with
  | some (front, query) => ⟨front, some query, true⟩
  | none => ⟨body, none, body.length < text.length⟩

/-- An address as it was read. The port is given only where it is not the usual one of the
scheme. -/
structure Location where
  scheme : List Char
  host : Option (List Char)
  port : Option Nat
  path : List Char
  deriving DecidableEq, Repr

/-- The usual port of a scheme, where it has one. -/
def usualPort? (scheme : List Char) : Option Nat :=
  [("http", 80), ("https", 443), ("ws", 80), ("wss", 443), ("ftp", 21)].lookup
    (String.ofList scheme)

/-- Whether a scheme is known to take a host. -/
def isKnown (scheme : List Char) : Bool :=
  (usualPort? scheme).isSome

/-- Whether a character may stand in a scheme after its first letter. -/
def isSchemeCharacter (c : Char) : Bool :=
  c.isAlphanum || c == '+' || c == '-' || c == '.'

/-- The scheme of an address, in small letters, and what stands after its colon. -/
def scheme? (front : List Char) : Option (List Char × List Char) :=
  match cut ':' front with
  | some (scheme, rest) =>
    if scheme.head?.any Char.isAlpha && scheme.all isSchemeCharacter then
      some (scheme.map Char.toLower, rest)
    else none
  | none => none

/-- The number of characters before the end of a host: a colon outside brackets or a
slash. -/
def hostLength (isSlash : Char → Bool) (bracket : Bool) : List Char → Nat
  | [] => 0
  | c :: rest =>
    if isSlash c || (c == ':' && !bracket) then 0
    else hostLength isSlash (c == '[' || (bracket && c != ']')) rest + 1

/-- What stands before and after the last at sign of an authority. -/
def cutUser (authority : List Char) : Option (List Char × List Char) :=
  if authority.contains '@' then
    let host := (authority.reverse.takeWhile (· != '@')).reverse
    some (authority.take (authority.length - host.length - 1), host)
  else none

/-- Reads a port up to a slash. A missing one is none. -/
def readPort (s : List Char) : Except Fault (Option Nat × List Char) :=
  let digits := s.takeWhile Char.isDigit
  let rest := s.dropWhile Char.isDigit
  let port := (numeral? 10 digits).getD 0
  if 65535 < port then .error .badPort
  else if rest.head?.any (fun c => c != '/' && c != '\\') then .error .badPort
  else .ok (if digits.isEmpty then none else some port, rest)

/-- Parts what stands after the two slashes of an address into the user and the rest;
`more` tells whether a query or a fragment follows. A user that is there but empty must be
followed by something. -/
def readUser (isSlash : Char → Bool) (more : Bool) (s : List Char) :
    Except Fault (List Char × List Char) :=
  let authority := s.takeWhile (fun c => !isSlash c)
  match cutUser authority with
  | none => .ok ([], s)
  | some (user, host) =>
    let rest := s.drop (authority.length - host.length)
    if user.isEmpty && (rest.head?.any isSlash || (rest.isEmpty && more)) then
      .error .emptyHost
    else .ok (user, rest)

/-- The host that a text means; `known` tells whether the scheme is a known one. -/
def readHost (known : Bool) (s : List Char) : Except Fault (List Char) :=
  if known then if s.isEmpty then .error .emptyHost else knownHost s else otherHost s

/-- Reads the port that may follow a host. -/
def readPortAfter (host : List Char) : List Char → Except Fault (Option Nat × List Char)
  | ':' :: digits => if host.isEmpty then .error .emptyHost else readPort digits
  | after => .ok (none, after)

/-- Reads the host, the port and the path after the two slashes of an address; `more`
tells whether a query or a fragment follows. -/
def readAuthority (scheme : List Char) (more : Bool) (s : List Char) :
    Except Fault Location := do
  let known := isKnown scheme
  let isSlash := fun c => c == '/' || (known && c == '\\')
  let (user, rest) ← readUser isSlash more s
  let n := hostLength isSlash false rest
  let host ← readHost known (rest.take n)
  let (port, after) ← readPortAfter host (rest.drop n)
  if host.isEmpty && !(user.isEmpty || user == [':']) then .error .emptyHost
  else return {
    scheme := scheme
    host := if host.isEmpty then none else some host
    port := if port == usualPort? scheme then none else port
    path := pathText known after }

/-- Whether a host of a file is the letter of a drive instead. -/
def isDriveHost : List Char → Bool
  | [a, b] => a.isAlpha && (b == ':' || b == '|')
  | _ => false

/-- Reads what stands after the colon of an address of a file. -/
def readFile (scheme : List Char) (s : List Char) : Except Fault Location := do
  let isSlash := fun c => c == '/' || c == '\\'
  let bare : Location := ⟨scheme, none, none, pathText true s⟩
  match s with
  | a :: b :: rest =>
    if isSlash a && isSlash b then
      let text := rest.takeWhile (fun c => !isSlash c)
      if text.isEmpty || isDriveHost text then return bare
      let host ← knownHost text
      return { bare with
        host := if host == "localhost".toList then none else some host
        path := pathText true (rest.drop text.length) }
    else return bare
  | _ => return bare

/-- Reads what stands after the colon of an address. -/
def readAfterScheme (scheme : List Char) (more : Bool) (s : List Char) :
    Except Fault Location :=
  if scheme == "file".toList then readFile scheme s
  else if isKnown scheme then
    readAuthority scheme more (s.dropWhile (fun c => c == '/' || c == '\\'))
  else
    match s with
    | '/' :: '/' :: rest => readAuthority scheme more rest
    | _ => .ok ⟨scheme, none, none, s⟩

/-- The address that a parted text means. -/
def Parts.read (parts : Parts) : Except Fault Location :=
  match scheme? parts.front with
  | some (scheme, rest) => readAfterScheme scheme parts.more rest
  | none => .error .noScheme

theorem dropWhile_sublist_dropWhile {p : Char → Bool} {s t : List Char}
    (h : s.Sublist t) : (s.dropWhile p).Sublist (t.dropWhile p) := by
  induction h with
  | slnil => simp
  | cons a h ih =>
    rw [List.dropWhile_cons]
    split
    · exact ih
    · exact (List.dropWhile_sublist _).trans (h.cons a)
  | cons_cons a h ih =>
    rw [List.dropWhile_cons, List.dropWhile_cons]
    split
    · exact ih
    · exact h.cons_cons a

theorem clean_sublist (s : List Char) : (clean s).Sublist s :=
  List.filter_sublist.trans (trimWhere_sublist _ s)

/-- A query is shorter than what stands after the first question mark, that mark
included. -/
theorem Parts.query_length_lt {s query : List Char}
    (h : (Parts.ofChars s).query = some query) :
    query.length < (s.dropWhile (fun c => !(c == '?'))).length := by
  unfold Parts.ofChars at h
  simp only at h
  split at h
  · next front q hc =>
    cases h
    unfold cut cutWhere at hc
    split at hc
    · cases hc
    · next c rest hd =>
      cases hc
      have hs : (beforeFragment (clean s)).Sublist s :=
        (List.takeWhile_sublist _).trans (clean_sublist s)
      have hl := (dropWhile_sublist_dropWhile (p := fun c => !(c == '?')) hs).length_le
      rw [hd, List.length_cons] at hl
      omega
  · cases h

end CredRelay.Url
