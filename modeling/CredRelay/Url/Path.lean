import CredRelay.Text.Cut
import CredRelay.Url.Percent
/-! Paths of addresses: segments between slashes. A segment of one dot is dropped and one
of two dots takes the segment before it away, except one that looks like the letter of a
drive; either of them at the end leaves an empty segment. -/
namespace CredRelay.Url

open Text

/-- The characters of a path that are written as escapes. -/
def isEscapedInPath (c : Char) : Bool :=
  isControlOrWide c || " \"#<>?\x60\x7b\x7d".toList.contains c

/-- A segment with the escapes of dots decoded, and nothing else. -/
def decodeDots : List Char → List Char
  | '%' :: '2' :: e :: rest =>
    if e = 'e' ∨ e = 'E' then '.' :: decodeDots rest else '%' :: decodeDots
      ('2' :: e :: rest)
  | c :: rest => c :: decodeDots rest
  | [] => []

/-- Whether a segment stands for its own level. -/
def isHere (segment : List Char) : Bool :=
  decodeDots segment == ['.']

/-- Whether a segment stands for the level above. -/
def isAbove (segment : List Char) : Bool :=
  decodeDots segment == ['.', '.']

/-- Whether a segment starts like the letter of a drive: a letter, then a colon or a bar,
then nothing or a backslash. -/
def isDrive : List Char → Bool
  | [a, b] => a.isAlpha && (b == ':' || b == '|')
  | a :: b :: c :: _ => a.isAlpha && (b == ':' || b == '|') && c == '\\'
  | _ => false

/-- Takes one segment onto a path; `above` holds the segments before it, last first. -/
def takeSegment (above : List (List Char)) (segment : List Char) : List (List Char) :=
  if isAbove segment then
    match above with
    | [] => []
    | last :: rest => if isDrive last then last :: rest else rest
  else if isHere segment then above
  else segment :: above

/-- The segments of a path after dots are resolved. -/
def resolveDots (segments : List (List Char)) : List (List Char) :=
  let taken := segments.foldl takeSegment []
  let last := segments.getLastD []
  (if isHere last || isAbove last then [] :: taken else taken).reverse

/-- The path that a text means; `known` tells whether backslashes count as slashes and
whether the path is there at all times. -/
def pathText (known : Bool) (s : List Char) : List Char :=
  let isSlash := fun c => c == '/' || (known && c == '\\')
  if !known && s.isEmpty then []
  else
    let rest := if s.head?.any isSlash then s.drop 1 else s
    let segments := (rest.splitOnP isSlash).map (percentEncode isEscapedInPath)
    '/' :: ['/'].intercalate (resolveDots segments)

end CredRelay.Url
