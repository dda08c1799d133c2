import CredRelay.Text.Cut
import CredRelay.Unicode.Composed
import CredRelay.Unicode.Direction
import CredRelay.Unicode.HostMapping
import CredRelay.Unicode.Joining
import CredRelay.Url.Punycode
/-! Names of hosts in ASCII form. A name is mapped character by character and put into
composed normal form; each of its labels that is not ASCII is then checked and written in
Punycode behind `xn--`. A label that comes as Punycode must be what its own text would be
written as. -/
namespace CredRelay.Url

open Unicode

/-- The ASCII characters that no name of a host may hold. -/
def isForbiddenInName (c : Char) : Bool :=
  c.toNat ≤ 0x20 || c.toNat == 0x7F || "%#/:<>?@[\\]^|".toList.contains c

/-- Whether a character is ASCII. -/
def isAscii (c : Char) : Bool :=
  c.toNat < 0x80

/-- What a character stands for in a name; nothing if it is not admitted. -/
def nameCharacter? (c : Char) : Option (List Char) :=
  let n := c.toNat
  if n < 0x80 then some [c.toLower]
  else if Range.holds omittedRanges c then some []
  else
    match substitutions.find? fun e => e.1.has n with
    | some (r, target) => some [Char.ofNat (target + (n - r.first))]
    | none =>
      match spellings.lookup n with
      | some targets => some (targets.map Char.ofNat)
      | none => if Range.holds refusedRanges c then none else some [c]

/-- A name with every character mapped, in composed normal form. -/
def mappedName? (s : List Char) : Option (List Char) :=
  (s.mapM nameCharacter?).map fun parts => composed parts.flatten

/-- Whether a joiner may stand between the characters before it, last first, and those
after it. A joiner may follow a vowel killer; one that parts letters may also stand
between letters that would join. -/
def joinerFits (joiner : Char) (before after : List Char) : Bool :=
  match before with
  | [] => false
  | b :: _ =>
    isVirama b ||
      (joiner == '\u200C' &&
        ((before.dropWhile isTransparent).head?.any joinsLeft) &&
        ((after.dropWhile isTransparent).head?.any joinsRight))

/-- Whether every joiner of a label fits its place; `before` is what was passed, last
first. -/
def joinersFit (before : List Char) : List Char → Bool
  | [] => true
  | c :: rest =>
    (if c == '\u200C' || c == '\u200D' then joinerFits c before rest else true) &&
      joinersFit (c :: before) rest

/-- Whether the text of a label may stand in a name: it starts with no mark, is not
Punycode itself, and its joiners fit. -/
def labelFits (label : List Char) : Bool :=
  !label.head?.any isMark && (Text.after? "xn--".toList label).isNone &&
    joinersFit [] label

/-- Whether a direction class runs right to left. -/
def runsRightToLeft (d : Direction) : Bool :=
  d == .rightToLeft || d == .arabicLetter || d == .arabicNumber

/-- The direction classes that may stand in any label. -/
def isNeutral (d : Direction) : Bool :=
  [.europeanNumber, .europeanSeparator, .commonSeparator, .europeanTerminator,
    .otherNeutral, .boundaryNeutral, .nonspacingMark].contains d

/-- Whether a label keeps to one direction: its first letter decides it, the other
characters suit it, and its last one, marks apart, ends it. -/
def keepsDirection (label : List Char) : Bool :=
  let classes := label.map direction
  let last := (classes.reverse.dropWhile (· == .nonspacingMark)).head?
  match classes.head? with
  | none => true
  | some .leftToRight =>
    classes.all (fun d => d == .leftToRight || isNeutral d) &&
      last.any (fun d => d == .leftToRight || d == .europeanNumber)
  | some first =>
    (first == .rightToLeft || first == .arabicLetter) &&
      classes.all (fun d => runsRightToLeft d || isNeutral d) &&
      last.any (fun d => runsRightToLeft d || d == .europeanNumber) &&
      !(classes.contains .europeanNumber && classes.contains .arabicNumber)

/-- One label: its text and its ASCII form. -/
structure Label where
  text : List Char
  ascii : List Char

/-- The label that a mapped text makes. -/
def Label.ofMapped? (s : List Char) : Option Label :=
  match Text.after? "xn--".toList s with
  | some rest =>
    if rest.length > 2000 || !rest.all isAscii then none
    else
      match Punycode.decode? rest with
      | some text =>
        if text.any (fun c => !isAscii c) && mappedName? text == some text &&
            labelFits text then
          some ⟨text, s⟩
        else none
      | none => none
  | none =>
    if s.all isAscii then some ⟨s, s⟩
    else if s.length ≤ 1000 && labelFits s then
      some ⟨s, "xn--".toList ++ Punycode.encode s⟩
    else none

/-- The ASCII form of a name that holds other characters or Punycode. -/
def internationalName? (s : List Char) : Option (List Char) := do
  let mapped ← mappedName? s
  let labels ← (mapped.splitOn '.').mapM Label.ofMapped?
  if labels.any (fun l => l.text.any (fun c => runsRightToLeft (direction c))) &&
      !labels.all (fun l => keepsDirection l.text) then none
  else some (['.'].intercalate (labels.map (·.ascii)))

/-- Whether a name is ASCII without Punycode labels. -/
def isPlainName (s : List Char) : Bool :=
  s.all isAscii &&
    ((s.map Char.toLower).splitOn '.').all (fun l => (Text.after? "xn--".toList l).isNone)

/-- The ASCII form of the name of a host. -/
def asciiName? (s : List Char) : Option (List Char) := do
  let name ← if isPlainName s then some (s.map Char.toLower) else internationalName? s
  if name.any isForbiddenInName then none else some name

end CredRelay.Url
