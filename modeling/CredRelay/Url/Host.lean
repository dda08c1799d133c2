import CredRelay.Net.Address
import CredRelay.Url.DomainName
import CredRelay.Url.Percent
/-! Hosts of addresses. Under a scheme that this library knows, a host is a version 6
address in brackets, a version 4 address in any of its spellings, or a name, which is kept
in ASCII form. Under any other scheme a host is a version 6 address in brackets or a text
kept as it is. -/
namespace CredRelay.Url

open Text Net

/-- Why a text is no address. -/
inductive Fault where
  | noScheme
  | emptyHost
  | badName
  | badHostCharacter
  | badV4
  | badV6
  | badPort
  deriving DecidableEq, Repr

/-- What is said about a fault. -/
def Fault.message : Fault → String
  | .noScheme => "relative URL without a base"
  | .emptyHost => "empty host"
  | .badName => "invalid international domain name"
  | .badHostCharacter => "invalid domain character"
  | .badV4 => "invalid IPv4 address"
  | .badV6 => "invalid IPv6 address"
  | .badPort => "invalid port number"

/-- One number of a version 4 address: hexadecimal after `0x`, octal after `0`, else
decimal. -/
def v4Number? (s : List Char) : Option Nat :=
  match s with
  | '0' :: x :: rest =>
    if x = 'x' ∨ x = 'X' then if rest.isEmpty then some 0 else numeral? 16 rest
    else numeral? 8 (x :: rest)
  | s => numeral? 10 s

/-- The parts of a name between points, without an empty last one. -/
def nameParts (s : List Char) : List (List Char) :=
  let parts := s.splitOn '.'
  if parts.getLast?.any List.isEmpty then parts.dropLast else parts

/-- Whether a name must be a version 4 address: its last part is a number. -/
def endsInNumber (s : List Char) : Bool :=
  match (nameParts s).getLast? with
  | some last => (!last.isEmpty && last.all Char.isDigit) || (v4Number? last).isSome
  | none => false

/-- The version 4 address of up to four numbers, the last of which fills the octets that
are left. -/
def v4OfNumbers? (numbers : List Nat) : Option (BitVec 32) :=
  let octets := numbers.dropLast
  let last := numbers.getLastD 0
  if numbers.isEmpty ∨ 4 < numbers.length ∨ octets.any (255 < ·) ∨
      Nat.pow 256 (5 - numbers.length) ≤ last then none
  else
    let high := octets.foldl (fun n o => n * 256 + o) 0
    some (BitVec.ofNat 32 (high * Nat.pow 256 (5 - numbers.length) + last))

/-- The version 4 address that a name spells. -/
def v4OfName? (s : List Char) : Option (BitVec 32) :=
  ((nameParts s).mapM v4Number?).bind v4OfNumbers?

/-- The host in brackets, if the text has both. -/
def bracketed? (s : List Char) : Except Fault (List Char) :=
  match s with
  | '[' :: rest =>
    if rest.getLast? = some ']' then
      match v6? rest.dropLast with
      | some bits => .ok ('[' :: (groupsText (groups bits)).toList ++ [']'])
      | none => .error .badV6
    else .error .badV6
  | _ => .error .badV6

/-- The host that a text means under a known scheme. -/
def knownHost (s : List Char) : Except Fault (List Char) :=
  if s.head? = some '[' then bracketed? s
  else
    match asciiName? (percentDecode s) with
    | none => .error .badName
    | some name =>
      if name.isEmpty then .error .emptyHost
      else if endsInNumber name then
        match v4OfName? name with
        | some bits => .ok (v4Text bits).toList
        | none => .error .badV4
      else .ok name

/-- The characters that a host under an unknown scheme may not hold. -/
def isForbiddenInHost (c : Char) : Bool :=
  c == '\x00' || "\t\n\r #/:<>?@[\\]^|".toList.contains c

/-- The host that a text means under an unknown scheme. -/
def otherHost (s : List Char) : Except Fault (List Char) :=
  if s.head? = some '[' then bracketed? s
  else if s.any isForbiddenInHost then .error .badHostCharacter
  else .ok (percentEncode isControlOrWide s)

end CredRelay.Url
