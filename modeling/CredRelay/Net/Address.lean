import CredRelay.Text.Cut
import CredRelay.Text.Numeral
/-! Internet addresses, version 4 and version 6, their usual spellings, and the socket
addresses built from them. Version 4 is read and written as four decimal octets without
leading zeros. Version 6 is read in groups of hexadecimal digits, where one run of zero
groups may be left out and the last two groups may be spelled as a version 4 address. -/
namespace CredRelay.Net

open Text

/-- An internet address of either version. -/
inductive Address where
  | v4 (bits : BitVec 32)
  | v6 (bits : BitVec 128)
  deriving DecidableEq, Repr

/-- One octet of a version 4 address: no leading zero, at most 255. -/
def octet? (s : List Char) : Option Nat :=
  match numeral? 10 s with
  | some n => if n ≤ 255 ∧ (s.length = 1 ∨ s.head? ≠ some '0') then some n else none
  | none => none

/-- The four octets of a version 4 address. -/
def octets? (s : List Char) : Option (Nat × Nat × Nat × Nat) :=
  match s.splitOn '.' with
  | [a, b, c, d] =>
    match octet? a, octet? b, octet? c, octet? d with
    | some a, some b, some c, some d => some (a, b, c, d)
    | _, _, _, _ => none
  | _ => none

/-- The bits of a version 4 address. -/
def v4? (s : List Char) : Option (BitVec 32) :=
  (octets? s).map fun (a, b, c, d) =>
    BitVec.ofNat 32 (((a * 256 + b) * 256 + c) * 256 + d)

/-- One group of a version 6 address: up to four hexadecimal digits. -/
def group? (s : List Char) : Option Nat :=
  if s.length ≤ 4 then numeral? 16 s else none

/-- The groups spelled by texts that stood between colons. With `tail`, the last may be a
version 4 address, which makes two groups. -/
def groups? (tail : Bool) : List (List Char) → Option (List Nat)
  | [] => some []
  | [s] =>
    match group? s with
    | some g => some [g]
    | none =>
      if tail then (octets? s).map fun (a, b, c, d) =>
        [a * 256 + b, c * 256 + d] else none
  | s :: rest =>
    match group? s, groups? tail rest with
    | some g, some gs => some (g :: gs)
    | _, _ => none

/-- The groups on one side of a left-out run, which may be none. -/
def sideGroups? (tail : Bool) (s : List Char) : Option (List Nat) :=
  if s.isEmpty then some [] else groups? tail (s.splitOn ':')

/-- The eight groups of a version 6 address. A left-out run stands for at least one
group. -/
def eightGroups? (s : List Char) : Option (List Nat) :=
  match cutText [':', ':'] s with
  | none =>
    match groups? true (s.splitOn ':') with
    | some gs => if gs.length = 8 then some gs else none
    | none => none
  | some (left, right) =>
    match sideGroups? false left, sideGroups? true right with
    | some l, some r =>
      if l.length + r.length ≤ 7 then
        some (l ++ List.replicate (8 - l.length - r.length) 0 ++ r)
      else none
    | _, _ => none

/-- The bits of a version 6 address. -/
def v6? (s : List Char) : Option (BitVec 128) :=
  (eightGroups? s).map fun gs => BitVec.ofNat 128 (gs.foldl (fun n g => n * 65536 + g) 0)

/-- The address that a text spells. -/
def Address.ofChars? (s : List Char) : Option Address :=
  match v4? s with
  | some bits => some (.v4 bits)
  | none => (v6? s).map .v6

/-- The address that a text spells. -/
def Address.ofString? (s : String) : Option Address :=
  Address.ofChars? s.toList

/-- Four decimal octets with points between. -/
def v4Text (bits : BitVec 32) : String :=
  let n := bits.toNat
  joinWith "." [decimal (n / 16777216), decimal (n / 65536 % 256),
    decimal (n / 256 % 256), decimal (n % 256)]

/-- The eight groups of a version 6 address, first to last. -/
def groups (bits : BitVec 128) : List Nat :=
  (List.range 8).map fun i => (bits.toNat >>> (16 * (7 - i))) % 65536

/-- How many groups at the front are zero. -/
def zeroRun (gs : List Nat) : Nat :=
  (gs.takeWhile (· == 0)).length

/-- Where the longest run of zero groups starts and how long it is; the first of
equals. -/
def longestZeroRun (gs : List Nat) : Nat × Nat :=
  (List.range gs.length).foldl
    (fun (best : Nat × Nat) i =>
      let n := zeroRun (gs.drop i)
      if best.2 < n then (i, n) else best)
    (0, 0)

/-- Groups in hexadecimal with colons between; the longest run of two or more zero groups
is left out. -/
def groupsText (gs : List Nat) : String :=
  let colons := fun (l : List Nat) => joinWith ":" (l.map hexadecimal)
  let (start, n) := longestZeroRun gs
  if n < 2 then colons gs else colons (gs.take start) ++ "::" ++ colons
    (gs.drop (start + n))

/-- The version 4 address inside a version 6 address of the form `::ffff:a.b.c.d`. -/
def mapped? (bits : BitVec 128) : Option (BitVec 32) :=
  if bits.toNat / 4294967296 = 65535 then some (bits.setWidth 32) else none

/-- A version 6 address, with an inner version 4 address spelled as such. -/
def v6Text (bits : BitVec 128) : String :=
  match mapped? bits with
  | some inner => "::ffff:" ++ v4Text inner
  | none => groupsText (groups bits)

/-- The usual spelling of an address. -/
def Address.text : Address → String
  | .v4 bits => v4Text bits
  | .v6 bits => v6Text bits

/-- Whether an address names the machine itself. -/
def Address.isLoopback : Address → Bool
  | .v4 bits => bits.toNat / 16777216 == 127
  | .v6 bits => bits.toNat == 1

/-- Where a socket listens. The scope belongs to version 6 addresses and is zero
elsewhere. -/
structure SocketAddress where
  address : Address
  scope : Nat
  port : Nat
  deriving DecidableEq, Repr

/-- A port: any number of digits, with a value below 65536. -/
def port? (s : List Char) : Option Nat :=
  (numeral? 10 s).filter (· < 65536)

/-- A scope: any number of digits, with a value below 2 ^ 32. -/
def scope? (s : List Char) : Option Nat :=
  (numeral? 10 s).filter (· < 4294967296)

/-- A version 6 address with its optional scope, as it stands between brackets. -/
def scoped? (s : List Char) : Option (BitVec 128 × Nat) :=
  match cut '%' s with
  | none => (v6? s).map fun bits => (bits, 0)
  | some (address, scope) =>
    match v6? address, scope? scope with
    | some bits, some n => some (bits, n)
    | _, _ => none

/-- The socket address that a text spells: `a.b.c.d:port` or `[version 6
address%scope]:port`. -/
def SocketAddress.ofString? (s : String) : Option SocketAddress :=
  match s.toList with
  | '[' :: rest =>
    match cutText [']', ':'] rest with
    | some (inner, port) =>
      match scoped? inner, port? port with
      | some (bits, scope), some port => some ⟨.v6 bits, scope, port⟩
      | _, _ => none
    | none => none
  | chars =>
    match cut ':' chars with
    | some (address, port) =>
      match v4? address, port? port with
      | some bits, some port => some ⟨.v4 bits, 0, port⟩
      | _, _ => none
    | none => none

/-- The spelling of a socket address; a zero scope is left out. -/
def SocketAddress.text (a : SocketAddress) : String :=
  match a.address with
  | .v4 bits => v4Text bits ++ ":" ++ decimal a.port
  | .v6 bits =>
    let scope := if a.scope = 0 then "" else "%" ++ decimal a.scope
    "[" ++ v6Text bits ++ scope ++ "]:" ++ decimal a.port

end CredRelay.Net
