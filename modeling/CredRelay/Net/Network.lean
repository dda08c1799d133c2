import CredRelay.Net.Address
import CredRelay.Text.Blank
/-! Networks in prefix notation, and lists of networks that peers are admitted from. A
network holds the addresses of its own version that share its leading bits; a peer whose
version 6 address wraps a version 4 address counts as the inner one. -/
namespace CredRelay.Net

open Text

/-- An address and the number of leading bits that a member shares with it. -/
inductive Network where
  | v4 (base : BitVec 32) (shared : Nat)
  | v6 (base : BitVec 128) (shared : Nat)
  deriving DecidableEq, Repr

/-- The word whose `shared` leading bits are set. -/
def leadingOnes (width shared : Nat) : BitVec width :=
  if shared = 0 then 0 else BitVec.allOnes width <<< (width - shared)

/-- The address itself, or the version 4 address that it wraps. -/
def Address.unmapped : Address → Address
  | .v4 bits => .v4 bits
  | .v6 bits =>
    match mapped? bits with
    | some inner => .v4 inner
    | none => .v6 bits

/-- Whether a peer's address lies in the network. -/
def Network.contains (network : Network) (peer : Address) : Bool :=
  match network, peer.unmapped with
  | .v4 base shared, .v4 bits =>
    base &&& leadingOnes 32 shared == bits &&& leadingOnes 32 shared
  | .v6 base shared, .v6 bits =>
    base &&& leadingOnes 128 shared == bits &&& leadingOnes 128 shared
  | _, _ => false

/-- A number of shared bits: decimal digits, perhaps after a plus sign, up to 255. -/
def shared? (s : List Char) : Option Nat :=
  let digits :=
    match s with
    | '+' :: rest => rest
    | s => s
  (numeral? 10 digits).filter (· ≤ 255)

/-- The network of an address with an optional number of shared bits, which defaults
to all. -/
def Network.ofParts? (address : List Char) (shared : Option (List Char)) :
    Option Network := do
  let address ← Address.ofChars? address
  let width := match address with
    | .v4 _ => 32
    | .v6 _ => 128
  let shared ← match shared with
    | some s => shared? s
    | none => some width
  if shared ≤ width then
    match address with
    | .v4 bits => some (.v4 bits shared)
    | .v6 bits => some (.v6 bits shared)
  else none

/-- The network that a text spells, as an address alone or an address, a slash and a
number. -/
def Network.ofString? (s : String) : Option Network :=
  match cut '/' (trimChars s.toList) with
  | some (address, shared) => Network.ofParts? address (some shared)
  | none => Network.ofParts? (trimChars s.toList) none

/-- The spelling of a network. -/
def Network.text : Network → String
  | .v4 base shared => v4Text base ++ "/" ++ decimal shared
  | .v6 base shared => v6Text base ++ "/" ++ decimal shared

/-- Whether a peer lies in one of the networks. -/
def admits (networks : List Network) (peer : Address) : Bool :=
  networks.any (·.contains peer)

/-- The networks that the texts spell, or the first text that spells none. -/
def networks (texts : List String) : Except String (List Network) :=
  texts.mapM fun s =>
    match Network.ofString? s with
    | some network => .ok network
    | none => .error s

end CredRelay.Net
