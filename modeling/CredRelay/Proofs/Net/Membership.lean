import CredRelay.Net.Network
import Mathlib.Algebra.Group.Nat.Defs
import Mathlib.Data.List.Perm.Basic
/-! Members of networks. A network that a text spells shares at most as many bits as its
address has, so its mask is computed without overflow, and a peer is a member exactly if
it is of the same version and its number, cut to the shared bits, is the one of the
address. Fewer shared bits admit no fewer peers, and the order of a list of networks
decides nothing. -/
namespace CredRelay.Net

open Text

/-! ## Addresses as numbers -/

/-- The number of bits of an address. -/
def Address.width : Address → Nat
  | .v4 _ => 32
  | .v6 _ => 128

/-- The bits of an address as a number. -/
def Address.toNat : Address → Nat
  | .v4 bits => bits.toNat
  | .v6 bits => bits.toNat

/-- The address that a network is given by. -/
def Network.base : Network → Address
  | .v4 base _ => .v4 base
  | .v6 base _ => .v6 base

/-- How many leading bits the members of a network share. -/
def Network.shared : Network → Nat
  | .v4 _ shared => shared
  | .v6 _ shared => shared

/-! ## Masks -/

/-- A difference of numbers without sign, where there is one. -/
def checkedSub? (m n : Nat) : Option Nat :=
  if n ≤ m then some (m - n) else none

/-- A word moved to the left, where the distance is below its width. -/
def checkedShift? {width : Nat} (word : BitVec width) (distance : Nat) :
    Option (BitVec width) :=
  if distance < width then some (word <<< distance) else none

/-- The word whose `shared` leading bits are set, where no step of computing it
overflows. -/
def leadingOnes? (width shared : Nat) : Option (BitVec width) :=
  if shared = 0 then some 0
  else (checkedSub? width shared).bind (checkedShift? (BitVec.allOnes width))

theorem leadingOnes?_eq_some {width shared : Nat} (h : shared ≤ width) :
    leadingOnes? width shared = some (leadingOnes width shared) := by
  rw [leadingOnes?, leadingOnes]
  split
  · rfl
  · next hne =>
    have hdistance : width - shared < width := by omega
    rw [checkedSub?, if_pos h, Option.bind_some, checkedShift?, if_pos hdistance]

/-- Under a mask, a word keeps its leading bits and loses the others. -/
theorem toNat_and_leadingOnes {width : Nat} (word : BitVec width) (shared : Nat) :
    (word &&& leadingOnes width shared).toNat =
      word.toNat / 2 ^ (width - shared) * 2 ^ (width - shared) := by
  rw [leadingOnes]
  split
  · next hzero =>
    have hdiv : word.toNat / 2 ^ (width - shared) = 0 := by
      rw [hzero, Nat.sub_zero]
      exact Nat.div_eq_of_lt word.isLt
    rw [hdiv, Nat.zero_mul]
    simp
  · have hle : word.toNat / 2 ^ (width - shared) * 2 ^ (width - shared) ≤ word.toNat :=
      Nat.div_mul_le_self _ _
    rw [← BitVec.shiftLeft_ushiftRight, BitVec.toNat_shiftLeft, BitVec.toNat_ushiftRight,
      Nat.shiftRight_eq_div_pow, Nat.shiftLeft_eq,
      Nat.mod_eq_of_lt (Nat.lt_of_le_of_lt hle word.isLt)]

/-- Words agree under a mask exactly if their numbers do after division. -/
theorem and_leadingOnes_eq_iff {width : Nat} (a b : BitVec width) (shared : Nat) :
    a &&& leadingOnes width shared = b &&& leadingOnes width shared ↔
      a.toNat / 2 ^ (width - shared) = b.toNat / 2 ^ (width - shared) := by
  rw [← BitVec.toNat_inj, toNat_and_leadingOnes, toNat_and_leadingOnes]
  exact Nat.mul_left_inj (Nat.ne_of_gt (Nat.two_pow_pos _))

/-! ## Members -/

/-- A peer lies in a network exactly if it has the version of its address and the two
numbers agree after division by the power of two that the bits which are not shared
count to. -/
theorem Network.contains_iff (network : Network) (peer : Address) :
    network.contains peer = true ↔
      peer.unmapped.width = network.base.width ∧
        network.base.toNat / 2 ^ (network.base.width - network.shared) =
          peer.unmapped.toNat / 2 ^ (network.base.width - network.shared) := by
  cases network with
  | v4 base shared =>
    cases hpeer : peer.unmapped with
    | v4 bits =>
      simp only [contains, hpeer, beq_iff_eq, and_leadingOnes_eq_iff, Network.base,
        Network.shared, Address.width, Address.toNat, true_and]
    | v6 bits => simp [contains, hpeer, Network.base, Address.width]
  | v6 base shared =>
    cases hpeer : peer.unmapped with
    | v4 bits => simp [contains, hpeer, Network.base, Address.width]
    | v6 bits =>
      simp only [contains, hpeer, beq_iff_eq, and_leadingOnes_eq_iff, Network.base,
        Network.shared, Address.width, Address.toNat, true_and]

theorem div_two_pow_eq_of_le {m n j k : Nat} (h : j ≤ k) (heq : m / 2 ^ j = n / 2 ^ j) :
    m / 2 ^ k = n / 2 ^ k := by
  rw [← Nat.add_sub_cancel' h, Nat.pow_add, ← Nat.div_div_eq_div_mul, heq,
    Nat.div_div_eq_div_mul]

/-- With fewer shared bits a network admits every peer that it admitted. -/
theorem Network.contains_of_shared_le {network wider : Network}
    (hbase : wider.base = network.base) (hshared : wider.shared ≤ network.shared)
    {peer : Address} (h : network.contains peer = true) : wider.contains peer = true := by
  rw [contains_iff] at h ⊢
  obtain ⟨hwidth, hnumbers⟩ := h
  rw [hbase]
  exact ⟨hwidth, div_two_pow_eq_of_le (Nat.sub_le_sub_left hshared _) hnumbers⟩

/-! ## Texts -/

/-- The address of a text that spells a network, and the number behind the slash if there
is one. -/
def spelledParts (s : String) : List Char × Option (List Char) :=
  match cut '/' (trimChars s.toList) with
  | some (address, shared) => (address, some shared)
  | none => (trimChars s.toList, none)

theorem Network.ofString?_eq_ofParts? (s : String) :
    ofString? s = ofParts? (spelledParts s).1 (spelledParts s).2 := by
  rw [ofString?, spelledParts]
  cases cut '/' (trimChars s.toList) <;> rfl

/-- How many bits are shared in a network of an address: the number given, or else all. -/
def sharedOf? (address : Address) : Option (List Char) → Option Nat
  | some digits => shared? digits
  | none => some address.width

theorem Network.ofParts?_eq (address : List Char) (shared : Option (List Char)) :
    ofParts? address shared =
      (Address.ofChars? address).bind fun address =>
        (sharedOf? address shared).bind fun shared =>
          if shared ≤ address.width then
            match address with
            | .v4 bits => some (.v4 bits shared)
            | .v6 bits => some (.v6 bits shared)
          else none := by
  rw [ofParts?]
  cases Address.ofChars? address with
  | none => rfl
  | some address => cases address <;> cases shared <;> rfl

/-- A text spells a network exactly if it spells its address and the number of shared
bits, and these are no more than the address has. -/
theorem Network.ofString?_eq_some_iff {s : String} {network : Network} :
    ofString? s = some network ↔
      Address.ofChars? (spelledParts s).1 = some network.base ∧
        sharedOf? network.base (spelledParts s).2 = some network.shared ∧
          network.shared ≤ network.base.width := by
  rw [ofString?_eq_ofParts?, ofParts?_eq]
  simp only [Option.bind_eq_some_iff]
  constructor
  · rintro ⟨address, haddress, shared, hshared, h⟩
    split at h
    · next hle =>
      cases address <;> cases h <;> exact ⟨haddress, hshared, hle⟩
    · cases h
  · rintro ⟨haddress, hshared, hle⟩
    refine ⟨network.base, haddress, network.shared, hshared, ?_⟩
    rw [if_pos hle]
    cases network <;> rfl

theorem networks_cons (s : String) (texts : List String) :
    networks (s :: texts) =
      match Network.ofString? s with
      | some network => (networks texts).map (network :: ·)
      | none => .error s := by
  rw [networks, List.mapM_cons]
  cases Network.ofString? s with
  | none => rfl
  | some network =>
    show (networks texts).bind _ = _
    cases networks texts <;> rfl

/-- A list of texts is accepted exactly if each text is, and each then spells its own
network. -/
theorem networks_eq_ok_iff {texts : List String} {found : List Network} :
    networks texts = .ok found ↔
      (∀ s ∈ texts, (Network.ofString? s).isSome = true) ∧
        found = texts.filterMap Network.ofString? := by
  induction texts generalizing found with
  | nil =>
    constructor
    · rintro ⟨⟩
      exact ⟨List.forall_mem_nil _, rfl⟩
    · rintro ⟨-, rfl⟩
      rfl
  | cons s texts ih =>
    rw [networks_cons, List.forall_mem_cons]
    cases hs : Network.ofString? s with
    | none => simp
    | some network =>
      rw [List.filterMap_cons_some hs]
      cases hrest : networks texts with
      | error bad =>
        have hbad : ¬∀ s ∈ texts, (Network.ofString? s).isSome = true := by
          intro hall
          rw [ih.mpr ⟨hall, rfl⟩] at hrest
          cases hrest
        simp [Except.map, hbad]
      | ok rest =>
        obtain ⟨hall, rfl⟩ := ih.mp hrest
        constructor
        · rintro ⟨⟩
          exact ⟨⟨rfl, hall⟩, rfl⟩
        · rintro ⟨-, rfl⟩
          rfl

theorem admits_eq_of_perm {found other : List Network} (h : found.Perm other)
    (peer : Address) : admits found peer = admits other peer := by
  rw [admits, admits, h.any_eq]

/-- A list that is accepted is accepted in any order, and admits the same peers. -/
theorem exists_networks_eq_ok_of_perm {texts others : List String} {found : List Network}
    (hperm : texts.Perm others) (h : networks texts = .ok found) :
    ∃ other, networks others = .ok other ∧
      ∀ peer, admits other peer = admits found peer := by
  obtain ⟨hall, rfl⟩ := networks_eq_ok_iff.mp h
  refine ⟨others.filterMap Network.ofString?, networks_eq_ok_iff.mpr ⟨?_, rfl⟩,
    fun peer => ?_⟩
  · intro s hs
    exact hall s (hperm.mem_iff.mpr hs)
  · exact admits_eq_of_perm (hperm.filterMap Network.ofString?).symm peer

/-- What the network of a text is: it has the address and the number that the text spells,
its mask is computed without overflow, its members are told by division, and none is lost
with fewer shared bits. -/
structure Network.IsExact (s : String) (network : Network) : Prop where
  address_eq : Address.ofChars? (spelledParts s).1 = some network.base
  shared_eq : sharedOf? network.base (spelledParts s).2 = some network.shared
  shared_le : network.shared ≤ network.base.width
  mask_eq : leadingOnes? network.base.width network.shared =
    some (leadingOnes network.base.width network.shared)
  contains_iff : ∀ peer : Address, network.contains peer = true ↔
    peer.unmapped.width = network.base.width ∧
      network.base.toNat / 2 ^ (network.base.width - network.shared) =
        peer.unmapped.toNat / 2 ^ (network.base.width - network.shared)
  contains_wider : ∀ (wider : Network) (peer : Address), wider.base = network.base →
    wider.shared ≤ network.shared → network.contains peer = true →
      wider.contains peer = true

theorem mem_networks_iff {texts : List String} {found : List Network}
    (h : networks texts = .ok found) (network : Network) :
    network ∈ found ↔ ∃ s ∈ texts, Network.ofString? s = some network := by
  obtain ⟨-, rfl⟩ := networks_eq_ok_iff.mp h
  exact List.mem_filterMap

theorem admits_eq_true_iff {found : List Network} {peer : Address} :
    admits found peer = true ↔ ∃ network ∈ found, network.contains peer = true :=
  List.any_eq_true

/-- Every text that is accepted as a network spells one that admits exactly the peers of
its version whose numbers agree with its address in the shared bits. A list of texts that
are accepted admits exactly the peers that one of the networks admits which its texts
spell, and the order of the texts decides nothing. -/
theorem isExact_and_exists_networks_eq_ok_of_perm :
    (∀ (s : String) (network : Network), Network.ofString? s = some network →
      network.IsExact s) ∧
      ∀ (texts : List String) (found : List Network), networks texts = .ok found →
        (∀ network, network ∈ found ↔ ∃ s ∈ texts, Network.ofString? s = some network) ∧
        (∀ peer, admits found peer = true ↔
          ∃ network ∈ found, network.contains peer = true) ∧
        ∀ others : List String, texts.Perm others →
          ∃ other, networks others = .ok other ∧
            ∀ peer, admits other peer = admits found peer := by
  refine ⟨fun s network h => ?_, fun texts found h => ⟨mem_networks_iff h,
    fun _ => admits_eq_true_iff, fun others hperm =>
      exists_networks_eq_ok_of_perm hperm h⟩⟩
  obtain ⟨haddress, hshared, hle⟩ := Network.ofString?_eq_some_iff.mp h
  exact {
    address_eq := haddress
    shared_eq := hshared
    shared_le := hle
    mask_eq := leadingOnes?_eq_some hle
    contains_iff := network.contains_iff
    contains_wider := fun _ _ hbase hshared hpeer =>
      Network.contains_of_shared_le hbase hshared hpeer }

/-- A network whose address has bits set behind the shared ones, a wrapped peer that it
admits, and a list that names it last or first. -/
theorem isExact_of_uneven_address :
    let network : Network := .v4 0x0A010203 15
    let peer : Address := .v6 0xFFFF0A00FF01
    Network.ofString? " 10.1.2.3/+015 " = some network ∧
      network.IsExact " 10.1.2.3/+015 " ∧
      network.contains peer = true ∧
      ∃ other, networks ["::1", " 10.1.2.3/+015 "] = .ok other ∧
        ∀ peer, admits other peer = admits [network, .v6 1 128] peer := by
  intro network peer
  have hread : Network.ofString? " 10.1.2.3/+015 " = some network := by decide +kernel
  have hlist : networks [" 10.1.2.3/+015 ", "::1"] = .ok [network, .v6 1 128] := by
    decide +kernel
  obtain ⟨hexact, horder⟩ := isExact_and_exists_networks_eq_ok_of_perm
  have hmember : network.contains peer = true :=
    ((hexact _ _ hread).contains_iff peer).mpr ⟨by decide +kernel, by decide +kernel⟩
  exact ⟨hread, hexact _ _ hread, hmember, (horder _ _ hlist).2.2 _ (.swap _ _ _)⟩

end CredRelay.Net
