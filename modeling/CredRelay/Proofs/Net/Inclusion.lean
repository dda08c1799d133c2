import CredRelay.Proofs.Net.Membership
import CredRelay.Proofs.Net.SocketSpelling
/-! Whether a network holds the address that its text spells. It does exactly if that
address wraps none of version 4: a peer counts as the address that it wraps, but a network
keeps its own as it was written. A network of a wrapped address that shares all the bits
in front of the inner one holds no peer at all. -/
namespace CredRelay.Net

open Text

/-! ## Wrapped addresses -/

/-- The version 6 address that wraps one of version 4. -/
def wrapped (inner : BitVec 32) : BitVec 128 :=
  BitVec.ofNat 128 (65535 * 4294967296 + inner.toNat)

theorem toNat_wrapped (inner : BitVec 32) :
    (wrapped inner).toNat = 65535 * 4294967296 + inner.toNat := by
  have hinner := inner.isLt
  rw [wrapped, BitVec.toNat_ofNat]
  omega

theorem mapped?_wrapped (inner : BitVec 32) : mapped? (wrapped inner) = some inner := by
  have hinner := inner.isLt
  have hhigh : (wrapped inner).toNat / 4294967296 = 65535 := by
    rw [toNat_wrapped]
    omega
  rw [mapped?, if_pos hhigh, Option.some_inj]
  apply BitVec.eq_of_toNat_eq
  rw [BitVec.toNat_setWidth, toNat_wrapped]
  omega

theorem mapped?_eq_some_iff {bits : BitVec 128} {inner : BitVec 32} :
    mapped? bits = some inner ↔ bits = wrapped inner := by
  constructor
  · intro h
    apply BitVec.eq_of_toNat_eq
    rw [toNat_of_mapped?_eq_some h, toNat_wrapped]
  · rintro rfl
    exact mapped?_wrapped inner

namespace Address

/-- Whether an address wraps one of version 4. -/
def IsWrapped (address : Address) : Prop :=
  ∃ inner, address = .v6 (wrapped inner)

theorem unmapped_wrapped (inner : BitVec 32) :
    (v6 (wrapped inner)).unmapped = .v4 inner := by
  simp only [unmapped, mapped?_wrapped]

theorem unmapped_eq_self {address : Address} (h : ¬address.IsWrapped) :
    address.unmapped = address := by
  cases address with
  | v4 bits => rfl
  | v6 bits =>
    cases hmapped : mapped? bits with
    | none => simp only [unmapped, hmapped]
    | some inner => exact absurd ⟨inner, by rw [mapped?_eq_some_iff.mp hmapped]⟩ h

/-- What a peer counts as wraps nothing. -/
theorem not_isWrapped_unmapped (peer : Address) : ¬peer.unmapped.IsWrapped := by
  by_cases h : peer.IsWrapped
  · obtain ⟨inner, rfl⟩ := h
    rw [unmapped_wrapped]
    rintro ⟨other, hother⟩
    cases hother
  · rwa [unmapped_eq_self h]

/-- A version 6 address wraps another exactly if its first 96 bits say so. -/
theorem isWrapped_v6_iff {bits : BitVec 128} :
    (v6 bits).IsWrapped ↔ bits.toNat / 4294967296 = 65535 := by
  constructor
  · rintro ⟨inner, hinner⟩
    cases hinner
    have hlt := inner.isLt
    rw [toNat_wrapped]
    omega
  · intro h
    have hmapped : mapped? bits = some (bits.setWidth 32) := by rw [mapped?, if_pos h]
    exact ⟨bits.setWidth 32, by rw [← mapped?_eq_some_iff.mp hmapped]⟩

end Address

/-! ## The address of a network -/

namespace Network

variable {network : Network}

/-- A network holds its own address exactly if that wraps none. -/
theorem contains_base_iff : network.contains network.base = true ↔
    ¬network.base.IsWrapped := by
  rw [contains_iff]
  constructor
  · rintro ⟨hwidth, -⟩ ⟨inner, hinner⟩
    rw [hinner, Address.unmapped_wrapped] at hwidth
    cases hwidth
  · intro h
    rw [Address.unmapped_eq_self h]
    exact ⟨rfl, rfl⟩

/-- Every peer that shares 96 bits with a wrapped address is wrapped, and so counts as one
of version 4. -/
theorem contains_eq_false_of_isWrapped (h : network.base.IsWrapped)
    (hshared : 96 ≤ network.shared) (peer : Address) : network.contains peer = false := by
  rw [Bool.eq_false_iff]
  intro hpeer
  obtain ⟨hwidth, hnumbers⟩ := network.contains_iff peer |>.mp hpeer
  have hnot := peer.not_isWrapped_unmapped
  obtain ⟨inner, hinner⟩ := h
  rw [hinner] at hwidth hnumbers
  cases hbits : peer.unmapped with
  | v4 bits =>
    rw [hbits] at hwidth
    cases hwidth
  | v6 bits =>
    rw [hbits] at hnumbers hnot
    have hfront : (wrapped inner).toNat / 2 ^ 32 = bits.toNat / 2 ^ 32 :=
      div_two_pow_eq_of_le (show 128 - network.shared ≤ 32 by omega) hnumbers
    refine hnot (Address.isWrapped_v6_iff.mpr ?_)
    exact hfront.symm.trans (Address.isWrapped_v6_iff.mp ⟨inner, rfl⟩)

/-- With fewer than 96 shared bits, the address with its bit in front of the inner one
cleared is held. -/
theorem exists_contains_of_shared_lt {inner : BitVec 32}
    (h : network.base = .v6 (wrapped inner)) (hshared : network.shared < 96) :
    ∃ peer, network.contains peer = true := by
  let beside : BitVec 128 := BitVec.ofNat 128 (65534 * 4294967296 + inner.toNat)
  have hlt := inner.isLt
  have hbeside : beside.toNat = 65534 * 4294967296 + inner.toNat := by
    rw [BitVec.toNat_ofNat]
    omega
  have hnot : ¬(Address.v6 beside).IsWrapped := by
    rw [Address.isWrapped_v6_iff, hbeside]
    omega
  have hhalves : (wrapped inner).toNat / 2 ^ 33 = beside.toNat / 2 ^ 33 := by
    rw [toNat_wrapped, hbeside]
    omega
  refine ⟨.v6 beside, (network.contains_iff _).mpr ?_⟩
  rw [Address.unmapped_eq_self hnot, h]
  exact ⟨rfl, div_two_pow_eq_of_le (show 33 ≤ 128 - network.shared by omega) hhalves⟩

/-- A network holds no peer exactly if its address wraps another and all bits in front of
that are shared. -/
theorem exists_contains_iff :
    (∃ peer, network.contains peer = true) ↔
    ¬(network.base.IsWrapped ∧ 96 ≤ network.shared) := by
  constructor
  · rintro ⟨peer, hpeer⟩ ⟨hwrapped, hshared⟩
    rw [contains_eq_false_of_isWrapped hwrapped hshared] at hpeer
    cases hpeer
  · intro h
    by_cases hwrapped : network.base.IsWrapped
    · obtain ⟨inner, hinner⟩ := hwrapped
      exact exists_contains_of_shared_lt hinner
        (Nat.lt_of_not_le fun hle => h ⟨⟨inner, hinner⟩, hle⟩)
    · exact ⟨network.base, contains_base_iff.mpr hwrapped⟩

end Network

/-- The network of an accepted text holds the address that the text spells exactly if that
wraps none of version 4, and a list with the text then admits it; it holds no peer at all
exactly if that wraps one and 96 bits or more are shared. -/
theorem contains_spelled_iff_and_exists_contains_iff {s : String} {network : Network}
    (h : Network.ofString? s = some network) :
    ∃ address, Address.ofChars? (spelledParts s).1 = some address ∧
      (network.contains address = true ↔ ¬address.IsWrapped) ∧
      ((∃ peer, network.contains peer = true) ↔
        ¬(address.IsWrapped ∧ 96 ≤ network.shared)) ∧
      ∀ (texts : List String) (found : List Network),
        networks texts = .ok found → s ∈ texts →
        ¬address.IsWrapped → admits found address = true := by
  obtain ⟨hread, -, -⟩ := Network.ofString?_eq_some_iff.mp h
  refine ⟨network.base, hread, Network.contains_base_iff, Network.exists_contains_iff, ?_⟩
  intro texts found hfound hs hwrapped
  have hmem : network ∈ found := (mem_networks_iff hfound network).mpr ⟨s, hs, h⟩
  exact admits_eq_true_iff.mpr ⟨network, hmem, Network.contains_base_iff.mpr hwrapped⟩

/-- An entry of a wrapped address, which holds neither that address nor any other. -/
theorem not_contains_of_wrapped_loopback :
    let network : Network := .v6 (wrapped 0x7F000001) 128
    Network.ofString? "::ffff:127.0.0.1" = some network ∧
      network.contains (.v6 (wrapped 0x7F000001)) = false ∧
      ¬∃ peer, network.contains peer = true := by
  intro network
  have hread : Network.ofString? "::ffff:127.0.0.1" = some network := by decide +kernel
  have hspelled : Address.ofChars? (spelledParts "::ffff:127.0.0.1").1 =
      some (.v6 (wrapped 0x7F000001)) := by decide +kernel
  obtain ⟨address, haddress, hself, hany, -⟩ :=
    contains_spelled_iff_and_exists_contains_iff hread
  cases hspelled.symm.trans haddress
  have hwrapped : (Address.v6 (wrapped 0x7F000001)).IsWrapped := ⟨_, rfl⟩
  refine ⟨hread, Bool.eq_false_iff.mpr fun hcontains => hself.mp hcontains hwrapped, ?_⟩
  exact fun hpeer => hany.mp hpeer ⟨hwrapped, by decide⟩

end CredRelay.Net
