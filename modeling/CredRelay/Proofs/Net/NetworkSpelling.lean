import CredRelay.Proofs.Net.Membership
import CredRelay.Proofs.Net.SocketSpelling
/-! Reading the spelling of a network back. No text spells addresses of both versions,
since colons stand in every version 6 address and in none of version 4. So the address in
the spelling of a network is its own again, and the number behind the slash is the number
of its shared bits. -/
namespace CredRelay.Net

open Text

/-! ## One version -/

theorem octet?_eq_none_of_colon_mem {s : List Char} (h : ':' ∈ s) : octet? s = none := by
  have hnumeral : numeral? 10 s = none := by
    rw [numeral?]
    split
    · rfl
    · exact numeralFrom?_eq_none (by decide) h 0
  rw [octet?, hnumeral]

theorem v4?_eq_none_of_colon_mem {s : List Char} (h : ':' ∈ s) : v4? s = none := by
  obtain ⟨piece, hpiece, hcolon⟩ : ∃ piece ∈ s.splitOn '.', ':' ∈ piece := by
    have hjoin : ':' ∈ ['.'].intercalate (s.splitOn '.') := by
      rwa [List.intercalate_splitOn]
    refine (mem_intercalate hjoin).resolve_left ?_
    decide
  have hoctet : octet? piece = none := octet?_eq_none_of_colon_mem hcolon
  have hoctets : octets? s = none := by
    rw [octets?]
    split
    · next a b c d hsplit =>
      rw [hsplit] at hpiece
      split
      · next ha hb hc hd =>
        simp only [List.mem_cons, List.not_mem_nil, or_false] at hpiece
        rcases hpiece with rfl | rfl | rfl | rfl
        · cases hoctet.symm.trans ha
        · cases hoctet.symm.trans hb
        · cases hoctet.symm.trans hc
        · cases hoctet.symm.trans hd
      · rfl
    · rfl
  rw [v4?, hoctets, Option.map_none]

theorem v6?_eq_none_of_colon_not_mem {s : List Char} (h : ':' ∉ s) : v6? s = none := by
  have hcut : cutText [':', ':'] s = none := by
    have hgo := cutText_go_append h [':'] [] []
    rw [List.append_nil] at hgo
    rw [cutText, hgo]
    rfl
  have height : eightGroups? s = none := by
    rw [eightGroups?, hcut]
    simp only [List.splitOn_eq_singleton h]
    -- a single piece makes one group or two
    cases hgroup : group? s with
    | some g => simp [groups?, hgroup]
    | none => cases hoctets : octets? s <;> simp [groups?, hgroup, hoctets]
  rw [v6?, height, Option.map_none]

/-- No text spells addresses of both versions. -/
theorem v4?_eq_none_of_v6?_eq_some {s : List Char} {bits : BitVec 128}
    (h : v6? s = some bits) : v4? s = none := by
  refine v4?_eq_none_of_colon_mem ?_
  by_contra hcolon
  rw [v6?_eq_none_of_colon_not_mem hcolon] at h
  cases h

/-- The spelling of an address stands for that address. -/
theorem Address.ofChars?_text (address : Address) :
    Address.ofChars? address.text.toList = some address := by
  cases address with
  | v4 bits => rw [Address.text, Address.ofChars?, v4?_v4Text]
  | v6 bits =>
    have hread := v6?_v6Text bits
    rw [Address.text, Address.ofChars?, v4?_eq_none_of_v6?_eq_some hread]
    simp only [hread, Option.map_some]

/-! ## Networks -/

theorem shared?_toDigits {n : Nat} (h : n ≤ 255) :
    shared? (Nat.toDigits 10 n) = some n := by
  have hplus : '+' ∉ Nat.toDigits 10 n :=
    fun hmem => ne_of_mem_toDigits hmem (by decide) rfl
  rw [shared?]
  · rw [numeral?_toDigits (by decide) (by decide), Option.filter_some,
      if_pos (by simpa using h)]
  · intro rest hdigits
    rw [hdigits] at hplus
    exact hplus List.mem_cons_self

theorem mem_addressText {address : Address} {c : Char} (h : c ∈ address.text.toList) :
    c = '.' ∨ Url.isGroupCharacter c = true := by
  cases address with
  | v4 bits =>
    exact (Url.eq_dot_or_isDigit_of_mem_v4Text h).imp id isGroupCharacter_of_isDigit
  | v6 bits => exact mem_v6Text h

theorem slash_not_mem_addressText (address : Address) : '/' ∉ address.text.toList := by
  intro h
  rcases mem_addressText h with hc | hc
  · cases hc
  · cases hc

theorem Address.width_le (address : Address) : address.width ≤ 128 := by
  cases address with
  | v4 bits => exact (by decide : 32 ≤ 128)
  | v6 bits => exact Nat.le_refl 128

namespace Network

variable {network : Network}

/-- A network is spelled as its address, a slash and the number of its shared bits. -/
theorem toList_text (network : Network) :
    network.text.toList = network.base.text.toList ++ '/' ::
      Nat.toDigits 10 network.shared := by
  cases network <;> simp [text, base, shared, Address.text, toList_decimal]

theorem trimChars_text (network : Network) :
    trimChars network.text.toList = network.text.toList := by
  refine trimWhere_eq_self fun c hc => ?_
  rw [toList_text, List.mem_append, List.mem_cons] at hc
  rcases hc with hc | rfl | hc
  · rcases mem_addressText hc with rfl | hc
    · decide
    · exact SocketAddress.isBlank_of_isGroupCharacter hc
  · decide
  · exact SocketAddress.isBlank_of_isGroupCharacter
      (isGroupCharacter_of_isDigit (isDigit_of_mem_toDigits hc))

theorem spelledParts_text (network : Network) :
    spelledParts network.text =
      (network.base.text.toList, some (Nat.toDigits 10 network.shared)) := by
  rw [spelledParts, trimChars_text, toList_text,
    cut_append (slash_not_mem_addressText network.base)]

/-- The spelling of a network is read as that network exactly if its address has the bits
that it shares. -/
theorem ofString?_text_iff : ofString? network.text = some network ↔
    network.shared ≤ network.base.width := by
  rw [ofString?_eq_some_iff, spelledParts_text]
  constructor
  · rintro ⟨-, -, hle⟩
    exact hle
  · intro hle
    have hwidth := network.base.width_le
    exact ⟨network.base.ofChars?_text, shared?_toDigits (by omega), hle⟩

theorem ofString?_text_of_ofString? {s : String} (h : ofString? s = some network) :
    ofString? network.text = some network := by
  obtain ⟨-, -, hle⟩ := ofString?_eq_some_iff.mp h
  exact ofString?_text_iff.mpr hle

end Network

/-- The spelling of a network that was read is read as that network again, and two texts
that are accepted have networks of one spelling exactly if they have one network. -/
theorem ofString?_text_and_text_eq_iff {s t : String} {network other : Network}
    (hs : Network.ofString? s = some network) (ht : Network.ofString? t = some other) :
    Network.ofString? network.text = some network ∧
      (network.text = other.text ↔ network = other) := by
  have hnetwork := Network.ofString?_text_of_ofString? hs
  refine ⟨hnetwork, ?_, congrArg Network.text⟩
  intro htext
  rw [htext, Network.ofString?_text_of_ofString? ht] at hnetwork
  exact (Option.some.inj hnetwork).symm

/-- Two notations of one network, with a version 4 address inside and with its zeros
written out. -/
theorem text_eq_of_two_notations :
    let network : Network := .v6 0xFFFF0A000001 104
    Network.ofString? "::ffff:10.0.0.1/104" = some network ∧
      Network.ofString? " 0:0:0::FFFF:a00:0001/+0104\n" = some network ∧
      network.text = "::ffff:10.0.0.1/104" ∧
        Network.ofString? network.text = some network := by
  intro network
  have hinner : Network.ofString? "::ffff:10.0.0.1/104" = some network := by
    decide +kernel
  have hlong : Network.ofString? " 0:0:0::FFFF:a00:0001/+0104\n" = some network := by
    decide +kernel
  exact ⟨hinner, hlong, by decide +kernel,
    (ofString?_text_and_text_eq_iff hinner hlong).1⟩

end CredRelay.Net
