import CredRelay.Text.Base64
/-! Reading Base64 back. Digits and the values below sixty-four stand for each other, four
digits hold three octets and nothing else, and the last four hold one, two or three by
their padding. So a text is read exactly if it is the written form of some octets, which
are then those that were written. -/
namespace CredRelay.Text.Base64

variable {a b c d : Char} {octets : List UInt8}

/-! ## Digits -/

theorem value?_digit {n : Nat} (h : n < 64) : value? (digit n) = some n := by
  have hall : ∀ n < 64, value? (digit n) = some n := by decide +kernel
  exact hall n h

theorem digit_ne_padding {n : Nat} (h : n < 64) : digit n ≠ '=' := by
  have hall : ∀ n < 64, digit n ≠ '=' := by decide +kernel
  exact hall n h

theorem between_iff {low high c : Char} :
    low ≤ c ∧ c ≤ high ↔ low.toNat ≤ c.toNat ∧ c.toNat ≤ high.toNat := by
  simp only [Char.le_def, UInt32.le_iff_toNat_le, Char.toNat_val]

/-- A character with a value is the digit for it. -/
theorem value?_eq_some_iff {n : Nat} : value? c = some n ↔ n < 64 ∧ c = digit n := by
  constructor
  · intro h
    rw [value?] at h
    simp only [between_iff] at h
    split at h
    · next hcapital =>
      cases h
      have hlow : 0x41 ≤ c.toNat := hcapital.1
      have hhigh : c.toNat ≤ 0x5A := hcapital.2
      have hcode : 0x41 + (c.toNat - 0x41) = c.toNat := by omega
      refine ⟨by omega, ?_⟩
      rw [digit, if_pos (by omega), hcode, Char.ofNat_toNat]
    split at h
    · next hsmall =>
      cases h
      have hlow : 0x61 ≤ c.toNat := hsmall.1
      have hhigh : c.toNat ≤ 0x7A := hsmall.2
      have hcode : 0x61 + (c.toNat - 0x61 + 26 - 26) = c.toNat := by omega
      refine ⟨by omega, ?_⟩
      rw [digit, if_neg (by omega), if_pos (by omega), hcode, Char.ofNat_toNat]
    split at h
    · next hdecimal =>
      cases h
      have hlow : 0x30 ≤ c.toNat := hdecimal.1
      have hhigh : c.toNat ≤ 0x39 := hdecimal.2
      have hcode : 0x30 + (c.toNat - 0x30 + 52 - 52) = c.toNat := by omega
      refine ⟨by omega, ?_⟩
      rw [digit, if_neg (by omega), if_neg (by omega), if_pos (by omega), hcode,
        Char.ofNat_toNat]
    split at h
    · next hplus =>
      cases h
      exact ⟨by decide, hplus⟩
    split at h
    · next hslash =>
      cases h
      exact ⟨by decide, hslash⟩
    · cases h
  · rintro ⟨hn, rfl⟩
    exact value?_digit hn

/-! ## Four digits -/

theorem ofNat_eq {x : UInt8} {n : Nat} (h : n = x.toNat) : UInt8.ofNat n = x := by
  rw [h, UInt8.ofNat_toNat]

theorem toNat_ofNat_of_lt {n : Nat} (h : n < 256) : (UInt8.ofNat n).toNat = n := by
  rw [UInt8.toNat_ofNat', Nat.mod_eq_of_lt h]

section

variable {p q r s : Nat}

theorem encode_three (hp : p < 64) (hq : q < 64) (hr : r < 64) (hs : s < 64) :
    encode [UInt8.ofNat (p * 4 + q / 16), UInt8.ofNat (q % 16 * 16 + r / 4),
      UInt8.ofNat (r % 4 * 64 + s)] = [digit p, digit q, digit r, digit s] := by
  have hn : ((p * 4 + q / 16) * 256 + (q % 16 * 16 + r / 4)) * 256 + (r % 4 * 64 + s) =
      ((p * 64 + q) * 64 + r) * 64 + s := by omega
  have h₁ : (((p * 64 + q) * 64 + r) * 64 + s) / 262144 = p := by omega
  have h₂ : (((p * 64 + q) * 64 + r) * 64 + s) / 4096 % 64 = q := by omega
  have h₃ : (((p * 64 + q) * 64 + r) * 64 + s) / 64 % 64 = r := by omega
  have h₄ : (((p * 64 + q) * 64 + r) * 64 + s) % 64 = s := by omega
  simp only [encode, toNat_ofNat_of_lt (show p * 4 + q / 16 < 256 by omega),
    toNat_ofNat_of_lt (show q % 16 * 16 + r / 4 < 256 by omega),
    toNat_ofNat_of_lt (show r % 4 * 64 + s < 256 by omega), hn, h₁, h₂, h₃, h₄]

theorem encode_two (hp : p < 64) (hq : q < 64) (hr : r < 64) (hrest : r % 4 = 0) :
    encode [UInt8.ofNat (p * 4 + q / 16), UInt8.ofNat (q % 16 * 16 + r / 4)] =
      [digit p, digit q, digit r, '='] := by
  have hn : ((p * 4 + q / 16) * 256 + (q % 16 * 16 + r / 4)) * 4 =
      (p * 64 + q) * 64 + r := by omega
  have h₁ : ((p * 64 + q) * 64 + r) / 4096 = p := by omega
  have h₂ : ((p * 64 + q) * 64 + r) / 64 % 64 = q := by omega
  have h₃ : ((p * 64 + q) * 64 + r) % 64 = r := by omega
  simp only [encode, toNat_ofNat_of_lt (show p * 4 + q / 16 < 256 by omega),
    toNat_ofNat_of_lt (show q % 16 * 16 + r / 4 < 256 by omega), hn, h₁, h₂, h₃]

theorem encode_one (hp : p < 64) (hq : q < 64) (hrest : q % 16 = 0) :
    encode [UInt8.ofNat (p * 4 + q / 16)] = [digit p, digit q, '=', '='] := by
  have hn : (p * 4 + q / 16) * 16 = p * 64 + q := by omega
  have h₁ : (p * 64 + q) / 64 = p := by omega
  have h₂ : (p * 64 + q) % 64 = q := by omega
  simp only [encode, toNat_ofNat_of_lt (show p * 4 + q / 16 < 256 by omega), hn, h₁, h₂]

end

/-- Four digits without padding hold three octets. -/
theorem decodeFour?_eq_some_iff :
    decodeFour? a b c d = some octets ↔ ∃ x y z, octets = [x, y, z] ∧
      encode [x, y, z] = [a, b, c, d] := by
  constructor
  · intro h
    simp only [decodeFour?, Option.bind_eq_bind, Option.bind_eq_some_iff,
      value?_eq_some_iff, Option.some.injEq] at h
    obtain ⟨p, ⟨hp, rfl⟩, q, ⟨hq, rfl⟩, r, ⟨hr, rfl⟩, s, ⟨hs, rfl⟩, rfl⟩ := h
    exact ⟨_, _, _, rfl, encode_three hp hq hr hs⟩
  · rintro ⟨x, y, z, rfl, h⟩
    have hx := x.toNat_lt
    have hy := y.toNat_lt
    have hz := z.toNat_lt
    simp only [encode, List.cons.injEq, and_true] at h
    obtain ⟨rfl, rfl, rfl, rfl⟩ := h
    rw [decodeFour?, value?_digit (by omega), value?_digit (by omega),
      value?_digit (by omega), value?_digit (by omega)]
    simp only [Option.bind_eq_bind, Option.bind_some]
    rw [ofNat_eq (x := x) (by omega), ofNat_eq (x := y) (by omega),
      ofNat_eq (x := z) (by omega)]

theorem decodeLast?_of_ne (hd : d ≠ '=') : decodeLast? a b c d = decodeFour? a b c d := by
  rw [decodeLast?, decodeFour?]
  simp only [if_neg hd]

theorem encode_of_decodeLast?_eq_some (h : decodeLast? a b c d = some octets) :
    encode octets = [a, b, c, d] := by
  by_cases hd : d = '='
  · simp only [decodeLast?, if_pos hd, Option.bind_eq_bind, Option.bind_eq_some_iff,
      value?_eq_some_iff] at h
    obtain ⟨p, ⟨hp, rfl⟩, q, ⟨hq, rfl⟩, h⟩ := h
    split at h
    · next hc =>
      split at h
      · next hrest =>
        cases h
        rw [encode_one hp hq hrest, hc, hd]
      · cases h
    · simp only [Option.bind_eq_some_iff, value?_eq_some_iff] at h
      obtain ⟨r, ⟨hr, rfl⟩, h⟩ := h
      split at h
      · next hrest =>
        cases h
        rw [encode_two hp hq hr hrest, hd]
      · cases h
  · rw [decodeLast?_of_ne hd, decodeFour?_eq_some_iff] at h
    obtain ⟨x, y, z, rfl, hencode⟩ := h
    exact hencode

theorem decodeLast?_of_encode_one {x : UInt8} (h : encode [x] = [a, b, c, d]) :
    decodeLast? a b c d = some [x] := by
  have hx := x.toNat_lt
  simp only [encode, List.cons.injEq, and_true] at h
  obtain ⟨rfl, rfl, rfl, rfl⟩ := h
  rw [decodeLast?, value?_digit (by omega), value?_digit (by omega)]
  simp only [Option.bind_eq_bind, Option.bind_some, if_true]
  rw [if_pos (by omega), ofNat_eq (x := x) (by omega)]

theorem decodeLast?_of_encode_two {x y : UInt8} (h : encode [x, y] = [a, b, c, d]) :
    decodeLast? a b c d = some [x, y] := by
  have hx := x.toNat_lt
  have hy := y.toNat_lt
  simp only [encode, List.cons.injEq, and_true] at h
  obtain ⟨rfl, rfl, rfl, rfl⟩ := h
  rw [decodeLast?, value?_digit (by omega), value?_digit (by omega)]
  simp only [Option.bind_eq_bind, Option.bind_some, if_true]
  rw [if_neg (digit_ne_padding (by omega)), value?_digit (by omega)]
  simp only [Option.bind_some]
  rw [if_pos (by omega), ofNat_eq (x := x) (by omega), ofNat_eq (x := y) (by omega)]

theorem decodeLast?_of_encode_three {x y z : UInt8}
    (h : encode [x, y, z] = [a, b, c, d]) : decodeLast? a b c d = some [x, y, z] := by
  have hd : d ≠ '=' := by
    simp only [encode, List.cons.injEq, and_true] at h
    rw [← h.2.2.2]
    exact digit_ne_padding (Nat.mod_lt _ (by decide))
  rw [decodeLast?_of_ne hd]
  exact decodeFour?_eq_some_iff.mpr ⟨x, y, z, rfl, h⟩

/-! ## Whole texts -/

theorem encode_cons_cons_cons (x y z : UInt8) (rest : List UInt8) :
    encode (x :: y :: z :: rest) = encode [x, y, z] ++ encode rest := by
  simp [encode]

/-- Each three octets, and what is left over, are written with four characters. -/
theorem length_encode (octets : List UInt8) :
    (encode octets).length = 4 * ((octets.length + 2) / 3) := by
  fun_induction encode octets with
  | case1 => rfl
  | case2 x n => simp
  | case3 x y n => simp
  | case4 x y z rest n ih =>
    simp only [List.length_cons, ih]
    omega

theorem encode_eq_nil_iff : encode octets = [] ↔ octets = [] := by
  constructor
  · intro h
    have hlength := length_encode octets
    rw [h, List.length_nil] at hlength
    exact List.eq_nil_of_length_eq_zero (by omega)
  · rintro rfl
    rfl

theorem length_le_of_encode_eq (h : encode octets = [a, b, c, d]) :
    octets.length ≤ 3 := by
  have hlength := length_encode octets
  rw [h] at hlength
  simp only [List.length_cons, List.length_nil] at hlength
  omega

/-- Four characters are the last ones of a written form exactly if they are read so. -/
theorem decodeLast?_eq_some_iff : decodeLast? a b c d = some octets ↔
    encode octets = [a, b, c, d] := by
  refine ⟨encode_of_decodeLast?_eq_some, fun h => ?_⟩
  match octets with
  | [] => cases h
  | [x] => exact decodeLast?_of_encode_one h
  | [x, y] => exact decodeLast?_of_encode_two h
  | [x, y, z] => exact decodeLast?_of_encode_three h
  | x :: y :: z :: w :: rest =>
    have hlength := length_le_of_encode_eq h
    simp only [List.length_cons] at hlength
    omega

/-- What stands behind the first four characters of a written form is the written form of
what is left. -/
theorem exists_of_encode_eq_append {rest : List Char} (hrest : rest ≠ [])
    (h : encode octets = a :: b :: c :: d :: rest) :
    ∃ x y z others, octets = x :: y :: z :: others ∧ encode [x, y, z] = [a, b, c, d] ∧
      encode others = rest := by
  have hlength := length_encode octets
  have hpos := List.length_pos_iff.mpr hrest
  rw [h] at hlength
  simp only [List.length_cons] at hlength
  match octets with
  | [] => cases h
  | [x] => simp only [List.length_cons, List.length_nil] at hlength; omega
  | [x, y] => simp only [List.length_cons, List.length_nil] at hlength; omega
  | x :: y :: z :: others =>
    have hjoin : encode [x, y, z] ++ encode others = [a, b, c, d] ++ rest := by
      rw [← encode_cons_cons_cons]
      exact h
    obtain ⟨hfirst, hothers⟩ := List.append_inj hjoin (by simp [encode])
    exact ⟨x, y, z, others, rfl, hfirst, hothers⟩

/-- A text is read as some octets exactly if it is their written form. -/
theorem decode?_eq_some_iff {s : List Char} :
    decode? s = some octets ↔ encode octets = s := by
  fun_induction decode? s generalizing octets with
  | case1 =>
    rw [encode_eq_nil_iff, Option.some_inj]
    exact eq_comm
  | case2 a b c d rest hrest =>
    rw [List.isEmpty_iff.mp hrest]
    exact decodeLast?_eq_some_iff
  | case3 a b c d rest hrest ih =>
    simp only [Option.bind_eq_bind, Option.bind_eq_some_iff, decodeFour?_eq_some_iff, ih]
    constructor
    · rintro ⟨-, ⟨x, y, z, rfl, hfirst⟩, others, hothers, h⟩
      cases h
      show encode (x :: y :: z :: others) = _
      rw [encode_cons_cons_cons, hfirst, hothers]
      rfl
    · intro h
      obtain ⟨x, y, z, others, rfl, hfirst, hothers⟩ :=
        exists_of_encode_eq_append (by simpa using hrest) h
      exact ⟨[x, y, z], ⟨x, y, z, rfl, hfirst⟩, others, hothers, rfl⟩
  | case4 s hnil hfour =>
    refine ⟨fun h => (by cases h), fun h => ?_⟩
    have hlength := length_encode octets
    rw [h] at hlength
    match s with
    | [] => exact absurd rfl hnil
    | [a] => simp only [List.length_cons, List.length_nil] at hlength; omega
    | [a, b] => simp only [List.length_cons, List.length_nil] at hlength; omega
    | [a, b, c] => simp only [List.length_cons, List.length_nil] at hlength; omega
    | a :: b :: c :: d :: rest => exact absurd rfl (hfour a b c d rest)

/-- One octet, two and three, as padding tells them apart. -/
example : encode "f".toUTF8.toList = "Zg==".toList ∧
    encode "fo".toUTF8.toList = "Zm8=".toList ∧
    encode "foo".toUTF8.toList = "Zm9v".toList := by
  decide +kernel

end CredRelay.Text.Base64
