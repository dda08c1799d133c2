import CredRelay.Text.Numeral
/-! What is read from a number that was written. In every base up to sixteen the digits of
a number stand for that number again, so two numbers with the same digits are one. -/
namespace CredRelay.Text

variable {base : Nat}

/-! ## Digits -/

theorem digitValue_digitChar {d : Nat} (h : d < 16) :
    digitValue (Nat.digitChar d) = d := by
  have hall : ∀ e < 16, digitValue (Nat.digitChar e) = e := by decide
  exact hall d h

theorem digit?_digitChar (hbase : base ≤ 16) {d : Nat} (h : d < base) :
    digit? base (Nat.digitChar d) = some d := by
  rw [digit?, digitValue_digitChar (by omega), if_pos h]

theorem numeralFrom?_append (n : Nat) (s t : List Char) :
    numeralFrom? base n (s ++ t) = (numeralFrom? base n s).bind fun m =>
      numeralFrom? base m t := by
  induction s generalizing n with
  | nil => rfl
  | cons c s ih =>
    rw [List.cons_append, numeralFrom?, numeralFrom?]
    cases digit? base c with
    | none => rfl
    | some d => exact ih _

theorem numeralFrom?_toDigits (hlow : 1 < base) (hhigh : base ≤ 16) (n : Nat) :
    numeralFrom? base 0 (Nat.toDigits base n) = some n := by
  induction n using Nat.strongRecOn with
  | ind n ih =>
    by_cases hsmall : n < base
    · rw [Nat.toDigits_of_lt_base hsmall, numeralFrom?, digit?_digitChar hhigh hsmall]
      simp [numeralFrom?]
    · have hquot : n / base < n := Nat.div_lt_self (by omega) hlow
      rw [Nat.toDigits_of_base_le hlow (by omega), numeralFrom?_append, ih _ hquot,
        Option.bind_some, numeralFrom?, digit?_digitChar hhigh (Nat.mod_lt n (by omega))]
      simp only [numeralFrom?, Option.some.injEq]
      exact Nat.div_add_mod' n base

/-- The digits of a number stand for it. -/
theorem numeral?_toDigits (hlow : 1 < base) (hhigh : base ≤ 16) (n : Nat) :
    numeral? base (Nat.toDigits base n) = some n := by
  rw [numeral?, if_neg (by simp [Nat.toDigits_ne_nil]), numeralFrom?_toDigits hlow hhigh]

theorem exists_digitChar_of_mem_toDigits (hlow : 1 < base) {n : Nat} {c : Char}
    (h : c ∈ Nat.toDigits base n) : ∃ d < base, c = Nat.digitChar d := by
  induction n using Nat.strongRecOn with
  | ind n ih =>
    by_cases hsmall : n < base
    · rw [Nat.toDigits_of_lt_base hsmall] at h
      exact ⟨n, hsmall, List.mem_singleton.mp h⟩
    · have hquot : n / base < n := Nat.div_lt_self (by omega) hlow
      rw [Nat.toDigits_of_base_le hlow (by omega)] at h
      rcases List.mem_append.mp h with h | h
      · exact ih _ hquot h
      · exact ⟨n % base, Nat.mod_lt n (by omega), List.mem_singleton.mp h⟩

/-! ## Decimals -/

theorem toList_decimal (n : Nat) : (decimal n).toList = Nat.toDigits 10 n := by
  rw [decimal, String.toList_ofList]

theorem numeral?_decimal (n : Nat) : numeral? 10 (decimal n).toList = some n := by
  rw [toList_decimal, numeral?_toDigits (by decide) (by decide)]

theorem decimal_injective {m n : Nat} (h : decimal m = decimal n) : m = n := by
  have hread := numeral?_decimal m
  rw [h, numeral?_decimal] at hread
  exact (Option.some.inj hread).symm

theorem isDigit_of_mem_toDigits {n : Nat} {c : Char} (h : c ∈ Nat.toDigits 10 n) :
    c.isDigit = true :=
  Nat.isDigit_of_mem_toDigits (by decide) (by decide) h

theorem ne_of_mem_toDigits {n : Nat} {c d : Char} (h : c ∈ Nat.toDigits 10 n)
    (hd : d.isDigit = false) : c ≠ d := by
  rintro rfl
  rw [isDigit_of_mem_toDigits h] at hd
  cases hd

theorem isSome_digit?_of_mem_toDigits {n : Nat} {c : Char} (h : c ∈ Nat.toDigits 10 n) :
    (digit? 10 c).isSome = true := by
  obtain ⟨d, hd, rfl⟩ := exists_digitChar_of_mem_toDigits (by decide) h
  rw [digit?_digitChar (by decide) hd]
  rfl

/-- Only zero is written with a zero at its start. -/
theorem head?_toDigits_eq_zero {n : Nat} (h : (Nat.toDigits 10 n).head? = some '0') :
    n = 0 := by
  induction n using Nat.strongRecOn with
  | ind n ih =>
    by_cases hsmall : n < 10
    · rw [Nat.toDigits_of_lt_base hsmall] at h
      have hall : ∀ d < 10, Nat.digitChar d = '0' → d = 0 := by decide
      exact hall n hsmall (Option.some.inj h)
    · obtain ⟨c, rest, hc⟩ :=
        List.exists_cons_of_ne_nil (Nat.toDigits_ne_nil (n := n / 10) (b := 10))
      rw [Nat.toDigits_of_base_le (by decide) (by omega), hc] at h
      have hquot := ih (n / 10) (by omega) (by rw [hc]; exact h)
      omega

end CredRelay.Text
