import CredRelay.Url.Punycode
/-! What is written as Punycode: the ASCII characters of a text, and behind them digits
only. -/
namespace CredRelay.Url.Punycode

/-! ## Digits -/

/-- The characters that digits are written with. -/
def isDigitCharacter (c : Char) : Bool :=
  ('a' ≤ c && c ≤ 'z') || ('0' ≤ c && c ≤ '9')

theorem isDigitCharacter_digit {n : Nat} (h : n < 36) :
    isDigitCharacter (digit n) = true := by
  have hall : ∀ m < 36, isDigitCharacter (digit m) = true := by decide
  exact hall n h

theorem isDigitCharacter_of_mem_number {q k bias : Nat} :
    ∀ c ∈ number q k bias, isDigitCharacter c = true := by
  fun_induction number q k bias with
  | case1 q k t hlt =>
    intro c hc
    have hle := threshold_le k bias
    rw [List.mem_singleton.mp hc]
    exact isDigitCharacter_digit (by omega)
  | case2 q k t hge ih =>
    have hlow := threshold_pos k bias
    have hle := threshold_le k bias
    have hmod : (q - t) % (36 - t) < 36 - t := Nat.mod_lt _ (by omega)
    intro c hc
    rcases List.mem_cons.mp hc with rfl | hc
    · exact isDigitCharacter_digit (by omega)
    · exact ih c hc

/-! ## The writer -/

/-- Whether only digits were written so far. -/
def Writer.WroteDigits (w : Writer) : Prop :=
  ∀ c ∈ w.written, isDigitCharacter c = true

theorem Writer.WroteDigits.pass {w : Writer} (h : w.WroteDigits) (ascii n : Nat)
    (c : Char) : (w.pass ascii n c).WroteDigits := by
  rw [Writer.pass]
  split
  · exact h
  · split
    · intro d hd
      rcases List.mem_append.mp hd with hd | hd
      · exact isDigitCharacter_of_mem_number d (List.mem_reverse.mp hd)
      · exact h d hd
    · exact h

theorem Writer.WroteDigits.foldl_pass {w : Writer} (h : w.WroteDigits) (ascii n : Nat)
    (s : List Char) : (s.foldl (Writer.pass ascii n) w).WroteDigits := by
  induction s generalizing w with
  | nil => exact h
  | cons c s ih => exact ih (h.pass ascii n c)

theorem Writer.WroteDigits.foldl_place {w : Writer} (h : w.WroteDigits) (ascii : Nat)
    (s : List Char) (points : List Nat) :
    (points.foldl (Writer.place ascii s) w).WroteDigits := by
  induction points generalizing w with
  | nil => exact h
  | cons n points ih =>
    have hstart : Writer.WroteDigits
        { w with steps := w.steps + (n - w.next) * (w.placed + 1) } := h
    exact ih (w := Writer.place ascii s w n) (hstart.foldl_pass ascii n s)

/-! ## Written forms -/

/-- The ASCII characters of a text. -/
def plainPart (s : List Char) : List Char :=
  s.filter (fun c => c.toNat < 0x80)

/-- The code points of a text that are not ASCII, in ascending order. -/
def widePoints (s : List Char) : List Nat :=
  (s.filter (fun c => 0x80 ≤ c.toNat)).foldl (fun l c => insertAscending c.toNat l) []

/-- The digits that say which other characters go where. -/
def digits (s : List Char) : List Char :=
  ((widePoints s).foldl (Writer.place (plainPart s).length s)
    ⟨0x80, 0, 72, (plainPart s).length, []⟩).written.reverse

theorem encode_eq (s : List Char) :
    encode s = plainPart s ++ (if (plainPart s).isEmpty then [] else ['-']) ++ digits s :=
    rfl

theorem isDigitCharacter_of_mem_digits {s : List Char} :
    ∀ c ∈ digits s, isDigitCharacter c = true := by
  have hstart : Writer.WroteDigits ⟨0x80, 0, 72, (plainPart s).length, []⟩ :=
    fun c hc => absurd hc List.not_mem_nil
  intro c hc
  exact hstart.foldl_place (plainPart s).length s (widePoints s) c
    (List.mem_reverse.mp hc)

/-- A written form holds ASCII characters of the text, hyphens and digits. -/
theorem of_mem_encode {s : List Char} {c : Char} (h : c ∈ encode s) :
    (c ∈ s ∧ c.toNat < 0x80) ∨ c = '-' ∨ isDigitCharacter c = true := by
  rw [encode_eq] at h
  rcases List.mem_append.mp h with h | h
  · rcases List.mem_append.mp h with h | h
    · obtain ⟨hmem, hascii⟩ := List.mem_filter.mp h
      exact .inl ⟨hmem, by simpa using hascii⟩
    · split at h
      · exact absurd h List.not_mem_nil
      · exact .inr (.inl (List.mem_singleton.mp h))
  · exact .inr (.inr (isDigitCharacter_of_mem_digits c h))

end CredRelay.Url.Punycode
