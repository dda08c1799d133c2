import CredRelay.Proofs.Text.Numerals
import CredRelay.Proofs.Toml.TextRoundTrip
import CredRelay.Toml.Document
/-! Writing values as TOML and reading them back: texts, lists of texts, and numbers up to
the largest that the format has. -/
namespace CredRelay.Toml

open Text

variable {rest s : List Char} {c : Char} {fuel depth n : Nat}

/-! ## Numbers -/

theorem digits?_eq_self {base : Nat} (hne : s ≠ [])
    (h : ∀ c ∈ s, (digit? base c).isSome = true ∧ c ≠ '_') : digits? base s = some s := by
  fun_induction digits? base s with
  | case1 => exact absurd rfl hne
  | case2 c hc => rfl
  | case3 c hc => exact absurd (h c List.mem_cons_self).1 hc
  | case4 c rest hc ih =>
    exact absurd rfl (h '_' (List.mem_cons_of_mem c List.mem_cons_self)).2
  | case5 c rest hc => exact absurd (h c List.mem_cons_self).1 hc
  | case6 c rest hone hunder hc ih =>
    rw [ih hone fun d hd => h d (List.mem_cons_of_mem c hd)]
    rfl
  | case7 c rest hone hunder hc => exact absurd (h c List.mem_cons_self).1 hc

theorem whole?_toDigits (n : Nat) :
    whole? (Nat.toDigits 10 n) = some (Nat.toDigits 10 n) := by
  have hzero :
      ¬((Nat.toDigits 10 n).length > 1 ∧ (Nat.toDigits 10 n).head? = some '0') := by
    rintro ⟨hlong, hhead⟩
    rw [head?_toDigits_eq_zero hhead] at hlong
    exact absurd hlong (by decide)
  rw [whole?, if_neg hzero]
  exact digits?_eq_self Nat.toDigits_ne_nil fun c hc =>
    ⟨isSome_digit?_of_mem_toDigits hc, ne_of_mem_toDigits hc rfl⟩

theorem unsigned_toDigits (n : Nat) :
    unsigned (Nat.toDigits 10 n) = (false, Nat.toDigits 10 n) := by
  rw [unsigned.eq_def]
  split
  · next h =>
      exact absurd rfl (ne_of_mem_toDigits (h ▸ List.mem_cons_self) (d := '-') rfl)
  · next h =>
      exact absurd rfl (ne_of_mem_toDigits (h ▸ List.mem_cons_self) (d := '+') rfl)
  · rfl

/-- A number that has no letter behind its first digit is decimal. -/
theorem integer?_toDigits (h : n ≤ 9223372036854775807) :
    integer? (Nat.toDigits 10 n) = some (n : Int) := by
  have hsecond : ∀ {d rest}, Nat.toDigits 10 n = '0' :: d :: rest → d.isDigit = true :=
    fun h => isDigit_of_mem_toDigits (h ▸ List.mem_cons_of_mem _ List.mem_cons_self)
  have hbounded : bounded? (n : Int) = some (n : Int) := by
    rw [bounded?, if_pos ⟨by omega, by omega⟩]
  rw [integer?.eq_def]
  split
  · next h => exact absurd (hsecond h) (by decide)
  · next h => exact absurd (hsecond h) (by decide)
  · next h => exact absurd (hsecond h) (by decide)
  · rw [unsigned_toDigits]
    simp only [whole?_toDigits, Option.bind_some,
      numeral?_toDigits (by decide : 1 < 10) (by decide)]
    exact hbounded

theorem ne_of_toDigits {word : String} {d : Char} (h : d ∈ word.toList)
    (hd : d.isDigit = false) : Nat.toDigits 10 n ≠ word.toList := by
  intro heq
  exact ne_of_mem_toDigits (n := n) (heq ▸ h) hd rfl

theorem bare?_toDigits (h : n ≤ 9223372036854775807) (rest : List Char) :
    bare? (Nat.toDigits 10 n ++ '\n' :: rest) = some (.integer n, '\n' :: rest) := by
  have hends : ∀ c ∈ Nat.toDigits 10 n, (!endsScalar c) = true := by
    intro c hc
    obtain ⟨d, hd, rfl⟩ := exists_digitChar_of_mem_toDigits (by decide) hc
    have hall : ∀ d < 10, (!endsScalar (Nat.digitChar d)) = true := by decide
    exact hall d hd
  have hword : (Nat.toDigits 10 n ++ '\n' :: rest).takeWhile (fun c => !endsScalar c) =
      Nat.toDigits 10 n := by
    rw [List.takeWhile_append_of_pos hends, List.takeWhile_cons_of_neg (by decide),
      List.append_nil]
  have hrest : (Nat.toDigits 10 n ++ '\n' :: rest).dropWhile (fun c => !endsScalar c) =
      '\n' :: rest := by
    rw [List.dropWhile_append_of_pos hends, List.dropWhile_cons_of_neg (by decide)]
  have hblank : ¬(('\n' :: rest).head? = some ' ' ∧
      afterDate? (Nat.toDigits 10 n) = some [] ∧ isMoment (Nat.toDigits 10 n ++ ' ' ::
        (('\n' :: rest).drop 1).takeWhile (fun c => !endsScalar c)) = true) := by
    simp
  have htrue : Nat.toDigits 10 n ≠ "true".toList :=
    ne_of_toDigits (d := 't') (by decide) rfl
  have hfalse : Nat.toDigits 10 n ≠ "false".toList :=
    ne_of_toDigits (d := 'f') (by decide) rfl
  rw [bare?]
  simp only [hword, hrest]
  rw [if_neg hblank, scalar?, if_neg htrue, if_neg hfalse, integer?_toDigits h]
  rfl

/-! ## Texts and lists of texts -/

/-- Whether blanks, comments and line ends do not go on here. -/
def Stops (s : List Char) : Prop :=
  ∃ c rest, s = c :: rest ∧ isGap c = false ∧ c ≠ '#' ∧ c ≠ '\n' ∧ c ≠ '\r'

theorem stops_cons {c : Char} (h : isGap c = false ∧ c ≠ '#' ∧ c ≠ '\n' ∧ c ≠ '\r')
    (rest : List Char) : Stops (c :: rest) :=
  ⟨c, rest, rfl, h⟩

theorem afterSpace_of_stops (h : Stops s) (n : Nat) : afterSpace n s = s := by
  obtain ⟨c, rest, rfl, hgap, hcomment, hline, hreturn⟩ := h
  have hbreak : afterBreak? (c :: rest) = none := by
    rw [afterBreak?.eq_def]
    split
    · next h => exact absurd (List.cons.inj h).1 hline
    · next h => exact absurd (List.cons.inj h).1 hreturn
    · rfl
  cases n with
  | zero => rfl
  | succ n => simp [afterSpace, hgap, hcomment, hbreak]

/-- Blanks and line ends before something else are skipped. -/
theorem afterSpace_append {blanks : List Char}
    (hblanks : ∀ c ∈ blanks, isGap c = true ∨ c = '\n') (h : Stops s)
    (hn : blanks.length ≤ n) : afterSpace n (blanks ++ s) = s := by
  induction blanks generalizing n with
  | nil => exact afterSpace_of_stops h n
  | cons c blanks ih =>
    obtain ⟨hc, hrest⟩ := List.forall_mem_cons.mp hblanks
    cases n with
    | zero => cases hn
    | succ n =>
      have hnext := ih hrest (Nat.le_of_succ_le_succ hn)
      rw [List.cons_append, afterSpace]
      by_cases hgap : isGap c = true
      · rw [if_pos hgap, hnext]
      · obtain rfl : c = '\n' := hc.resolve_left hgap
        exact hnext

theorem exists_writtenText (s : List Char) :
    ∃ c rest, writtenText s = c :: rest ∧ (c = '"' ∨ c = '\'') := by
  rw [writtenText]
  cases formOf s with
  | escaped => exact ⟨_, _, rfl, .inl rfl⟩
  | literal => exact ⟨_, _, rfl, .inr rfl⟩
  | longEscaped => exact ⟨_, _, rfl, .inl rfl⟩
  | longLiteral => exact ⟨_, _, rfl, .inr rfl⟩

theorem stops_writtenText (s rest : List Char) : Stops (writtenText s ++ rest) := by
  obtain ⟨c, more, hwritten, rfl | rfl⟩ := exists_writtenText s
  · rw [hwritten]
    exact stops_cons (by decide) _
  · rw [hwritten]
    exact stops_cons (by decide) _

theorem value?_writtenText (hrest : Follows rest) (t : String) (fuel depth : Nat) :
    value? (fuel + 1) depth (writtenText t.toList ++ rest) = some (.text t, rest) := by
  have htext := text?_writtenText hrest t.toList
  obtain ⟨c, more, hwritten, rfl | rfl⟩ := exists_writtenText t.toList
  · rw [hwritten, List.cons_append] at htext ⊢
    rw [value?, htext]
    simp
  · rw [hwritten, List.cons_append] at htext ⊢
    rw [value?, htext]
    simp

/-- A list goes on after a text with a comma, or ends with its bracket. -/
theorem items?_writtenText {blanks : List Char}
    (hblanks : ∀ c ∈ blanks, isGap c = true ∨ c = '\n') (hrest : Follows rest)
    (t : String) (items : List Value) (fuel depth : Nat) :
    items? (fuel + 2) depth items (blanks ++ (writtenText t.toList ++ rest)) =
      match afterSpace rest.length rest with
      | ',' :: rest => items? (fuel + 1) depth (.text t :: items) rest
      | ']' :: rest => some (.array (.text t :: items).reverse, rest)
      | _ => none := by
  have hspace : afterSpace (blanks ++ (writtenText t.toList ++ rest)).length
      (blanks ++ (writtenText t.toList ++ rest)) = writtenText t.toList ++ rest :=
    afterSpace_append hblanks (stops_writtenText _ _) (by simp)
  rw [items?, hspace]
  split
  · next h =>
    -- what is written starts with a quote, and so not with the end of the list
    obtain ⟨c, more, hwritten, hc⟩ := exists_writtenText t.toList
    rw [hwritten] at h
    obtain rfl : c = ']' := (List.cons.inj h).1
    exact absurd hc (by decide)
  · rewrite [value?_writtenText hrest t fuel depth]
    rfl

theorem items?_bracket {blanks : List Char}
    (hblanks : ∀ c ∈ blanks, isGap c = true ∨ c = '\n') (items : List Value)
    (fuel depth : Nat) (rest : List Char) :
    items? (fuel + 1) depth items (blanks ++ ']' :: rest) =
      some (.array items.reverse, rest) := by
  have hspace : afterSpace (blanks ++ ']' :: rest).length (blanks ++ ']' :: rest) =
      ']' :: rest :=
    afterSpace_append hblanks (stops_cons (by decide) rest) (by simp)
  rw [items?, hspace]
  rfl

/-- A line of a list that holds a text. -/
def writtenLine (t : String) : List Char :=
  "    ".toList ++ writtenText t.toList ++ [',', '\n']

/-- Lines that each hold a text are read as the rest of a list. -/
theorem items?_writtenLines (texts : List String) (items : List Value) (depth : Nat)
    (rest : List Char) (hfuel : texts.length < fuel) :
    items? fuel depth items ('\n' :: (texts.flatMap writtenLine ++ ']' :: rest)) =
      some (.array (items.reverse ++ texts.map .text), rest) := by
  induction texts generalizing items fuel with
  | nil =>
    obtain ⟨fuel, rfl⟩ : ∃ m, fuel = m + 1 := Nat.exists_eq_add_one.mpr hfuel
    rw [List.map_nil, List.append_nil]
    have hgap : ∀ c ∈ ['\n'], isGap c = true ∨ c = '\n' := by simp
    exact items?_bracket hgap items fuel depth rest
  | cons t texts ih =>
    obtain ⟨fuel, rfl⟩ : ∃ m, fuel = m + 2 :=
      ⟨fuel - 2, by rw [List.length_cons] at hfuel; omega⟩
    have hline : '\n' :: ((t :: texts).flatMap writtenLine ++ ']' :: rest) =
        "\n    ".toList ++ (writtenText t.toList ++
          ',' :: '\n' :: (texts.flatMap writtenLine ++ ']' :: rest)) := by
      simp [writtenLine]
    have hcomma :
        afterSpace (',' :: '\n' :: (texts.flatMap writtenLine ++ ']' :: rest)).length
        (',' :: '\n' :: (texts.flatMap writtenLine ++ ']' :: rest)) =
          ',' :: '\n' :: (texts.flatMap writtenLine ++ ']' :: rest) :=
      afterSpace_of_stops (stops_cons (by decide) _) _
    have hgap : ∀ c ∈ "\n    ".toList, isGap c = true ∨ c = '\n' := by
      simp [isGap]
    rw [hline, items?_writtenText hgap ⟨by simp, by simp⟩, hcomma]
    simp only []
    rw [ih _ (by rw [List.length_cons] at hfuel; omega), List.reverse_cons,
      List.append_assoc]
    rfl

theorem length_le_writtenLines (texts : List String) :
    texts.length ≤ (texts.flatMap writtenLine).length := by
  induction texts with
  | nil => exact Nat.le_refl 0
  | cons t texts ih =>
    simp only [List.flatMap_cons, List.length_append, List.length_cons, writtenLine]
    omega

/-- Every list of texts reads back as itself. -/
theorem value?_writtenTexts (texts : List String) (depth : Nat) (rest : List Char)
    (hfuel : (writtenTexts texts).length + 1 ≤ fuel) :
    value? fuel (depth + 1) (writtenTexts texts ++ rest) =
      some (.array (texts.map .text), rest) := by
  match texts with
  | [] =>
    obtain ⟨fuel, rfl⟩ : ∃ m, fuel = m + 2 :=
      ⟨fuel - 2, by simp [writtenTexts] at hfuel; omega⟩
    show value? (fuel + 2) (depth + 1) ('[' :: ([] ++ ']' :: rest)) = _
    rw [value?]
    exact items?_bracket (by simp) [] fuel depth rest
  | [t] =>
    obtain ⟨fuel, rfl⟩ : ∃ m, fuel = m + 3 :=
      ⟨fuel - 3, by simp [writtenTexts] at hfuel; omega⟩
    have hbracket : afterSpace (']' :: rest).length (']' :: rest) = ']' :: rest :=
      afterSpace_of_stops (stops_cons (by decide) rest) _
    have hwritten : writtenTexts [t] ++ rest =
        '[' :: ([] ++ (writtenText t.toList ++ ']' :: rest)) := by
      simp [writtenTexts]
    rw [hwritten, value?, items?_writtenText (by simp) ⟨by simp, by simp⟩, hbracket]
    rfl
  | t :: u :: texts =>
    have hwritten : writtenTexts (t :: u :: texts) ++ rest =
        '[' :: '\n' :: ((t :: u :: texts).flatMap writtenLine ++ ']' :: rest) := by
      show '[' :: '\n' :: ((t :: u :: texts).flatMap writtenLine ++ [']']) ++ rest = _
      simp
    have hlength := length_le_writtenLines (t :: u :: texts)
    have hwhole : (writtenTexts (t :: u :: texts)).length =
        ((t :: u :: texts).flatMap writtenLine).length + 3 := by
      show ('[' :: '\n' :: ((t :: u :: texts).flatMap writtenLine ++ [']'])).length = _
      simp only [List.length_cons, List.length_append, List.length_nil]
    obtain ⟨fuel, rfl⟩ : ∃ m, fuel = m + 1 := ⟨fuel - 1, by omega⟩
    rw [hwritten, value?]
    exact items?_writtenLines _ [] depth rest (by omega)

/-! ## Values -/

/-- What is written as the value of a key. -/
inductive Simple where
  | text (s : String)
  | texts (l : List String)
  | count (n : Nat)
  deriving DecidableEq, Repr

namespace Simple

/-- The value in a document. -/
def value : Simple → Value
  | .text s => .text s
  | .texts l => .array (l.map .text)
  | .count n => .integer n

/-- The value as it is written. -/
def written : Simple → List Char
  | .text s => writtenText s.toList
  | .texts l => writtenTexts l
  | .count n => (decimal n).toList

/-- Whether a number is one that the format has. -/
def IsBounded : Simple → Prop
  | .count n => n ≤ 9223372036854775807
  | _ => True

instance (x : Simple) : Decidable x.IsBounded :=
  match x with
  | .count _ => inferInstanceAs (Decidable (_ ≤ _))
  | .text _ | .texts _ => inferInstanceAs (Decidable True)

/-- A written value starts with something else than a blank. -/
theorem exists_written (x : Simple) :
    ∃ c rest, x.written = c :: rest ∧ isGap c = false := by
  cases x with
  | text s =>
    obtain ⟨c, rest, hwritten, hc⟩ := exists_writtenText s.toList
    refine ⟨c, rest, hwritten, ?_⟩
    rcases hc with rfl | rfl <;> rfl
  | texts l =>
    match l with
    | [] => exact ⟨_, _, rfl, rfl⟩
    | [_] => exact ⟨_, _, rfl, rfl⟩
    | _ :: _ :: _ => exact ⟨_, _, rfl, rfl⟩
  | count n =>
    obtain ⟨c, rest, hc⟩ :=
      List.exists_cons_of_ne_nil (Nat.toDigits_ne_nil (n := n) (b := 10))
    refine ⟨c, rest, (toList_decimal n).trans hc, ?_⟩
    have hdigit : c.isDigit = true := isDigit_of_mem_toDigits (hc ▸ List.mem_cons_self)
    rw [isGap, Bool.or_eq_false_iff, beq_eq_false_iff_ne, beq_eq_false_iff_ne]
    constructor
    · rintro rfl
      cases hdigit
    · rintro rfl
      cases hdigit

theorem value?_eq_bare? (h : c.isDigit = true) (s : List Char) :
    value? (fuel + 1) depth (c :: s) = bare? (c :: s) := by
  rw [value?]
  all_goals
    rintro rest heq
    rw [(List.cons.inj heq).1] at h
    cases h

/-- A written value reads back as itself at the end of a line. -/
theorem value?_written {x : Simple} (h : x.IsBounded) (depth : Nat) (rest : List Char)
    (hfuel : x.written.length + 1 ≤ fuel) :
    value? fuel (depth + 1) (x.written ++ '\n' :: rest) =
      some (x.value, '\n' :: rest) := by
  cases x with
  | text s =>
    obtain ⟨fuel, rfl⟩ : ∃ m, fuel = m + 1 := ⟨fuel - 1, by omega⟩
    exact value?_writtenText ⟨by simp, by simp⟩ s fuel (depth + 1)
  | texts l => exact value?_writtenTexts l depth ('\n' :: rest) hfuel
  | count n =>
    obtain ⟨fuel, rfl⟩ : ∃ m, fuel = m + 1 := ⟨fuel - 1, by omega⟩
    show value? (fuel + 1) (depth + 1) ((decimal n).toList ++ '\n' :: rest) = _
    rw [toList_decimal]
    have hbare := bare?_toDigits h rest
    obtain ⟨c, digits, hc⟩ :=
      List.exists_cons_of_ne_nil (Nat.toDigits_ne_nil (n := n) (b := 10))
    have hdigit : c.isDigit = true := isDigit_of_mem_toDigits (hc ▸ List.mem_cons_self)
    rw [hc, List.cons_append] at hbare ⊢
    rw [value?_eq_bare? hdigit, hbare]
    rfl

end Simple

end CredRelay.Toml
