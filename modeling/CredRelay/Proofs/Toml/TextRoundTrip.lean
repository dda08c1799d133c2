import CredRelay.Proofs.Text.Pieces
import CredRelay.Toml.Printer
import CredRelay.Toml.Text
import Mathlib.Tactic.ByContra
/-! Writing a text as TOML and reading it back. Every text reads back as itself, in
whichever form it is written, as long as no quote follows it. -/
namespace CredRelay.Toml

open Text

variable {read rest s : List Char} {c : Char}

/-! ## Characters -/

theorem isPlain_of_not_isControl (h : isControl c = false) : isPlain c = true := by
  simp only [isControl, Bool.or_eq_false_iff, decide_eq_false_iff_not, Nat.not_lt] at h
  simp [isPlain, h.1, bne, h.2]

/-- What stands for a control in a written text is read as its code point. -/
theorem exists_hexCapitals (h : isControl c = true) :
    ∃ a b d e, (hexCapitals 4 c.toNat).toList = [a, b, d, e] ∧
      codePoint? [a, b, d, e] = some c := by
  have hlow : c.toNat < 0x80 := by
    simp only [isControl, Bool.or_eq_true, decide_eq_true_eq, beq_iff_eq] at h
    omega
  have hdigits : ∀ n < 0x80, (hexCapitals 4 n).toList.length = 4 ∧
      codePoint? (hexCapitals 4 n).toList = some (Char.ofNat n) := by decide +kernel
  obtain ⟨hlength, hpoint⟩ := hdigits c.toNat hlow
  rw [Char.ofNat_toNat] at hpoint
  match hdigits : (hexCapitals 4 c.toNat).toList, hlength with
  | [a, b, d, e], _ => exact ⟨a, b, d, e, rfl, hdigits ▸ hpoint⟩

/-! ## Texts on one line -/

theorem basicText?_cons (hplain : isPlain c = true) (hquote : c ≠ '"')
    (hslash : c ≠ '\\') : basicText? read (c :: rest) = basicText? (c :: read) rest := by
  rw [basicText?.eq_def]
  split
  · next h => cases h
  · next h =>
    cases h
    exact absurd rfl hquote
  · next h =>
    cases h
    exact absurd rfl hslash
  · next h =>
    cases h
    exact absurd rfl hslash
  · next h =>
    cases h
    exact absurd rfl hslash
  · next h =>
    cases h
    rw [if_pos ⟨hplain, hslash⟩]

theorem basicText?_writtenCharacter (hquote : c ≠ '"') :
    basicText? read (writtenCharacter false c ++ rest) = basicText? (c :: read) rest := by
  rw [writtenCharacter]
  split
  · next h => subst h; rfl
  split
  · next h => subst h; rfl
  split
  · next h => subst h; rfl
  split
  · next h => subst h; rfl
  split
  · next h => subst h; rfl
  split
  · next h => subst h; rfl
  split
  · next hcontrol =>
    obtain ⟨a, b, d, e, hdigits, hpoint⟩ := exists_hexCapitals hcontrol
    rw [hdigits]
    show basicText? read ('\\' :: 'u' :: a :: b :: d :: e :: rest) = _
    simp only [basicText?, hpoint]
  · next hslash hcontrol =>
    exact basicText?_cons (isPlain_of_not_isControl (Bool.not_eq_true _ ▸ hcontrol))
      hquote hslash

theorem basicText?_writtenCharacters (quotes : Nat) (s read : List Char) :
    basicText? read (writtenCharacters false quotes s ++ '"' :: rest) =
      some (read.reverse ++ s, rest) := by
  induction s generalizing read quotes with
  | nil => simp [writtenCharacters, basicText?]
  | cons c s ih =>
    rw [writtenCharacters]
    by_cases hquote : c = '"'
    · subst hquote
      show basicText? ('"' :: read) (writtenCharacters false 0 s ++ '"' :: rest) = _
      rw [ih, List.reverse_cons, List.append_assoc]
      rfl
    · rw [if_neg hquote, List.append_assoc, basicText?_writtenCharacter hquote, ih,
        List.reverse_cons, List.append_assoc]
      rfl

theorem literalText?_append (hquote : '\'' ∉ s) (hplain : s.all isPlain = true) :
    literalText? (s ++ '\'' :: rest) = some (s, rest) := by
  rw [literalText?, cut_append hquote]
  exact if_pos hplain

/-! ## Texts on several lines -/

theorem closeText_of_ne {quote : Char} (h : rest.head? ≠ some quote) (read : List Char) :
    closeText quote read rest = (read.reverse, rest) := by
  match rest, h with
  | [], _ => rfl
  | [a], h =>
    have ha : a ≠ quote := fun ha => h (by rw [ha]; rfl)
    simp [closeText, ha]
  | a :: b :: after, h =>
    have ha : a ≠ quote := fun ha => h (by rw [ha]; rfl)
    simp [closeText, ha]

theorem closeText_one {quote : Char} (h : rest.head? ≠ some quote) (read : List Char) :
    closeText quote read (quote :: rest) = (read.reverse ++ [quote], rest) := by
  match rest, h with
  | [], _ => simp [closeText]
  | b :: after, h =>
    have hb : b ≠ quote := fun hb => h (by rw [hb]; rfl)
    simp [closeText, hb]

theorem closeText_two (quote : Char) (read rest : List Char) :
    closeText quote read (quote :: quote :: rest) =
      (read.reverse ++ [quote, quote], rest) := by
  simp [closeText]

/-- Whether a text starts with three quotes. -/
def StartsThreefold (quote : Char) (s : List Char) : Prop :=
  ∃ rest, s = quote :: quote :: quote :: rest

theorem not_startsThreefold_of_ne {quote : Char} (h : c ≠ quote) :
    ¬StartsThreefold quote (c :: s) := by
  rintro ⟨rest, hrest⟩
  exact h (List.cons.inj hrest).1

theorem longBasicText?_cons (hplain : isPlain c = true ∨ c = '\n') (hslash : c ≠ '\\')
    (hquotes : ¬StartsThreefold '"' (c :: rest)) :
    longBasicText? false read (c :: rest) = longBasicText? false (c :: read) rest := by
  rw [longBasicText?.eq_def]
  split
  · next h => cases h
  · next h => exact absurd ⟨_, h⟩ hquotes
  · next h =>
    cases h
    exact absurd hplain (by decide)
  · next h =>
    cases h
    exact absurd rfl hslash
  · next h =>
    cases h
    exact absurd rfl hslash
  · next h =>
    cases h
    exact absurd rfl hslash
  · next h =>
    cases h
    split
    · rfl
    · next hline =>
      have hplain : isPlain c = true := hplain.resolve_right fun h => hline (.inl h)
      rw [if_pos ⟨hplain, hslash⟩]

theorem longBasicText?_writtenCharacter (hquote : c ≠ '"') :
    longBasicText? false read (writtenCharacter true c ++ rest) =
      longBasicText? false (c :: read) rest := by
  rw [writtenCharacter]
  split
  · next h => subst h; rfl
  split
  · next h => subst h; rfl
  split
  · next h => subst h; rfl
  split
  · next h => subst h; rfl
  split
  · next h => subst h; rfl
  split
  · next h => subst h; rfl
  split
  · next hcontrol =>
    obtain ⟨a, b, d, e, hdigits, hpoint⟩ := exists_hexCapitals hcontrol
    rw [hdigits]
    show longBasicText? false read ('\\' :: 'u' :: a :: b :: d :: e :: rest) = _
    simp only [longBasicText?, hpoint]
  · next hslash hcontrol =>
    exact longBasicText?_cons
      (.inl (isPlain_of_not_isControl (Bool.not_eq_true _ ▸ hcontrol))) hslash
      (not_startsThreefold_of_ne hquote)

/-- What a text is written as starts with a quote only if the text does, between threefold
marks, and not after two of them. -/
theorem head?_writtenCharacters {long : Bool} {quotes : Nat} (hne : s ≠ [])
    (hquote : long = true → s.head? = some '"' → 2 ≤ quotes) (rest : List Char) :
    (writtenCharacters long quotes s ++ rest).head? ≠ some '"' := by
  obtain ⟨c, s, rfl⟩ := List.exists_cons_of_ne_nil hne
  rw [writtenCharacters]
  by_cases hc : c = '"'
  · subst hc
    have hescaped : (long && decide (quotes < 2)) = false := by
      rw [Bool.and_eq_false_imp]
      intro hlong
      exact decide_eq_false (Nat.not_lt.mpr (hquote hlong rfl))
    rw [if_pos rfl, hescaped]
    simp
  · rw [if_neg hc, writtenCharacter]
    repeat' split
    all_goals simp [hc]

/-- Where a quote that was written stands before two others, the text ends with it or the
next one. -/
theorem eq_of_startsThreefold {quotes : Nat} (h : StartsThreefold '"'
      ('"' :: writtenCharacters true (quotes + 1) s ++ '"' :: '"' :: '"' :: rest)) :
    s = [] ∨ s = ['"'] ∧ quotes = 0 := by
  obtain ⟨tail, htail⟩ := h
  have hfirst : (writtenCharacters true (quotes + 1) s ++ '"' :: '"' :: '"' :: rest) =
      '"' :: '"' :: tail := (List.cons.inj htail).2
  match s with
  | [] => exact .inl rfl
  | c :: s =>
    have hc : c = '"' ∧ quotes = 0 := by
      by_contra hnot
      refine head?_writtenCharacters (List.cons_ne_nil c s) ?_ _
        (congrArg List.head? hfirst)
      intro _ hhead
      have hone : quotes ≠ 0 := fun hzero => hnot ⟨Option.some.inj hhead, hzero⟩
      omega
    obtain ⟨rfl, rfl⟩ := hc
    have hsecond : writtenCharacters true 2 s ++ '"' :: '"' :: '"' :: rest =
        '"' :: tail :=
      (List.cons.inj hfirst).2
    right
    by_contra hnot
    refine head?_writtenCharacters ?_ (fun _ _ => Nat.le_refl 2) _
      (congrArg List.head? hsecond)
    rintro rfl
    exact hnot ⟨rfl, rfl⟩

theorem longBasicText?_writtenCharacters (hrest : rest.head? ≠ some '"') (quotes : Nat)
    (s read : List Char) :
    longBasicText? false read
      (writtenCharacters true quotes s ++ ('"' :: '"' :: '"' :: rest)) =
      some (read.reverse ++ s, rest) := by
  induction s generalizing read quotes with
  | nil =>
    show longBasicText? false read ('"' :: '"' :: '"' :: rest) = _
    simp [longBasicText?, closeText_of_ne hrest]
  | cons c s ih =>
    have hpush : some ((c :: read).reverse ++ s, rest) =
        some (read.reverse ++ c :: s, rest) := by
      simp
    rw [writtenCharacters]
    by_cases hquote : c = '"'
    · subst hquote
      rw [if_pos rfl]
      by_cases hraw : quotes < 2
      · have hlong : (true && decide (quotes < 2)) = true := by simp [hraw]
        rw [if_pos hlong]
        by_cases hend : StartsThreefold '"'
          ('"' :: writtenCharacters true (quotes + 1) s ++ '"' :: '"' :: '"' :: rest)
        · obtain rfl | ⟨rfl, rfl⟩ := eq_of_startsThreefold hend
          · show longBasicText? false read ('"' :: '"' :: '"' :: '"' :: rest) = _
            rw [longBasicText?, closeText_one hrest]
          · show longBasicText? false read ('"' :: '"' :: '"' :: '"' :: '"' :: rest) = _
            rw [longBasicText?, closeText_two]
        · rw [List.cons_append] at hend ⊢
          rw [longBasicText?_cons (.inl rfl) (by decide) hend, ih, hpush]
      · have hlong : (true && decide (quotes < 2)) = false := by simp [hraw]
        rw [hlong]
        show longBasicText? false ('"' :: read) (writtenCharacters true 0 s ++ _) = _
        rw [ih, hpush]
    · rw [if_neg hquote, List.append_assoc, longBasicText?_writtenCharacter hquote, ih,
        hpush]

/-! ## Texts on several lines without escapes -/

theorem longestRun_mono (quote : Char) {m n : Nat} (h : m ≤ n) (s : List Char) :
    longestRun quote m s ≤ longestRun quote n s := by
  induction s generalizing m n with
  | nil => exact h
  | cons c s ih =>
    simp only [longestRun]
    split
    · exact ih (Nat.succ_le_succ h)
    · omega

theorem le_longestRun (quote : Char) (n : Nat) (s : List Char) :
    n ≤ longestRun quote n s := by
  induction s generalizing n with
  | nil => exact Nat.le_refl n
  | cons c s ih =>
    simp only [longestRun]
    split
    · exact Nat.le_trans (Nat.le_succ n) (ih (n + 1))
    · omega

theorem longestRun_le_cons (quote c : Char) (s : List Char) :
    longestRun quote 0 s ≤ longestRun quote 0 (c :: s) := by
  simp only [longestRun]
  split
  · exact longestRun_mono quote (Nat.zero_le 1) s
  · omega

theorem not_mem_of_longestRun_eq_zero {quote : Char} (h : longestRun quote 0 s = 0) :
    quote ∉ s := by
  induction s with
  | nil => exact List.not_mem_nil
  | cons c s ih =>
    have hrest := longestRun_le_cons quote c s
    have hc : c ≠ quote := by
      rintro rfl
      have hone := le_longestRun c (0 + 1) s
      rw [longestRun, if_pos rfl] at h
      omega
    simp only [List.mem_cons, not_or]
    exact ⟨fun heq => hc heq.symm, ih (by omega)⟩

theorem longLiteralText?_cons (hplain : isPlain c = true ∨ c = '\n')
    (hquotes : ¬StartsThreefold '\'' (c :: rest)) :
    longLiteralText? read (c :: rest) = longLiteralText? (c :: read) rest := by
  rw [longLiteralText?.eq_def]
  split
  · next h => cases h
  · next h => exact absurd ⟨_, h⟩ hquotes
  · next h =>
    cases h
    exact absurd hplain (by decide)
  · next h =>
    cases h
    rw [if_pos (Or.symm hplain)]

/-- Where three quotes stand at the start of a text with its marks, the text is no more
than two. -/
theorem eq_replicate_of_startsThreefold {quote : Char} (hrun : longestRun quote 0 s < 3)
    (h : StartsThreefold quote (s ++ quote :: quote :: quote :: rest)) :
    s = [] ∨ s = [quote] ∨ s = [quote, quote] := by
  obtain ⟨tail, htail⟩ := h
  match s, hrun with
  | [], _ => exact .inl rfl
  | [a], _ =>
    have ha : a = quote := (List.cons.inj htail).1
    exact .inr (.inl (by rw [ha]))
  | [a, b], _ =>
    have ha : a = quote := (List.cons.inj htail).1
    have hb : b = quote := (List.cons.inj (List.cons.inj htail).2).1
    exact .inr (.inr (by rw [ha, hb]))
  | a :: b :: d :: s, hrun =>
    obtain ⟨rfl, htail⟩ := List.cons.inj htail
    obtain ⟨rfl, htail⟩ := List.cons.inj htail
    obtain ⟨rfl, htail⟩ := List.cons.inj htail
    have hthree := le_longestRun d (0 + 1 + 1 + 1) s
    simp only [longestRun, if_true] at hrun
    omega

theorem longLiteralText?_append (hrest : rest.head? ≠ some '\'')
    (hrun : longestRun '\'' 0 s < 3) (hplain : ∀ c ∈ s, isPlain c = true ∨ c = '\n')
    (read : List Char) :
    longLiteralText? read (s ++ '\'' :: '\'' :: '\'' :: rest) =
      some (read.reverse ++ s, rest) := by
  induction s generalizing read with
  | nil => simp [longLiteralText?, closeText_of_ne hrest]
  | cons c s ih =>
    by_cases hend : StartsThreefold '\'' (c :: s ++ '\'' :: '\'' :: '\'' :: rest)
    · obtain h | h | h := eq_replicate_of_startsThreefold hrun hend
      · cases h
      · rw [h]
        show longLiteralText? read ('\'' :: '\'' :: '\'' :: '\'' :: rest) = _
        rw [longLiteralText?, closeText_one hrest]
      · rw [h]
        show longLiteralText? read ('\'' :: '\'' :: '\'' :: '\'' :: '\'' :: rest) = _
        rw [longLiteralText?, closeText_two]
    · obtain ⟨hc, hs⟩ := List.forall_mem_cons.mp hplain
      rw [List.cons_append] at hend ⊢
      rw [longLiteralText?_cons hc hend,
        ih (Nat.lt_of_le_of_lt (longestRun_le_cons '\'' c s) hrun) hs, List.reverse_cons,
        List.append_assoc]
      rfl

/-! ## Forms -/

theorem isPlain_of_mem
    (h : s.any (fun c => c != '\t' && c != '\n' && isControl c) = false) :
    ∀ c ∈ s, isPlain c = true ∨ c = '\n' := by
  intro c hc
  have hany := List.any_eq_false.mp h c hc
  by_cases htab : c = '\t'
  · subst htab
    exact .inl rfl
  by_cases hline : c = '\n'
  · exact .inr hline
  · refine .inl (isPlain_of_not_isControl ?_)
    simpa [htab, hline] using hany

/-- A text that is written as it is on one line has no single quotes and no controls. -/
theorem plain_of_formOf_eq_literal (h : formOf s = .literal) :
    '\'' ∉ s ∧ s.all isPlain = true := by
  simp only [formOf] at h
  split at h
  · cases h
  split at h
  · next hliteral =>
    simp only [Bool.and_eq_true, Bool.not_eq_true', beq_iff_eq] at hliteral
    obtain ⟨⟨hcontrols, hlines⟩, hrun⟩ := hliteral
    refine ⟨not_mem_of_longestRun_eq_zero hrun, List.all_eq_true.mpr fun c hc => ?_⟩
    refine (isPlain_of_mem hcontrols c hc).resolve_right ?_
    rintro rfl
    simp [hc] at hlines
  · split at h
    · cases h
    split at h
    · cases h
    split at h <;> cases h

/-- A text that is written as it is on several lines has no controls, and no three single
quotes in a row. -/
theorem plain_of_formOf_eq_longLiteral (h : formOf s = .longLiteral) :
    longestRun '\'' 0 s < 3 ∧ ∀ c ∈ s, isPlain c = true ∨ c = '\n' := by
  simp only [formOf] at h
  split at h
  · cases h
  split at h
  · cases h
  split at h
  · cases h
  split at h
  · next hliteral =>
    simp only [Bool.and_eq_true, Bool.not_eq_true', decide_eq_true_eq] at hliteral
    exact ⟨hliteral.2, isPlain_of_mem hliteral.1⟩
  · split at h <;> cases h

theorem text?_eq_shortText? (hdouble : ¬StartsThreefold '"' s)
    (hsingle : ¬StartsThreefold '\'' s) : text? s = shortText? s := by
  rw [text?.eq_def]
  split
  · exact absurd ⟨_, rfl⟩ hdouble
  · exact absurd ⟨_, rfl⟩ hsingle
  · rfl

theorem not_startsThreefold_of_head? {quote : Char} (h : s.head? ≠ some quote)
    (c : Char) : ¬StartsThreefold quote (c :: s) := by
  rintro ⟨rest, hrest⟩
  rw [(List.cons.inj hrest).2] at h
  exact h rfl

theorem skipFirstBreak_eq_self (hline : s.head? ≠ some '\n')
    (hreturn : s.head? ≠ some '\r') : skipFirstBreak s = s := by
  rw [skipFirstBreak.eq_def]
  split
  · exact absurd rfl hline
  · exact absurd rfl hreturn
  · rfl

/-- What follows the marks of a text on several lines is the text, whether or not it
starts on a line of its own. -/
theorem skipFirstBreak_start {written : List Char}
    (hline : '\n' ∉ s → written.head? ≠ some '\n') (hreturn : written.head? ≠ some '\r') :
    skipFirstBreak ((if s.contains '\n' then ['\n'] else []) ++ written) = written := by
  by_cases hmem : '\n' ∈ s
  · rw [if_pos (by simpa using hmem)]
    rfl
  · rw [if_neg (by simpa using hmem)]
    exact skipFirstBreak_eq_self (hline hmem) hreturn

/-- Whether a text may follow another one: it starts with no quote. -/
def Follows (rest : List Char) : Prop :=
  rest.head? ≠ some '"' ∧ rest.head? ≠ some '\''

/-- A text on one line, with its marks, does not start as one on several lines. -/
theorem not_startsThreefold_short {quote : Char} {written : List Char}
    (hrest : rest.head? ≠ some quote)
    (h : written ≠ [] → (written ++ quote :: rest).head? ≠ some quote) :
    ¬StartsThreefold quote (quote :: (written ++ quote :: rest)) := by
  by_cases hempty : written = []
  · subst hempty
    rintro ⟨tail, htail⟩
    have htail : rest = quote :: tail := (List.cons.inj (List.cons.inj htail).2).2
    rw [htail] at hrest
    exact hrest rfl
  · exact not_startsThreefold_of_head? (h hempty) quote

theorem text?_escaped (hrest : rest.head? ≠ some '"') (s : List Char) :
    text? ('"' :: writtenCharacters false 0 s ++ ['"'] ++ rest) = some (s, rest) := by
  have hshort :
      ¬StartsThreefold '"' ('"' :: (writtenCharacters false 0 s ++ '"' :: rest)) := by
    refine not_startsThreefold_short hrest fun hne => ?_
    have hs : s ≠ [] := by
      rintro rfl
      exact hne rfl
    exact head?_writtenCharacters hs (fun hlong => by cases hlong) _
  rw [List.append_assoc, List.cons_append]
  show text? ('"' :: (writtenCharacters false 0 s ++ '"' :: rest)) = _
  rw [text?_eq_shortText? hshort (not_startsThreefold_of_ne (by decide))]
  exact basicText?_writtenCharacters 0 s []

theorem text?_literal (hrest : rest.head? ≠ some '\'') (hquote : '\'' ∉ s)
    (hplain : s.all isPlain = true) :
    text? ('\'' :: s ++ ['\''] ++ rest) = some (s, rest) := by
  have hshort : ¬StartsThreefold '\'' ('\'' :: (s ++ '\'' :: rest)) := by
    refine not_startsThreefold_short hrest fun hne => ?_
    obtain ⟨c, t, rfl⟩ := List.exists_cons_of_ne_nil hne
    intro hhead
    exact hquote (Option.some.inj hhead ▸ List.mem_cons_self)
  rw [List.append_assoc, List.cons_append]
  show text? ('\'' :: (s ++ '\'' :: rest)) = _
  rw [text?_eq_shortText? (not_startsThreefold_of_ne (by decide)) hshort]
  exact literalText?_append hquote hplain

/-- What a text is written as starts with a line end only if the text does. -/
theorem head?_writtenCharacters_ne_break (s rest : List Char) :
    ('\n' ∉ s → (writtenCharacters true 0 s ++ '"' :: rest).head? ≠ some '\n') ∧
      (writtenCharacters true 0 s ++ '"' :: rest).head? ≠ some '\r' := by
  cases s with
  | nil => exact ⟨fun _ => by simp [writtenCharacters], by simp [writtenCharacters]⟩
  | cons c s =>
    rw [writtenCharacters]
    by_cases hquote : c = '"'
    · rw [if_pos hquote]
      simp
    · rw [if_neg hquote, writtenCharacter]
      constructor
      · intro hline
        have hc : c ≠ '\n' := fun hc => hline (hc ▸ List.mem_cons_self)
        repeat' split
        all_goals simp [hc]
      · repeat' split
        all_goals simp [*]

theorem text?_longEscaped (hrest : rest.head? ≠ some '"') (s : List Char) :
    text? ("\"\"\"".toList ++ (if s.contains '\n' then ['\n'] else []) ++
      writtenCharacters true 0 s ++ "\"\"\"".toList ++ rest) = some (s, rest) := by
  obtain ⟨hline, hreturn⟩ := head?_writtenCharacters_ne_break s ('"' :: '"' :: rest)
  have hstart := skipFirstBreak_start hline hreturn
  have hopen : "\"\"\"".toList ++ (if s.contains '\n' then ['\n'] else []) ++
        writtenCharacters true 0 s ++ "\"\"\"".toList ++ rest =
      '"' :: '"' :: '"' :: ((if s.contains '\n' then ['\n'] else []) ++
        (writtenCharacters true 0 s ++ '"' :: '"' :: '"' :: rest)) := by
    simp
  rw [hopen, text?, hstart]
  exact longBasicText?_writtenCharacters hrest 0 s []

theorem text?_longLiteral (hrest : rest.head? ≠ some '\'')
    (hrun : longestRun '\'' 0 s < 3) (hplain : ∀ c ∈ s, isPlain c = true ∨ c = '\n') :
    text? ("'''".toList ++ (if s.contains '\n' then ['\n'] else []) ++ s ++
      "'''".toList ++ rest) =
      some (s, rest) := by
  have hline : '\n' ∉ s → (s ++ '\'' :: '\'' :: '\'' :: rest).head? ≠ some '\n' := by
    intro hmem
    cases s with
    | nil => simp
    | cons c s => exact fun hc => hmem (Option.some.inj hc ▸ List.mem_cons_self)
  have hreturn : (s ++ '\'' :: '\'' :: '\'' :: rest).head? ≠ some '\r' := by
    cases s with
    | nil => simp
    | cons c s =>
      intro hc
      have hc : c = '\r' := Option.some.inj hc
      exact absurd (hplain c List.mem_cons_self) (by rw [hc]; decide)
  have hstart := skipFirstBreak_start hline hreturn
  have hopen : "'''".toList ++ (if s.contains '\n' then ['\n'] else []) ++ s ++
      "'''".toList ++ rest =
      '\'' :: '\'' :: '\'' :: ((if s.contains '\n' then ['\n'] else []) ++
        (s ++ '\'' :: '\'' :: '\'' :: rest)) := by
    simp
  rw [hopen, text?, hstart]
  exact longLiteralText?_append hrest hrun hplain []

/-- Every text reads back as itself. -/
theorem text?_writtenText (hrest : Follows rest) (s : List Char) :
    text? (writtenText s ++ rest) = some (s, rest) := by
  obtain ⟨hdouble, hsingle⟩ := hrest
  rw [writtenText]
  cases hform : formOf s with
  | escaped => exact text?_escaped hdouble s
  | literal =>
    obtain ⟨hquote, hplain⟩ := plain_of_formOf_eq_literal hform
    exact text?_literal hsingle hquote hplain
  | longEscaped => exact text?_longEscaped hdouble s
  | longLiteral =>
    obtain ⟨hrun, hplain⟩ := plain_of_formOf_eq_longLiteral hform
    exact text?_longLiteral hsingle hrun hplain

end CredRelay.Toml
