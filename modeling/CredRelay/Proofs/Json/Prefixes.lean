import CredRelay.Proofs.Json.RoundTrip
import CredRelay.Proofs.Text.Pieces
/-! A written object that was cut short is no document. Its tokens so far are those of the
whole, without the brace that ends it, and a document that has ended takes no further
token. -/
namespace CredRelay.Json

open Text

/-! ## Tokens stay -/

theorem Lexer.suffix_of_finish? {l : Lexer} {tokens : List Token}
    (h : l.finish? = some tokens) : l.tokens <:+ tokens := by
  simp only [finish?] at h
  split at h
  · cases h
    exact List.suffix_rfl
  · split at h <;> cases h
    exact List.suffix_cons _ _
  · obtain ⟨v, -, rfl⟩ := Option.map_eq_some_iff.mp h
    exact List.suffix_cons _ _
  · cases h

theorem Lexer.suffix_of_start? {tokens : List Token} {c : Char} {next : Lexer}
    (h : start? tokens c = some next) : tokens <:+ next.tokens := by
  unfold start? at h
  split at h
  · cases h
    exact List.suffix_rfl
  split at h
  · cases h
    exact List.suffix_cons _ _
  repeat' split at h
  all_goals cases h <;> exact List.suffix_rfl

/-- A character ends what the lexer is in the middle of and starts anew, or it goes on
with it. -/
theorem Lexer.suffix_of_bind_start? {l next : Lexer} {c : Char}
    (h : (l.finish?.bind fun tokens => start? tokens c) = some next) : l.tokens <:+
    next.tokens := by
  obtain ⟨tokens, hfinish, hstart⟩ := Option.bind_eq_some_iff.mp h
  exact (suffix_of_finish? hfinish).trans (suffix_of_start? hstart)

theorem Lexer.suffix_of_step? {l next : Lexer} {c : Char} (h : l.step? c = some next) :
    l.tokens <:+ next.tokens := by
  obtain ⟨lexeme, tokens⟩ := l
  cases lexeme with
  | none => exact suffix_of_start? h
  | text points =>
    simp only [step?] at h
    split at h
    · cases h
      exact List.suffix_cons _ _
    split at h
    · cases h
      exact List.suffix_rfl
    split at h <;> cases h
    exact List.suffix_rfl
  | escape points =>
    simp only [step?] at h
    split at h
    · cases h
      exact List.suffix_rfl
    · obtain ⟨n, -, rfl⟩ := Option.map_eq_some_iff.mp h
      exact List.suffix_rfl
  | hex points left value =>
    simp only [step?] at h
    split at h
    · split at h <;> cases h <;> exact List.suffix_rfl
    · cases h
  | number spelling =>
    simp only [step?] at h
    split at h
    · cases h
      exact List.suffix_rfl
    · exact suffix_of_bind_start? h
  | word spelling =>
    simp only [step?] at h
    split at h
    · cases h
      exact List.suffix_rfl
    · exact suffix_of_bind_start? h

theorem Lexer.suffix_of_run? {l m : Lexer} {s : List Char} (h : l.run? s = some m) :
    l.tokens <:+ m.tokens := by
  induction s generalizing l with
  | nil =>
    cases h
    exact List.suffix_rfl
  | cons c s ih =>
    rw [run?] at h
    split at h
    · next next hstep => exact (suffix_of_step? hstep).trans (ih h)
    · cases h

/-! ## Numbers and words -/

/-- Whether a token is a mark or a text. -/
def Token.IsPlain : Token → Prop
  | .mark _ => True
  | .value (.text _) => True
  | .value _ => False

/-- Whether the lexer is in the middle of a number or a word. -/
def Lexer.IsSpelling (l : Lexer) : Prop :=
  match l.lexeme with
  | .number _ | .word _ => True
  | _ => False

theorem not_isPlain_of_word? {s : List Char} {v : Value} (h : word? s = some v) :
    ¬Token.IsPlain (.value v) := by
  rw [word?] at h
  split at h
  · cases h
    exact id
  split at h
  · cases h
    exact id
  split at h <;> cases h
  exact id

/-- A number or a word ends as a token of its own. -/
theorem Lexer.IsSpelling.exists_of_finish? {l : Lexer} {tokens : List Token}
    (h : l.IsSpelling) (hfinish : l.finish? = some tokens) :
    ∃ t ∈ tokens, ¬t.IsPlain := by
  obtain ⟨lexeme, before⟩ := l
  cases lexeme with
  | none | text | escape | hex => cases h
  | number spelling =>
    simp only [finish?] at hfinish
    split at hfinish <;> cases hfinish
    exact ⟨_, List.mem_cons_self, id⟩
  | word spelling =>
    simp only [finish?] at hfinish
    obtain ⟨v, hv, rfl⟩ := Option.map_eq_some_iff.mp hfinish
    exact ⟨_, List.mem_cons_self, not_isPlain_of_word? hv⟩

/-- A character goes on with a number or a word, or that becomes a token. -/
theorem Lexer.IsSpelling.of_step? {l next : Lexer} {c : Char} (h : l.IsSpelling)
    (hstep : l.step? c = some next) :
    next.IsSpelling ∨ ∃ t ∈ next.tokens, ¬t.IsPlain := by
  have hended : (l.finish?.bind fun tokens => start? tokens c) = some next →
      ∃ t ∈ next.tokens, ¬t.IsPlain := by
    intro hbind
    obtain ⟨tokens, hfinish, hstart⟩ := Option.bind_eq_some_iff.mp hbind
    obtain ⟨t, ht, hplain⟩ := h.exists_of_finish? hfinish
    exact ⟨t, (suffix_of_start? hstart).mem ht, hplain⟩
  obtain ⟨lexeme, tokens⟩ := l
  cases lexeme with
  | none | text | escape | hex => cases h
  | number spelling | word spelling =>
    simp only [step?] at hstep
    split at hstep
    · cases hstep
      exact .inl trivial
    · exact .inr (hended hstep)

theorem Lexer.IsSpelling.of_run? {l m : Lexer} {s : List Char} (h : l.IsSpelling)
    (hrun : l.run? s = some m) : m.IsSpelling ∨ ∃ t ∈ m.tokens, ¬t.IsPlain := by
  induction s generalizing l with
  | nil =>
    cases hrun
    exact .inl h
  | cons c s ih =>
    rw [run?] at hrun
    split at hrun
    · next next hstep =>
      rcases h.of_step? hstep with hnext | ⟨t, ht, hplain⟩
      · exact ih hnext hrun
      · exact .inr ⟨t, (suffix_of_run? hrun).mem ht, hplain⟩
    · cases hrun

/-! ## Documents that have ended -/

theorem Reader.run?_append (r : Reader) (s t : List Token) :
    r.run? (s ++ t) = (r.run? s).bind fun next => next.run? t := by
  induction s generalizing r with
  | nil => rfl
  | cons token s ih =>
    simp only [List.cons_append, run?]
    cases r.step? token with
    | none => rfl
    | some next => exact ih next

/-- Nothing follows the value of a document. -/
theorem Reader.run?_eq_none_of_result? {r : Reader} {v : Value}
    (h : r.result? = some v) (t : Token) (rest : List Token) :
    r.run? (t :: rest) = none := by
  obtain ⟨stack, phase⟩ := r
  rw [result?] at h
  split at h
  · next hstack hphase =>
    subst hstack hphase
    cases t <;> rfl
  · cases h

/-- The beginning of what reads as a document reads as none. -/
theorem Reader.result?_eq_none_of_append {r : Reader}
    {before after : List Token} {v : Value}
    (h : (r.run? (before ++ after)).bind result? = some v) (hafter : after ≠ []) :
    (r.run? before).bind result? = none := by
  rw [run?_append] at h
  cases hrun : r.run? before with
  | none => rfl
  | some next =>
    rw [hrun, Option.bind_some] at h
    rw [Option.bind_some]
    cases hresult : next.result? with
    | none => rfl
    | some v =>
      obtain ⟨t, rest, rfl⟩ := List.exists_cons_of_ne_nil hafter
      rw [run?_eq_none_of_result? hresult] at h
      cases h

/-! ## Written objects -/

theorem isPlain_of_mem_memberTokens {m : List Char × List Char} {t : Token}
    (h : t ∈ memberTokens m) : t.IsPlain := by
  simp only [memberTokens, List.mem_cons, List.not_mem_nil, or_false] at h
  rcases h with rfl | rfl | rfl <;> trivial

theorem isPlain_of_mem_objectTokens {ms : List (List Char × List Char)} {t : Token}
    (h : t ∈ objectTokens ms) : t.IsPlain := by
  simp only [objectTokens, List.cons_append, List.mem_cons, List.mem_append,
    List.not_mem_nil, or_false] at h
  rcases h with rfl | h | rfl
  · trivial
  · rcases mem_intercalate h with h | ⟨tokens, htokens, h⟩
    · rw [List.mem_singleton.mp h]
      trivial
    · obtain ⟨m, -, rfl⟩ := List.mem_map.mp htokens
      exact isPlain_of_mem_memberTokens h
  · trivial

/-- What is left of a written object after a part that is not all of it was cut off at
its end. -/
theorem exists_of_writtenObject_eq_append {ms : List (List Char × List Char)}
    {s rest : List Char} (h : writtenObject ms = s ++ rest) (hrest : rest ≠ []) :
    ∃ l middle tokens, Lexer.run? ⟨.none, []⟩ s = some l ∧
      l.run? middle = some ⟨.none, tokens⟩ ∧
      objectTokens ms = tokens.reverse ++ [.mark '\x7d'] := by
  have hopen : Lexer.run? ⟨.none, []⟩
      ('\x7b' :: [','].intercalate (ms.map writtenMember)) =
        some ⟨.none, ([.mark ','].intercalate (ms.map memberTokens)).reverse ++
          [.mark '\x7b']⟩ := by
    have hmembers := Lexer.run?_writtenMembers [.mark '\x7b'] ms []
    rw [List.append_nil] at hmembers
    rw [Lexer.run?_mark _ (by decide), hmembers]
    rfl
  -- the brace at the end is in the part that was cut off
  obtain ⟨middle, last, rfl⟩ := List.eq_nil_or_concat rest |>.resolve_left hrest
  rw [writtenObject_eq, ← List.cons_append,
    List.concat_eq_append, ← List.append_assoc] at h
  obtain ⟨hfront, -⟩ := List.append_inj' h rfl
  rw [hfront, Lexer.run?_append] at hopen
  obtain ⟨l, hl, hmiddle⟩ := Option.bind_eq_some_iff.mp hopen
  exact ⟨l, middle, _, hl, hmiddle, by simp [objectTokens]⟩

/-- A written object that was cut short is no document. -/
theorem read?_eq_none_of_writtenObject_eq_append {ms : List (List Char × List Char)}
    {s rest : List Char} (h : writtenObject ms = s ++ rest) (hrest : rest ≠ []) :
    read? s = none := by
  obtain ⟨l, middle, tokens, hl, hmiddle, hobject⟩ :=
    exists_of_writtenObject_eq_append h hrest
  have hplain : ∀ t ∈ tokens, t.IsPlain := by
    intro t ht
    have hmem : t ∈ objectTokens ms := by
      rw [hobject]
      exact List.mem_append_left _ (List.mem_reverse.mpr ht)
    exact isPlain_of_mem_objectTokens hmem
  have hspelling : ¬l.IsSpelling := by
    intro hl
    rcases hl.of_run? hmiddle with hnone | ⟨t, ht, hnot⟩
    · exact hnone
    · exact hnot (hplain t ht)
  have hread := read?_writtenObject ms
  rw [read?, tokens?_writtenObject, Option.bind_some, hobject] at hread
  rw [read?, tokens?, hl, Option.bind_some]
  obtain ⟨lexeme, before⟩ := l
  cases lexeme with
  | text | escape | hex => rfl
  | number | word => exact absurd trivial hspelling
  | none =>
    obtain ⟨between, hbetween⟩ : before <:+ tokens := Lexer.suffix_of_run? hmiddle
    rw [← hbetween, List.reverse_append, List.append_assoc] at hread
    exact Reader.result?_eq_none_of_append hread (by simp)

end CredRelay.Json
