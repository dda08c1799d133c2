import CredRelay.Json.Document
import CredRelay.Json.Printer
/-! Writing JSON and reading it back. The lexer undoes each escape of the writer and
leaves all other characters alone, so a written text is one token; the tokens of a written
object are its members between marks, and the reader puts them together again in order. -/
namespace CredRelay.Json

open Text

/-! ## Characters -/

/-- The code points of a text. -/
def pointsOf (s : List Char) : List Nat :=
  s.map Char.toNat

theorem isValidChar_toNat (c : Char) : c.toNat.isValidChar := c.valid

theorem characters?_pointsOf (s : List Char) : characters? (pointsOf s) = some s := by
  simp [characters?, pointsOf, isValidChar_toNat, Function.comp_def]

theorem ofPoints?_pointsOf (s : List Char) :
    ofPoints? (pointsOf s) = some (String.ofList s) := by
  rw [ofPoints?, characters?_pointsOf, Option.map_some]

/-- A character is no half of a surrogate pair. -/
theorem not_surrogate (c : Char) : ¬ (0xD800 ≤ c.toNat ∧ c.toNat < 0xDC00) := by
  rcases isValidChar_toNat c with h | ⟨h, -⟩
  · omega
  · omega

theorem joinSurrogates_pointsOf (s : List Char) :
    joinSurrogates (pointsOf s) = pointsOf s := by
  induction s with
  | nil => rfl
  | cons c s ih =>
    cases s with
    | nil => rfl
    | cons d s =>
      simp only [pointsOf, List.map_cons, joinSurrogates] at ih ⊢
      rw [if_neg (fun h => not_surrogate c ⟨h.1, h.2.1⟩), ih]

/-! ## The lexer on written texts -/

theorem Lexer.run?_append (l : Lexer) (s t : List Char) :
    l.run? (s ++ t) = (l.run? s).bind fun m => m.run? t := by
  induction s generalizing l with
  | nil => rfl
  | cons c s ih =>
    simp only [List.cons_append, Lexer.run?]
    cases l.step? c with
    | none => rfl
    | some next => exact ih next

/-- The two digits of an escaped control character stand for it. -/
theorem digit?_of_lt {n : Nat} (h : n < 0x20) :
    digit? 16 (Char.ofNat (0x30 + n / 16)) = some (n / 16) ∧
      digit? 16 (Nat.digitChar (n % 16)) = some (n % 16) := by
  revert n
  decide

/-- A written character is read as itself. -/
theorem Lexer.run?_writtenCharacter (points : List Nat) (tokens : List Token) (c : Char) :
    Lexer.run? ⟨.text points, tokens⟩ (writtenCharacter c) =
      some ⟨.text (c.toNat :: points), tokens⟩ := by
  -- one case for each way to write a character, the one with four digits last
  unfold writtenCharacter
  split
  · next h => subst h; rfl
  split
  · next h => subst h; rfl
  split
  · next hq hb h =>
    have hlow : ¬ c.toNat < 0x20 := Nat.not_lt.mpr h
    simp [Lexer.run?, Lexer.step?, hq, hb, hlow]
  split
  · next h => subst h; rfl
  split
  · next h => subst h; rfl
  split
  · next h => subst h; rfl
  split
  · next h =>
    rw [h]
    rfl
  split
  · next h =>
    rw [h]
    rfl
  · next h _ _ _ _ _ =>
    obtain ⟨hhigh, hlow⟩ := digit?_of_lt (Nat.lt_of_not_le h)
    have hzero : digit? 16 '0' = some 0 := by decide
    have hvalue : c.toNat / 16 * 16 + c.toNat % 16 = c.toNat := by omega
    simp [Lexer.run?, Lexer.step?, hzero, hhigh, hlow, hvalue]

theorem Lexer.run?_writtenCharacters (points : List Nat) (tokens : List Token)
    (s : List Char) : Lexer.run? ⟨.text points, tokens⟩ (s.flatMap writtenCharacter) =
      some ⟨.text ((pointsOf s).reverse ++ points), tokens⟩ := by
  induction s generalizing points with
  | nil => rfl
  | cons c s ih =>
    rw [List.flatMap_cons, Lexer.run?_append, Lexer.run?_writtenCharacter,
      Option.bind_some, ih]
    simp [pointsOf]

/-- The token of a text. -/
def textToken (s : List Char) : Token :=
  .value (.text (pointsOf s))

theorem Lexer.run?_writtenText (tokens : List Token) (s rest : List Char) :
    Lexer.run? ⟨.none, tokens⟩ (writtenText s ++ rest) =
      Lexer.run? ⟨.none, textToken s :: tokens⟩ rest := by
  have hopen : Lexer.step? ⟨.none, tokens⟩ '"' = some ⟨.text [], tokens⟩ := rfl
  have hclose : Lexer.step? ⟨.text ((pointsOf s).reverse ++ []), tokens⟩ '"' =
      some ⟨.none, textToken s :: tokens⟩ := by
    simp [Lexer.step?, Lexer.emit, textToken, joinSurrogates_pointsOf]
  simp only [writtenText, List.cons_append, List.append_assoc,
    List.nil_append, Lexer.run?, hopen]
  rw [Lexer.run?_append, Lexer.run?_writtenCharacters, Option.bind_some]
  simp only [Lexer.run?, hclose]

theorem isSpace_of_isMark {c : Char} (h : isMark c = true) : isSpace c = false := by
  have hc : c ∈ ['\x7b', '\x7d', '[', ']', ',', ':'] := by
    simpa [isMark] using h
  simp only [List.mem_cons, List.not_mem_nil, or_false] at hc
  rcases hc with rfl | rfl | rfl | rfl | rfl | rfl <;> rfl

theorem Lexer.run?_mark (tokens : List Token) {c : Char} (h : isMark c = true)
    (rest : List Char) :
    Lexer.run? ⟨.none, tokens⟩ (c :: rest) =
      Lexer.run? ⟨.none, .mark c :: tokens⟩ rest := by
  simp [Lexer.run?, Lexer.step?, Lexer.start?, isSpace_of_isMark h, h]

/-! ## Members -/

/-- A member of an object as it is written. -/
def writtenMember (m : List Char × List Char) : List Char :=
  writtenText m.1 ++ ':' :: writtenText m.2

/-- The tokens of a member. -/
def memberTokens (m : List Char × List Char) : List Token :=
  [textToken m.1, .mark ':', textToken m.2]

/-- A member as it is read. -/
def readMember (m : List Char × List Char) : List Nat × Value :=
  (pointsOf m.1, .text (pointsOf m.2))

theorem writtenObject_eq (ms : List (List Char × List Char)) :
    writtenObject ms = '\x7b' :: ([','].intercalate (ms.map writtenMember) ++ ['\x7d']) :=
    rfl

theorem Lexer.run?_writtenMember (tokens : List Token) (m : List Char × List Char)
    (rest : List Char) :
    Lexer.run? ⟨.none, tokens⟩ (writtenMember m ++ rest) =
      Lexer.run? ⟨.none, (memberTokens m).reverse ++ tokens⟩ rest := by
  rw [writtenMember, List.append_assoc, Lexer.run?_writtenText, List.cons_append,
    Lexer.run?_mark _ (by decide), Lexer.run?_writtenText]
  rfl

/-- The tokens of written members are those of each, with commas between. -/
theorem Lexer.run?_writtenMembers (tokens : List Token)
    (ms : List (List Char × List Char)) (rest : List Char) :
    Lexer.run? ⟨.none, tokens⟩ ([','].intercalate (ms.map writtenMember) ++ rest) =
      Lexer.run?
        ⟨.none, ([.mark ','].intercalate (ms.map memberTokens)).reverse ++ tokens⟩
        rest := by
  induction ms generalizing tokens with
  | nil => rfl
  | cons m ms ih =>
    cases ms with
    | nil => simpa using Lexer.run?_writtenMember tokens m rest
    | cons n ms =>
      have hcomma : isMark ',' = true := by decide
      simp only [List.map_cons, List.intercalate_cons_cons, List.append_assoc,
        List.reverse_append] at ih ⊢
      rw [Lexer.run?_writtenMember, List.singleton_append, Lexer.run?_mark _ hcomma, ih]
      rfl

theorem Reader.run?_member (stack : List Frame) (read : List (List Nat × Value))
    (m : List Char × List Char) (rest : List Token) :
    Reader.run? ⟨stack, .name read⟩ (memberTokens m ++ rest) =
      Reader.run? ⟨.object read (pointsOf m.1) :: stack,
        .done (.text (pointsOf m.2))⟩ rest := rfl

/-- The reader takes the tokens of members up to the end of the object that holds them. -/
theorem Reader.run?_members (stack : List Frame) (read : List (List Nat × Value))
    (m : List Char × List Char) (ms : List (List Char × List Char)) (rest : List Token) :
    Reader.run? ⟨stack, .name read⟩
        ([.mark ','].intercalate ((m :: ms).map memberTokens) ++ .mark '\x7d' :: rest) =
      Reader.run?
        ⟨stack, .done (.object (read.reverse ++ (m :: ms).map readMember))⟩ rest := by
  induction ms generalizing read m with
  | nil =>
    have hclose :
        Reader.step? ⟨.object read (pointsOf m.1) :: stack, .done (.text (pointsOf m.2))⟩
        (.mark '\x7d') =
          some ⟨stack, .done (.object (readMember m :: read).reverse)⟩ := rfl
    rw [List.map_singleton, List.intercalate_singleton, Reader.run?_member]
    simp only [Reader.run?, hclose, List.reverse_cons, List.map_singleton]
  | cons n ms ih =>
    have hcomma :
        Reader.step? ⟨.object read (pointsOf m.1) :: stack, .done (.text (pointsOf m.2))⟩
        (.mark ',') = some ⟨stack, .name (readMember m :: read)⟩ := rfl
    have hrest := ih (readMember m :: read) n
    rw [List.map_cons] at hrest
    rw [List.map_cons, List.map_cons, List.intercalate_cons_cons, List.append_assoc,
      List.append_assoc, Reader.run?_member, List.singleton_append]
    simp only [Reader.run?, hcomma]
    rw [hrest]
    simp

/-! ## Objects -/

/-- The tokens of an object. -/
def objectTokens (ms : List (List Char × List Char)) : List Token :=
  .mark '\x7b' :: [.mark ','].intercalate (ms.map memberTokens) ++ [.mark '\x7d']

theorem tokens?_writtenObject (ms : List (List Char × List Char)) :
    tokens? (writtenObject ms) = some (objectTokens ms) := by
  rw [tokens?, writtenObject_eq, Lexer.run?_mark _ (by decide), Lexer.run?_writtenMembers,
    Lexer.run?_mark _ (by decide)]
  simp [Lexer.run?, Lexer.finish?, objectTokens]

/-- A written object reads back as its members. -/
theorem read?_writtenObject (ms : List (List Char × List Char)) :
    read? (writtenObject ms) = some (.object (ms.map readMember)) := by
  rw [read?, tokens?_writtenObject, Option.bind_some, objectTokens]
  cases ms with
  | nil => rfl
  | cons m ms =>
    obtain ⟨tail, htail⟩ : ∃ tail, [.mark ','].intercalate ((m :: ms).map memberTokens) =
        textToken m.1 :: tail := ⟨_, List.intercalate_cons_cons_left⟩
    -- the first name is taken by an object that starts as by one that goes on
    have hstart : Reader.run? ⟨[], .value⟩ (.mark '\x7b' ::
        [.mark ','].intercalate ((m :: ms).map memberTokens) ++ [.mark '\x7d']) =
        Reader.run? ⟨[], .name []⟩
          ([.mark ','].intercalate ((m :: ms).map memberTokens) ++ [.mark '\x7d']) := by
      rw [htail]
      rfl
    rw [hstart, Reader.run?_members]
    rfl

end CredRelay.Json
