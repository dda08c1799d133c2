/-! Blank characters and trimming. A character is blank when Unicode gives it the property
White_Space. Trimming removes blanks from both ends of a text and nothing else, so a
trimmed text neither starts nor ends with a blank, and trimming twice changes nothing. -/
namespace CredRelay.Text

/-- The characters with the Unicode property White_Space. -/
def isBlank (c : Char) : Bool :=
  let n := c.toNat
  (9 ≤ n && n ≤ 13) || n == 0x20 || n == 0x85 || n == 0xA0 || n == 0x1680 ||
    (0x2000 ≤ n && n ≤ 0x200A) || n == 0x2028 || n == 0x2029 || n == 0x202F ||
    n == 0x205F || n == 0x3000

/-- The text without the characters at its end that satisfy `p`. -/
def dropEndWhile (p : Char → Bool) (s : List Char) : List Char :=
  (s.reverse.dropWhile p).reverse

/-- The text without the characters at either end that satisfy `p`. -/
def trimWhere (p : Char → Bool) (s : List Char) : List Char :=
  dropEndWhile p (s.dropWhile p)

/-- The text without blanks at either end. -/
def trimChars (s : List Char) : List Char :=
  trimWhere isBlank s

/-- The text without blanks at either end. -/
def trim (s : String) : String :=
  String.ofList (trimChars s.toList)

@[simp] theorem toList_trim (s : String) : (trim s).toList = trimChars s.toList := by
  simp [trim]

theorem dropEndWhile_append_blank {p : Char → Bool} {w : List Char}
    (h : ∀ c ∈ w, p c = true) (s : List Char) :
    dropEndWhile p (s ++ w) = dropEndWhile p s := by
  have hw : ∀ (v t : List Char), (∀ c ∈ v, p c = true) →
      (v ++ t).dropWhile p = t.dropWhile p := by
    intro v
    induction v with
    | nil => intros; rfl
    | cons c v ih =>
      intro t hv
      simp only [List.cons_append, List.dropWhile_cons, hv c (by simp), if_true]
      exact ih t (fun d hd => hv d (by simp [hd]))
  simp only [dropEndWhile, List.reverse_append]
  rw [hw _ _ (by simpa using h)]

theorem dropEndWhile_sublist (p : Char → Bool) (s : List Char) :
    (dropEndWhile p s).Sublist s := by
  have h : (s.reverse.dropWhile p).Sublist s.reverse := (List.dropWhile_suffix p).sublist
  simpa [dropEndWhile] using h.reverse

theorem trimWhere_sublist (p : Char → Bool) (s : List Char) : (trimWhere p s).Sublist s :=
  (dropEndWhile_sublist p _).trans (List.dropWhile_suffix p).sublist

theorem trimChars_length_le (s : List Char) : (trimChars s).length ≤ s.length :=
  (trimWhere_sublist isBlank s).length_le

end CredRelay.Text
