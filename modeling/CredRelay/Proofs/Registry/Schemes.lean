import CredRelay.Proofs.Registry.Reading
/-! Addresses with and without a scheme. A scheme is named exactly if its mark follows
some text without slashes, question marks and hash signs; a mark behind one of these names
none. An address without a scheme means what it means behind `https://` or, in any case of
letters, behind `http://`, and is always one over HTTPS. -/
namespace CredRelay.Registry

open Text Url

/-! ## Naming a scheme -/

/-- Whether a text can stand before the mark of a scheme that it names. -/
def IsSchemeName (s : List Char) : Prop :=
  s ≠ [] ∧ ∀ c ∈ s, c ≠ '/' ∧ c ≠ '?' ∧ c ≠ '#'

instance (s : List Char) : Decidable (IsSchemeName s) :=
  @instDecidableAnd _ _ _ (List.decidableBAll _ s)

theorem isSchemeName_text (scheme : Scheme) : IsSchemeName scheme.text.toList := by
  cases scheme <;> decide

theorem isFrontCharacter_of_mem_text (scheme : Scheme) :
    ∀ c ∈ scheme.text.toList, isFrontCharacter c = true := by
  cases scheme <;> exact List.all_eq_true.mp (by decide)

theorem isFrontCharacter_of_mem_schemeMark :
    ∀ c ∈ schemeMark, isFrontCharacter c = true :=
  List.all_eq_true.mp (by decide)

theorem cutText_go_schemeMark {name : List Char} (h : '/' ∉ name)
    (before rest : List Char) :
    cutText.go schemeMark before (name ++ schemeMark ++ rest) =
      some (before.reverse ++ name, rest) := by
  induction name generalizing before with
  | nil =>
    have hafter : after? schemeMark (':' :: ('/' :: '/' :: rest)) = some rest :=
      after?_eq_some_iff.mpr rfl
    show cutText.go schemeMark before (':' :: ('/' :: '/' :: rest)) = _
    rw [cutText.go, hafter, List.append_nil]
  | cons c name ih =>
    rw [List.mem_cons, not_or] at h
    -- The mark does not start here: its second character would be one of the name or the
    -- next colon.
    have hafter : after? schemeMark (c :: (name ++ schemeMark ++ rest)) = none := by
      rw [Option.eq_none_iff_forall_ne_some]
      intro other hother
      have hlist := after?_eq_some_iff.mp hother
      simp only [schemeMark, List.cons_append, List.nil_append, List.cons.injEq] at hlist
      obtain ⟨-, hlist⟩ := hlist
      cases name with
      | nil => exact absurd (List.cons.inj hlist).1 (by decide)
      | cons d name =>
        have hd : d = '/' := (List.cons.inj hlist).1
        exact h.2 (by simp [hd])
    rw [List.cons_append, List.cons_append, cutText.go, hafter]
    show cutText.go schemeMark (c :: before) (name ++ schemeMark ++ rest) = _
    rw [ih h.2, List.reverse_cons, List.append_assoc, List.singleton_append]

/-- The first mark of a scheme is the one behind a text without slashes. -/
theorem cutText_schemeMark {name : List Char} (h : '/' ∉ name) (rest : List Char) :
    cutText schemeMark (name ++ schemeMark ++ rest) = some (name, rest) := by
  rw [cutText, cutText_go_schemeMark h]
  rfl

theorem IsSchemeName.slash_not_mem {name : List Char} (h : IsSchemeName name) :
    '/' ∉ name :=
  fun hmem => (h.2 _ hmem).1 rfl

theorem hasScheme_iff {address : List Char} :
    hasScheme address = true ↔
      ∃ name rest, IsSchemeName name ∧ address = name ++ schemeMark ++ rest := by
  constructor
  · intro h
    rw [hasScheme] at h
    split at h
    · next name rest hcut =>
      simp only [Bool.and_eq_true, Bool.not_eq_true', List.isEmpty_eq_false_iff,
        List.all_eq_true, bne_iff_ne, and_assoc] at h
      exact ⟨name, rest, h, cutText_append hcut⟩
    · cases h
  · rintro ⟨name, rest, hname, rfl⟩
    simp only [hasScheme, cutText_schemeMark hname.slash_not_mem, Bool.and_eq_true,
      Bool.not_eq_true', List.isEmpty_eq_false_iff, List.all_eq_true,
      bne_iff_ne, and_assoc]
    exact hname

/-- Whether the mark of a scheme occurs in an address only behind a slash, a question mark
or a hash sign. -/
def MarksBehind (address : List Char) : Prop :=
  ∀ before rest, address = before ++ schemeMark ++ rest →
    ∃ c ∈ before, c = '/' ∨ c = '?' ∨ c = '#'

/-- A mark behind a slash, a question mark or a hash sign names no scheme. -/
theorem MarksBehind.hasScheme_eq_false {address : List Char} (h : MarksBehind address) :
    hasScheme address = false := by
  rw [Bool.eq_false_iff, Ne, hasScheme_iff]
  rintro ⟨name, rest, hname, haddress⟩
  obtain ⟨c, hc, hmark⟩ := h name rest haddress
  obtain ⟨hslash, hquestion, hhash⟩ := hname.2 c hc
  rcases hmark with hmark | hmark | hmark
  · exact hslash hmark
  · exact hquestion hmark
  · exact hhash hmark

theorem marksBehind_of_slash_not_mem {address : List Char} (h : '/' ∉ address) :
    MarksBehind address := by
  intro before rest haddress
  refine absurd ?_ h
  simp [haddress, schemeMark]

/-- No mark starts in a text without colons, so all of them are behind what follows it. -/
theorem marksBehind_of_colon_not_mem {s t : List Char} {c : Char} (hs : ':' ∉ s)
    (hc : c = '/' ∨ c = '?' ∨ c = '#') : MarksBehind (s ++ c :: t) := by
  intro before rest haddress
  rw [List.append_assoc] at haddress
  rcases List.append_eq_append_iff.mp haddress with ⟨between, rfl, hrest⟩ |
    ⟨between, rfl, hrest⟩
  · cases between with
    | nil =>
      -- The mark would start at the character itself, which is no colon.
      have hcolon : c = ':' := (List.cons.inj hrest).1
      rw [hcolon] at hc
      exact absurd hc (by decide)
    | cons d between =>
      have hd : c = d := (List.cons.inj hrest).1
      exact ⟨d, by simp, hd ▸ hc⟩
  · cases between with
    | nil =>
      have hcolon : ':' = c := (List.cons.inj hrest).1
      rw [← hcolon] at hc
      exact absurd hc (by decide)
    | cons d between =>
      have hcolon : ':' = d := (List.cons.inj hrest).1
      exact absurd (by simp [← hcolon]) hs

theorem MarksBehind.trimChars {address : List Char} (h : MarksBehind address) :
    MarksBehind (trimChars address) := by
  intro before rest htrim
  obtain ⟨v, w, hv, -, haddress⟩ := exists_blank_append_trimChars address
  obtain ⟨c, hc, hmark⟩ := h (v ++ before) (rest ++ w) (by rw [haddress, htrim]; simp)
  rcases List.mem_append.mp hc with hc | hc
  · have hblank := hv c hc
    rcases hmark with rfl | rfl | rfl <;> exact absurd hblank (by decide)
  · exact ⟨c, hc, hmark⟩

theorem hasScheme_append {address : List Char} (h : hasScheme address = true)
    (t : List Char) : hasScheme (address ++ t) = true := by
  obtain ⟨name, rest, hname, rfl⟩ := hasScheme_iff.mp h
  exact hasScheme_iff.mpr ⟨name, rest ++ t, hname, by simp⟩

/-! ## Complete addresses -/

/-- An address means what it is completed to. -/
theorem ofChars_eq_of_complete_eq {a b : List Char}
    (h : complete (trimChars a) = complete (trimChars b)) : ofChars a = ofChars b := by
  rw [ofChars, ofChars, h]

theorem afterScheme?_schemeMark (scheme : String) {name : List Char} (h : '/' ∉ name)
    (rest : List Char) :
    afterScheme? scheme (name ++ schemeMark ++ rest) =
      if sameLetters (String.ofList name) scheme then some rest else none := by
  simp only [afterScheme?, cutText_schemeMark h]

theorem isEmpty_or_eq_dockerAlias_of_schemeMark (name rest : List Char) :
    ¬((name ++ schemeMark ++ rest).isEmpty = true ∨
      name ++ schemeMark ++ rest = dockerAlias.toList) := by
  rintro (h | h)
  · simp [schemeMark] at h
  · have hcolon : ':' ∈ name ++ schemeMark ++ rest := by simp [schemeMark]
    rw [h] at hcolon
    exact absurd hcolon (by decide)

/-- What an address that names its scheme is completed to. -/
theorem complete_schemeMark {name : List Char} (h : IsSchemeName name)
    (rest : List Char) : complete (name ++ schemeMark ++ rest) =
      if sameLetters (String.ofList name) "http" then "https://".toList ++ rest
      else name ++ schemeMark ++ rest := by
  have hscheme : hasScheme (name ++ schemeMark ++ rest) = true :=
    hasScheme_iff.mpr ⟨name, rest, h, rfl⟩
  rw [complete, if_neg (isEmpty_or_eq_dockerAlias_of_schemeMark name rest), hscheme,
    Bool.not_true, if_neg Bool.false_ne_true,
    afterScheme?_schemeMark "http" h.slash_not_mem]
  by_cases hhttp : sameLetters (String.ofList name) "http" = true
  · rw [if_pos hhttp, if_pos hhttp]
  · rw [if_neg hhttp, if_neg hhttp]

/-! ## Addresses that name none -/

theorem hasScheme_trimChars {address : List Char}
    (hstart : ∀ c ∈ address.head?, isBlank c = false) (h : hasScheme address = false) :
    hasScheme (trimChars address) = false := by
  obtain ⟨w, hw⟩ := exists_trimChars_append hstart
  by_contra htrim
  rw [Bool.not_eq_false] at htrim
  have hall := hasScheme_append htrim w
  rw [← hw, h] at hall
  cases hall

/-- What an address that names no scheme is completed to. -/
theorem complete_of_hasScheme_eq_false {address : List Char}
    (h : hasScheme address = false) (hne : address ≠ [])
    (halias : address ≠ dockerAlias.toList) :
    complete address = "https://".toList ++ address := by
  rw [complete, if_neg (by simp [hne, halias]), if_pos (by simp [h])]

theorem isAscii_of_isAscii_toLower {c : Char} (h : isAscii c.toLower = true) :
    isAscii c = true := by
  unfold Char.toLower at h
  split at h
  · next hupper =>
    have hle : c.toNat ≤ 90 := hupper.2
    simp only [isAscii, decide_eq_true_eq]
    omega
  · exact h

/-- The letters of a scheme that is named, in any case. -/
theorem of_mem_of_sameLetters_http {name : String}
    (h : sameLetters name "http" = true) {c : Char} (hc : c ∈ name.toList) :
    (c ≠ '/' ∧ c ≠ '?' ∧ c ≠ '#') ∧ isBlank c = false := by
  have hletters : name.toList.map Char.toLower = ['h', 't', 't', 'p'] := by
    simpa [sameLetters] using h
  have hmem : c.toLower ∈ ['h', 't', 't', 'p'] := hletters ▸ List.mem_map_of_mem hc
  have hascii : isAscii c = true := by
    refine isAscii_of_isAscii_toLower ?_
    exact List.all_eq_true.mp (by decide : ['h', 't', 't', 'p'].all isAscii = true) _ hmem
  exact of_isAscii (p := fun c => c.toLower ∈ ['h', 't', 't', 'p'] →
    (c ≠ '/' ∧ c ≠ '?' ∧ c ≠ '#') ∧ isBlank c = false) (by decide +kernel) hascii hmem

theorem isSchemeName_of_sameLetters_http {name : String}
    (h : sameLetters name "http" = true) : IsSchemeName name.toList := by
  refine ⟨?_, fun c hc => (of_mem_of_sameLetters_http h hc).1⟩
  intro hnil
  rw [sameLetters, hnil] at h
  exact absurd h (by decide)

/-- An address behind a scheme and its mark is trimmed at its end. -/
theorem trimChars_schemeMark {name address : List Char}
    (hname : ∀ c ∈ name, isBlank c = false)
    (hstart : ∀ c ∈ address.head?, isBlank c = false) :
    trimChars (name ++ schemeMark ++ address) =
      name ++ schemeMark ++ trimChars address := by
  refine trimChars_append ?_ (by simp [schemeMark]) hstart
  intro c hc
  rcases List.mem_append.mp hc with hc | hc
  · exact hname c hc
  · exact isBlank_of_isFrontCharacter (isFrontCharacter_of_mem_schemeMark c hc)

/-! ## Addresses over HTTPS -/

theorem scheme_of_readPlain_https {address : List Char} {r : Registry}
    (h : readPlain ("https://".toList ++ address) = .ok r) : r.scheme = .https := by
  have hfront : ∀ c ∈ "https:".toList, isFrontCharacter c = true :=
    List.all_eq_true.mp (by decide)
  obtain ⟨rest, hrest⟩ :=
    Parts.exists_front_append hfront (by decide) ('/' :: '/' :: address)
  have hscheme : scheme? ("https:".toList ++ rest) =
      some (Scheme.https.text.toList, rest) := rfl
  unfold readPlain at h
  split at h
  · cases h
  next location hlocation =>
  have hread : location.scheme = Scheme.https.text.toList := by
    have hparts : (Parts.ofChars ("https://".toList ++ address)).read = .ok location :=
      hlocation
    rw [Parts.read, show "https://".toList ++ address =
      "https:".toList ++ '/' :: '/' :: address from rfl, hrest, hscheme] at hparts
    exact readAfterScheme_scheme hparts
  dsimp only at h
  rw [if_pos hread] at h
  split at h
  · cases h
  · cases h
    rfl

/-- What is completed to an address over HTTPS means a registry over HTTPS. -/
theorem scheme_of_complete_eq_https {address full : List Char} {r : Registry}
    (hfull : complete (trimChars address) = "https://".toList ++ full)
    (h : ofChars address = .ok r) : r.scheme = .https := by
  rw [ofChars] at h
  split at h
  · cases h
  next registry hplain =>
  have hscheme : registry.scheme = .https := scheme_of_readPlain_https (hfull ▸ hplain)
  split at h
  · cases h
    exact hscheme
  · split at h
    · cases h
    · cases h
      exact hscheme

/-- An address that names no scheme is completed to one over HTTPS. -/
theorem exists_complete_eq_https {address : List Char} (h : hasScheme address = false) :
    ∃ full, complete address = "https://".toList ++ full := by
  by_cases hindex : address.isEmpty = true ∨ address = dockerAlias.toList
  · exact ⟨"index.docker.io/v1/".toList, by rw [complete, if_pos hindex]; rfl⟩
  · exact ⟨address, by rw [complete, if_neg hindex, if_pos (by simp [h])]⟩

/-! ## Spellings -/

/-- A text that an address without a scheme is made of: no blank stands in front, no
scheme is named, and it is neither blank nor the name of the public registry. -/
structure IsBare (address : String) : Prop where
  start : ∀ c ∈ address.toList.head?, isBlank c = false
  no_scheme : hasScheme address.toList = false
  not_blank : trim address ≠ ""
  not_alias : trim address ≠ dockerAlias

theorem IsBare.complete_eq {address : String} (h : IsBare address) :
    complete (trimChars address.toList) =
      "https://".toList ++ trimChars address.toList := by
  refine complete_of_hasScheme_eq_false (hasScheme_trimChars h.start h.no_scheme) ?_ ?_
  · intro hnil
    exact h.not_blank (String.toList_injective (by rw [toList_trim, hnil]; rfl))
  · intro halias
    exact h.not_alias (String.toList_injective (by rw [toList_trim, halias]))

/-- Blanks around an address do not show in what it is completed to. -/
theorem complete_append_blank {w w' : String} (hw : ∀ c ∈ w.toList, isBlank c = true)
    (hw' : ∀ c ∈ w'.toList, isBlank c = true) (address : String) :
    complete (trimChars (w ++ address ++ w').toList) =
      complete (trimChars address.toList) := by
  rw [String.toList_append, String.toList_append, trimChars_append_blank hw',
    trimChars_blank_append hw]

theorem IsBare.complete_https {address : String} (h : IsBare address) :
    complete (trimChars ("https://" ++ address).toList) =
      "https://".toList ++ trimChars address.toList := by
  have hblank : ∀ c ∈ Scheme.https.text.toList, isBlank c = false := fun c hc =>
    isBlank_of_isFrontCharacter (isFrontCharacter_of_mem_text .https c hc)
  have hletters : sameLetters (String.ofList Scheme.https.text.toList) "http" =
      false := by decide
  have hlist : ("https://" ++ address).toList =
      Scheme.https.text.toList ++ schemeMark ++ address.toList := by
    rw [String.toList_append]
    rfl
  rw [hlist, trimChars_schemeMark hblank h.start,
    complete_schemeMark (isSchemeName_text .https), hletters, if_neg Bool.false_ne_true]
  rfl

theorem IsBare.complete_http {address http : String} (h : IsBare address)
    (hhttp : sameLetters http "http" = true) :
    complete (trimChars (http ++ "://" ++ address).toList) =
      "https://".toList ++ trimChars address.toList := by
  have hblank : ∀ c ∈ http.toList, isBlank c = false :=
    fun c hc => (of_mem_of_sameLetters_http hhttp hc).2
  have hlist : (http ++ "://" ++ address).toList =
      http.toList ++ schemeMark ++ address.toList := by
    rw [String.toList_append, String.toList_append]
    rfl
  rw [hlist, trimChars_schemeMark hblank h.start,
    complete_schemeMark (isSchemeName_of_sameLetters_http hhttp), String.ofList_toList,
    if_pos hhttp]

/-- An address that names no scheme means the same, or is refused with the same words,
between blanks, behind `https://` and behind `http://` in any case of letters. Marks of
schemes behind its first slash, question mark or hash sign name none, so such an address
means a registry over HTTPS. -/
theorem ofString_eq_https_and_scheme_of_marksBehind :
    (∀ (address w w' http : String), IsBare address → (∀ c ∈ w.toList, isBlank c = true) →
      (∀ c ∈ w'.toList, isBlank c = true) → sameLetters http "http" = true →
        ofString (w ++ address ++ w') = ofString ("https://" ++ address) ∧
          ofString (http ++ "://" ++ address) = ofString ("https://" ++ address)) ∧
      ∀ address : String, MarksBehind address.toList →
        hasScheme address.toList = false ∧
          ∀ (w w' : String) (r : Registry), (∀ c ∈ w.toList, isBlank c = true) →
            (∀ c ∈ w'.toList, isBlank c = true) → ofString (w ++ address ++ w') = .ok r →
              r.scheme = .https := by
  constructor
  · intro address w w' http h hw hw' hhttp
    constructor
    · refine ofChars_eq_of_complete_eq ?_
      rw [complete_append_blank hw hw', h.complete_eq, h.complete_https]
    · refine ofChars_eq_of_complete_eq ?_
      rw [h.complete_http hhttp, h.complete_https]
  · intro address h
    refine ⟨h.hasScheme_eq_false, fun w w' r hw hw' hread => ?_⟩
    obtain ⟨full, hfull⟩ := exists_complete_eq_https h.trimChars.hasScheme_eq_false
    rw [← complete_append_blank hw hw'] at hfull
    exact scheme_of_complete_eq_https hfull hread

/-- An address with a registry behind that names its own scheme, read with blanks around
and behind a scheme in capital letters. -/
theorem ofString_of_marks_in_parameter :
    let r : Registry :=
      ⟨.https, "mirror.example.com", 443, "/v2", some ⟨.https, "ghcr.io", 443, "", none⟩⟩
    ofString "https://mirror.example.com/v2?ns=http://ghcr.io" = .ok r ∧
      ofString "\u2003mirror.example.com/v2?ns=http://ghcr.io\n" = .ok r ∧
      ofString "HTTP://mirror.example.com/v2?ns=http://ghcr.io" = .ok r ∧
      r.scheme = .https := by
  intro r
  have hread : ofString "https://mirror.example.com/v2?ns=http://ghcr.io" = .ok r :=
    eq_ok_of_toOption (by decide +kernel)
  have hmarks : MarksBehind "mirror.example.com/v2?ns=http://ghcr.io".toList :=
    marksBehind_of_colon_not_mem (s := "mirror.example.com".toList) (by decide) (.inl rfl)
  obtain ⟨hspellings, hschemes⟩ := ofString_eq_https_and_scheme_of_marksBehind
  obtain ⟨hnone, hscheme⟩ := hschemes "mirror.example.com/v2?ns=http://ghcr.io" hmarks
  have hbare : IsBare "mirror.example.com/v2?ns=http://ghcr.io" :=
    ⟨by rintro c ⟨⟩; rfl, hnone, by decide +kernel, by decide +kernel⟩
  have hspace : ∀ c ∈ "\u2003".toList, isBlank c = true := List.all_eq_true.mp (by decide)
  have hnewline : ∀ c ∈ "\n".toList, isBlank c = true := List.all_eq_true.mp (by decide)
  obtain ⟨hblanks, hhttp⟩ := hspellings _ _ _ "HTTP" hbare hspace hnewline (by decide)
  have hwith : ofString "\u2003mirror.example.com/v2?ns=http://ghcr.io\n" = .ok r :=
    hblanks.trans hread
  exact ⟨hread, hwith, hhttp.trans hread, hscheme _ _ r hspace hnewline hwith⟩

end CredRelay.Registry
