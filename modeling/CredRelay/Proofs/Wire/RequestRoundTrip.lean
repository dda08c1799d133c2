import CredRelay.Proofs.Text.Trimming
import CredRelay.Wire.Request
/-! Writing a request and reading it back. Line ends inside fields are dropped by the
writer and blanks around them by the reader, and blank operands at the end are not seen at
all. So a request arrives with each field in its own place, or it is refused for the
operands that it lacks. -/
namespace CredRelay.Request

open Text

/-- A text on one line: without line feeds and carriage returns. -/
def oneLine (s : String) : String :=
  String.ofList (s.toList.filter fun c => c ∉ ['\n', '\r'])

/-- A field as it arrives: on one line, and trimmed. -/
def cleanField (s : String) : String :=
  trim (oneLine s)

/-- What a request is written with is its fields on one line each. -/
theorem withoutBreaks_eq_oneLine (s : String) : withoutBreaks s = oneLine s := by
  refine congrArg String.ofList (List.filter_congr fun c _ => ?_)
  rw [Bool.eq_iff_iff]
  simp

theorem trim_withoutBreaks (s : String) : trim (withoutBreaks s) = cleanField s := by
  rw [withoutBreaks_eq_oneLine, cleanField]

theorem cleanField_trim (s : String) : cleanField (trim s) = cleanField s := by
  simp only [cleanField, oneLine, trim, String.toList_ofList]
  rw [trimChars_filter_trimChars]

/-- Line ends are blank, so a field that arrives empty was blank before. -/
theorem cleanField_eq_empty_iff {s : String} : cleanField s = "" ↔ trim s = "" := by
  rw [cleanField, trim_eq_empty_iff, trim_eq_empty_iff]
  simp only [oneLine, String.toList_ofList, List.mem_filter]
  constructor
  · intro h c hc
    by_cases hlf : c = '\n'
    · rw [hlf]
      rfl
    by_cases hcr : c = '\r'
    · rw [hcr]
      rfl
    exact h c ⟨hc, by simp [hlf, hcr]⟩
  · intro h c hc
    exact h c hc.1

/-- A request with each field as it arrives. -/
def cleaned : Request → Request
  | .get serverUrl => .get (cleanField serverUrl)
  | .erase serverUrl => .erase (cleanField serverUrl)
  | .store c =>
    .store ⟨cleanField c.serverUrl, cleanField c.username, cleanField c.secret⟩
  | .list => .list

/-- Whether all that a request needs arrives. An address may be blank where something
follows it. -/
def IsWhole : Request → Prop
  | .get serverUrl | .erase serverUrl => cleanField serverUrl ≠ ""
  | .store c => cleanField c.username ≠ "" ∧ cleanField c.secret ≠ ""
  | .list => True

instance (r : Request) : Decidable r.IsWhole :=
  match r with
  | .get _ | .erase _ => inferInstanceAs (Decidable (_ ≠ ""))
  | .store _ => inferInstanceAs (Decidable (_ ∧ _))
  | .list => inferInstanceAs (Decidable True)

/-- The number of lines of a store without a secret: blank ones at the end do not
count. -/
def linesWithoutSecret (c : Credential) : Nat :=
  if cleanField c.username ≠ "" then 3
  else if cleanField c.serverUrl ≠ "" then 2
  else 1

/-- What is said of a request of which something is missing. -/
def shortfall : Request → WireFault
  | .store c =>
    if cleanField c.secret ≠ "" then .incompleteCredential
    else .arity "store" 4 (linesWithoutSecret c)
  | r => .arity r.command.text 2 1

theorem withoutBreaks_append (s t : String) :
    withoutBreaks (s ++ t) = withoutBreaks s ++ withoutBreaks t := by
  simp [withoutBreaks, String.ofList_append]

theorem newline_not_mem_withoutBreaks (s : String) : '\n' ∉ (withoutBreaks s).toList := by
  simp [withoutBreaks]

theorem newline_not_mem_word (c : Command) : '\n' ∉ c.text.toList := by
  cases c <;> decide

theorem trimChars_word (c : Command) : trimChars c.text.toList = c.text.toList := by
  cases c <;> decide

/-! ## Lines -/

/-- The lines of a request before they are joined. -/
def lines (r : Request) : List (List Char) :=
  (r.command.text :: r.operands.map withoutBreaks).map String.toList

theorem text_toList (r : Request) :
    r.text.toList = ['\n'].intercalate r.lines ++ ['\n'] := by
  simp [text, joinWith, lines]

theorem splitOn_text (r : Request) : r.text.toList.splitOn '\n' = r.lines ++ [[]] := by
  have hlines : ∀ l ∈ r.lines, '\n' ∉ l := by
    intro l hl
    simp only [lines, List.map_cons, List.map_map, List.mem_cons, List.mem_map] at hl
    rcases hl with rfl | ⟨s, -, rfl⟩
    · exact newline_not_mem_word r.command
    · exact newline_not_mem_withoutBreaks s
  rw [text_toList, List.splitOn_append_cons_self,
    List.splitOn_intercalate '\n' hlines (by simp [lines]), List.splitOn_nil]

theorem significantLines_text (r : Request) :
    significantLines r.text.toList = (r.lines.map trimChars).rdropWhile List.isEmpty := by
  have htrim : trimChars [] = [] := rfl
  show ((r.text.toList.splitOn '\n').map trimChars).rdropWhile List.isEmpty = _
  rw [splitOn_text, List.map_append, List.map_singleton, htrim,
    List.rdropWhile_concat_pos _ _ _ rfl]

theorem map_ofList_rdropWhile (l : List (List Char)) :
    (l.rdropWhile List.isEmpty).map String.ofList =
      (l.map String.ofList).rdropWhile String.isEmpty := by
  have hempty : String.isEmpty ∘ String.ofList = List.isEmpty := by
    funext s
    cases s <;> simp
  simp only [List.rdropWhile, ← List.map_reverse, List.dropWhile_map, hempty]

/-- What is read from a written request: its word, and its cleaned operands up to the last
one that is not blank. -/
theorem ofText_text (r : Request) :
    ofText r.text =
      ofLines (r.command.text :: (r.operands.map cleanField).rdropWhile
        String.isEmpty) := by
  have hclean : (r.lines.map trimChars).map String.ofList =
      r.command.text :: r.operands.map cleanField := by
    simp [lines, trimChars_word, Function.comp_def, ← trim_withoutBreaks, trim]
  have hword : r.command.text.isEmpty = false := by
    cases r.command <;> decide
  rw [ofText, significantLines_text, map_ofList_rdropWhile, hclean, rdropWhile_cons hword]

theorem decode_encode_eq_ofLines (r : Request) :
    decode r.encode =
      ofLines (r.command.text :: (r.operands.map cleanField).rdropWhile
        String.isEmpty) := by
  rw [decode, encode, ofUtf8?_utf8]
  exact ofText_text r

/-! ## What arrives -/

theorem ofText?_text (c : Command) : Command.ofText? c.text = some c := by
  cases c <;> decide

theorem rdropWhile_one (a : String) :
    [a].rdropWhile String.isEmpty = if a ≠ "" then [a] else [] := by
  simp only [List.rdropWhile_singleton, String.isEmpty_iff, ite_not]

/-- Of three operands those after the last that is not blank are lost. -/
theorem rdropWhile_three (a u s : String) :
    [a, u, s].rdropWhile String.isEmpty =
      if s ≠ "" then [a, u, s] else if u ≠ "" then [a, u] else if a ≠
      "" then [a] else [] := by
  have two : [a, u].rdropWhile String.isEmpty =
      if u ≠ "" then [a, u] else if a ≠ "" then [a] else [] := by
    rw [← rdropWhile_one, show [a, u] = [a] ++ [u] from rfl, List.rdropWhile_concat]
    simp only [String.isEmpty_iff, ite_not]
  rw [← two, show [a, u, s] = [a, u] ++ [s] from rfl, List.rdropWhile_concat]
  simp only [String.isEmpty_iff, ite_not]

theorem decode_encode_of_isWhole {r : Request} (h : r.IsWhole) :
    decode r.encode = .ok r.cleaned := by
  rw [decode_encode_eq_ofLines]
  cases r with
  | get serverUrl =>
    have hurl : cleanField serverUrl ≠ "" := h
    simp only [operands, List.map_cons, List.map_nil, rdropWhile_one]
    rw [if_pos hurl]
    rfl
  | erase serverUrl =>
    have hurl : cleanField serverUrl ≠ "" := h
    simp only [operands, List.map_cons, List.map_nil, rdropWhile_one]
    rw [if_pos hurl]
    rfl
  | store c =>
    obtain ⟨huser, hsecret⟩ := h
    simp only [operands, List.map_cons, List.map_nil, rdropWhile_three]
    rw [if_pos hsecret]
    simp [command, ofLines, ofText?_text, huser, hsecret, cleaned]
  | list => rfl

/-- Without its secret a store has too few lines; with it, only the user name can be
missing. -/
theorem decode_encode_of_not_isWhole {r : Request} (h : ¬r.IsWhole) :
    decode r.encode = .error r.shortfall := by
  rw [decode_encode_eq_ofLines]
  cases r with
  | get serverUrl =>
    have hurl : ¬cleanField serverUrl ≠ "" := h
    simp only [operands, List.map_cons, List.map_nil, rdropWhile_one]
    rw [if_neg hurl]
    rfl
  | erase serverUrl =>
    have hurl : ¬cleanField serverUrl ≠ "" := h
    simp only [operands, List.map_cons, List.map_nil, rdropWhile_one]
    rw [if_neg hurl]
    rfl
  | store c =>
    simp only [operands, List.map_cons, List.map_nil, rdropWhile_three, command]
    by_cases hsecret : cleanField c.secret = ""
    · simp only [shortfall, linesWithoutSecret, hsecret]
      by_cases huser : cleanField c.username = ""
      · by_cases hurl : cleanField c.serverUrl = "" <;> simp [huser, hurl] <;> rfl
      · simp [huser]
        rfl
    · have huser : cleanField c.username = "" := by
        by_contra hne
        exact h ⟨hne, hsecret⟩
      simp [shortfall, hsecret, huser, ofLines, ofText?_text]
  | list => exact absurd trivial h

/-- Writing a request and reading it back gives the request with its fields cleaned, or
says what is missing. No field moves into another one, and none changes the command. -/
theorem decode_encode_eq_cleaned (r : Request) :
    decode r.encode = if r.IsWhole then .ok r.cleaned else .error r.shortfall := by
  by_cases h : r.IsWhole
  · rw [if_pos h]
    exact decode_encode_of_isWhole h
  · rw [if_neg h]
    exact decode_encode_of_not_isWhole h

end CredRelay.Request
