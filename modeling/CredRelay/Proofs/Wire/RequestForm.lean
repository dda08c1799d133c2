import CredRelay.Proofs.Text.Octets
import CredRelay.Proofs.Text.Pieces
import CredRelay.Proofs.Wire.RequestRoundTrip
/-! What a request that was read looks like. Its fields hold no line feed and are
trimmed, and the fields that it needs are there, so that it is whole when it is written
again and only carriage returns are lost. Blanks after the octets are part of no line
that counts. -/
namespace CredRelay.Request

open Text

variable {octets : ByteArray} {r : Request}

/-- A text that a line can hold as it is: without line feed, and with no blank at
either end. -/
structure IsField (s : String) : Prop where
  noBreak : '\n' ∉ s.toList
  start : ∀ c ∈ s.toList.head?, isBlank c = false
  finish : ∀ c ∈ s.toList.getLast?, isBlank c = false

/-- Whether the fields that may not be blank are there. -/
def HasNeeded : Request → Prop
  | .get serverUrl | .erase serverUrl => serverUrl ≠ ""
  | .store c => c.username ≠ "" ∧ c.secret ≠ ""
  | .list => True

/-- The form of a request that was read. -/
structure IsProper (r : Request) : Prop where
  isField : ∀ s ∈ r.operands, IsField s
  hasNeeded : r.HasNeeded

/-- A text without carriage returns. -/
def withoutReturns (s : String) : String :=
  String.ofList (s.toList.filter fun c => c != '\r')

/-- A request with each field changed. -/
def mapFields (f : String → String) : Request → Request
  | .get serverUrl => .get (f serverUrl)
  | .erase serverUrl => .erase (f serverUrl)
  | .store c => .store ⟨f c.serverUrl, f c.username, f c.secret⟩
  | .list => .list

theorem mapFields_congr {f g : String → String} (h : ∀ s ∈ r.operands, f s = g s) :
    r.mapFields f = r.mapFields g := by
  cases r with
  | get serverUrl => exact congrArg get (h serverUrl (by simp [operands]))
  | erase serverUrl => exact congrArg erase (h serverUrl (by simp [operands]))
  | store c =>
    simp only [operands, List.mem_cons, List.not_mem_nil, or_false, forall_eq_or_imp,
      forall_eq] at h
    obtain ⟨hurl, huser, hsecret⟩ := h
    simp only [mapFields, hurl, huser, hsecret]
  | list => rfl

theorem cleaned_eq_mapFields (r : Request) : r.cleaned = r.mapFields cleanField := by
  cases r <;> rfl

/-! ## Fields -/

theorem isField_iff {s : String} : IsField s ↔ '\n' ∉ s.toList ∧ trim s = s := by
  constructor
  · intro h
    refine ⟨h.noBreak, ?_⟩
    rw [trim, trimChars_eq_self_of_ends h.start h.finish, String.ofList_toList]
  · rintro ⟨hbreak, htrim⟩
    have hs : s.toList = trimChars s.toList := by
      rw [← toList_trim, htrim]
    refine ⟨hbreak, fun c hc => ?_, fun c hc => ?_⟩
    · rw [hs] at hc
      exact isBlank_of_mem_head?_trimChars hc
    · rw [hs] at hc
      exact isBlank_of_mem_getLast?_trimChars hc

/-- A field starts and ends with no carriage return, so it stays trimmed without those
within it. -/
theorem IsField.cleanField_eq {s : String} (h : IsField s) :
    cleanField s = withoutReturns s := by
  have hbreaks : withoutBreaks s = withoutReturns s := by
    refine congrArg String.ofList (List.filter_congr fun c hc => ?_)
    have hne : c ≠ '\n' := fun heq => h.noBreak (heq ▸ hc)
    simp [hne]
  have hkeep : ∀ c, isBlank c = false → (c != '\r') = true := by
    intro c hc
    rw [bne_iff_ne]
    rintro rfl
    exact absurd hc (by decide)
  rw [← trim_withoutBreaks, hbreaks, withoutReturns, trim, String.toList_ofList,
    trimChars_filter_eq_self hkeep h.start h.finish]

/-- A proper request lacks nothing on the wire. -/
theorem IsProper.isWhole (h : r.IsProper) : r.IsWhole := by
  have hclean : ∀ s ∈ r.operands, s ≠ "" → cleanField s ≠ "" := by
    intro s hs hne
    rwa [ne_eq, cleanField_eq_empty_iff, (isField_iff.mp (h.isField s hs)).2]
  have hneeded := h.hasNeeded
  cases r with
  | get serverUrl => exact hclean serverUrl (by simp [operands]) hneeded
  | erase serverUrl => exact hclean serverUrl (by simp [operands]) hneeded
  | store c =>
    exact ⟨hclean c.username (by simp [operands]) hneeded.1,
      hclean c.secret (by simp [operands]) hneeded.2⟩
  | list => trivial

theorem IsProper.decode_encode (h : r.IsProper) :
    decode r.encode = .ok (r.mapFields withoutReturns) := by
  rw [decode_encode_of_isWhole h.isWhole, cleaned_eq_mapFields,
    mapFields_congr fun s hs => (h.isField s hs).cleanField_eq]

/-! ## Lines that count -/

theorem isField_of_mem_significantLines {s line : List Char}
    (h : line ∈ significantLines s) : IsField (String.ofList line) := by
  have hline : line ∈ (s.splitOn '\n').map trimChars := (List.rdropWhile_prefix _ _).mem h
  obtain ⟨piece, hpiece, rfl⟩ := List.mem_map.mp hline
  rw [isField_iff, String.toList_ofList, trim, String.toList_ofList, trimChars_trimChars]
  refine ⟨fun hmem => ?_, rfl⟩
  exact not_mem_of_mem_splitOn hpiece ((trimWhere_sublist isBlank piece).mem hmem)

/-- The last line that counts is not blank. -/
theorem empty_not_mem_getLast?_significantLines (s : List Char) :
    "" ∉ ((significantLines s).map String.ofList).getLast? := by
  intro h
  rw [List.getLast?_map, Option.mem_def, Option.map_eq_some_iff] at h
  obtain ⟨line, hline, hempty⟩ := h
  obtain ⟨hne, hlast⟩ := List.mem_getLast?_eq_getLast hline
  have hnot := List.rdropWhile_last_not List.isEmpty ((s.splitOn '\n').map trimChars) hne
  rw [String.ofList_eq_empty_iff] at hempty
  exact hnot (List.isEmpty_iff.mpr (hlast.symm.trans hempty))

theorem text_of_ofText?_eq_some {word : String} {c : Command}
    (h : Command.ofText? word = some c) : c.text = word := by
  simpa using List.find?_some h

/-- Lines make a request exactly when they are its word and its operands, where a store
needs its user name and its secret. -/
theorem ofLines_eq_ok_iff {lines : List String} :
    ofLines lines = .ok r ↔ lines = r.command.text :: r.operands ∧
      ∀ c, r = .store c → c.username ≠ "" ∧ c.secret ≠ "" := by
  constructor
  · intro h
    rw [ofLines.eq_def] at h
    split at h
    · cases h
    · next word fields =>
      split at h
      · cases h
      · next command hword =>
        rw [← text_of_ofText?_eq_some hword]
        split at h
        · cases h
          exact ⟨rfl, by simp⟩
        · cases h
          exact ⟨rfl, by simp⟩
        · cases h
          exact ⟨rfl, by simp⟩
        · split at h
          · cases h
          · next hneeded =>
            cases h
            simpa [command, operands] using hneeded
        · cases h
  · rintro ⟨rfl, hneeded⟩
    cases r with
    | get serverUrl => simp [ofLines, command, operands, ofText?_text]
    | erase serverUrl => simp [ofLines, command, operands, ofText?_text]
    | store c =>
      obtain ⟨huser, hsecret⟩ := hneeded c rfl
      simp [ofLines, command, operands, ofText?_text, huser, hsecret]
    | list => simp [ofLines, command, operands, ofText?_text]

/-! ## What is read -/

theorem isProper_of_decode_eq_ok (h : decode octets = .ok r) : r.IsProper := by
  rw [decode] at h
  split at h
  · next s hs =>
    obtain ⟨hlines, hstore⟩ := ofLines_eq_ok_iff.mp h
    refine ⟨fun field hfield => ?_, ?_⟩
    · have hmem : field ∈ (significantLines s.toList).map String.ofList := by
        rw [hlines]
        exact List.mem_cons_of_mem _ hfield
      obtain ⟨line, hline, rfl⟩ := List.mem_map.mp hmem
      exact isField_of_mem_significantLines hline
    · have hlast := empty_not_mem_getLast?_significantLines s.toList
      rw [hlines] at hlast
      cases r with
      | get serverUrl => exact fun hempty => hlast (congrArg some hempty)
      | erase serverUrl => exact fun hempty => hlast (congrArg some hempty)
      | store c => exact hstore c rfl
      | list => trivial
  · cases h

theorem isField_word (c : Command) : IsField c.text := by
  rw [isField_iff, trim, trimChars_word, String.ofList_toList]
  exact ⟨newline_not_mem_word c, rfl⟩

theorem significantLines_intercalate {fields : List String} (hne : fields ≠ [])
    (hfields : ∀ s ∈ fields, IsField s) (hlast : "" ∉ fields.getLast?) :
    significantLines (['\n'].intercalate (fields.map String.toList)) =
      fields.map String.toList := by
  have hbreak : ∀ line ∈ fields.map String.toList, '\n' ∉ line := by
    intro line hline
    obtain ⟨s, hs, rfl⟩ := List.mem_map.mp hline
    exact (hfields s hs).noBreak
  have htrim : (fields.map String.toList).map trimChars = fields.map String.toList := by
    rw [List.map_map]
    refine List.map_congr_left fun s hs => ?_
    exact trimChars_eq_self_of_ends (hfields s hs).start (hfields s hs).finish
  show ((List.splitOn '\n' _).map trimChars).rdropWhile List.isEmpty = _
  rw [List.splitOn_intercalate '\n' hbreak (by simpa using hne), htrim,
    List.rdropWhile_eq_self_iff]
  intro hmap hempty
  refine hlast ?_
  rw [List.getLast_map, List.isEmpty_iff, String.toList_eq_nil_iff] at hempty
  rw [← hempty]
  exact List.getLast_mem_getLast? hne

/-- Some octets make a request exactly when it is proper. -/
theorem exists_decode_eq_ok_iff : (∃ octets, decode octets = .ok r) ↔ r.IsProper := by
  constructor
  · rintro ⟨octets, h⟩
    exact isProper_of_decode_eq_ok h
  · intro h
    let fields := r.command.text :: r.operands
    refine ⟨utf8 (String.ofList (['\n'].intercalate (fields.map String.toList))), ?_⟩
    have hfields : ∀ s ∈ fields, IsField s := by
      intro s hs
      rcases List.mem_cons.mp hs with rfl | hs
      · exact isField_word r.command
      · exact h.isField s hs
    have hlast : "" ∉ fields.getLast? := by
      have hneeded := h.hasNeeded
      cases r with
      | get serverUrl => exact fun hmem => hneeded (Option.some.inj hmem)
      | erase serverUrl => exact fun hmem => hneeded (Option.some.inj hmem)
      | store c => exact fun hmem => hneeded.2 (Option.some.inj hmem)
      | list => decide
    rw [decode, ofUtf8?_utf8]
    show ofLines ((significantLines (String.ofList _).toList).map String.ofList) = .ok r
    rw [String.toList_ofList, significantLines_intercalate
      (by simp [fields]) hfields hlast, List.map_map]
    refine ofLines_eq_ok_iff.mpr ⟨?_, ?_⟩
    · simp [fields, Function.comp_def]
    · rintro c rfl
      exact h.hasNeeded

/-! ## Blanks at the end -/

theorem significantLines_concat_blank {c : Char} (h : isBlank c = true) (s : List Char) :
    significantLines (s ++ [c]) = significantLines s := by
  show ((List.splitOn '\n' _).map trimChars).rdropWhile List.isEmpty =
    ((List.splitOn '\n' _).map trimChars).rdropWhile List.isEmpty
  by_cases hc : c = '\n'
  · -- a line more, and a blank one
    subst hc
    have htrim : trimChars [] = [] := rfl
    rw [List.splitOn_append_cons_self, List.splitOn_nil, List.map_append,
      List.map_singleton, htrim, List.rdropWhile_concat_pos _ _ _ rfl]
  · -- a blank more at the end of the last line
    obtain ⟨init, last, hs, hconcat⟩ := exists_splitOn_concat hc s
    have htrim : trimChars (last ++ [c]) = trimChars last :=
      trimChars_append_blank (by simpa using h) last
    rw [hs, hconcat, List.map_append, List.map_append, List.map_singleton,
      List.map_singleton, htrim]

theorem significantLines_append_blank {w : List Char} (h : ∀ c ∈ w, isBlank c = true)
    (s : List Char) : significantLines (s ++ w) = significantLines s := by
  induction w generalizing s with
  | nil => rw [List.append_nil]
  | cons c w ih =>
    have hc : isBlank c = true := h c List.mem_cons_self
    have hw : ∀ d ∈ w, isBlank d = true := fun d hd => h d (List.mem_cons_of_mem c hd)
    rw [List.append_cons, ih hw, significantLines_concat_blank hc]

theorem decode_append_blank (octets : ByteArray) {w : String}
    (h : ∀ c ∈ w.toList, isBlank c = true) :
    decode (octets ++ utf8 w) = decode octets := by
  rw [decode, decode, ofUtf8?_append_utf8]
  cases ofUtf8? octets with
  | none => rfl
  | some s =>
    simp only [Option.map_some]
    rw [ofText, ofText, String.toList_append, significantLines_append_blank h]

/-- A request that was read has the form of one: its fields are without line feeds and
trimmed, and what it needs is there. Written and read again it has lost its carriage
returns and nothing else. And blanks after any octets change neither the request nor what
is said of octets that make none. -/
theorem isProper_and_decode_append_blank (octets : ByteArray) :
    (∀ r, decode octets = .ok r →
      r.IsProper ∧ decode r.encode = .ok (r.mapFields withoutReturns)) ∧
    ∀ w : String, (∀ c ∈ w.toList, isBlank c = true) →
      decode (octets ++ utf8 w) = decode octets := by
  refine ⟨fun r h => ?_, fun w h => decode_append_blank octets h⟩
  have hproper : r.IsProper := isProper_of_decode_eq_ok h
  exact ⟨hproper, hproper.decode_encode⟩

/-- A store without an address, with a carriage return within the user name and blanks
around it, read with more blanks after it. -/
theorem decode_of_inner_return :
    let octets : ByteArray := utf8 "store\n\n o\rcto \ns3cret"
    let r : Request := .store ⟨"", "o\rcto", "s3cret"⟩
    decode octets = .ok r ∧ r.IsProper ∧
      decode r.encode = .ok (.store ⟨"", "octo", "s3cret"⟩) ∧
      decode (octets ++ utf8 "\u2028 \n") = .ok r := by
  intro octets r
  have hread : decode octets = .ok r := eq_ok_of_toOption (by decide +kernel)
  obtain ⟨hproper, hagain⟩ := (isProper_and_decode_append_blank octets).1 r hread
  have hblank : decode (octets ++ utf8 "\u2028 \n") = decode octets :=
    (isProper_and_decode_append_blank octets).2 _ (List.all_eq_true.mp (by decide))
  exact ⟨hread, hproper, hagain, hblank.trans hread⟩

end CredRelay.Request
