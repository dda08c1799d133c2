import CredRelay.Proofs.Host.Files
import CredRelay.Proofs.Toml.DocumentRoundTrip
import CredRelay.Settings.Writer
/-! Saving settings and loading them again. Settings that were saved are loaded as they
were, whatever their texts contain. Saving fails for their sake only where a number is too
large for the format, and then leaves what was there. -/
namespace CredRelay.Settings

open Toml Host

variable {s : Settings}

/-! ## Tables -/

/-- The entry of a text, if it is given. -/
def optionalEntry (key : String) (text : Option String) : List (String × Simple) :=
  (text.map fun t => (key, .text t)).toList

/-- The settings about reaching the relay and about limits. -/
def bridgeTable (s : Settings) : SimpleTable :=
  ⟨"bridge", optionalEntry "root_dir" s.rootDir ++
    [("transport", .text s.transport.text), ("read_timeout_secs", .count s.readTimeout),
      ("helper_timeout_secs", .count s.helperTimeout),
      ("max_request_bytes", .count s.maxRequestBytes)]⟩

/-- The settings about the network. -/
def tcpTable (s : Settings) : SimpleTable :=
  ⟨"tcp", [("listen", .text s.listen), ("allowed_networks", .texts s.allowedNetworks)]⟩

/-- The settings about helpers. -/
def helpersTable (s : Settings) : SimpleTable :=
  ⟨"helpers", optionalEntry "docker_config" s.helperConfig ++
    [("search_dirs", .texts s.searchDirs), ("fallback_dirs", .texts s.fallbackDirs)]⟩

/-- The tables that settings are written as. -/
def tables (s : Settings) : List SimpleTable :=
  [s.bridgeTable, s.tcpTable, s.helpersTable]

theorem flatMap_optionalEntry (key : String) (text : Option String) :
    ((optionalEntry key text).flatMap fun e => writtenPair e.1 e.2.written) =
      optionalPair key text := by
  cases text with
  | none => rfl
  | some t => exact List.append_nil _

theorem written_eq_writtenTables (s : Settings) : s.written = writtenTables s.tables := by
  simp only [written, tables, bridgeTable, tcpTable, helpersTable, writtenTables,
    List.map_cons, List.map_nil, SimpleTable.written, List.flatMap_append,
    flatMap_optionalEntry, List.intercalate_cons_cons]
  simp [Simple.written, countPair]

/-- Whether all numbers of settings can be written. -/
def IsBounded (s : Settings) : Prop :=
  s.readTimeout ≤ countLimit ∧ s.helperTimeout ≤ countLimit ∧
    s.maxRequestBytes ≤ countLimit

/-- A table whose keys are some of those in a list. -/
theorem isWritable_of_sublist {name : String} {entries : List (String × Simple)}
    (keys : List String) (hname : IsBareKey name) (hkeys : ∀ key ∈ keys, IsBareKey key)
    (hnodup : keys.Nodup) (h : (entries.map Prod.fst).Sublist keys)
    (hbounded : ∀ e ∈ entries, e.2.IsBounded) :
    SimpleTable.IsWritable ⟨name, entries⟩ where
  name := hname
  keys := fun _ he => hkeys _ (h.subset (List.mem_map_of_mem he))
  bounded := hbounded
  nodup := h.nodup hnodup

theorem optionalEntry_sublist (key : String) (text : Option String) :
    ((optionalEntry key text).map Prod.fst).Sublist [key] := by
  cases text with
  | none => exact List.nil_sublist _
  | some t => exact List.Sublist.refl _

theorem isBounded_of_mem_optionalEntry {key : String} {text : Option String} :
    ∀ e ∈ optionalEntry key text, e.2.IsBounded := by
  intro e he
  cases text with
  | none => cases he
  | some t =>
    rw [List.mem_singleton.mp he]
    trivial

theorem isWritable_of_mem_tables (h : s.IsBounded) : ∀ t ∈ s.tables, t.IsWritable := by
  obtain ⟨hread, hhelper, hrequest⟩ := h
  simp only [tables, List.forall_mem_cons]
  refine ⟨?bridge, ?tcp, ?helpers, List.forall_mem_nil _⟩
  case bridge =>
    refine isWritable_of_sublist ["root_dir", "transport", "read_timeout_secs",
      "helper_timeout_secs", "max_request_bytes"] (by decide) (by decide)
        (by decide) ?_ ?_
    · rw [List.map_append]
      exact (optionalEntry_sublist "root_dir" s.rootDir).append (List.Sublist.refl _)
    · rw [List.forall_mem_append]
      refine ⟨isBounded_of_mem_optionalEntry, ?_⟩
      simp only [List.forall_mem_cons]
      exact ⟨trivial, hread, hhelper, hrequest, List.forall_mem_nil _⟩
  case tcp =>
    refine isWritable_of_sublist ["listen", "allowed_networks"] (by decide) (by decide)
      (by decide) (List.Sublist.refl _) ?_
    simp only [List.forall_mem_cons]
    exact ⟨trivial, trivial, List.forall_mem_nil _⟩
  case helpers =>
    refine isWritable_of_sublist ["docker_config", "search_dirs", "fallback_dirs"]
      (by decide) (by decide) (by decide) ?_ ?_
    · rw [List.map_append]
      exact (optionalEntry_sublist "docker_config" s.helperConfig).append
        (List.Sublist.refl _)
    · rw [List.forall_mem_append]
      refine ⟨isBounded_of_mem_optionalEntry, ?_⟩
      simp only [List.forall_mem_cons]
      exact ⟨trivial, trivial, List.forall_mem_nil _⟩

/-! ## Reading -/

theorem texts?_texts (l : List String) : texts? (.array (l.map .text)) = some l := by
  rw [texts?]
  induction l with
  | nil => rfl
  | cons t l ih => simp [text?, ih]

theorem ofText?_text (t : Transport) : Transport.ofText? t.text = some t := by
  cases t <;> decide

theorem readBridge?_bridgeTable (s : Settings) :
    readBridge? default s.bridgeTable.entry.2 = some { default with
      rootDir := s.rootDir
      transport := s.transport
      readTimeout := s.readTimeout
      helperTimeout := s.helperTimeout
      maxRequestBytes := s.maxRequestBytes } := by
  -- what is not given is not written, and is not given by default either
  cases hroot : s.rootDir with
  | none =>
    simp [readBridge?, fields?, SimpleTable.entry, SimpleTable.values, bridgeTable,
      optionalEntry, hroot, Simple.value, List.lookup_cons, field?, transport?,
      ofText?_text, count?]
    rfl
  | some t =>
    simp [readBridge?, fields?, SimpleTable.entry, SimpleTable.values, bridgeTable,
      optionalEntry, hroot, Simple.value, List.lookup_cons, field?, transport?,
      ofText?_text, count?, text?]

theorem readTcp?_tcpTable (s base : Settings) :
    readTcp? base s.tcpTable.entry.2 =
      some { base with listen := s.listen, allowedNetworks := s.allowedNetworks } := by
  simp [readTcp?, fields?, SimpleTable.entry, SimpleTable.values, tcpTable, Simple.value,
    List.lookup_cons, field?, text?, texts?_texts]

theorem readHelpers?_helpersTable (s : Settings) {base : Settings}
    (h : base.helperConfig = none) :
    readHelpers? base s.helpersTable.entry.2 = some { base with
      helperConfig := s.helperConfig
      searchDirs := s.searchDirs
      fallbackDirs := s.fallbackDirs } := by
  cases hconfig : s.helperConfig with
  | none =>
    simp [readHelpers?, fields?, SimpleTable.entry, SimpleTable.values, helpersTable,
      optionalEntry, hconfig, Simple.value, List.lookup_cons, field?, texts?_texts, h]
  | some t =>
    simp [readHelpers?, fields?, SimpleTable.entry, SimpleTable.values, helpersTable,
      optionalEntry, hconfig, Simple.value, List.lookup_cons, field?, text?, texts?_texts]

theorem ofEntries?_tables (s : Settings) :
    ofEntries? (s.tables.map SimpleTable.entry) = some s := by
  have hbridge : (s.tables.map SimpleTable.entry).lookup "bridge" =
      some s.bridgeTable.entry.2 := rfl
  have htcp : (s.tables.map SimpleTable.entry).lookup "tcp" = some s.tcpTable.entry.2 :=
    rfl
  have hhelpers : (s.tables.map SimpleTable.entry).lookup "helpers" =
      some s.helpersTable.entry.2 := rfl
  simp only [ofEntries?, hbridge, htcp, hhelpers, group?, readBridge?_bridgeTable,
    Option.bind_some, readTcp?_tcpTable]
  exact readHelpers?_helpersTable s rfl

/-- Settings that were written are read as they were. -/
theorem ofText?_written (h : s.IsBounded) :
    ofText? (String.ofList s.written) = some s := by
  have hread : read? s.written = some (s.tables.map SimpleTable.entry) := by
    rw [written_eq_writtenTables]
    exact read?_writtenTables (isWritable_of_mem_tables h)
      (by decide : ["bridge", "tcp", "helpers"].Nodup)
  rw [ofText?, String.toList_ofList, hread, Option.bind_some, ofEntries?_tables]

/-! ## Saving -/

/-- Whether a number of settings is larger than those that the format has. -/
def IsTooLarge (s : Settings) : Prop :=
  countLimit < s.readTimeout ∨ countLimit < s.helperTimeout ∨
    countLimit < s.maxRequestBytes

/-- The largest number of the format takes 63 bits. -/
example : countLimit = 2 ^ 63 - 1 := by decide

instance (s : Settings) : Decidable s.IsTooLarge :=
  inferInstanceAs (Decidable (_ ∨ _))

theorem isBounded_of_not_isTooLarge (h : ¬s.IsTooLarge) : s.IsBounded := by
  rw [IsTooLarge] at h
  rw [IsBounded]
  simpa only [not_or, Nat.not_lt] using h

theorem toText_of_isTooLarge (h : s.IsTooLarge) :
    s.toText = .error (.unwritableValue countTooLarge) :=
  if_pos h

theorem toText_of_not_isTooLarge (h : ¬s.IsTooLarge) :
    s.toText = .ok (String.ofList s.written) :=
  if_neg h

section

variable {tree tree' : Tree} {path : String}

/-- What was written to a file is loaded from it. -/
theorem loadFrom_of_write_eq_ok (h : s.IsBounded)
    (hwrite : tree.write path (String.ofList s.written).toUTF8 = .ok tree') :
    loadFrom tree' path = .ok s := by
  have hread := Tree.read_of_write_eq_ok hwrite
  have hhas : tree'.has path = true := by
    rw [Tree.has]
    cases hstat : tree'.stat path with
    | ok n => rfl
    | error fault => simp [Tree.read, hstat] at hread
  rw [loadFrom, if_pos hhas, Tree.readText_of_read_eq_ok hread, load, ofText?_written h]

end

/-- Saving succeeds and the same settings are loaded afterwards, or it fails and what was
at the path is still there. A value is what it fails for exactly where the directories can
be made and a number is too large for the format. -/
theorem loadFrom_or_stat_of_saveTo (s : Settings) (tree : Tree) (path : String) :
    ((s.saveTo tree path).1 = .ok () ∧ loadFrom (s.saveTo tree path).2 path = .ok s ∨
      (∃ fault, (s.saveTo tree path).1 = .error fault) ∧
        ∀ n, tree.stat path = .ok n → (s.saveTo tree path).2.stat path = .ok n) ∧
    ((∃ detail, (s.saveTo tree path).1 = .error (.unwritableValue detail)) ↔
      (∃ made, tree.makeDirectories ((Path.parent? path).getD "") = .ok made) ∧
        s.IsTooLarge) := by
  -- the equations of `saveTo` are slow to make
  delta saveTo
  cases hmade : tree.makeDirectories ((Path.parent? path).getD "") with
  | error fault => exact ⟨.inr ⟨⟨_, rfl⟩, fun n h => h⟩, by simp⟩
  | ok made =>
    have hstat : ∀ n, tree.stat path = .ok n → made.stat path = .ok n :=
      fun n => Tree.stat_of_makeDirectories_eq_ok hmade
    by_cases hlarge : s.IsTooLarge
    · simp only [toText_of_isTooLarge hlarge]
      exact ⟨.inr ⟨⟨_, rfl⟩, hstat⟩, by simp [hlarge]⟩
    · simp only [toText_of_not_isTooLarge hlarge]
      cases hwrite : made.write path (String.ofList s.written).toUTF8 with
      | ok tree' =>
        have hload := loadFrom_of_write_eq_ok (isBounded_of_not_isTooLarge hlarge) hwrite
        exact ⟨.inl ⟨rfl, hload⟩, by simp [hlarge]⟩
      | error fault => exact ⟨.inr ⟨⟨_, rfl⟩, hstat⟩, by simp [hlarge]⟩

/-- Settings with a text that holds quotes of both kinds, a line end and a control. -/
def quoted : Settings :=
  { Settings.default with
    listen := "\"\"\"'''\n\t\\\x01"
    searchDirs := ["~/bin", "it's", ""]
    maxRequestBytes := 9223372036854775807 }

/-- They replace a file, which one more octet for a request would leave alone. -/
theorem loadFrom_of_saveTo_quoted :
    let old : Node := .file 0o600 (Text.utf8 "old")
    let tree := (Tree.bare []).put ["c.toml"] old
    let more : Settings := { quoted with maxRequestBytes := quoted.maxRequestBytes + 1 }
    loadFrom (quoted.saveTo tree "/c.toml").2 "/c.toml" = .ok quoted ∧
      (∃ detail, (more.saveTo tree "/c.toml").1 = .error (.unwritableValue detail)) ∧
      (more.saveTo tree "/c.toml").2.stat "/c.toml" = .ok old := by
  intro old tree more
  have hold : tree.stat "/c.toml" = .ok old := by rfl
  have hparent : tree.makeDirectories ((Path.parent? "/c.toml").getD "") = .ok tree := by
    rfl
  have hsaved : (quoted.saveTo tree "/c.toml").1 = .ok () := by rfl
  obtain ⟨hquoted, -⟩ := loadFrom_or_stat_of_saveTo quoted tree "/c.toml"
  obtain ⟨hmore, hlarge⟩ := loadFrom_or_stat_of_saveTo more tree "/c.toml"
  obtain ⟨detail, hdetail⟩ := hlarge.mpr ⟨⟨tree, hparent⟩, .inr (.inr (by decide))⟩
  refine ⟨?_, ⟨detail, hdetail⟩, ?_⟩
  · obtain ⟨-, hload⟩ | ⟨⟨fault, hfault⟩, -⟩ := hquoted
    · exact hload
    · rw [hsaved] at hfault
      cases hfault
  · obtain ⟨hsaved, -⟩ | ⟨-, hstat⟩ := hmore
    · rw [hdetail] at hsaved
      cases hsaved
    · exact hstat old hold

end CredRelay.Settings
