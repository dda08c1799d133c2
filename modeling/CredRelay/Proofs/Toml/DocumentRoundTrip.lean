import CredRelay.Proofs.Toml.ValueRoundTrip
/-! Writing tables as a TOML document and reading it back. Tables with different names,
whose keys are different and need no quotes, read back as they are, in order. -/
namespace CredRelay.Toml

open Text

variable {rest s after next : List Char} {c : Char} {key name : String} {x : Simple}
  {d d' : Draft}

/-! ## Keys -/

/-- Whether a key can be written without quotes. -/
def IsBareKey (key : String) : Prop :=
  key ≠ "" ∧ ∀ c ∈ key.toList, isKeyCharacter c = true

instance (key : String) : Decidable (IsBareKey key) :=
  decidable_of_iff (key ≠ "" ∧ key.toList.all isKeyCharacter = true)
    (by rw [IsBareKey, List.all_eq_true])

theorem ne_of_isKeyCharacter {d : Char} (h : isKeyCharacter c = true)
    (hd : isKeyCharacter d = false) : c ≠ d := by
  rintro rfl
  rw [h] at hd
  cases hd

theorem isGap_of_isKeyCharacter (h : isKeyCharacter c = true) : isGap c = false := by
  rw [isGap, Bool.or_eq_false_iff, beq_eq_false_iff_ne, beq_eq_false_iff_ne]
  exact ⟨ne_of_isKeyCharacter h (by decide), ne_of_isKeyCharacter h (by decide)⟩

theorem IsBareKey.exists_cons (h : IsBareKey key) :
    ∃ c more, key.toList = c :: more ∧ isKeyCharacter c = true := by
  obtain ⟨hne, hall⟩ := h
  obtain ⟨c, more, hkey⟩ :=
    List.exists_cons_of_ne_nil (mt String.toList_eq_nil_iff.mp hne)
  exact ⟨c, more, hkey, hall c (hkey ▸ List.mem_cons_self)⟩

/-- A key without quotes ends where no character of a key follows. -/
theorem key?_append (h : IsBareKey key) (hafter : after.head?.any isKeyCharacter = false)
    (hnext : after.dropWhile isGap = next) (hdot : next.head? ≠ some '.') (parts : Nat) :
    key? (parts + 1) (key.toList ++ after) = some ([key], next) := by
  obtain ⟨c, more, hkey, hc⟩ := h.exists_cons
  have hgap : (key.toList ++ after).dropWhile isGap = key.toList ++ after := by
    rw [hkey, List.cons_append,
      List.dropWhile_cons_of_neg
        (by rw [isGap_of_isKeyCharacter hc]; exact Bool.false_ne_true)]
  have htake : after.takeWhile isKeyCharacter = [] ∧
      after.dropWhile isKeyCharacter = after := by
    cases after with
    | nil => exact ⟨rfl, rfl⟩
    | cons a after =>
      have ha : ¬isKeyCharacter a = true := by simpa using hafter
      exact ⟨List.takeWhile_cons_of_neg ha, List.dropWhile_cons_of_neg ha⟩
  have hpart : keyPart? (key.toList ++ after) = some (key.toList, after) := by
    rw [keyPart?.eq_def]
    split
    · next heq =>
      rw [hkey] at heq
      exact absurd (List.cons.inj heq).1 (ne_of_isKeyCharacter hc (by decide))
    · next heq =>
      rw [hkey] at heq
      exact absurd (List.cons.inj heq).1 (ne_of_isKeyCharacter hc (by decide))
    · rw [List.takeWhile_append_of_pos h.2, List.dropWhile_append_of_pos h.2,
        htake.1, htake.2, List.append_nil]
      simp [hkey]
  rw [key?, hgap, hpart]
  simp only [hnext]
  split
  · exact absurd rfl hdot
  · rw [String.ofList_toList]

/-! ## Lines -/

theorem afterLine?_of_isKeyCharacter (h : isKeyCharacter c = true) (s : List Char) :
    afterLine? (c :: s) = none := by
  have hgap : (c :: s).dropWhile isGap = c :: s :=
    List.dropWhile_cons_of_neg
      (by rw [isGap_of_isKeyCharacter h]; exact Bool.false_ne_true)
  have hcomment : afterComment (c :: s) = c :: s := by
    rw [afterComment.eq_def]
    split
    · next heq => exact absurd (List.cons.inj heq).1 (ne_of_isKeyCharacter h (by decide))
    · rfl
  rw [afterLine?, hgap, hcomment]
  show afterBreak? (c :: s) = none
  rw [afterBreak?.eq_def]
  split
  · next heq => exact absurd (List.cons.inj heq).1 (ne_of_isKeyCharacter h (by decide))
  · next heq => exact absurd (List.cons.inj heq).1 (ne_of_isKeyCharacter h (by decide))
  · rfl

theorem pair?_writtenPair (h : IsBareKey key) (hx : x.IsBounded) (rest : List Char) :
    pair? (writtenPair key x.written ++ rest) = some ([key], x.value, '\n' :: rest) := by
  have hwritten : writtenPair key x.written ++ rest =
      key.toList ++ ' ' :: '=' :: ' ' :: (x.written ++ '\n' :: rest) := by
    simp [writtenPair]
  have hkey : key? (depthLimit - 1)
      (key.toList ++ ' ' :: '=' :: ' ' :: (x.written ++ '\n' :: rest)) =
      some ([key], '=' :: ' ' :: (x.written ++ '\n' :: rest)) :=
    key?_append h rfl rfl (by simp [isGap]) 78
  have hgap : (' ' :: (x.written ++ '\n' :: rest)).dropWhile isGap =
      x.written ++ '\n' :: rest := by
    obtain ⟨c, more, hc, hgap⟩ := x.exists_written
    rw [hc, List.dropWhile_cons_of_pos rfl, List.cons_append,
      List.dropWhile_cons_of_neg (by rw [hgap]; exact Bool.false_ne_true)]
  rw [pair?, hwritten, hkey]
  simp only [hgap]
  rw [show depthLimit - 1 = 78 + 1 from rfl,
    Simple.value?_written hx 78 rest (by rw [List.length_append]; omega)]
  rfl

theorem add?_of_lookup_eq_none (h : d.current.lookup key = none) (v : Value) :
    d.add? [key] v = some { d with current := d.current ++ [(key, v)] } := by
  show (addValue [] key v d.current).map (fun current => { d with current }) = _
  have hadd : addValue [] key v d.current = some (d.current ++ [(key, v)]) := by
    show (if false = true then none else if (d.current.lookup key).isSome then none
      else some (d.current ++ [(key, v)])) = _
    rw [h]
    rfl
  rw [hadd]
  rfl

theorem line?_writtenPair (h : IsBareKey key) (hx : x.IsBounded)
    (hnew : d.current.lookup key = none) (rest : List Char) :
    line? d (writtenPair key x.written ++ rest) =
      some ({ d with current := d.current ++ [(key, x.value)] }, rest) := by
  have hpair := pair?_writtenPair h hx rest
  obtain ⟨c, more, hkey, hc⟩ := h.exists_cons
  have hwritten : writtenPair key x.written ++ rest =
      c :: (more ++ " = ".toList ++ x.written ++ ['\n'] ++ rest) := by
    rw [writtenPair, hkey]
    rfl
  rw [hwritten] at hpair ⊢
  rw [line?, List.dropWhile_cons_of_neg
    (by rw [isGap_of_isKeyCharacter hc]; exact Bool.false_ne_true)]
  split
  · next heq => exact absurd (List.cons.inj heq).1 (ne_of_isKeyCharacter hc (by decide))
  · rw [afterLine?_of_isKeyCharacter hc, hpair]
    simp only [add?_of_lookup_eq_none hnew]
    rfl

theorem open?_of_close? {done : Entries} (h : d.close? = some done)
    (hnew : done.lookup name = none) :
    d.open? false [name] = some ⟨done, [], [name], false⟩ := by
  have hclaim : claim? false [] name done = some (done, []) := by
    have hfound : claim?.findAt [] done = done := rfl
    simp only [claim?, hfound, hnew]
    rfl
  rw [Draft.open?, h]
  show (claim? false [] name done).map _ = _
  rw [hclaim]
  rfl

theorem line?_writtenHeader {done : Entries} (h : IsBareKey name)
    (hclose : d.close? = some done) (hnew : done.lookup name = none) (rest : List Char) :
    line? d (writtenHeader name ++ rest) = some (⟨done, [], [name], false⟩, rest) := by
  have hheader : header? ('[' :: (name.toList ++ ']' :: '\n' :: rest)) =
      some (false, [name], '\n' :: rest) := by
    have hkey : key? (depthLimit - 1) (name.toList ++ ']' :: '\n' :: rest) =
        some ([name], ']' :: '\n' :: rest) :=
      key?_append h rfl rfl (by simp [isGap]) 78
    obtain ⟨c, more, hname, hc⟩ := h.exists_cons
    rw [hname, List.cons_append] at hkey ⊢
    rw [header?.eq_def]
    split
    · next heq =>
      exact absurd (List.cons.inj (List.cons.inj heq).2).1
        (ne_of_isKeyCharacter hc (by decide))
    · next heq =>
      rw [← (List.cons.inj heq).2, hkey]
      rfl
    · next hnone => exact absurd rfl (hnone _)
  have hwritten :
      writtenHeader name ++ rest = '[' :: (name.toList ++ ']' :: '\n' :: rest) := by
    simp [writtenHeader]
  rw [hwritten, line?, List.dropWhile_cons_of_neg (by decide)]
  simp only [hheader, open?_of_close? hclose hnew]
  rfl

/-! ## Documents -/

/-- Whether the lines of a text lead from one draft to another. -/
def Reads (d : Draft) (s : List Char) (d' : Draft) : Prop :=
  ∀ n, s.length ≤ n → lines? n d s = some d'

theorem reads_nil (d : Draft) : Reads d [] d := by
  intro n _
  cases n <;> rfl

theorem reads_of_line? {d₁ : Draft} (hline : line? d s = some (d₁, rest))
    (hlength : rest.length < s.length) (h : Reads d₁ rest d') : Reads d s d' := by
  intro n hn
  obtain ⟨m, rfl⟩ : ∃ m, n = m + 1 := ⟨n - 1, by omega⟩
  match s, hlength with
  | c :: s, _ =>
    rw [lines?, hline]
    · exact h m (by omega)
    · intro hempty
      cases hempty

theorem reads_blank (h : Reads d rest d') : Reads d ('\n' :: rest) d' :=
  reads_of_line? rfl (Nat.lt_succ_self _) h

/-- A table that can be written: its name, and its keys with what is written as their
values. -/
structure SimpleTable where
  name : String
  entries : List (String × Simple)

namespace SimpleTable

/-- The table as it is written. -/
def written (t : SimpleTable) : List Char :=
  writtenHeader t.name ++ t.entries.flatMap fun e => writtenPair e.1 e.2.written

/-- The entries of the table in a document. -/
def values (t : SimpleTable) : Entries :=
  t.entries.map fun e => (e.1, e.2.value)

/-- The table in a document. -/
def entry (t : SimpleTable) : String × Value :=
  (t.name, .table .header t.values)

/-- Whether a table can be written so that it reads back: its name and keys need no
quotes, its keys are different, and the format has all its numbers. -/
structure IsWritable (t : SimpleTable) : Prop where
  name : IsBareKey t.name
  keys : ∀ e ∈ t.entries, IsBareKey e.1
  bounded : ∀ e ∈ t.entries, e.2.IsBounded
  nodup : (t.entries.map Prod.fst).Nodup

end SimpleTable

theorem lookup_append_of_ne {α : Type} {key other : String} {v : α}
    {entries : List (String × α)} (hne : other ≠ key) (h : entries.lookup other = none) :
    (entries ++ [(key, v)]).lookup other = none := by
  have hfalse : (other == key) = false := by simpa using hne
  rw [List.lookup_append, h, List.lookup_cons, hfalse]
  rfl

/-- Lines with different keys are read one after another. -/
theorem reads_pairs {entries : List (String × Simple)}
    (hkeys : ∀ e ∈ entries, IsBareKey e.1) (hbounded : ∀ e ∈ entries, e.2.IsBounded)
    (hnodup : (entries.map Prod.fst).Nodup)
    (hnew : ∀ e ∈ entries, d.current.lookup e.1 = none)
    (h : Reads { d with current := d.current ++ entries.map fun e => (e.1, e.2.value) }
      rest d') :
    Reads d (entries.flatMap (fun e => writtenPair e.1 e.2.written) ++ rest) d' := by
  induction entries generalizing d with
  | nil =>
    rw [List.map_nil, List.append_nil] at h
    exact h
  | cons e entries ih =>
    obtain ⟨hkey, hkeys⟩ := List.forall_mem_cons.mp hkeys
    obtain ⟨hx, hbounded⟩ := List.forall_mem_cons.mp hbounded
    obtain ⟨hfirst, hnew⟩ := List.forall_mem_cons.mp hnew
    obtain ⟨hdistinct, hnodup⟩ := List.nodup_cons.mp hnodup
    have hline := line?_writtenPair hkey hx hfirst
      (entries.flatMap (fun e => writtenPair e.1 e.2.written) ++ rest)
    rw [List.flatMap_cons, List.append_assoc]
    refine reads_of_line? hline ?_ (ih hkeys hbounded hnodup ?_ ?_)
    · simp [writtenPair]
      omega
    · intro f hf
      refine lookup_append_of_ne ?_ (hnew f hf)
      rintro heq
      exact hdistinct (heq ▸ List.mem_map_of_mem hf)
    · rw [List.append_assoc]
      exact h

/-- A table is read into a draft of its own, if no table of its name was there. -/
theorem reads_table {t : SimpleTable} (ht : t.IsWritable) {done : Entries}
    (hclose : d.close? = some done) (hnew : done.lookup t.name = none)
    (h : Reads ⟨done, t.values, [t.name], false⟩ rest d') :
    Reads d (t.written ++ rest) d' := by
  rw [SimpleTable.written, List.append_assoc]
  refine reads_of_line? (line?_writtenHeader ht.name hclose hnew _) ?_ ?_
  · simp [writtenHeader]
    omega
  · exact reads_pairs ht.keys ht.bounded ht.nodup (fun _ _ => rfl) h

theorem close?_table {done : Entries} (entries : Entries) (h : done.lookup name = none) :
    Draft.close? ⟨done, entries, [name], false⟩ =
      some (done ++ [(name, .table .header entries)]) := by
  rw [Draft.close?]
  show changeAt false _ [] .header done = _
  simp only [changeAt, List.getLast_singleton, h]
  rfl

/-- Tables as they are written, with a blank line between each two. -/
def writtenTables (ts : List SimpleTable) : List Char :=
  ['\n'].intercalate (ts.map SimpleTable.written)

theorem exists_reads_writtenTables {ts : List SimpleTable} (hts : ∀ t ∈ ts, t.IsWritable)
    (hnodup : (ts.map SimpleTable.name).Nodup) {done : Entries}
    (hclose : d.close? = some done) (hnew : ∀ t ∈ ts, done.lookup t.name = none) :
    ∃ d', Reads d (writtenTables ts) d' ∧
      d'.close? = some (done ++ ts.map SimpleTable.entry) := by
  induction ts generalizing d done with
  | nil => exact ⟨d, reads_nil d, by rw [hclose, List.map_nil, List.append_nil]⟩
  | cons t ts ih =>
    obtain ⟨ht, hts⟩ := List.forall_mem_cons.mp hts
    obtain ⟨hfirst, hnew⟩ := List.forall_mem_cons.mp hnew
    obtain ⟨hdistinct, hnodup⟩ := List.nodup_cons.mp hnodup
    have hclose' := close?_table t.values hfirst
    have hnew' : ∀ u ∈ ts, (done ++ [t.entry]).lookup u.name = none := by
      intro u hu
      refine lookup_append_of_ne ?_ (hnew u hu)
      rintro heq
      exact hdistinct (heq ▸ List.mem_map_of_mem hu)
    obtain ⟨d', hreads, hclosed⟩ := ih hts hnodup hclose' hnew'
    refine ⟨d', ?_, by rw [hclosed, List.map_cons, List.append_assoc]; rfl⟩
    cases ts with
    | nil =>
      have hwritten : writtenTables [t] = t.written ++ writtenTables [] := by
        simp [writtenTables]
      rw [hwritten]
      exact reads_table ht hclose hfirst hreads
    | cons u ts =>
      have hwritten :
          writtenTables (t :: u :: ts) =
            t.written ++ '\n' :: writtenTables (u :: ts) := by
        simp [writtenTables, List.intercalate_cons_cons]
      rw [hwritten]
      exact reads_table ht hclose hfirst (reads_blank hreads)

/-- Every document of tables with different names reads back as these tables. -/
theorem read?_writtenTables {ts : List SimpleTable} (hts : ∀ t ∈ ts, t.IsWritable)
    (hnodup : (ts.map SimpleTable.name).Nodup) :
    read? (writtenTables ts) = some (ts.map SimpleTable.entry) := by
  have hmark : (writtenTables ts).head? ≠ some '\uFEFF' := by
    match ts with
    | [] => simp [writtenTables]
    | [t] => simp [writtenTables, SimpleTable.written, writtenHeader]
    | t :: u :: ts =>
      simp [writtenTables, List.intercalate_cons_cons, SimpleTable.written, writtenHeader]
  obtain ⟨d, hreads, hclosed⟩ :=
    exists_reads_writtenTables (d := Draft.start) hts hnodup rfl
    fun _ _ => rfl
  rw [read?, if_neg hmark]
  simp only [hreads _ (Nat.le_refl _), Option.bind_some, hclosed]
  rfl

end CredRelay.Toml
