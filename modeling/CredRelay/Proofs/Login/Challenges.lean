import CredRelay.Proofs.Login.Parameters
/-! Bearer challenges as a whole. Of the values that a name is given the last one counts,
so that a realm or a service is lost to what is read of a later parameter under the same
name, be it a parameter in other letters or a text behind a comma within quotes. -/
namespace CredRelay

open Text

/-! ## Tables made of entries -/

/-- The last value that some entries have under a key. -/
def lastValue? {α : Type} (key : String) (entries : List (String × α)) : Option α :=
  entries.reverse.lookup key

section

variable {α : Type} {key : String} {entries more : List (String × α)} {value : α}

theorem lastValue?_append : lastValue? key (entries ++ more) =
    (lastValue? key more).or (lastValue? key entries) := by
  rw [lastValue?, List.reverse_append, List.lookup_append, lastValue?, lastValue?]

theorem lastValue?_singleton (key : String) (value : α) :
    lastValue? key [(key, value)] = some value := by
  simp [lastValue?]

theorem mem_of_lastValue?_eq_some (h : lastValue? key entries = some value) :
    (key, value) ∈ entries := by
  obtain ⟨before, after, hentries, -⟩ := List.lookup_eq_some_iff.mp h
  rw [← List.mem_reverse, hentries]
  simp

theorem lastValue?_eq_none (h : ∀ e ∈ entries, e.1 ≠ key) :
    lastValue? key entries = none := by
  rw [lastValue?, List.lookup_eq_none_iff]
  intro e he
  simpa using (h e (List.mem_reverse.mp he)).symm

/-- In a table of some entries the last one under each key counts. -/
theorem Table.get?_ofList (key : String) (entries : List (String × α)) :
    (Table.ofList entries).get? key = lastValue? key entries := by
  induction entries using List.reverseRecOn with
  | nil => rfl
  | append_singleton entries e ih =>
    have hinsert : Table.ofList (entries ++ [e]) =
        (Table.ofList entries).insert e.1 e.2 := by
      rw [Table.ofList, List.foldl_concat, ← Table.ofList]
    rw [hinsert, Table.get?_insert, ih, lastValue?_append]
    by_cases h : key = e.1
    · rw [if_pos h, h, lastValue?_singleton, Option.some_or]
    · have hother : lastValue? key [e] = none :=
        lastValue?_eq_none (by simpa using Ne.symm h)
      rw [if_neg h, hother, Option.none_or]

end

namespace Login

variable {params : List Parameter} {header : String}

/-! ## Reading a header -/

theorem assignments_pieces {pieces : List (List Char)}
    (hparams : ∀ p ∈ params, p.IsWritable)
    (hpieces : List.Forall₂ Parameter.StandsIn params pieces) :
    assignments ([','].intercalate pieces) = params.flatMap Parameter.readings := by
  rw [assignments_intercalate]
  induction hpieces with
  | nil => rfl
  | @cons p piece params pieces hpiece _ ih =>
    obtain ⟨hp, hrest⟩ := List.forall_mem_cons.mp hparams
    rw [List.flatMap_cons, List.flatMap_cons, Parameter.assignments_of_standsIn hp hpiece,
      ih hrest]

theorem assignments_dropEndWhile (s : List Char) :
    assignments (dropEndWhile isBlank s) = assignments s := by
  have hs : dropEndWhile isBlank s ++ s.rtakeWhile isBlank = s := by
    rw [dropEndWhile_eq_rdropWhile]
    exact List.rdropWhile_append_rtakeWhile
  conv_rhs => rw [← hs, assignments_append_blank fun c hc => List.mem_rtakeWhile_imp hc]

/-- A parameter holds quotes, so a text of parameters is never blank. -/
theorem quote_mem_pieces {pieces : List (List Char)} (hne : params ≠ [])
    (hpieces : List.Forall₂ Parameter.StandsIn params pieces) :
    '"' ∈ [','].intercalate pieces := by
  cases hpieces with
  | nil => exact absurd rfl hne
  | @cons p piece params pieces hpiece _ =>
    obtain ⟨v, w, -, -, rfl⟩ := hpiece
    exact mem_intercalate_of_mem List.mem_cons_self (by simp [Parameter.written])

/-- The challenge that a header with bearer parameters is: what counts is the last that is
read of the realm and of the service. -/
theorem ofHeader_of_isBearer (hne : params ≠ []) (hparams : ∀ p ∈ params, p.IsWritable)
    (hheader : IsBearer params header) :
    Challenge.ofHeader header =
      match (lastValue? "realm" (params.flatMap Parameter.readings)).filter
      (fun s => !s.isEmpty) with
      | some realm =>
        .ok (.bearer realm (lastValue? "service" (params.flatMap Parameter.readings)))
      | none => .error (.login "missing realm in WWW-Authenticate") := by
  obtain ⟨word, pieces, hword, hpieces, htext⟩ := hheader
  generalize hrest : [','].intercalate pieces = rest at htext
  have hread : assignments (dropEndWhile isBlank rest) =
      params.flatMap Parameter.readings := by
    rw [assignments_dropEndWhile, ← hrest, assignments_pieces hparams hpieces]
  have hblank : ∀ c ∈ word.toList, isBlank c = false :=
    fun c hc => not_isBlank_of_sameLetters hword (by decide) hc
  have hspace : ' ' ∉ word.toList := fun hmem => absurd (hblank _ hmem) (by decide)
  have hwordne : word.toList ≠ [] := by
    intro hnil
    rw [sameLetters, hnil] at hword
    exact absurd hword (by decide)
  -- the space stays between the word and the parameters, since these are not blank
  have hkeep : dropEndWhile isBlank (' ' :: rest) = ' ' :: dropEndWhile isBlank rest := by
    obtain ⟨before, after, hsplit⟩ :=
      List.append_of_mem (hrest ▸ quote_mem_pieces hne hpieces)
    rw [hsplit, ← List.cons_append, dropEndWhile_append_cons (by decide),
      dropEndWhile_append_cons (by decide), List.cons_append]
  have htrim :
      trimChars header.toList = word.toList ++ ' ' :: dropEndWhile isBlank rest := by
    rw [htext, trimChars, trimWhere_append hblank hwordne, hkeep]
  have hbasic : sameLetters word "basic" = false := by
    rw [sameLetters] at hword ⊢
    rw [beq_iff_eq.mp hword]
    decide
  rw [Challenge.ofHeader, htrim, cut_append hspace]
  simp only [Option.getD_some, String.ofList_toList, hbasic, hword,
    Bool.false_eq_true, if_false, Bool.not_true, parameters]
  rewrite [← assignments, hread, Table.get?_ofList, Table.get?_ofList]
  rfl

theorem ofHeader_eq_bearer_iff_lastValue? (hne : params ≠ [])
    (hparams : ∀ p ∈ params, p.IsWritable) (hheader : IsBearer params header)
    {realm service : String} (hrealm : realm ≠ "") :
    Challenge.ofHeader header = .ok (.bearer realm (some service)) ↔
      lastValue? "realm" (params.flatMap Parameter.readings) = some realm ∧
        lastValue? "service" (params.flatMap Parameter.readings) = some service := by
  rw [ofHeader_of_isBearer hne hparams hheader]
  cases hfound : lastValue? "realm" (params.flatMap Parameter.readings) with
  | none => simp
  | some found =>
    by_cases hempty : found = ""
    · simp [hempty, Option.filter, Ne.symm hrealm]
    · simp [hempty, Option.filter]

/-! ## What is read of one among several -/

/-- Whether what is read of a parameter that stands among others is its own value: it
holds no comma, and what is read of the parameters behind under its name is nothing else
in the end. -/
def Parameter.Lasts (p : Parameter) (params : List Parameter) : Prop :=
  ',' ∉ p.value.toList ∧ ∀ before after, params = before ++ p :: after →
    ∀ other, lastValue? p.name (after.flatMap Parameter.readings) = some other →
      other = p.value

theorem readings_of_not_mem {p : Parameter} (h : ',' ∉ p.value.toList) :
    p.readings = [(lowerAscii p.name, p.value)] := by
  rw [Parameter.readings, Parameter.shown, Parameter.hidden, cut_eq_none h]

theorem comma_not_mem_of_mem_readings {e : String × String}
    (hparams : ∀ p ∈ params, p.IsWritable) (h : e ∈ params.flatMap Parameter.readings) :
    ',' ∉ e.2.toList := by
  obtain ⟨p, hp, he⟩ := List.mem_flatMap.mp h
  rw [← Parameter.assignments_written (hparams p hp)] at he
  exact comma_not_mem_of_mem_assignments he

theorem lastValue?_eq_value_iff {p : Parameter} {before after : List Parameter}
    (hparams : ∀ q ∈ before ++ p :: after, q.IsWritable)
    (hname : lowerAscii p.name = p.name) :
    lastValue? p.name ((before ++ p :: after).flatMap Parameter.readings) = some p.value ↔
      ',' ∉ p.value.toList ∧
        ∀ other, lastValue? p.name (after.flatMap Parameter.readings) = some other →
          other = p.value := by
  constructor
  · intro h
    have hcomma := comma_not_mem_of_mem_readings hparams (mem_of_lastValue?_eq_some h)
    refine ⟨hcomma, fun other hother => ?_⟩
    rw [List.flatMap_append, List.flatMap_cons, lastValue?_append, lastValue?_append,
      hother] at h
    simpa using h
  · rintro ⟨hcomma, hlast⟩
    rw [List.flatMap_append, List.flatMap_cons, lastValue?_append, lastValue?_append,
      readings_of_not_mem hcomma, hname, lastValue?_singleton]
    cases hafter : lastValue? p.name (after.flatMap Parameter.readings) with
    | none => rfl
    | some other =>
      rw [hlast other hafter]
      rfl

theorem lastValue?_eq_value_iff_lasts {p : Parameter}
    (hparams : ∀ q ∈ params, q.IsWritable) (hname : lowerAscii p.name = p.name)
    (hp : p ∈ params) :
    lastValue? p.name (params.flatMap Parameter.readings) = some p.value ↔
    p.Lasts params := by
  constructor
  · intro h
    obtain ⟨before, after, rfl⟩ := List.append_of_mem hp
    refine ⟨((lastValue?_eq_value_iff hparams hname).mp h).1,
      fun before' after' heq => ?_⟩
    rw [heq] at h hparams
    exact ((lastValue?_eq_value_iff hparams hname).mp h).2
  · rintro ⟨hcomma, hlast⟩
    obtain ⟨before, after, rfl⟩ := List.append_of_mem hp
    exact (lastValue?_eq_value_iff hparams hname).mpr ⟨hcomma, hlast before after rfl⟩

/-- A parameter is read as it was given where all that is read under its name is its
value. -/
theorem lasts_of_forall {p : Parameter} (hcomma : ',' ∉ p.value.toList)
    (h : ∀ e ∈ params.flatMap Parameter.readings, e.1 = p.name → e.2 = p.value) :
    p.Lasts params := by
  refine ⟨hcomma, fun before after hsplit other hother => ?_⟩
  refine h (p.name, other) ?_ rfl
  rw [hsplit, List.flatMap_append, List.flatMap_cons]
  simp [mem_of_lastValue?_eq_some hother]

/-- The names of all parameters are of letters where those of the others are. -/
theorem isAlphanumeric_of_perm {realm service : String} {others : List Parameter}
    (hparams : params.Perm (⟨"realm", realm⟩ :: ⟨"service", service⟩ :: others))
    (hnames : ∀ p ∈ others, ∀ c ∈ p.name.toList, Unicode.isAlphanumeric c = true) :
    ∀ p ∈ params, ∀ c ∈ p.name.toList, Unicode.isAlphanumeric c = true := by
  have hrealm : ∀ c ∈ "realm".toList, Unicode.isAlphanumeric c = true :=
    List.all_eq_true.mp (by decide +kernel)
  have hservice : ∀ c ∈ "service".toList, Unicode.isAlphanumeric c = true :=
    List.all_eq_true.mp (by decide +kernel)
  intro p hp
  rcases List.mem_cons.mp (hparams.mem_iff.mp hp) with rfl | hp
  · exact hrealm
  rcases List.mem_cons.mp hp with rfl | hp
  · exact hservice
  · exact hnames p hp

/-! ## Main results -/

/-- A bearer challenge with a realm, a service and any other parameters, in any order, is
read as that realm and that service exactly if neither holds a comma and nothing else is
read, of the parameters behind it, under its name. That is so whenever neither holds a
comma and nothing that is read of the other parameters has one of the two names. -/
theorem ofHeader_eq_bearer_iff_lasts {realm service : String} {others : List Parameter}
    (hrealm : realm ≠ "")
    (hparams : params.Perm (⟨"realm", realm⟩ :: ⟨"service", service⟩ :: others))
    (hnames : ∀ p ∈ others, ∀ c ∈ p.name.toList, Unicode.isAlphanumeric c = true)
    (hvalues : ∀ p ∈ params, '"' ∉ p.value.toList) (hheader : IsBearer params header) :
    (Challenge.ofHeader header = .ok (.bearer realm (some service)) ↔
      Parameter.Lasts ⟨"realm", realm⟩ params ∧
      Parameter.Lasts ⟨"service", service⟩ params) ∧
    (',' ∉ realm.toList → ',' ∉ service.toList →
      (∀ e ∈ others.flatMap Parameter.readings, e.1 ≠ "realm" ∧ e.1 ≠ "service") →
        Challenge.ofHeader header = .ok (.bearer realm (some service))) := by
  have hrealmName : lowerAscii "realm" = "realm" := by decide +kernel
  have hserviceName : lowerAscii "service" = "service" := by decide +kernel
  have hrealmMem : ⟨"realm", realm⟩ ∈ params := hparams.mem_iff.mpr List.mem_cons_self
  have hserviceMem : ⟨"service", service⟩ ∈ params :=
    hparams.mem_iff.mpr (List.mem_cons_of_mem _ List.mem_cons_self)
  have hwritable : ∀ p ∈ params, p.IsWritable :=
    fun p hp => ⟨isAlphanumeric_of_perm hparams hnames p hp, hvalues p hp⟩
  have hiff : Challenge.ofHeader header = .ok (.bearer realm (some service)) ↔
      Parameter.Lasts ⟨"realm", realm⟩ params ∧
        Parameter.Lasts ⟨"service", service⟩ params := by
    rw [ofHeader_eq_bearer_iff_lastValue?
      (List.ne_nil_of_mem hrealmMem) hwritable hheader hrealm]
    exact and_congr
      (lastValue?_eq_value_iff_lasts
        (p := ⟨"realm", realm⟩) hwritable hrealmName hrealmMem)
      (lastValue?_eq_value_iff_lasts (p := ⟨"service", service⟩) hwritable hserviceName
        hserviceMem)
  refine ⟨hiff, fun hcomma hcomma' hothers => hiff.mpr ?_⟩
  have hread : ∀ e ∈ params.flatMap Parameter.readings,
      e = ("realm", realm) ∨ e = ("service", service) ∨ e.1 ≠ "realm" ∧
        e.1 ≠ "service" := by
    intro e he
    have hsplit := (hparams.flatMap_right Parameter.readings).mem_iff.mp he
    rw [List.flatMap_cons, List.flatMap_cons,
      readings_of_not_mem (p := ⟨"realm", realm⟩) hcomma,
      readings_of_not_mem (p := ⟨"service", service⟩) hcomma', hrealmName, hserviceName,
      List.mem_append, List.mem_append, List.mem_singleton, List.mem_singleton] at hsplit
    exact hsplit.imp_right (Or.imp_right (hothers e))
  constructor
  · refine lasts_of_forall hcomma fun e he hname => ?_
    rcases hread e he with rfl | rfl | ⟨hne, -⟩
    · rfl
    · exact absurd hname (by decide : "service" ≠ "realm")
    · exact absurd hname hne
  · refine lasts_of_forall hcomma' fun e he hname => ?_
    rcases hread e he with rfl | rfl | ⟨-, hne⟩
    · exact absurd hname (by decide : "realm" ≠ "service")
    · rfl
    · exact absurd hname hne

/-- In a challenge that asks for two actions, which a comma parts within quotes, nothing
is lost; in one whose scope goes on with a realm behind a comma, that text is read as the
realm. -/
theorem ofHeader_of_two_scopes :
    let realm : Parameter := ⟨"realm", "https://ghcr.io/token"⟩
    let service : Parameter := ⟨"service", "ghcr.io"⟩
    let scope : Parameter := ⟨"scope", "repository:org/app:pull,push"⟩
    let scope' : Parameter :=
      ⟨"scope", "repository:org/app:pull,realm=https://example.com/token"⟩
    let written (p : Parameter) : String := String.ofList p.written
    let header (scope : Parameter) : String :=
      "BEARER " ++ written realm ++ ", " ++ written service ++ " ," ++ written scope
    IsBearer [realm, service, scope] (header scope) ∧
      Challenge.ofHeader (header scope) = .ok (.bearer realm.value (some service.value)) ∧
      IsBearer [realm, service, scope'] (header scope') ∧
      Challenge.ofHeader (header scope') ≠
        .ok (.bearer realm.value (some service.value)) := by
  intro realm service scope scope' written header
  have hspace : ∀ c ∈ [' '], isBlank c = true := List.all_eq_true.mp (by decide)
  have hbearer (scope : Parameter) : IsBearer [realm, service, scope] (header scope) := by
    refine ⟨"BEARER", [realm.written, [' '] ++ service.written ++ [' '],
      scope.written], by decide, ?_, ?_⟩
    · exact .cons ⟨[], [], by simp, by simp, by simp⟩
        (.cons ⟨[' '], [' '], hspace, hspace, rfl⟩
        (.cons ⟨[], [], by simp, by simp, by simp⟩ .nil))
    · simp [header, written]
  have hname : ∀ c ∈ "scope".toList, Unicode.isAlphanumeric c = true :=
    List.all_eq_true.mp (by decide +kernel)
  have hnames : ∀ scope : Parameter, scope.name = "scope" →
      ∀ p ∈ [scope], ∀ c ∈ p.name.toList, Unicode.isAlphanumeric c = true := by
    intro scope hscope p hp
    cases List.mem_singleton.mp hp
    exact hscope ▸ hname
  have hgood :=
    ofHeader_eq_bearer_iff_lasts (by decide) (List.Perm.refl [realm, service, scope])
    (hnames scope rfl) (by decide +kernel) (hbearer scope)
  have hbad :=
    ofHeader_eq_bearer_iff_lasts (by decide) (List.Perm.refl [realm, service, scope'])
    (hnames scope' rfl) (by decide +kernel) (hbearer scope')
  refine ⟨hbearer scope, ?_, hbearer scope', fun hread => ?_⟩
  · exact hgood.2 (by decide +kernel) (by decide +kernel) (by decide +kernel)
  · have hlasts :=
      (hbad.1.mp hread).1.2 [] [service, scope'] rfl "https://example.com/token"
    exact absurd (hlasts (by decide +kernel)) (by decide)

end Login

end CredRelay
