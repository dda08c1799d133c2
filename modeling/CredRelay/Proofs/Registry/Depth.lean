import CredRelay.Proofs.Registry.Identifier
import CredRelay.Proofs.Registry.Schemes
/-! How deep registries are nested. The address of a registry behind is what a parameter
of the address that carries it was decoded to. Decoding never makes a text longer, and in
front of the value stand a host, a question mark, the name of the parameter and an equals
sign, so that each address is at least five characters shorter than the one before it.
Reading an address therefore goes on at most once for five of its characters, and so does
whatever follows the chain of registries that was read. -/
namespace CredRelay

open Text Url

/-! ## Steps of a recursion -/

/-- What is reached in a number of steps, where each of them can be made. -/
def follow {α : Type} (next : α → Option α) : Nat → α → Option α
  | 0, a => some a
  | n + 1, a => (next a).bind (follow next n)

/-- Steps that each take something off a measure are as few as the measure allows. -/
theorem follow_le {α : Type} {next : α → Option α} (size : α → Nat) (k : Nat)
    (hnext : ∀ a b, next a = some b → size b + k ≤ size a) {n : Nat} {a b : α}
    (h : follow next n a = some b) : n * k + size b ≤ size a := by
  induction n generalizing a with
  | zero =>
    cases h
    simp
  | succ n ih =>
    obtain ⟨c, hc, hrest⟩ := Option.bind_eq_some_iff.mp h
    have hstep := hnext a c hc
    have hrest := ih hrest
    rw [Nat.succ_mul]
    omega

/-! ## Values of parameters -/

namespace Url

/-- A value that is not empty stands behind an equals sign and a name, which decodes to no
more characters than it has. -/
theorem parameter_length_lt {piece : List Char} (h : (parameter piece).2 ≠ []) :
    (parameter piece).1.length + 1 + (parameter piece).2.length ≤ piece.length := by
  rw [parameter] at h ⊢
  split at h
  · next name value hcut =>
    obtain ⟨rfl, -⟩ := cut_eq_some_iff.mp hcut
    have hname := formDecode_length_le name
    have hvalue := formDecode_length_le value
    simp only [List.length_append, List.length_cons]
    omega
  · exact absurd rfl h

theorem queryValue?_length_lt {name query value : List Char}
    (h : queryValue? name query = some value) :
    name.length + 1 + value.length ≤ query.length := by
  obtain ⟨⟨n, v⟩, hfind, rfl⟩ := Option.map_eq_some_iff.mp h
  obtain ⟨hname, hvalue⟩ : n = name ∧ v ≠ [] := by
    simpa using List.find?_some hfind
  obtain ⟨piece, hpiece, hparameter⟩ := List.mem_map.mp (List.mem_of_find?_eq_some hfind)
  have hne : (parameter piece).2 ≠ [] := by simpa [hparameter] using hvalue
  have hlong := parameter_length_lt hne
  have hwhole := length_le_of_mem_splitOn (List.mem_filter.mp hpiece).1
  rw [hparameter, hname] at hlong
  exact hlong.trans hwhole

/-- What stands before a question mark is the front, where nothing in it is dropped. -/
theorem Parts.ofChars_append_question {s : List Char}
    (h : ∀ c ∈ s, isFrontCharacter c = true) (hne : s ≠ []) (t : List Char) :
    ∃ query, Parts.ofChars (s ++ '?' :: t) = ⟨s, some query, true⟩ := by
  have hend : dropEndWhile isControlOrSpace ('?' :: t) =
      '?' :: dropEndWhile isControlOrSpace t :=
    dropEndWhile_cons (by decide) t
  have hlayout (u : List Char) :
      ('?' :: u).filter (fun c => !isLayout c) = '?' :: u.filter (fun c => !isLayout c) :=
    List.filter_cons_of_pos (by decide)
  have hhash (u : List Char) : beforeFragment ('?' :: u) = '?' :: beforeFragment u :=
    List.takeWhile_cons_of_pos (by decide)
  have hquestion : '?' ∉ s := fun hmem => absurd (h _ hmem) (by decide)
  simp only [Parts.ofChars, beforeFragment_clean_append h hne, hend, hlayout, hhash,
    cut_append hquestion]
  exact ⟨_, rfl⟩

end Url

namespace Registry

/-! ## One address and the next -/

/-- The address that reading an address goes on with, once its own part was read. -/
def next? (address : List Char) : Option (List Char) :=
  match readPlain (complete (trimChars address)) with
  | .error _ => none
  | .ok _ => behindAddress? (complete (trimChars address))

theorem next?_eq_some_iff {address inner : List Char} :
    next? address = some inner ↔
      (∃ own, readPlain (complete (trimChars address)) = .ok own) ∧
      behindAddress? (complete (trimChars address)) = some inner := by
  rw [next?]
  cases readPlain (complete (trimChars address)) <;> simp

/-- Reading an address is reading its own part and, where there is one, the next
address. -/
theorem ofChars_eq (address : List Char) :
    ofChars address =
      match next? address with
      | none => readPlain (complete (trimChars address))
      | some inner => do
        let own ← readPlain (complete (trimChars address))
        let behind ← ofChars inner
        return { own with behind := some behind } := by
  rw [ofChars, next?]
  cases hplain : readPlain (complete (trimChars address)) with
  | error failure => rfl
  | ok own =>
    cases hbehind : behindAddress? (complete (trimChars address)) with
    | none => rfl
    | some inner =>
      cases hinner : ofChars inner with
      | error failure => simp [hinner, bind, Except.bind]
      | ok behind => simp [hinner, bind, Except.bind, pure, Except.pure]

/-- An address that starts with its question mark has no host. -/
theorem readPlain_question (t : List Char) :
    readPlain ("https://".toList ++ '?' :: t) =
      .error (unparsable ("https://".toList ++ '?' :: t) Fault.emptyHost.message) := by
  have hfront : ∀ c ∈ "https://".toList, isFrontCharacter c = true :=
    List.all_eq_true.mp (by decide)
  obtain ⟨query, hparts⟩ := Parts.ofChars_append_question hfront (by decide) t
  have hread : (Parts.ofChars ("https://".toList ++ '?' :: t)).read =
      .error .emptyHost := by
    rw [hparts]
    rfl
  rw [readPlain, hread]

theorem dropWhile_question_length {s : List Char} (h : s.head? ≠ some '?') :
    (s.dropWhile fun c => !(c == '?')).length ≤ s.length - 1 := by
  cases s with
  | nil => simp
  | cons c s =>
    have hc : c ≠ '?' := by simpa using h
    have hdrop : (c :: s).dropWhile (fun c => !(c == '?')) =
        s.dropWhile fun c => !(c == '?') :=
      List.dropWhile_cons_of_pos (by simpa using hc)
    rw [hdrop]
    exact (List.dropWhile_sublist _).length_le

/-- Where the address is completed to one that can be read, at least one of its characters
stands in front of the question mark. -/
theorem complete_question_length_lt {address : List Char} {own : Registry}
    (h : readPlain (complete address) = .ok own) :
    ((complete address).dropWhile fun c => !(c == '?')).length ≤ address.length - 1 := by
  have hskip (s : List Char) : ("https://".toList ++ s).dropWhile (fun c => !(c == '?')) =
      s.dropWhile fun c => !(c == '?') := by
    simp
  by_cases hindex : address.isEmpty = true ∨ address = dockerAlias.toList
  · have hnone : dockerIndex.toList.dropWhile (fun c => !(c == '?')) = [] := by decide
    rw [complete, if_pos hindex, hnone]
    exact Nat.zero_le _
  cases hscheme : hasScheme address with
  | false =>
    rw [not_or, List.isEmpty_iff] at hindex
    rw [complete_of_hasScheme_eq_false hscheme hindex.1 hindex.2] at h ⊢
    rw [hskip]
    refine dropWhile_question_length fun hhead => ?_
    obtain ⟨t, rfl⟩ := List.head?_eq_some_iff.mp hhead
    rw [readPlain_question] at h
    cases h
  | true =>
    obtain ⟨name, rest, hname, rfl⟩ := hasScheme_iff.mp hscheme
    rw [complete_schemeMark hname]
    split
    · -- the scheme and its mark are replaced, and the rest stands behind at least three
      -- characters
      have hrest := (List.dropWhile_sublist (l := rest) fun c => !(c == '?')).length_le
      rw [hskip]
      simp only [List.length_append, schemeMark, List.length_cons, List.length_nil]
      omega
    · refine dropWhile_question_length fun hhead => ?_
      obtain ⟨first, others, rfl⟩ := List.exists_cons_of_ne_nil hname.1
      have hfirst : first = '?' := by simpa using hhead
      exact (hname.2 first List.mem_cons_self).2.1 hfirst

/-- The next address is at least five characters shorter than the trimmed one that
carries it. -/
theorem next?_length_le {address inner : List Char} (h : next? address = some inner) :
    inner.length + 5 ≤ (trimChars address).length := by
  obtain ⟨⟨own, hown⟩, hbehind⟩ := next?_eq_some_iff.mp h
  obtain ⟨query, hquery, hvalue⟩ := Option.bind_eq_some_iff.mp hbehind
  have hname : behindParameter.length = 2 := rfl
  have hvalue := queryValue?_length_lt hvalue
  have hquery := Parts.query_length_lt hquery
  have hfront := complete_question_length_lt hown
  omega

theorem wellFounded_next? : WellFounded fun inner address =>
    next? address = some inner := by
  refine Subrelation.wf ?_ (measure List.length).wf
  intro inner address h
  have hshort := next?_length_le h
  have htrim := trimChars_length_le address
  show inner.length < address.length
  omega

theorem follow_next?_le {address inner : List Char} {n : Nat}
    (h : follow next? n address = some inner) : n * 5 ≤ (trimChars address).length := by
  have hfollow := follow_le (fun address => (trimChars address).length) 5
    (fun a b hnext => (Nat.add_le_add_right (trimChars_length_le b) 5).trans
      (next?_length_le hnext)) h
  omega

/-! ## Chains of registries -/

/-- The number of registries behind a registry. -/
def depth : Registry → Nat
  | ⟨_, _, _, _, none⟩ => 0
  | ⟨_, _, _, _, some inner⟩ => inner.depth + 1

theorem depth_of_behind_eq_none {r : Registry} (h : r.behind = none) : r.depth = 0 := by
  obtain ⟨scheme, host, port, path, behind⟩ := r
  cases h
  rfl

theorem depth_of_behind_eq_some {r inner : Registry} (h : r.behind = some inner) :
    r.depth = inner.depth + 1 := by
  obtain ⟨scheme, host, port, path, behind⟩ := r
  cases h
  rfl

/-- A registry that was read has no more registries behind it than its address has
room for. -/
theorem depth_le {address : List Char} {r : Registry} (h : ofChars address = .ok r) :
    r.depth * 5 ≤ (trimChars address).length := by
  -- by induction along the addresses, since the next one is read in the same way
  induction address using wellFounded_next?.induction generalizing r with
  | _ address ih =>
    rw [ofChars_eq] at h
    cases hnext : next? address with
    | none =>
      rw [hnext] at h
      rw [depth_of_behind_eq_none (readPlain_eq_ok h).2]
      simp
    | some inner =>
      obtain ⟨⟨own, hown⟩, -⟩ := next?_eq_some_iff.mp hnext
      simp only [hnext, hown, bind, Except.bind, pure, Except.pure] at h
      cases hinner : ofChars inner with
      | error failure => simp [hinner] at h
      | ok behind =>
        simp only [hinner, Except.ok.injEq] at h
        subst h
        have hdeep := ih inner hnext hinner
        have hshort := next?_length_le hnext
        have htrim := trimChars_length_le inner
        rw [depth_of_behind_eq_some rfl]
        omega

/-- The registry whose identifier is made for that of a registry. -/
def identified? (r : Registry) : Option Registry :=
  if r.isDockerIndex then none else r.behind

/-- An identifier is made of the registry itself and of the identifier of that registry,
if any. -/
theorem identifier_eq_identified? (r : Registry) :
    r.identifier =
      match r.identified? with
      | some inner =>
        Scheme.proxy.text ++ "://" ++ inner.identifier ++ "/host/" ++ r.hostPort ++ r.path
      | none => if r.isDockerIndex then dockerIndex else r.hostPort := by
  rw [identifier_eq, identified?]
  cases r.isDockerIndex with
  | true => rfl
  | false => cases r.behind <;> rfl

theorem follow_identified?_le {r t : Registry} {n : Nat}
    (h : follow identified? n r = some t) : n ≤ r.depth := by
  have hfollow := follow_le depth 1 (fun a b hidentified => ?_) h
  · omega
  · have hbehind : a.behind = some b := by
      rw [identified?] at hidentified
      split at hidentified
      · cases hidentified
      · exact hidentified
    rw [depth_of_behind_eq_some hbehind]

/-! ## Main results -/

/-- Reading an address always ends. It is reading its own part and the address that this
carries, which is at least five characters shorter than the trimmed address, so that no
more addresses are read in turn than a fifth of its length. As many registries can be
behind one that was read. Its identifier is made of itself and of the identifier of one of
these, if of any, and so of no more in turn. -/
theorem next?_wellFounded_and_depth_le :
    (∀ address,
      ofChars address =
        match next? address with
        | none => readPlain (complete (trimChars address))
        | some inner => do
          let own ← readPlain (complete (trimChars address))
          let behind ← ofChars inner
          return { own with behind := some behind }) ∧
    (∀ address inner, next? address = some inner →
      inner.length + 5 ≤ (trimChars address).length) ∧
    (WellFounded fun inner address => next? address = some inner) ∧
    (∀ (address : String) n inner, follow next? n address.toList = some inner →
      n ≤ address.length / 5) ∧
    (∀ r : Registry, r.identifier =
      match r.identified? with
      | some inner =>
        Scheme.proxy.text ++ "://" ++ inner.identifier ++ "/host/" ++ r.hostPort ++ r.path
      | none => if r.isDockerIndex then dockerIndex else r.hostPort) ∧
    ∀ (address : String) r, ofString address = .ok r →
      r.depth ≤ address.length / 5 ∧
        ∀ n t, follow identified? n r = some t → n ≤ address.length / 5 := by
  have hroom (address : String) : (trimChars address.toList).length ≤ address.length := by
    rw [← String.length_toList]
    exact trimChars_length_le _
  refine ⟨ofChars_eq, fun address inner h => next?_length_le h, wellFounded_next?,
    fun address n inner h => ?_, identifier_eq_identified?, fun address r h => ?_⟩
  · have hread := follow_next?_le h
    have hlength := hroom address
    omega
  · have hdepth := depth_le h
    have hlength := hroom address
    refine ⟨by omega, fun n t ht => ?_⟩
    have hmade := follow_identified?_le ht
    omega

/-- An address with a registry behind a registry behind has the least length that it can
have. -/
theorem depth_of_two_parameters :
    let address := "a?ns=b?ns=c"
    ∃ r, ofString address = .ok r ∧ r.depth = 2 ∧ address.length / 5 = 2 ∧
      ∀ n t, follow identified? n r = some t → n ≤ 2 := by
  intro address
  have hread : (ofString address).toOption.map depth = some 2 := by decide +kernel
  obtain ⟨r, hr, hdepth⟩ := Option.map_eq_some_iff.mp hread
  have hbounds :=
    next?_wellFounded_and_depth_le.2.2.2.2.2 address r (eq_ok_of_toOption hr)
  have hlength : address.length / 5 = 2 := by decide
  rw [hlength] at hbounds
  exact ⟨r, eq_ok_of_toOption hr, hdepth, hlength, hbounds.2⟩

end Registry

end CredRelay
