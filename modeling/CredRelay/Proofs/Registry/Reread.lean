import CredRelay.Proofs.Registry.Spelling
/-! Reading an identifier as an address again. A host with its port is read as an HTTPS
address, so it stands for itself where its host does under that scheme, as every host that
was read under it does but those with a label too long to be read; the fixed identifier of
the public registry stands for itself too; and the identifier of a chain never does,
because nothing in it says that a registry is behind. -/
namespace CredRelay.Registry

open Text Url

/-! ## Hosts with ports -/

/-- An address of a host with its port is one over HTTPS. -/
theorem complete_hostPort {host : List Char} (h : IsHost host) (port : Nat) :
    complete (trimChars (Url.hostPort host port)) = spelled .https host port [] := by
  have hchars := h.isAuthorityCharacter_hostPort port
  have htrim : trimChars (Url.hostPort host port) = Url.hostPort host port :=
    trimChars_of_isFrontCharacter fun c hc =>
      isFrontCharacter_of_isAuthorityCharacter (hchars c hc)
  have hne : Url.hostPort host port ≠ [] := by simp [Url.hostPort]
  have hcolon : ':' ∈ Url.hostPort host port := by simp [Url.hostPort]
  have halias : Url.hostPort host port ≠ dockerAlias.toList := by
    intro heq
    rw [heq] at hcolon
    exact absurd hcolon (by decide)
  have hscheme : hasScheme (Url.hostPort host port) = false := by
    refine (marksBehind_of_slash_not_mem fun hc => ?_).hasScheme_eq_false
    exact absurd (hchars _ hc) (by decide)
  rw [htrim, complete_of_hasScheme_eq_false hscheme hne halias, spelled, List.append_nil]
  rfl

/-- What a host with its port means as an address. -/
theorem ofChars_hostPort_eq_ok_iff {host : List Char} (h : IsHost host) {port : Nat}
    (hport : port ≤ 65535) {r : Registry} :
    ofChars (Url.hostPort host port) = .ok r ↔
      ∃ found, knownHost host = .ok found ∧
        r = ⟨.https, String.ofList found, port, "", none⟩ := by
  have hhost : readHost (isKnown Scheme.https.text.toList) host = knownHost host := by
    simp [isKnown_https, readHost, h.ne_nil]
  have hplace (found : List Char) :
      located .https found port (pathText (isKnown Scheme.https.text.toList) []) =
        ⟨.https, String.ofList found, port, "", none⟩ := by
    rw [located, pathText_nil_eq]
  have hsame : ofChars (Url.hostPort host port) = ofChars (spelled .https host port []) :=
    ofChars_eq_of_complete_eq
      ((complete_hostPort h port).trans (complete_spelled h isSpellable_nil).symm)
  rw [hsame, ofChars_spelled_eq_ok_iff h hport isSpellable_nil, hhost]
  simp only [hplace]

/-! ## Chains -/

theorem question_not_mem_complete {address : List Char} (h : '?' ∉ address) :
    '?' ∉ complete address := by
  have hscheme : ∀ s : List Char, '?' ∉ s → '?' ∉ "https://".toList ++ s := by
    intro s hs hmem
    rcases List.mem_append.mp hmem with hmem | hmem
    · exact absurd hmem (by decide)
    · exact hs hmem
  rw [complete]
  split
  · decide
  split
  · exact hscheme address h
  split
  · next rest hrest =>
    refine hscheme rest fun hmem => h ?_
    unfold afterScheme? at hrest
    split at hrest
    · next before after hcut =>
      split at hrest
      · cases hrest
        rw [cutText_append hcut]
        exact List.mem_append_right _ hmem
      · cases hrest
    · cases hrest
  · exact h

theorem query_eq_none {s : List Char} (h : '?' ∉ s) : (Parts.ofChars s).query = none := by
  cases hquery : (Parts.ofChars s).query with
  | none => rfl
  | some query =>
    have hnil : s.dropWhile (fun c => !(c == '?')) = [] := by
      refine List.dropWhile_eq_nil_iff.mpr fun c hc => ?_
      rw [Bool.not_eq_true', beq_eq_false_iff_ne]
      rintro rfl
      exact h hc
    have hlt := Parts.query_length_lt hquery
    rw [hnil] at hlt
    exact absurd hlt (Nat.not_lt_zero _)

/-- An address without question marks has no registry behind. -/
theorem behind_eq_none_of_question_not_mem {address : List Char} {r : Registry}
    (hread : ofChars address = .ok r) (h : '?' ∉ address) : r.behind = none := by
  have htrim : '?' ∉ trimChars address :=
    fun hmem => h ((trimWhere_sublist isBlank address).subset hmem)
  have hbehind : behindAddress? (complete (trimChars address)) = none := by
    rw [behindAddress?, query_eq_none (question_not_mem_complete htrim)]
    rfl
  rw [ofChars_eq_readPlain hbehind] at hread
  exact (readPlain_eq_ok hread).2

theorem question_not_mem_identifier {r : Registry} (h : r.IsReadThrough) :
    '?' ∉ r.identifier.toList := by
  induction h with
  | @intro r own behind ih =>
  have hhost : '?' ∉ r.hostPort.toList := by
    intro hmem
    rw [toList_hostPort] at hmem
    exact absurd (own.host_shape.isAuthorityCharacter_hostPort r.port _ hmem) (by decide)
  cases hindex : r.isDockerIndex with
  | true =>
    rw [identifier_of_isDockerIndex hindex]
    decide
  | false =>
    cases hbehind : r.behind with
    | none =>
      rw [identifier_of_behind_eq_none hindex hbehind]
      exact hhost
    | some inner =>
      have hmarks : '?' ∉ Scheme.proxy.text.toList ∧ '?' ∉ "://".toList ∧
          '?' ∉ "/host/".toList := by
        decide
      rw [identifier_of_behind_eq_some hindex hbehind]
      simp only [String.toList_append, List.mem_append, not_or]
      exact ⟨⟨⟨⟨⟨hmarks.1, hmarks.2.1⟩, ih inner hbehind⟩, hmarks.2.2⟩, hhost⟩,
        own.question_not_mem_path⟩

/-! ## Identifiers as addresses -/

theorem identify_eq_ok_iff {address id : String} :
    identify address = .ok id ↔ ∃ r, ofString address = .ok r ∧ r.identifier = id := by
  rw [identify]
  cases ofString address with
  | error failure => simp [Except.map]
  | ok r => simp [Except.map]

/-- A chain is not what its identifier means. -/
theorem identify_identifier_ne_of_behind {r inner : Registry} (hr : r.IsReadThrough)
    (hindex : r.isDockerIndex = false) (hbehind : r.behind = some inner) :
    identify r.identifier ≠ .ok r.identifier := by
  intro h
  -- Whatever the identifier means has no registry behind, and such registries have other
  -- identifiers.
  obtain ⟨t, ht, hid⟩ := identify_eq_ok_iff.mp h
  have hbehind' : t.behind = none :=
    behind_eq_none_of_question_not_mem ht (question_not_mem_identifier hr)
  have hlist : r.identifier.toList = 'n' :: ("erdctl-experimental".toList ++
      "://".toList ++ inner.identifier.toList ++ "/host/".toList ++ r.hostPort.toList ++
        r.path.toList) := by
    rw [identifier_of_behind_eq_some hindex hbehind]
    simp [Scheme.text]
  cases hindex' : t.isDockerIndex with
  | true =>
    rw [identifier_of_isDockerIndex hindex'] at hid
    rw [← hid] at hlist
    have hfirst : dockerIndex.toList.head? = some 'n' := congrArg List.head? hlist
    exact absurd hfirst (by decide)
  | false =>
    have hslash : '/' ∈ t.hostPort.toList := by
      rw [← identifier_of_behind_eq_none hindex' hbehind', hid, hlist]
      simp
    obtain ⟨own, -⟩ := ofString_isReadThrough ht
    exact slash_not_mem_hostPort own hslash

/-- A registry that stands for itself is what its identifier means where its host is one
under HTTPS that stands for itself. -/
theorem identify_identifier_iff_of_behind_eq_none {r : Registry} (hr : r.IsRead)
    (hindex : r.isDockerIndex = false) (hbehind : r.behind = none) :
    identify r.identifier = .ok r.identifier ↔
    knownHost r.host.toList = .ok r.host.toList := by
  have hmeans : ∀ t, ofString r.identifier = .ok t ↔
      ∃ found, knownHost r.host.toList = .ok found ∧
        t = ⟨.https, String.ofList found, r.port, "", none⟩ := by
    intro t
    rw [ofString, identifier_of_behind_eq_none hindex hbehind, toList_hostPort]
    exact ofChars_hostPort_eq_ok_iff hr.host_shape hr.port_le
  have hid :
      ∀ found, identifier ⟨.https, String.ofList found, r.port, "", none⟩ = r.identifier ↔
      found = r.host.toList := by
    intro found
    have hplain : isDockerIndex ⟨.https, String.ofList found, r.port, "", none⟩ =
        false := by
      simp [isDockerIndex]
    rw [identifier_of_behind_eq_none hplain rfl,
      identifier_of_behind_eq_none hindex hbehind, ← String.toList_inj, toList_hostPort,
      toList_hostPort, String.toList_ofList]
    exact ⟨fun h => (hostPort_inj h).1, fun h => by rw [h]⟩
  rw [identify_eq_ok_iff]
  constructor
  · rintro ⟨t, ht, hsame⟩
    obtain ⟨found, hfound, rfl⟩ := (hmeans t).mp ht
    rw [hfound, (hid found).mp hsame]
  · intro hfound
    exact ⟨_, (hmeans _).mpr ⟨_, hfound, rfl⟩, (hid _).mpr rfl⟩

theorem identify_dockerIndex : identify dockerIndex = .ok dockerIndex :=
  eq_ok_of_toOption (by decide +kernel)

/-- Which identifiers stand for themselves: the one of the public registry, and that of a
registry with none behind whose host is one under HTTPS. A host that was read under HTTPS
is one again unless a Punycode label of it is too long to be read; any other must be left
as it is there. -/
theorem identify_identifier_iff {address : String} {r : Registry}
    (h : ofString address = .ok r) : identify r.identifier = .ok r.identifier ↔
      r.isDockerIndex = true ∨
        (r.behind = none ∧ (r.scheme = .https → HasShortLabels r.host.toList) ∧
          (r.scheme = .proxy → knownHost r.host.toList = .ok r.host.toList)) := by
  have hr := ofString_isReadThrough h
  obtain ⟨own, -⟩ := ofString_isReadThrough h
  cases hindex : r.isDockerIndex with
  | true =>
    rw [identifier_of_isDockerIndex hindex]
    exact ⟨fun _ => .inl rfl, fun _ => identify_dockerIndex⟩
  | false =>
    cases hbehind : r.behind with
    | none =>
      rw [identify_identifier_iff_of_behind_eq_none own hindex hbehind]
      cases hscheme : r.scheme with
      | https =>
        obtain ⟨s, hs⟩ := own.host_known hscheme
        rw [knownHost_again_iff hs]
        simp
      | proxy => simp
    | some inner =>
      have hne := identify_identifier_ne_of_behind hr hindex hbehind
      simp [hne]

/-- The identifier of a registry whose name is not ASCII stands for itself. -/
theorem identify_identifier_of_wide_name :
    let r : Registry := ⟨.https, "xn--bcher-kva.example", 5000, "/v2/", none⟩
    ofString "http://BÜcher.Example:5000/v2/" = .ok r ∧
      identify r.identifier = .ok r.identifier := by
  intro r
  have hr : ofString "http://BÜcher.Example:5000/v2/" = .ok r :=
    eq_ok_of_toOption (by decide +kernel)
  have hshort : HasShortLabels r.host.toList := by decide +kernel
  exact ⟨hr, (identify_identifier_iff hr).mpr (.inr ⟨rfl, fun _ => hshort, nofun⟩)⟩

/-- The identifier of a chain is read as the registry at its end. -/
theorem identify_identifier_of_chain :
    identify "mirror.example.com?ns=ghcr.io" =
        .ok "nerdctl-experimental://ghcr.io:443/host/mirror.example.com:443" ∧
      identify "nerdctl-experimental://ghcr.io:443/host/mirror.example.com:443" =
        .ok "ghcr.io:443" :=
  ⟨eq_ok_of_toOption (by decide +kernel), eq_ok_of_toOption (by decide +kernel)⟩

end CredRelay.Registry
