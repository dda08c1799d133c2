import CredRelay.Proofs.Registry.Distinct
import CredRelay.Store.Native
/-! Registries with no other one behind that share an identifier. They have one host and
one port, so they are looked up under the same names, and whatever is configured and
installed they end at the same helper: a credential that was stored under one spelling is
asked for at the same place under any other. -/
namespace CredRelay.Registry

open Text Helper Host

/-! ## Hosts and ports -/

/-- With none behind, an identifier tells the host and the port. -/
theorem host_port_eq_of_identifier_eq {r t : Registry} (hr : r.IsRead) (ht : t.IsRead)
    (hbehind : r.behind = none) (hbehind' : t.behind = none)
    (h : r.identifier = t.identifier) :
    r.isDockerIndex = t.isDockerIndex ∧ r.host = t.host ∧ r.port = t.port := by
  have hparts : r.parts = t.parts := by
    simp only [parts, h]
  cases sameKind_of_head?_eq hr ht (by rw [hparts]) with
  | index hindex hindex' =>
    obtain ⟨hhost, hport⟩ := host_of_isDockerIndex hr hindex
    obtain ⟨hhost', hport'⟩ := host_of_isDockerIndex ht hindex'
    simp [hindex, hindex', hhost, hhost', hport, hport']
  | plain hindex hindex' =>
    rw [parts_of_behind_eq_none hr hindex hbehind,
      parts_of_behind_eq_none ht hindex' hbehind'] at hparts
    obtain ⟨hhost, hport⟩ := host_eq_of_hostPort_eq (List.singleton_inj.mp hparts)
    exact ⟨hindex.trans hindex'.symm, hhost, hport⟩
  | chained _ _ hsome =>
    rw [hbehind] at hsome
    cases hsome

theorem hostPort_eq_of_host_eq {r t : Registry} (hhost : r.host = t.host)
    (hport : r.port = t.port) : r.hostPort = t.hostPort := by
  simp only [hostPort, hhost, hport]

/-- Where none is behind, registries share an identifier exactly if both are the public
one, or neither is and host and port are the same. -/
theorem identifier_eq_iff_of_behind_eq_none {r t : Registry} (hr : r.IsRead)
    (ht : t.IsRead) (hbehind : r.behind = none) (hbehind' : t.behind = none) :
    r.identifier = t.identifier ↔
      (r.isDockerIndex = true ∧ t.isDockerIndex = true) ∨
        (r.isDockerIndex = false ∧ t.isDockerIndex = false ∧ r.host = t.host ∧
          r.port = t.port) := by
  constructor
  · intro h
    obtain ⟨hindex, hhost, hport⟩ :=
      host_port_eq_of_identifier_eq hr ht hbehind hbehind' h
    cases ht : t.isDockerIndex with
    | true => exact .inl ⟨hindex.trans ht, rfl⟩
    | false => exact .inr ⟨hindex.trans ht, rfl, hhost, hport⟩
  · rintro (⟨hindex, hindex'⟩ | ⟨hindex, hindex', hhost, hport⟩)
    · rw [identifier_of_isDockerIndex hindex, identifier_of_isDockerIndex hindex']
    · rw [identifier_of_behind_eq_none hindex hbehind,
        identifier_of_behind_eq_none hindex' hbehind', hostPort_eq_of_host_eq hhost hport]

/-- Registries that share an identifier are looked up under the same names. -/
theorem lookupKeys_eq_of_identifier_eq {r t : Registry} (hr : r.IsRead) (ht : t.IsRead)
    (hbehind : r.behind = none) (hbehind' : t.behind = none)
    (h : r.identifier = t.identifier) : r.lookupKeys = t.lookupKeys := by
  obtain ⟨-, hhost, hport⟩ := host_port_eq_of_identifier_eq hr ht hbehind hbehind' h
  have hname : r.hostname = t.hostname := by
    simp only [hostname, hhost]
  simp only [lookupKeys, h, hostPort_eq_of_host_eq hhost hport, hname]

/-! ## Helpers -/

/-- Whether two registries are handled alike, whatever is configured, installed and
answered: they are looked up under the same names, the same helper is chosen for them or
none for the same reason, the same credential is written down for them, and a store that
asks helpers does the same for both. -/
structure HandledAlike (r t : Registry) : Prop where
  lookupKeys_eq : r.lookupKeys = t.lookupKeys
  choose_eq : ∀ (places : Places) (isProgram : String → Bool) (config : Config),
    choose places isProgram config r.lookupKeys =
      choose places isProgram config t.lookupKeys
  inline_eq : ∀ config : Config,
    config.inlineCredential? r.lookupKeys = config.inlineCredential? t.lookupKeys
  get_eq : ∀ {σ : Type} (setup : Native.Setup) (machine : Machine σ) (s : σ),
    (Native.store setup machine).get r s = (Native.store setup machine).get t s
  store_eq : ∀ {σ : Type} (setup : Native.Setup) (machine : Machine σ)
    (c : Credential) (s : σ),
    (Native.store setup machine).store r c s = (Native.store setup machine).store t c s
  erase_eq : ∀ {σ : Type} (setup : Native.Setup) (machine : Machine σ) (s : σ),
    (Native.store setup machine).erase r s = (Native.store setup machine).erase t s

theorem handledAlike_of_lookupKeys_eq {r t : Registry} (hid : r.identifier = t.identifier)
    (hkeys : r.lookupKeys = t.lookupKeys) : HandledAlike r t where
  lookupKeys_eq := hkeys
  choose_eq := by
    intro places isProgram config
    rw [hkeys]
  inline_eq := by
    intro config
    rw [hkeys]
  get_eq := by
    intro σ setup machine s
    simp only [Native.store, Native.get, Native.inlineAnswer, hkeys, hid]
  store_eq := by
    intro σ setup machine c s
    simp only [Native.store, hkeys]
  erase_eq := by
    intro σ setup machine s
    simp only [Native.store, hkeys, hid]

/-- Two addresses with no registry behind mean registries of one identifier exactly if
both mean the public registry, or neither does and host and port are the same, whatever
scheme and path. Registries of one identifier are handled alike. -/
theorem identifier_eq_iff_and_handledAlike {a b : String} {r t : Registry}
    (ha : ofString a = .ok r) (hb : ofString b = .ok t) (hbehind : r.behind = none)
    (hbehind' : t.behind = none) : (r.identifier = t.identifier ↔
      (r.isDockerIndex = true ∧ t.isDockerIndex = true) ∨
        (r.isDockerIndex = false ∧ t.isDockerIndex = false ∧ r.host = t.host ∧
          r.port = t.port)) ∧
      (r.identifier = t.identifier → HandledAlike r t) := by
  obtain ⟨hr, -⟩ := ofString_isReadThrough ha
  obtain ⟨ht, -⟩ := ofString_isReadThrough hb
  refine ⟨identifier_eq_iff_of_behind_eq_none hr ht hbehind hbehind', fun h => ?_⟩
  exact handledAlike_of_lookupKeys_eq h
    (lookupKeys_eq_of_identifier_eq hr ht hbehind hbehind' h)

/-- A registry with a path and a version 6 host, and the same host and port under the
other scheme. -/
theorem handledAlike_of_two_schemes :
    let r : Registry := ⟨.https, "[::1]", 5000, "/v2/", none⟩
    let t : Registry := ⟨.proxy, "[::1]", 5000, "", none⟩
    ofString "http://[0:0:0:0:0:0:0:1]:5000/v2/" = .ok r ∧
      ofString "nerdctl-experimental://[::1]:5000" = .ok t ∧
      r.identifier = t.identifier ∧ HandledAlike r t := by
  intro r t
  have hr : ofString "http://[0:0:0:0:0:0:0:1]:5000/v2/" = .ok r :=
    eq_ok_of_toOption (by decide +kernel)
  have ht : ofString "nerdctl-experimental://[::1]:5000" = .ok t :=
    eq_ok_of_toOption (by decide +kernel)
  obtain ⟨hiff, halike⟩ := identifier_eq_iff_and_handledAlike hr ht rfl rfl
  have hid : r.identifier = t.identifier :=
    hiff.mpr (.inr ⟨by decide +kernel, by decide +kernel, rfl, rfl⟩)
  exact ⟨hr, ht, hid, halike hid⟩

end CredRelay.Registry
