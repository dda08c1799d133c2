import CredRelay.Proofs.Registry.Reading
/-! The identifiers of registries that were read, by kind: the fixed one, a host with its
port, or a chain. A host with its port holds no slash, and the public registry has one
host and one port. -/
namespace CredRelay.Registry

open Text Url

/-! ## Kinds of identifiers -/

theorem toList_hostPort (r : Registry) :
    r.hostPort.toList = Url.hostPort r.host.toList r.port := by
  rw [hostPort, String.toList_append, String.toList_append, toList_decimal, Url.hostPort,
    List.append_assoc]
  rfl

/-- What an identifier is made of; nothing but the registry behind is read of that
part. -/
theorem identifier_eq (r : Registry) :
    r.identifier =
      if r.isDockerIndex then dockerIndex
      else
        match r.behind with
        | some inner =>
          Scheme.proxy.text ++ "://" ++ inner.identifier ++ "/host/" ++
            r.hostPort ++ r.path
        | none => r.hostPort := by
  obtain ⟨scheme, host, port, path, behind⟩ := r
  cases behind <;> rfl

theorem identifier_of_isDockerIndex {r : Registry} (h : r.isDockerIndex = true) :
    r.identifier = dockerIndex := by
  rw [identifier_eq, if_pos h]

theorem identifier_of_behind_eq_none {r : Registry} (h : r.isDockerIndex = false)
    (hbehind : r.behind = none) : r.identifier = r.hostPort := by
  rw [identifier_eq, if_neg (by simp [h]), hbehind]

theorem identifier_of_behind_eq_some {r inner : Registry} (h : r.isDockerIndex = false)
    (hbehind : r.behind = some inner) :
    r.identifier =
      Scheme.proxy.text ++ "://" ++ inner.identifier ++ "/host/" ++ r.hostPort ++
        r.path := by
  rw [identifier_eq, if_neg (by simp [h]), hbehind]

theorem slash_not_mem_hostPort {r : Registry} (h : r.IsRead) :
    '/' ∉ r.hostPort.toList := by
  intro hmem
  rw [toList_hostPort] at hmem
  exact absurd (h.host_shape.isAuthorityCharacter_hostPort r.port _ hmem) (by decide)

/-! ## The public registry -/

theorem forall_beq_false {s : List Char} {d : Char} (h : d ∉ s) :
    ∀ c ∈ s, (c == d) = false := by
  intro c hc
  rw [beq_eq_false_iff_ne]
  rintro rfl
  exact h hc

/-- A host without brackets is its own name. -/
theorem hostname_of_bare {r : Registry}
    (h : ∀ c ∈ r.host.toList, isHostCharacter c = true) : r.hostname = r.host := by
  have hopen : '[' ∉ r.host.toList := fun hc => absurd (h _ hc) (by decide)
  have hclose : ']' ∉ r.host.toList := fun hc => absurd (h _ hc) (by decide)
  rw [hostname, dropWhile_eq_self (forall_beq_false hopen),
    dropEndWhile_eq_self (forall_beq_false hclose), String.ofList_toList]

/-- The name of a host in brackets is what stands between them. -/
theorem hostname_of_bracketed {r : Registry} {s : List Char}
    (hhost : r.host.toList = '[' :: s ++ [']']) (h : ∀ c ∈ s, isGroupCharacter c = true) :
    r.hostname = String.ofList s := by
  have hopen : '[' ∉ s ++ [']'] := by
    intro hc
    rcases List.mem_append.mp hc with hc | hc
    · exact absurd (h _ hc) (by decide)
    · exact absurd hc (by decide)
  have hclose : ']' ∉ s := fun hc => absurd (h _ hc) (by decide)
  have hend : dropEndWhile (· == ']') (s ++ [']']) = s := by
    rw [dropEndWhile_append_blank (by simp),
      dropEndWhile_eq_self (forall_beq_false hclose)]
  rw [hostname, hhost, List.cons_append, List.dropWhile_cons_of_pos (by simp),
    dropWhile_eq_self (forall_beq_false hopen), hend]

/-- The public registry has one host and one port. -/
theorem host_of_isDockerIndex {r : Registry} (hread : r.IsRead)
    (h : r.isDockerIndex = true) :
    r.host = "index.docker.io" ∧ r.port = standardPort := by
  simp only [isDockerIndex, Bool.and_eq_true, beq_iff_eq] at h
  obtain ⟨⟨⟨-, hname⟩, -⟩, hport⟩ := h
  refine ⟨?_, hport⟩
  have hshape := hread.host_shape
  generalize hhost : r.host.toList = host at hshape
  cases hshape with
  | bare _ hall =>
    rw [hostname_of_bare (by rw [hhost]; exact hall)] at hname
    exact hname
  | @bracketed s hall =>
    rw [hostname_of_bracketed hhost hall] at hname
    have hx : 'x' ∈ s := by
      rw [← String.toList_ofList (l := s), hname]
      decide
    exact absurd (hall _ hx) (by decide)

end CredRelay.Registry
