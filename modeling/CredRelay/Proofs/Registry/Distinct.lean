import CredRelay.Proofs.Registry.Identifier
import Mathlib.Data.List.Basic
/-! Which registries share an identifier. The identifier of a chain of registries is
parted at its slashes: what stands behind a registry comes first, then the mark `host`,
then the registry itself with its path. So the parts tell the registries apart unless a
path looks like a mark and a registry. -/
namespace CredRelay.Registry

open Text Url

/-! ## Parts -/

/-- The mark before a registry that has another one behind it. -/
def hostMark : List Char := ['h', 'o', 's', 't']

/-- The parts of an identifier between slashes. -/
def parts (r : Registry) : List (List Char) :=
  r.identifier.toList.splitOn '/'

/-- The parts of a path between slashes. -/
def pathParts (r : Registry) : List (List Char) :=
  (r.path.toList.splitOn '/').tail

theorem parts_ne_nil (r : Registry) : r.parts ≠ [] :=
  List.splitOn_ne_nil _ _

theorem identifier_eq_of_parts_eq {r t : Registry} (h : r.parts = t.parts) :
    r.identifier = t.identifier := by
  have hjoined := congrArg (['/'].intercalate) h
  rw [parts, parts, List.intercalate_splitOn, List.intercalate_splitOn] at hjoined
  exact String.toList_injective hjoined

theorem parts_of_isDockerIndex {r : Registry} (h : r.isDockerIndex = true) :
    r.parts = ["https:".toList, [], "index.docker.io".toList, ['v', '1'], []] := by
  rw [parts, identifier_of_isDockerIndex h]
  decide

theorem parts_of_behind_eq_none {r : Registry} (hread : r.IsRead)
    (h : r.isDockerIndex = false) (hbehind : r.behind = none) :
    r.parts = [r.hostPort.toList] := by
  rw [parts, identifier_of_behind_eq_none h hbehind,
    List.splitOn_eq_singleton (slash_not_mem_hostPort hread)]

/-- A host and port with a path behind them are parted from the path. -/
theorem splitOn_hostPort_append_path {r : Registry} (hread : r.IsRead) :
    (r.hostPort.toList ++ r.path.toList).splitOn '/' =
      r.hostPort.toList :: r.pathParts := by
  have hslash := slash_not_mem_hostPort hread
  rcases hread.path_shape with hpath | ⟨rest, hpath⟩
  · rw [pathParts, hpath, String.toList_empty, List.append_nil,
      List.splitOn_eq_singleton hslash]
    simp
  · have hparts : ('/' :: rest).splitOn '/' = [] :: rest.splitOn '/' :=
      List.splitOn_append_cons_self_of_not_mem List.not_mem_nil rest
    rw [pathParts, hpath, List.splitOn_append_cons_self_of_not_mem hslash, hparts]
    rfl

theorem parts_of_behind_eq_some {r inner : Registry} (hread : r.IsRead)
    (h : r.isDockerIndex = false) (hbehind : r.behind = some inner) :
    r.parts = "nerdctl-experimental:".toList :: [] ::
      (inner.parts ++ hostMark :: r.hostPort.toList :: r.pathParts) := by
  have hlist :
      (Scheme.proxy.text ++ "://" ++ inner.identifier ++ "/host/" ++ r.hostPort ++
        r.path).toList =
      "nerdctl-experimental:".toList ++ '/' ::
        ([] ++ '/' :: (inner.identifier.toList ++ '/' ::
        (hostMark ++ '/' :: (r.hostPort.toList ++ r.path.toList)))) := by
    simp [Scheme.text, hostMark]
  have hscheme : '/' ∉ "nerdctl-experimental:".toList := by decide
  have hmark : '/' ∉ hostMark := by decide
  rw [parts, identifier_of_behind_eq_some h hbehind, hlist,
    List.splitOn_append_cons_self_of_not_mem hscheme,
    List.splitOn_append_cons_self_of_not_mem List.not_mem_nil,
    List.splitOn_append_cons_self, List.splitOn_append_cons_self_of_not_mem hmark,
    splitOn_hostPort_append_path hread]
  rfl

/-! ## Ambiguous paths -/

/-- Whether parts of a path read as the mark and then as a host with its port
somewhere. -/
def NamesHost (path : List (List Char)) : Prop :=
  ∃ before hostPort after, ':' ∈ hostPort ∧ path = before ++ hostMark :: hostPort :: after

/-- What follows the parts of a registry that stands behind another one. -/
def IsTail (l : List (List Char)) : Prop :=
  l = [] ∨ ∃ hostPort rest, ':' ∈ hostPort ∧ l = hostMark :: hostPort :: rest

theorem eq_nil_of_isTail {p x v : List (List Char)} (hclear : ¬NamesHost (p ++ x))
    (h : IsTail (x ++ v)) (hv : IsTail v) : x = [] := by
  cases x with
  | nil => rfl
  | cons a x =>
    rcases h with h | ⟨hostPort, rest, hcolon, h⟩
    · cases h
    simp only [List.cons_append, List.cons.injEq] at h
    obtain ⟨rfl, htail⟩ := h
    cases x with
    | nil =>
      -- Behind the mark alone a host would have to stand where only another mark can.
      rcases hv with rfl | ⟨other, rest', -, rfl⟩
      · cases htail
      · simp only [List.nil_append, List.cons.injEq] at htail
        rw [← htail.1] at hcolon
        exact absurd hcolon (by decide)
    | cons b x =>
      simp only [List.cons_append, List.cons.injEq] at htail
      rw [← htail.1] at hcolon
      exact absurd ⟨p, b, x, hcolon, rfl⟩ hclear

/-- Paths that name no host end where the tails behind them start. -/
theorem append_isTail_inj {p q u v : List (List Char)} (hp : ¬NamesHost p)
    (hq : ¬NamesHost q) (hu : IsTail u) (hv : IsTail v) (h : p ++ u = q ++ v) :
    p = q ∧ u = v := by
  rcases List.append_eq_append_iff.mp h with ⟨x, rfl, rfl⟩ | ⟨x, rfl, rfl⟩
  · have hx := eq_nil_of_isTail hq hu hv
    simp [hx]
  · have hx := eq_nil_of_isTail hp hv hu
    simp [hx]

/-! ## Telling registries apart -/

/-- Whether a chain behind a registry is told from its identifier: no path in it names a
host. A path counts where it is written, that is, where another registry is behind and the
identifier is not the fixed one. -/
inductive IsClear : Registry → Prop
  | index {r : Registry} (h : r.isDockerIndex = true) : IsClear r
  | last {r : Registry} (h : r.behind = none) : IsClear r
  | chained {r inner : Registry} (hbehind : r.behind = some inner)
      (hpath : ¬NamesHost r.pathParts) (h : IsClear inner) : IsClear r

theorem colon_mem_hostPort (r : Registry) : ':' ∈ r.hostPort.toList := by
  rw [toList_hostPort]
  simp [Url.hostPort]

theorem isTail_of_hostPort (r : Registry) (l : List (List Char)) :
    IsTail (hostMark :: r.hostPort.toList :: l) :=
  .inr ⟨_, l, colon_mem_hostPort r, rfl⟩

theorem IsClear.of_behind {r inner : Registry} (h : r.IsClear)
    (hindex : r.isDockerIndex = false) (hbehind : r.behind = some inner) :
    ¬NamesHost r.pathParts ∧ inner.IsClear := by
  cases h with
  | index h =>
    rw [hindex] at h
    cases h
  | last h =>
    rw [hbehind] at h
    cases h
  | chained hother hpath h =>
    rw [hbehind] at hother
    cases hother
    exact ⟨hpath, h⟩

/-- A host with its port ends in a digit. -/
theorem hostPort_ne_append_colon (r : Registry) (s : List Char) :
    r.hostPort.toList ≠ s ++ [':'] := by
  intro h
  rw [toList_hostPort, Url.hostPort] at h
  obtain hnil | ⟨digits, d, hdigits⟩ := List.eq_nil_or_concat' (Nat.toDigits 10 r.port)
  · exact absurd hnil Nat.toDigits_ne_nil
  have hend : (r.host.toList ++ ':' :: digits) ++ [d] = s ++ [':'] := by
    rw [← h, hdigits]
    simp
  have hd : [d] = [':'] := (List.append_inj' hend rfl).2
  have hmem : d ∈ Nat.toDigits 10 r.port := by simp [hdigits]
  rw [List.singleton_inj.mp hd] at hmem
  exact absurd (isDigit_of_mem_toDigits hmem) (by decide)

/-- Two registries whose identifiers are of one kind. -/
inductive SameKind (r t : Registry) : Prop
  | index (hr : r.isDockerIndex = true) (ht : t.isDockerIndex = true)
  | plain (hr : r.isDockerIndex = false) (ht : t.isDockerIndex = false)
      (hbehind : r.behind = none) (hbehind' : t.behind = none)
  | chained {inner inner' : Registry} (hr : r.isDockerIndex = false)
      (ht : t.isDockerIndex = false) (hbehind : r.behind = some inner)
      (hbehind' : t.behind = some inner')

/-- Only the public registry has an identifier that starts with this scheme. -/
theorem isDockerIndex_iff {r : Registry} (h : r.IsRead) :
    r.isDockerIndex = true ↔ r.parts.head? = some "https:".toList := by
  constructor
  · intro hindex
    rw [parts_of_isDockerIndex hindex]
    rfl
  · intro hhead
    by_contra hindex
    rw [Bool.not_eq_true] at hindex
    cases hbehind : r.behind with
    | none =>
      rw [parts_of_behind_eq_none h hindex hbehind] at hhead
      exact hostPort_ne_append_colon r "https".toList (Option.some.inj hhead)
    | some inner =>
      rw [parts_of_behind_eq_some h hindex hbehind] at hhead
      exact absurd (Option.some.inj hhead) (by decide)

/-- Only registries with another one behind have identifiers that start with this
scheme. -/
theorem isSome_behind_iff {r : Registry} (h : r.IsRead)
    (hindex : r.isDockerIndex = false) :
    r.behind.isSome = true ↔ r.parts.head? = some "nerdctl-experimental:".toList := by
  cases hbehind : r.behind with
  | none =>
    rw [parts_of_behind_eq_none h hindex hbehind]
    constructor
    · intro hsome
      cases hsome
    · intro hhead
      exact absurd (Option.some.inj hhead)
        (hostPort_ne_append_colon r "nerdctl-experimental".toList)
  | some inner =>
    rw [parts_of_behind_eq_some h hindex hbehind]
    exact ⟨fun _ => rfl, fun _ => rfl⟩

/-- Identifiers that start with the same part are of one kind. -/
theorem sameKind_of_head?_eq {r t : Registry} (hr : r.IsRead) (ht : t.IsRead)
    (h : r.parts.head? = t.parts.head?) : SameKind r t := by
  have hindex : r.isDockerIndex = t.isDockerIndex := by
    rw [Bool.eq_iff_iff, isDockerIndex_iff hr, h, isDockerIndex_iff ht]
  cases hti : t.isDockerIndex with
  | true => exact .index (hindex.trans hti) hti
  | false =>
    have hri := hindex.trans hti
    have hbehind : r.behind.isSome = t.behind.isSome := by
      rw [Bool.eq_iff_iff, isSome_behind_iff hr hri, h, isSome_behind_iff ht hti]
    cases htb : t.behind with
    | none =>
      rw [htb] at hbehind
      exact .plain hri hti (Option.not_isSome_iff_eq_none.mp (by simp [hbehind])) htb
    | some inner' =>
      rw [htb] at hbehind
      obtain ⟨inner, hrb⟩ := Option.isSome_iff_exists.mp hbehind
      exact .chained hri hti hrb htb

/-- The parts of registries that stand behind others tell where they end. -/
theorem parts_append_isTail_inj {r t : Registry} (hr : r.IsReadThrough)
    (ht : t.IsReadThrough) (hrclear : r.IsClear) (htclear : t.IsClear)
    {u v : List (List Char)} (hu : IsTail u) (hv : IsTail v)
    (h : r.parts ++ u = t.parts ++ v) : r.parts = t.parts ∧ u = v := by
  -- By induction along one chain, for all tails: behind a registry stand the mark and the
  -- host of the one before it, which are a tail themselves.
  induction hr generalizing t u v with
  | @intro r own behind ih =>
  obtain ⟨own', behind'⟩ := ht
  have hhead : r.parts.head? = t.parts.head? := by
    have hall := congrArg List.head? h
    rwa [List.head?_append_of_ne_nil _ (parts_ne_nil r),
      List.head?_append_of_ne_nil _ (parts_ne_nil t)] at hall
  cases sameKind_of_head?_eq own own' hhead with
  | index hr ht =>
    rw [parts_of_isDockerIndex hr, parts_of_isDockerIndex ht] at h ⊢
    exact ⟨rfl, List.append_cancel_left h⟩
  | plain hr ht hbehind hbehind' =>
    rw [parts_of_behind_eq_none own hr hbehind,
      parts_of_behind_eq_none own' ht hbehind'] at h ⊢
    obtain ⟨hhost, htail⟩ := List.cons.inj h
    exact ⟨by rw [hhost], htail⟩
  | @chained inner inner' hr ht hbehind hbehind' =>
    obtain ⟨hpath, hclear⟩ := hrclear.of_behind hr hbehind
    obtain ⟨hpath', hclear'⟩ := htclear.of_behind ht hbehind'
    rw [parts_of_behind_eq_some own hr hbehind,
      parts_of_behind_eq_some own' ht hbehind'] at h ⊢
    simp only [List.cons_append, List.append_assoc, List.cons.injEq, true_and] at h
    obtain ⟨hinner, htail⟩ := ih inner hbehind (behind' inner' hbehind') hclear hclear'
      (isTail_of_hostPort r _) (isTail_of_hostPort t _) h
    simp only [List.cons.injEq, true_and] at htail
    obtain ⟨hhost, htail⟩ := htail
    obtain ⟨hpaths, htails⟩ := append_isTail_inj hpath hpath' hu hv htail
    exact ⟨by rw [hinner, hhost, hpaths], htails⟩

/-! ## Hosts and ports -/

theorem host_eq_of_hostPort_eq {r t : Registry}
    (h : r.hostPort.toList = t.hostPort.toList) : r.host = t.host ∧ r.port = t.port := by
  rw [toList_hostPort, toList_hostPort] at h
  obtain ⟨hhost, hport⟩ := hostPort_inj h
  exact ⟨String.toList_injective hhost, hport⟩

/-- Two addresses whose registries share an identifier both mean the public registry, or
neither does. If they do, host and port are the same. If not, either both registries stand
for themselves or both have another one behind; then host, port and the identifiers behind
are the same, unless a path in one of the chains behind names a host. -/
theorem eq_of_identifier_eq {a b : String} {r t : Registry} (ha : ofString a = .ok r)
    (hb : ofString b = .ok t) (h : r.identifier = t.identifier) :
    r.isDockerIndex = t.isDockerIndex ∧
      (r.isDockerIndex = true → r.host = t.host ∧ r.port = t.port) ∧
      (r.isDockerIndex = false → r.behind.isSome = t.behind.isSome ∧
        ((∀ inner ∈ r.behind, inner.IsClear) → (∀ inner ∈ t.behind, inner.IsClear) →
          r.host = t.host ∧ r.port = t.port ∧
            r.behind.map identifier = t.behind.map identifier)) := by
  obtain ⟨own, behind⟩ := ofString_isReadThrough ha
  obtain ⟨own', behind'⟩ := ofString_isReadThrough hb
  have hparts : r.parts = t.parts := by rw [parts, h, parts]
  cases sameKind_of_head?_eq own own' (by rw [hparts]) with
  | index hr ht =>
    obtain ⟨hhost, hport⟩ := host_of_isDockerIndex own hr
    obtain ⟨hhost', hport'⟩ := host_of_isDockerIndex own' ht
    refine ⟨hr.trans ht.symm, fun _ => ⟨hhost.trans hhost'.symm, hport.trans hport'.symm⟩,
      ?_⟩
    intro hindex
    rw [hr] at hindex
    cases hindex
  | plain hr ht hbehind hbehind' =>
    rw [parts_of_behind_eq_none own hr hbehind,
      parts_of_behind_eq_none own' ht hbehind'] at hparts
    obtain ⟨hhost, hport⟩ := host_eq_of_hostPort_eq (List.singleton_inj.mp hparts)
    refine ⟨hr.trans ht.symm, fun _ => ⟨hhost, hport⟩,
      fun _ => ⟨?_, fun _ _ => ⟨hhost, hport, ?_⟩⟩⟩
    · rw [hbehind, hbehind']
    · rw [hbehind, hbehind']
  | @chained inner inner' hr ht hbehind hbehind' =>
    refine ⟨hr.trans ht.symm, fun hindex => ?_, fun _ => ⟨?_, fun hclear hclear' => ?_⟩⟩
    · rw [hr] at hindex
      cases hindex
    · rw [hbehind, hbehind']
      rfl
    · rw [parts_of_behind_eq_some own hr hbehind,
        parts_of_behind_eq_some own' ht hbehind'] at hparts
      simp only [List.cons.injEq, true_and] at hparts
      obtain ⟨hinner, htail⟩ := parts_append_isTail_inj (behind inner hbehind)
        (behind' inner' hbehind') (hclear inner hbehind) (hclear' inner' hbehind')
        (isTail_of_hostPort r _) (isTail_of_hostPort t _) hparts
      simp only [List.cons.injEq, true_and] at htail
      obtain ⟨hhost, hport⟩ := host_eq_of_hostPort_eq htail.1
      refine ⟨hhost, hport, ?_⟩
      rw [hbehind, hbehind', Option.map_some, Option.map_some,
        identifier_eq_of_parts_eq hinner]

/-- Two spellings of one registry with another one behind. -/
theorem behind_eq_of_two_spellings :
    let last : Registry := ⟨.https, "ghcr.io", 443, "", none⟩
    let r : Registry := ⟨.https, "mirror.example.com", 443, "/v2", some last⟩
    let t : Registry := ⟨.proxy, "mirror.example.com", 443, "/v2", some last⟩
    ofString "https://MIRROR.example.com/v2?ns=ghcr.io" = .ok r ∧
      ofString "nerdctl-experimental://mirror.example.com/v2?ns=https://ghcr.io/" =
        .ok t ∧
      r.host = t.host ∧ r.port = t.port ∧
      r.behind.map identifier = t.behind.map identifier := by
  intro last r t
  have hr : ofString "https://MIRROR.example.com/v2?ns=ghcr.io" = .ok r :=
    eq_ok_of_toOption (by decide +kernel)
  have ht : ofString "nerdctl-experimental://mirror.example.com/v2?ns=https://ghcr.io/" =
      .ok t :=
    eq_ok_of_toOption (by decide +kernel)
  have hclear : ∀ inner ∈ some last, inner.IsClear := by
    intro inner hinner
    cases hinner
    exact .last rfl
  obtain ⟨-, -, hsame⟩ := eq_of_identifier_eq hr ht (by decide +kernel)
  exact ⟨hr, ht, (hsame (by decide +kernel)).2 hclear hclear⟩

/-- Two chains with one identifier: in one the path of the registry behind reads as a
registry, in the other the path of the registry in front does. -/
theorem identifier_eq_of_paths_that_name_hosts :
    let last : Registry := ⟨.https, "b", 443, "", none⟩
    let r : Registry :=
      ⟨.https, "y", 2, "", some ⟨.https, "h1", 443, "/host/x:1", some last⟩⟩
    let t : Registry :=
      ⟨.https, "x", 1, "/host/y:2", some ⟨.https, "h1", 443, "", some last⟩⟩
    ofString "y:2?ns=h1/host/x:1?ns=b" = .ok r ∧
      ofString "x:1/host/y:2?ns=h1?ns=b" = .ok t ∧
      r.identifier = t.identifier ∧ ¬(r.host = t.host ∧ r.port = t.port) := by
  intro last r t
  exact ⟨eq_ok_of_toOption (by decide +kernel), eq_ok_of_toOption (by decide +kernel),
    by decide +kernel, by decide +kernel⟩

end CredRelay.Registry
