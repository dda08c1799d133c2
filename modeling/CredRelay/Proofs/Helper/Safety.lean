import CredRelay.Proofs.Helper.Choice
/-! What a configuration can make the relay run. Whatever the names in it are, the path
of a chosen helper leads from one of the directories by a single name, which is that of
a credential helper: the name that the configuration gives is made of letters, numbers,
hyphens and underscores, so that it neither leaves the directory nor ends the path
early. -/
namespace CredRelay

open Text Host

/-! ## Blanks among letters and numbers -/

namespace Unicode

/-- The code points of blank characters. -/
def blankPoints : List Nat :=
  List.range' 9 5 ++ [0x20, 0x85, 0xA0, 0x1680] ++ List.range' 0x2000 11 ++
    [0x2028, 0x2029, 0x202F, 0x205F, 0x3000]

theorem toNat_mem_blankPoints {c : Char} (h : isBlank c = true) :
    c.toNat ∈ blankPoints := by
  simp only [isBlank, Bool.or_eq_true, Bool.and_eq_true, decide_eq_true_eq,
    beq_iff_eq] at h
  simp only [blankPoints, List.mem_append, List.mem_range'_1, List.mem_cons,
    List.not_mem_nil, or_false]
  omega

/-- A blank character is neither alphabetic nor numeric. -/
theorem isAlphanumeric_of_isBlank {c : Char} (h : isBlank c = true) :
    isAlphanumeric c = false := by
  have hall : ∀ n ∈ blankPoints, isAlphanumeric (Char.ofNat n) = false := by
    decide +kernel
  have hc := hall c.toNat (toNat_mem_blankPoints h)
  rwa [Char.ofNat_toNat] at hc

end Unicode

/-! ## Names along joined paths -/

namespace Path

/-- The names among the pieces between slashes. -/
def namesOf (pieces : List (List Char)) : List String :=
  (pieces.map String.ofList).filter fun n => !n.isEmpty && n != "."

theorem names_eq (path : String) : names path = namesOf (path.toList.splitOn '/') := rfl

theorem namesOf_append (pieces more : List (List Char)) :
    namesOf (pieces ++ more) = namesOf pieces ++ namesOf more := by
  rw [namesOf, List.map_append, List.filter_append]
  rfl

theorem namesOf_singleton {name : String} (hne : name ≠ "") (hdot : name ≠ ".") :
    namesOf [name.toList] = [name] := by
  simp [namesOf, hne, hdot]

/-- A path joined with a name leads along the names of the path, and then along that
name. -/
theorem names_join {name : String} (hslash : '/' ∉ name.toList) (hne : name ≠ "")
    (hdot : name ≠ ".") (directory : String) :
    names (join directory name) = names directory ++ [name] := by
  have hsplit : ∀ s : List Char, namesOf ((s ++ '/' :: name.toList).splitOn '/') =
      namesOf (s.splitOn '/') ++ [name] := by
    intro s
    rw [List.splitOn_append_cons_self, List.splitOn_eq_singleton hslash, namesOf_append,
      namesOf_singleton hne hdot]
  have hrelative : ¬name.toList.head? = some '/' := fun h => hslash (List.mem_of_head? h)
  rw [join, if_neg hrelative]
  split
  · next hempty =>
    rw [String.isEmpty_iff.mp hempty, names_eq, List.splitOn_eq_singleton hslash,
      namesOf_singleton hne hdot]
    rfl
  split
  · next hlast =>
    obtain ⟨s, hs⟩ := List.getLast?_eq_some_iff.mp hlast
    have hdirectory : names directory = namesOf (s.splitOn '/') := by
      rw [names_eq, hs, List.splitOn_append_cons_self, namesOf_append]
      exact List.append_nil _
    rw [hdirectory, ← hsplit, names_eq, String.toList_append, hs, List.append_assoc]
    rfl
  · rw [names_eq, names_eq, String.toList_append, String.toList_append, List.append_assoc]
    exact hsplit directory.toList

end Path

/-! ## Names of helpers -/

namespace Helper

theorem isValidName_iff {name : String} : isValidName name = true ↔ name ≠ "" ∧
    ∀ c ∈ name.toList, Unicode.isAlphanumeric c = true ∨ c = '-' ∨ c = '_' := by
  simp [isValidName, or_assoc]

/-- No character of a safe name has a meaning in paths, and none is blank. -/
theorem harmless_of_isValidName {name : String} (h : isValidName name = true) {c : Char}
    (hc : c ∈ name.toList) : c ≠ '/' ∧ c ≠ '.' ∧ c ≠ '\x00' ∧ isBlank c = false := by
  have hsafe := (isValidName_iff.mp h).2 c hc
  have hmark : ∀ d ∈ ['/', '.', '\x00'], c ≠ d := by
    have hnone : ∀ d ∈ ['/', '.', '\x00'], Unicode.isAlphanumeric d = false ∧ d ≠ '-' ∧
        d ≠ '_' := by
      simp only [List.forall_mem_cons, List.not_mem_nil, false_implies,
        implies_true, and_true]
      decide +kernel
    rintro d hd rfl
    simp [hnone c hd] at hsafe
  refine ⟨hmark _ (by simp), hmark _ (by simp), hmark _ (by simp),
    Bool.eq_false_iff.mpr fun hblank => ?_⟩
  rcases hsafe with hletter | rfl | rfl
  · rw [Unicode.isAlphanumeric_of_isBlank hblank] at hletter
    cases hletter
  · exact absurd hblank (by decide)
  · exact absurd hblank (by decide)

theorem toList_programName (name : String) :
    (programName name).toList = "docker-credential-".toList ++ name.toList :=
  String.toList_append

theorem slash_not_mem_programName {name : String} (h : isValidName name = true) :
    '/' ∉ (programName name).toList := by
  rw [toList_programName, List.mem_append, not_or]
  exact ⟨by decide, fun hc => (harmless_of_isValidName h hc).1 rfl⟩

/-- The name of a program is never one of those that do not count along a path. -/
theorem programName_ne {s : String} (h : 'd' ∉ s.toList) (name : String) :
    programName name ≠ s := by
  rintro rfl
  refine h ?_
  rw [toList_programName]
  exact List.mem_append_left _ (by decide)

/-- Whatever a configuration says, for a registry or for none in particular, the path of a
chosen helper is that of one of the directories joined with a single name: the mark of
credential helpers and behind it at least one letter, number, hyphen or underscore, and
nothing else. A program stands there; in a tree of files it is a regular file that may be
executed. -/
theorem path_of_choose_eq_ok {places : Places} {isProgram : String → Bool}
    {config : Config} {keys : List String} {chosen : Chosen}
    (h : choose places isProgram config keys = .ok chosen) :
    ∃ directory ∈ places.first ++ places.environment ++ places.last, ∃ name,
      chosen.path = Path.join directory ("docker-credential-" ++ name) ∧
      Path.names chosen.path = Path.names directory ++ ["docker-credential-" ++ name] ∧
      name ≠ "" ∧
      (∀ c ∈ name.toList, (Unicode.isAlphanumeric c = true ∨ c = '-' ∨ c = '_') ∧
        c ≠ '/' ∧ c ≠ '.' ∧ c ≠ '\x00' ∧ isBlank c = false) ∧
      isProgram chosen.path = true ∧
      ∀ tree : Tree, isProgram = tree.isProgram →
        ∃ mode octets, tree.stat chosen.path = .ok (.file mode octets) ∧
          mode &&& 0o111 ≠ 0 := by
  obtain ⟨before, name, scope, after, directory, hkept, -,
    ⟨dirs, rest, hall, hthere, -⟩, rfl⟩ :=
    choose_eq_ok_iff.mp h
  have hvalid : isValidName name = true := by
    have hmem : (name, scope) ∈ safe (candidates config keys) := by
      show (name, scope) ∈ kept config keys
      simp [hkept]
    exact (List.mem_filter.mp hmem).2
  obtain ⟨hne, hsafe⟩ := isValidName_iff.mp hvalid
  refine ⟨directory, by simp [hall], name, rfl, ?_, hne,
    fun c hc => ⟨hsafe c hc, harmless_of_isValidName hvalid hc⟩, hthere, ?_⟩
  · exact Path.names_join (slash_not_mem_programName hvalid)
      (programName_ne (by decide) name) (programName_ne (by decide) name) directory
  · rintro tree rfl
    exact Tree.isProgram_iff.mp hthere

/-- A name that climbs out of the directory is passed over for one with letters of another
script. -/
theorem path_of_choose_of_climbing :
    let tree : Tree := (Tree.bare ["root"]).plant "/h/docker-credential-schlüssel_2"
      (.file 0o755 ByteArray.empty)
    let config : Config :=
      ⟨some "schlüssel_2", Table.empty.insert "ghcr.io" "../../bin/sh", Table.empty⟩
    let path := "/h/docker-credential-schlüssel_2"
    choose ⟨["/h"], [], []⟩ tree.isProgram config ["ghcr.io:443", "ghcr.io"] =
        .ok ⟨"docker-credential-schlüssel_2", path, .globalDefault⟩ ∧
      ∃ name, path = Path.join "/h" ("docker-credential-" ++ name) ∧
        (∀ c ∈ name.toList, c ≠ '/' ∧ c ≠ '.') ∧
        ∃ mode octets, tree.stat path = .ok (.file mode octets) ∧ mode &&& 0o111 ≠ 0 := by
  intro tree config path
  have hchosen :
      choose ⟨["/h"], [], []⟩ tree.isProgram config ["ghcr.io:443", "ghcr.io"] =
      .ok ⟨"docker-credential-schlüssel_2", path, .globalDefault⟩ :=
    eq_ok_of_toOption (by decide +kernel)
  obtain ⟨directory, hdirectory, name, hpath, -, -, hname, -, htree⟩ :=
    path_of_choose_eq_ok hchosen
  have hplace : directory = "/h" := by simpa using hdirectory
  rw [hplace] at hpath
  exact ⟨hchosen, name, hpath, fun c hc => ⟨(hname c hc).2.1, (hname c hc).2.2.1⟩,
    htree tree rfl⟩

end Helper

end CredRelay
