import CredRelay.Proofs.Host.Tree
/-! What writing and removing a file does to a tree. A file that was written is read back
and leads to the same place as before; a file that was removed is gone; and what is left
at a path after an attempt to remove it is a directory. Directories that were made once
need not be made again. -/
namespace CredRelay.Host

namespace Tree

variable {t t' : Tree} {path : String} {place : List String} {octets : ByteArray}

/-! ## Files at paths -/

theorem kind?_eq_file_iff :
    t.kind? place = some .file ↔
    ∃ mode octets, t.node? place = some (.file mode octets) := by
  rw [kind?, Option.map_eq_some_iff]
  constructor
  · rintro ⟨n, hn, hkind⟩
    cases n with
    | file mode octets => exact ⟨mode, octets, hn⟩
    | directory | socket => cases hkind
  · rintro ⟨mode, octets, hn⟩
    exact ⟨_, hn, rfl⟩

/-- Whether a path leads to a file with some octets, at a place. -/
structure HasFile (t : Tree) (path : String) (place : List String) (octets : ByteArray) :
    Prop where
  place_eq : t.place path = .ok place
  node_eq : ∃ mode, t.node? place = some (.file mode octets)
  last_ne : path.toList.getLast? ≠ some '/'

theorem HasFile.kind?_eq (h : t.HasFile path place octets) :
    t.kind? place = some .file := by
  obtain ⟨mode, hnode⟩ := h.node_eq
  exact kind?_eq_file_iff.mpr ⟨mode, octets, hnode⟩

theorem HasFile.exists_stat_eq_ok (h : t.HasFile path place octets) :
    ∃ mode, t.stat path = .ok (.file mode octets) := by
  obtain ⟨mode, hnode⟩ := h.node_eq
  refine ⟨mode, ?_⟩
  simp [stat, h.place_eq, hnode, h.last_ne]

theorem HasFile.read_eq_ok (h : t.HasFile path place octets) :
    t.read path = .ok octets := by
  obtain ⟨mode, hstat⟩ := h.exists_stat_eq_ok
  simp [read, hstat]

/-- A program is a regular file that someone may execute. -/
theorem isProgram_iff : t.isProgram path = true ↔
    ∃ mode octets, t.stat path = .ok (.file mode octets) ∧ mode &&& 0o111 ≠ 0 := by
  rw [isProgram]
  split
  · next mode octets hstat => simp [hstat]
  · next hother =>
    refine ⟨fun h => (by cases h), fun ⟨mode, octets, hstat, _⟩ => ?_⟩
    exact absurd hstat (hother mode octets)

/-! ## Directories stay -/

/-- Whether every directory of a tree is one of another tree, and relative paths count
from the same. -/
structure KeepsDirectories (t t' : Tree) : Prop where
  here_eq : t'.here = t.here
  kept : ∀ x, t.kind? x = some .directory → t'.kind? x = some .directory

theorem KeepsDirectories.place_eq_ok (h : KeepsDirectories t t')
    (hplace : t.place path = .ok place) : t'.place path = .ok place :=
  place_eq_ok_of_directories h.here_eq h.kept hplace

/-- A change at a place that is no directory keeps the directories. -/
theorem keepsDirectories_of_kind?_eq (hhere : t'.here = t.here)
    (hne : t.kind? place ≠ some .directory)
    (h : ∀ x, key x ≠ key place → t'.kind? x = t.kind? x) : KeepsDirectories t t' := by
  refine ⟨hhere, fun x hx => ?_⟩
  have hkey : key x ≠ key place := by
    intro hkey
    rw [kind?_of_key_eq hkey] at hx
    exact hne hx
  rw [h x hkey]
  exact hx

theorem keepsDirectories_put {n : Node} (h : t.kind? place ≠ some .directory) :
    KeepsDirectories t (t.put place n) := by
  refine keepsDirectories_of_kind?_eq rfl h fun x hx => ?_
  rw [kind?_put, if_neg hx]
  split
  · next hroot => exact (kind?_root hroot).symm
  · rfl

theorem keepsDirectories_remove (h : t.kind? place ≠ some .directory) :
    KeepsDirectories t (t.remove place) := by
  refine keepsDirectories_of_kind?_eq rfl h fun x hx => ?_
  rw [kind?_remove, if_neg hx]
  split
  · next hroot => exact (kind?_root hroot).symm
  · rfl

/-- Removing something makes no directory. -/
theorem keepsDirectories_of_remove : KeepsDirectories (t.remove place) t :=
  ⟨rfl, fun _ hx => kind?_eq_of_kind?_remove_eq hx⟩

/-- Directories that were made along some names are found there again. -/
theorem makeAlong_eq_self {made : Tree} {names : List String}
    (h : t.makeAlong place names = .ok made)
    (hkept : ∀ x, made.kind? x = some .directory → t'.kind? x = some .directory) :
    t'.makeAlong place names = .ok t' := by
  induction names generalizing t place with
  | nil => rfl
  | cons name rest ih =>
    have hnext : made.kind? (follow place name) = some .directory →
        ∃ mode, t'.node? (follow place name) = some (.directory mode) :=
      fun hx => kind?_eq_directory_iff.mp (hkept _ hx)
    rw [makeAlong] at h
    split at h
    · next mode hnode =>
      have hthere :=
        (grows_of_makeAlong_eq_ok h).kept (kind?_eq_directory_iff.mpr ⟨mode, hnode⟩)
      obtain ⟨mode', hnode'⟩ := hnext hthere
      simp only [makeAlong, hnode']
      exact ih h
    · cases h
    · next hnone =>
      have hput :
          (t.put (follow place name) (.directory 0o755)).kind? (follow place name) =
          some .directory := by
        simp [kind?_put, Node.kind]
      obtain ⟨mode', hnode'⟩ := hnext ((grows_of_makeAlong_eq_ok h).kept hput)
      simp only [makeAlong, hnode']
      exact ih h

/-- Making directories again changes nothing, as long as none was taken away. -/
theorem makeDirectories_eq_self {made : Tree} (h : t.makeDirectories path = .ok made)
    (hkept : KeepsDirectories made t') : t'.makeDirectories path = .ok t' := by
  rw [makeDirectories] at h ⊢
  split
  · rfl
  · next hpath =>
    rw [if_neg hpath] at h
    split at h
    · cases h
    · next hcheck =>
      have hstart : t'.start path = t.start path := by
        simp only [start, hkept.here_eq, (grows_of_makeAlong_eq_ok h).here_eq]
      simp only [hstart]
      exact makeAlong_eq_self h hkept.kept

/-- Making directories leaves alone what is there. -/
theorem node?_of_makeAlong_eq_ok {names x : List String} {n : Node}
    (h : t.makeAlong place names = .ok t') (hx : t.node? x = some n) :
    t'.node? x = some n := by
  induction names generalizing t place with
  | nil =>
    cases h
    exact hx
  | cons name rest ih =>
    rw [makeAlong] at h
    split at h
    · exact ih h hx
    · cases h
    · next hnone =>
      refine ih h ?_
      by_cases hroot : key x = "/"
      · simpa [node?, hroot] using hx
      · have hkey : key x ≠ key (follow place name) := by
          intro hkey
          rw [node?, hkey] at hx
          rw [node?, hx] at hnone
          cases hnone
        simp only [node?, if_neg hroot] at hx
        simp only [node?, if_neg hroot, put, Table.get?_insert, if_neg hkey, hx]

theorem stat_of_makeDirectories_eq_ok {made : String} {n : Node}
    (h : t.makeDirectories made = .ok t') (hstat : t.stat path = .ok n) :
    t'.stat path = .ok n := by
  obtain ⟨place, hplace, hnode, hlast⟩ := exists_place_of_stat_eq_ok hstat
  have hplace' := (grows_of_makeDirectories_eq_ok h).place_eq_ok hplace
  have hnode' : t'.node? place = some n := by
    rw [makeDirectories] at h
    split at h
    · cases h
      exact hnode
    · split at h
      · cases h
      · exact node?_of_makeAlong_eq_ok h hnode
  have hslash : ¬(path.toList.getLast? = some '/' ∧ (!n.isDirectory) = true) := by
    rintro ⟨hslash, hdirectory⟩
    rw [hlast hslash] at hdirectory
    cases hdirectory
  rw [stat, hplace']
  simp only [hnode', if_neg hslash]

/-! ## Writing -/

/-- A file that was written stands at the place of its path, where nothing but a file
stood. -/
theorem exists_put_of_write_eq_ok (h : t.write path octets = .ok t') :
    ∃ place mode, t.place path = .ok place ∧ path.toList.getLast? ≠ some '/' ∧
      (t.kind? place = none ∨ t.kind? place = some .file) ∧
      t' = t.put place (.file mode octets) := by
  rw [write] at h
  split at h
  · cases h
  · next place hplace =>
    split at h
    · next hnone =>
      split at h
      · cases h
      · next hlast =>
        cases h
        exact ⟨place, _, hplace, hlast, .inl (by simp [kind?, hnone]), rfl⟩
    · next hfile =>
      split at h
      · cases h
      · next hlast =>
        cases h
        exact ⟨place, _, hplace, hlast, .inr (by simp [kind?, hfile, Node.kind]), rfl⟩
    · cases h
    · cases h

theorem ne_directory_of_eq_none_or_file {k : Option Kind}
    (h : k = none ∨ k = some .file) : k ≠ some .directory := by
  rintro rfl
  rcases h with h | h <;> cases h

theorem hasFile_put (hplace : t.place path = .ok place)
    (hlast : path.toList.getLast? ≠ some '/')
    (hkind : t.kind? place = none ∨ t.kind? place = some .file) (mode : Nat) :
    (t.put place (.file mode octets)).HasFile path place octets := by
  have hne := ne_directory_of_eq_none_or_file hkind
  refine ⟨(keepsDirectories_put hne).place_eq_ok hplace, ⟨mode, ?_⟩, hlast⟩
  have hroot : key place ≠ "/" := fun hroot => hne (kind?_root hroot)
  simp [node?, hroot, put]

theorem exists_write_eq_ok (hplace : t.place path = .ok place)
    (hlast : path.toList.getLast? ≠ some '/')
    (hkind : t.kind? place = none ∨ t.kind? place = some .file) (octets : ByteArray) :
    ∃ mode, t.write path octets = .ok (t.put place (.file mode octets)) := by
  rw [write, hplace]
  rcases hkind with hkind | hkind
  · have hnode : t.node? place = none := by simpa [kind?] using hkind
    exact ⟨0o644, by simp [hnode, hlast]⟩
  · obtain ⟨mode, old, hnode⟩ := kind?_eq_file_iff.mp hkind
    exact ⟨mode, by simp [hnode, hlast]⟩

/-- What was written is read back. -/
theorem read_of_write_eq_ok (h : t.write path octets = .ok t') :
    t'.read path = .ok octets := by
  obtain ⟨place, mode, hplace, hlast, hkind, rfl⟩ := exists_put_of_write_eq_ok h
  exact (hasFile_put hplace hlast hkind mode).read_eq_ok

/-! ## Removing -/

/-- Nothing comes to stand at a path when something is removed. -/
theorem stat_eq_ok_of_remove {gone : List String} {n : Node}
    (h : (t.remove gone).stat path = .ok n) : t.stat path = .ok n := by
  obtain ⟨place, hplace, hnode, hlast⟩ := exists_place_of_stat_eq_ok h
  have hplace' : t.place path = .ok place := keepsDirectories_of_remove.place_eq_ok hplace
  have hnode' : t.node? place = some n := by
    by_cases hroot : key place = "/"
    · simpa [node?, hroot] using hnode
    · simp only [node?, if_neg hroot, remove, Table.get?_erase] at hnode ⊢
      split at hnode
      · cases hnode
      · exact hnode
  rw [stat, hplace']
  simp only [hnode']
  split
  · next hslash =>
    have hdirectory := hlast hslash.1
    simp [hdirectory] at hslash
  · rfl

/-- Where nothing stands at the place of a path, nothing stands at the path. -/
theorem has_eq_false_of_kind?_eq_none (hplace : t.place path = .ok place)
    (h : t.kind? place = none) : t.has path = false := by
  have hnode : t.node? place = none := by simpa [kind?] using h
  simp [has, stat, hplace, hnode]

/-- Nothing stands at the path of what was removed. -/
theorem has_remove (hplace : t.place path = .ok place)
    (hkind : t.kind? place ≠ some .directory) : (t.remove place).has path = false := by
  have hroot : key place ≠ "/" := fun hroot => hkind (kind?_root hroot)
  exact has_eq_false_of_kind?_eq_none ((keepsDirectories_remove hkind).place_eq_ok hplace)
    (by simp [kind?_remove, hroot])

theorem HasFile.unlink_eq_ok (h : t.HasFile path place octets) :
    t.unlink path = .ok (t.remove place) := by
  obtain ⟨mode, hstat⟩ := h.exists_stat_eq_ok
  simp [unlink, hstat, h.place_eq]

/-- Text that was written as UTF-8 is read as text. -/
theorem readText_of_read_eq_ok {s : String} (h : t.read path = .ok s.toUTF8) :
    t.readText path = .text s := by
  have hs : Text.ofUtf8? s.toUTF8 = some s := Text.ofUtf8?_utf8 s
  simp only [readText, h, FileText.ofOctets, hs]

/-- Whether whatever stands at a path is a directory, so that it cannot be removed as a
file. -/
def AtMostDirectory (t : Tree) (path : String) : Prop :=
  ∀ n, t.stat path = .ok n → n.isDirectory = true

theorem atMostDirectory_of_has_eq_false (h : t.has path = false) :
    t.AtMostDirectory path := by
  intro n hstat
  rw [has, hstat] at h
  cases h

theorem AtMostDirectory.exists_unlink_eq_error (h : t.AtMostDirectory path) :
    ∃ fault, t.unlink path = .error fault := by
  cases hstat : t.stat path with
  | error fault => exact ⟨fault, by simp [unlink, hstat]⟩
  | ok n =>
    cases n with
    | directory mode => exact ⟨.isDirectory, by simp [unlink, hstat]⟩
    | file | socket => cases h _ hstat

/-- Where no more than a directory stands, nothing is read. -/
theorem AtMostDirectory.readText_ne_text (h : t.AtMostDirectory path) (s : String) :
    t.readText path ≠ .text s := by
  rw [readText, read]
  cases hstat : t.stat path with
  | error fault => cases fault <;> nofun
  | ok n =>
    cases n with
    | directory mode => nofun
    | file | socket => cases h _ hstat

/-- What is left at a path after removing it is at most a directory. -/
theorem atMostDirectory_of_unlink_eq_ok (h : t.unlink path = .ok t') :
    t'.AtMostDirectory path := by
  obtain ⟨gone, htarget, hkind, rfl⟩ := exists_remove_of_unlink_eq_ok h
  obtain ⟨place, _, hplace, -, hkey⟩ := target?_eq_some_iff.mp htarget
  have hremove : t.remove gone = t.remove place := by simp only [remove, hkey]
  rw [← kind?_of_key_eq hkey] at hkind
  intro n hstat
  have hgone := has_remove hplace hkind
  rw [← hremove, has, hstat] at hgone
  cases hgone

theorem atMostDirectory_of_unlink_eq_error {fault : SystemFault}
    (h : t.unlink path = .error fault) : t.AtMostDirectory path := by
  intro n hstat
  obtain ⟨place, hplace, -, -⟩ := exists_place_of_stat_eq_ok hstat
  cases n with
  | directory => rfl
  | file | socket => simp [unlink, hstat, hplace] at h

end Tree

end CredRelay.Host
