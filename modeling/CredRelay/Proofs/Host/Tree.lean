import CredRelay.Host.Site
/-! What operations on a tree of files keep. Making directories, setting permission bits
and making a socket keep what every node is; removing a file or a socket keeps all but
that one, and in particular every directory. So a path that leads to a socket leads to it
until that socket is removed. -/
namespace CredRelay.Host

/-! ## Kinds of nodes -/

/-- What a node is, whatever its permission bits and octets. -/
inductive Kind where
  | directory
  | file
  | socket (id : Nat)
  deriving DecidableEq

/-- The kind of a node. -/
def Node.kind : Node → Kind
  | .directory _ => .directory
  | .file _ _ => .file
  | .socket _ id => .socket id

@[simp] theorem Node.kind_withMode (mode : Nat) (n : Node) :
    (n.withMode mode).kind = n.kind := by
  cases n <;> rfl

namespace Tree

variable {t t' : Tree}

/-- What stands at a place, up to permission bits and octets. -/
def kind? (t : Tree) (place : List String) : Option Kind :=
  (t.node? place).map Node.kind

theorem kind?_of_key_eq {x y : List String} (h : key x = key y) :
    t.kind? x = t.kind? y := by
  simp only [kind?, node?, h]

theorem kind?_root {x : List String} (h : key x = "/") : t.kind? x = some .directory := by
  simp [kind?, node?, h, Node.kind]

theorem kind?_eq_directory_iff {x : List String} :
    t.kind? x = some .directory ↔ ∃ mode, t.node? x = some (.directory mode) := by
  rw [kind?, Option.map_eq_some_iff]
  constructor
  · rintro ⟨n, hn, hkind⟩
    cases n with
    | directory mode => exact ⟨mode, hn⟩
    | file | socket => cases hkind
  · rintro ⟨mode, hn⟩
    exact ⟨_, hn, rfl⟩

theorem kind?_eq_socket_iff {x : List String} {id : Nat} :
    t.kind? x = some (.socket id) ↔ ∃ mode, t.node? x = some (.socket mode id) := by
  rw [kind?, Option.map_eq_some_iff]
  constructor
  · rintro ⟨n, hn, hkind⟩
    cases n with
    | socket mode other =>
      cases hkind
      exact ⟨mode, hn⟩
    | file | directory => cases hkind
  · rintro ⟨mode, hn⟩
    exact ⟨_, hn, rfl⟩

theorem kind?_put (t : Tree) (place x : List String) (n : Node) :
    (t.put place n).kind? x =
      if key x = "/" then some .directory
      else if key x = key place then some n.kind else t.kind? x := by
  by_cases hroot : key x = "/"
  · simp [hroot, kind?_root]
  · by_cases hkey : key x = key place
    · rw [hkey] at hroot
      simp [kind?, node?, put, hroot, hkey]
    · simp [kind?, node?, put, hroot, hkey, Table.get?_insert]

theorem kind?_remove (t : Tree) (place x : List String) :
    (t.remove place).kind? x =
      if key x = "/" then some .directory
      else if key x = key place then none else t.kind? x := by
  by_cases hroot : key x = "/"
  · simp [hroot, kind?_root]
  · by_cases hkey : key x = key place
    · rw [hkey] at hroot
      simp [kind?, node?, remove, hroot, hkey, Table.get?_erase]
    · simp [kind?, node?, remove, hroot, hkey, Table.get?_erase]

/-! ## Growing trees -/

/-- Whether a tree has everything that another one has, and besides only nodes of one
kind. -/
structure Grows (k : Kind) (t t' : Tree) : Prop where
  here_eq : t'.here = t.here
  kept : ∀ {x : List String} {k' : Kind}, t.kind? x = some k' → t'.kind? x = some k'
  new : ∀ {x : List String} {k' : Kind}, t'.kind? x = some k' →
    t.kind? x = some k' ∨ k' = k

theorem Grows.refl (k : Kind) (t : Tree) : Grows k t t :=
  ⟨rfl, fun h => h, .inl⟩

theorem Grows.trans {k : Kind} {t'' : Tree} (h : Grows k t t') (h' : Grows k t' t'') :
    Grows k t t'' where
  here_eq := h'.here_eq.trans h.here_eq
  kept := fun hx => h'.kept (h.kept hx)
  new := by
    intro x k' hx
    rcases h'.new hx with hx | hk
    · exact h.new hx
    · exact .inr hk

/-- Putting a node in place of one of its kind adds nothing, and putting it where there is
none adds one of its kind. -/
theorem grows_put {k : Kind} {place : List String} {n : Node}
    (h : t.kind? place = some n.kind ∨ t.kind? place = none ∧ n.kind = k) :
    Grows k t (t.put place n) where
  here_eq := rfl
  kept := by
    intro x k' hx
    rw [kind?_put]
    split
    · next hroot =>
      rw [kind?_root hroot] at hx
      exact hx
    · split
      · next hkey =>
        rw [kind?_of_key_eq hkey] at hx
        rcases h with h | ⟨h, -⟩
        · rw [← h, hx]
        · rw [h] at hx
          cases hx
      · exact hx
  new := by
    intro x k' hx
    rw [kind?_put] at hx
    split at hx
    · next hroot => exact .inl ((kind?_root hroot).trans hx)
    · split at hx
      · next hkey =>
        cases hx
        rw [kind?_of_key_eq hkey]
        exact h.imp_right And.right
      · exact .inl hx

theorem grows_of_makeAlong_eq_ok {place names : List String}
    (h : t.makeAlong place names = .ok t') : Grows .directory t t' := by
  induction names generalizing t place with
  | nil =>
    cases h
    exact .refl _ _
  | cons name rest ih =>
    rw [makeAlong] at h
    split at h
    · exact ih h
    · cases h
    · next hnone =>
      have hput : Grows .directory t (t.put (follow place name) (.directory 0o755)) :=
        grows_put (.inr ⟨by simp [kind?, hnone], rfl⟩)
      exact hput.trans (ih h)

theorem grows_of_makeDirectories_eq_ok {path : String}
    (h : t.makeDirectories path = .ok t') : Grows .directory t t' := by
  rw [makeDirectories] at h
  split at h
  · cases h
    exact .refl _ _
  · split at h
    · cases h
    · exact grows_of_makeAlong_eq_ok h

/-- What stands at a path stands at its place. -/
theorem exists_place_of_stat_eq_ok {path : String} {n : Node} (h : t.stat path = .ok n) :
    ∃ place, t.place path = .ok place ∧ t.node? place = some n ∧
      (path.toList.getLast? = some '/' → n.isDirectory = true) := by
  rw [stat] at h
  split at h
  · cases h
  · next place hplace =>
    split at h
    · cases h
    · next node hnode =>
      split at h
      · cases h
      · next hlast =>
        cases h
        refine ⟨place, hplace, hnode, fun hslash => ?_⟩
        simpa [hslash] using hlast

theorem grows_of_setMode_eq_ok {k : Kind} {path : String} {mode : Nat}
    (h : t.setMode path mode = .ok t') : Grows k t t' := by
  rw [setMode] at h
  split at h
  · next n place hstat hplace =>
    cases h
    obtain ⟨place', hplace', hnode, -⟩ := exists_place_of_stat_eq_ok hstat
    rw [hplace] at hplace'
    cases hplace'
    exact grows_put (.inl (by simp [kind?, hnode]))
  · cases h
  · cases h

/-! ## Places of paths -/

theorem walk_eq_ok_of_directories
    (h : ∀ x, t.kind? x = some .directory → t'.kind? x = some .directory)
    {place names target : List String} (hwalk : t.walk place names = .ok target) :
    t'.walk place names = .ok target := by
  fun_induction walk t place names with
  | case1 place => exact hwalk
  | case2 place name => exact hwalk
  | case3 place name rest hrest mode hnode ih =>
    have hkind := h _ (kind?_eq_directory_iff.mpr ⟨mode, hnode⟩)
    obtain ⟨mode', hnode'⟩ := kind?_eq_directory_iff.mp hkind
    rw [walk, hnode']
    · exact ih hwalk
    · exact hrest
  | case4 => cases hwalk
  | case5 => cases hwalk

/-- A path leads to where it led as long as every directory stays. -/
theorem place_eq_ok_of_directories (hhere : t'.here = t.here)
    (h : ∀ x, t.kind? x = some .directory → t'.kind? x = some .directory)
    {path : String} {place : List String} (hplace : t.place path = .ok place) :
    t'.place path = .ok place := by
  rw [Tree.place] at hplace ⊢
  have hstart : t'.start path = t.start path := by
    simp only [start, hhere]
  split at hplace
  · cases hplace
  · next hpath =>
    split at hplace
    · cases hplace
    · next target hwalk =>
      simp only [hstart, walk_eq_ok_of_directories h hwalk]
      split at hplace
      · next hdot =>
        rw [if_pos hdot]
        rw [enter] at hplace ⊢
        split at hplace
        · next mode hnode =>
          have hkind := h _ (kind?_eq_directory_iff.mpr ⟨mode, hnode⟩)
          obtain ⟨mode', hnode'⟩ := kind?_eq_directory_iff.mp hkind
          simp only [hnode']
          exact hplace
        · cases hplace
        · cases hplace
      · next hdot =>
        rw [if_neg hdot]
        exact hplace

theorem Grows.place_eq_ok {k : Kind} (h : Grows k t t') {path : String}
    {place : List String} (hplace : t.place path = .ok place) :
    t'.place path = .ok place :=
  place_eq_ok_of_directories h.here_eq (fun _ hx => h.kept hx) hplace

/-- The path from the root of what stands at a path. -/
def target? (t : Tree) (path : String) : Option String :=
  match t.stat path, t.place path with
  | .ok _, .ok place => some (key place)
  | _, _ => none

theorem target?_eq_some_iff {path k : String} :
    t.target? path = some k ↔
      ∃ place n, t.place path = .ok place ∧ t.stat path = .ok n ∧ key place = k := by
  rw [target?]
  constructor
  · intro h
    split at h
    · next n place hstat hplace =>
      cases h
      exact ⟨place, n, hplace, hstat, rfl⟩
    · cases h
  · rintro ⟨place, n, hplace, hstat, rfl⟩
    simp [hplace, hstat]

/-! ## Sockets -/

/-- Whether a path leads to the socket of a number, at a place. -/
structure HasSocket (t : Tree) (path : String) (place : List String) (id : Nat) :
    Prop where
  place_eq : t.place path = .ok place
  kind?_eq : t.kind? place = some (.socket id)
  last_ne : path.toList.getLast? ≠ some '/'

theorem exists_hasSocket_iff {path : String} {id : Nat} :
    (∃ place, t.HasSocket path place id) ↔
    ∃ mode, t.stat path = .ok (.socket mode id) := by
  constructor
  · rintro ⟨place, h⟩
    obtain ⟨mode, hnode⟩ := kind?_eq_socket_iff.mp h.kind?_eq
    refine ⟨mode, ?_⟩
    simp [stat, h.place_eq, hnode, h.last_ne]
  · rintro ⟨mode, h⟩
    obtain ⟨place, hplace, hnode, hlast⟩ := exists_place_of_stat_eq_ok h
    refine ⟨place, hplace, kind?_eq_socket_iff.mpr ⟨mode, hnode⟩, fun hslash => ?_⟩
    cases hlast hslash

theorem HasSocket.target?_eq {path : String} {place : List String} {id : Nat}
    (h : t.HasSocket path place id) : t.target? path = some (key place) := by
  obtain ⟨mode, hstat⟩ := exists_hasSocket_iff.mp ⟨place, h⟩
  exact target?_eq_some_iff.mpr ⟨place, _, h.place_eq, hstat, rfl⟩

/-- A path at which the socket at a place stands leads to that socket. -/
theorem exists_hasSocket_of_target?_eq {path : String} {place : List String} {id : Nat}
    (hkind : t.kind? place = some (.socket id)) (h : t.target? path = some (key place)) :
    ∃ place', t.HasSocket path place' id ∧ key place' = key place := by
  obtain ⟨place', n, hplace, hstat, hkey⟩ := target?_eq_some_iff.mp h
  obtain ⟨_, hplace', hnode, hlast⟩ := exists_place_of_stat_eq_ok hstat
  rw [hplace] at hplace'
  cases hplace'
  rw [kind?_of_key_eq hkey.symm] at hkind
  refine ⟨place', ⟨hplace, hkind, fun hslash => ?_⟩, hkey⟩
  obtain ⟨mode, hsocket⟩ := kind?_eq_socket_iff.mp hkind
  rw [hnode] at hsocket
  cases hsocket
  cases hlast hslash

theorem HasSocket.of_grows {k : Kind} {path : String} {place : List String} {id : Nat}
    (h : t.HasSocket path place id) (hgrows : Grows k t t') :
    t'.HasSocket path place id :=
  ⟨hgrows.place_eq_ok h.place_eq, hgrows.kept h.kind?_eq, h.last_ne⟩

/-- What is removed at a path is what stood there, and that was no directory. -/
theorem exists_remove_of_unlink_eq_ok {path : String} (h : t.unlink path = .ok t') :
    ∃ place, t.target? path = some (key place) ∧ t.kind? place ≠ some .directory ∧
      t' = t.remove place := by
  rw [unlink] at h
  split at h
  · cases h
  · next n place hne hstat hplace =>
    cases h
    refine ⟨place, target?_eq_some_iff.mpr ⟨place, n, hplace, hstat, rfl⟩,
      fun hkind => ?_, rfl⟩
    obtain ⟨place', hplace', hnode, -⟩ := exists_place_of_stat_eq_ok hstat
    rw [hplace] at hplace'
    cases hplace'
    obtain ⟨mode, hnode'⟩ := kind?_eq_directory_iff.mp hkind
    rw [hnode] at hnode'
    cases hnode'
    exact hne mode rfl
  · cases h
  · cases h

/-- A path still leads to its socket after something else was removed. -/
theorem HasSocket.remove {path : String} {place gone : List String} {id : Nat}
    (h : t.HasSocket path place id) (hgone : t.kind? gone ≠ some .directory)
    (hne : key gone ≠ key place) : (t.remove gone).HasSocket path place id where
  place_eq := by
    have hhere : (t.remove gone).here = t.here := rfl
    refine place_eq_ok_of_directories hhere (fun x hx => ?_) h.place_eq
    rw [kind?_remove]
    split
    · rfl
    · split
      · next hkey =>
        rw [kind?_of_key_eq hkey] at hx
        exact absurd hx hgone
      · exact hx
  kind?_eq := by
    have hroot : key place ≠ "/" := by
      intro hroot
      have hkind := h.kind?_eq
      rw [kind?_root hroot] at hkind
      cases hkind
    rw [kind?_remove, if_neg hroot, if_neg hne.symm, h.kind?_eq]
  last_ne := h.last_ne

/-- What stands in a tree from which something was removed stood there before. -/
theorem kind?_eq_of_kind?_remove_eq {x gone : List String} {k : Kind}
    (h : (t.remove gone).kind? x = some k) : t.kind? x = some k := by
  rw [kind?_remove] at h
  split at h
  · next hroot => rw [kind?_root hroot, h]
  · split at h
    · cases h
    · exact h

/-! ## New sockets -/

/-- Whether a tree is another one with a new socket at a path, at a place, and with no
other new socket. -/
structure Gains (t t' : Tree) (path : String) (place : List String) (id : Nat) :
    Prop where
  grows : Grows (.socket id) t t'
  hasSocket : t'.HasSocket path place id
  new : ∀ {x : List String} {other : Nat}, t'.kind? x = some (.socket other) →
    t.kind? x = some (.socket other) ∨ key x = key place

theorem exists_gains_of_bindSocket_eq_ok {path : String} {id : Nat}
    (h : t.bindSocket path id = .ok t') : ∃ place, Gains t t' path place id := by
  rw [bindSocket] at h
  split at h
  · cases h
  · next place hplace =>
    split at h
    · cases h
    · next hnone =>
      split at h
      · cases h
      · next hlast =>
        cases h
        have hkind : t.kind? place = none := by simp [kind?, hnone]
        have hroot : key place ≠ "/" := by
          intro hroot
          rw [kind?_root hroot] at hkind
          cases hkind
        have hgrows : Grows (.socket id) t (t.put place (.socket 0o755 id)) :=
          grows_put (.inr ⟨hkind, rfl⟩)
        refine ⟨place, hgrows, ⟨hgrows.place_eq_ok hplace, ?_, hlast⟩, ?_⟩
        · simp [kind?_put, hroot, Node.kind]
        · intro x other hx
          by_cases hkey : key x = key place
          · exact .inr hkey
          · rw [kind?_put, if_neg hkey] at hx
            split at hx
            · cases hx
            · exact .inl hx

theorem Gains.setMode {path path' : String} {place : List String} {id mode : Nat}
    {t'' : Tree} (h : Gains t t' path place id)
    (hmode : t'.setMode path' mode = .ok t'') : Gains t t'' path place id where
  grows := h.grows.trans (grows_of_setMode_eq_ok hmode)
  hasSocket := h.hasSocket.of_grows (k := .directory) (grows_of_setMode_eq_ok hmode)
  new := by
    intro x other hx
    have hsame : Grows .directory t' t'' := grows_of_setMode_eq_ok hmode
    rcases hsame.new hx with hx | hx
    · exact h.new hx
    · cases hx

/-! ## Connections -/

theorem connect_eq_ok_iff {listening : Nat → Bool} {path : String} {id : Nat} :
    t.connect listening path = .ok id ↔
      (∃ place, t.HasSocket path place id) ∧ listening id = true := by
  rw [exists_hasSocket_iff, connect]
  constructor
  · intro h
    split at h
    · next mode other hstat =>
      split at h
      · next hlistening =>
        cases h
        exact ⟨⟨mode, hstat⟩, hlistening⟩
      · cases h
    · cases h
    · cases h
  · rintro ⟨⟨mode, hstat⟩, hlistening⟩
    simp [hstat, hlistening]

end Tree

/-- What answers is a socket that is listened on, at a path that can be the name
of one. -/
theorem Site.isLive_iff {site : Site} {path : String} :
    site.isLive path = true ↔ checkSocketPath path = .ok () ∧
      ∃ place id, site.tree.HasSocket path place id ∧ id ∈ site.sockets := by
  rw [isLive, Site.connect]
  cases checkSocketPath path with
  | error fault => simp
  | ok =>
    cases hconnect : site.tree.connect site.sockets.contains path with
    | ok id =>
      obtain ⟨⟨place, hsocket⟩, hmem⟩ := Tree.connect_eq_ok_iff.mp hconnect
      simp only [true_iff, true_and]
      exact ⟨place, id, hsocket, by simpa using hmem⟩
    | error fault =>
      simp only [Bool.false_eq_true, true_and, false_iff]
      rintro ⟨place, id, hsocket, hmem⟩
      have hlistening : site.sockets.contains id = true := by simpa using hmem
      have hok := Tree.connect_eq_ok_iff.mpr ⟨⟨place, hsocket⟩, hlistening⟩
      rw [hconnect] at hok
      cases hok

end CredRelay.Host
