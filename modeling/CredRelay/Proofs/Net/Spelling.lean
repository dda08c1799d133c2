import CredRelay.Net.Address
import CredRelay.Proofs.Text.Numerals
import CredRelay.Proofs.Text.Pieces
/-! Reading the spelling of an internet address back. Four octets between points, and
eight groups between colons with their longest run of zeros left out, stand for the
address they were written for. -/
namespace CredRelay.Net

open Text

/-! ## Octets -/

/-- The four octets of a version 4 address, first to last. -/
def octets (bits : BitVec 32) : List Nat :=
  [bits.toNat / 16777216, bits.toNat / 65536 % 256, bits.toNat / 256 % 256,
    bits.toNat % 256]

theorem lt_of_mem_octets {bits : BitVec 32} {n : Nat} (h : n ∈ octets bits) :
    n < 256 := by
  have hbits := bits.isLt
  simp only [octets, List.mem_cons, List.not_mem_nil, or_false] at h
  omega

/-- A version 4 address is spelled octet by octet. -/
theorem splitOn_v4Text (bits : BitVec 32) :
    (v4Text bits).toList.splitOn '.' = (octets bits).map (Nat.toDigits 10) := by
  have hlist :
      (v4Text bits).toList = ['.'].intercalate ((octets bits).map (Nat.toDigits 10)) := by
    simp [v4Text, joinWith, octets, toList_decimal]
  rw [hlist, List.splitOn_intercalate]
  · intro l hl
    obtain ⟨n, -, rfl⟩ := List.mem_map.mp hl
    intro hmem
    exact absurd (isDigit_of_mem_toDigits hmem) (by decide)
  · simp [octets]

/-! ## Groups -/

theorem lt_of_mem_groups {bits : BitVec 128} {g : Nat} (h : g ∈ groups bits) :
    g < 65536 := by
  obtain ⟨i, -, rfl⟩ := List.mem_map.mp h
  exact Nat.mod_lt _ (by decide)

theorem length_groups (bits : BitVec 128) : (groups bits).length = 8 := by
  simp [groups]

/-- The groups of an address make its bits. -/
theorem foldl_groups (bits : BitVec 128) :
    BitVec.ofNat 128 ((groups bits).foldl (fun n g => n * 65536 + g) 0) = bits := by
  have hbits := bits.isLt
  have hfold : (groups bits).foldl (fun n g => n * 65536 + g) 0 = bits.toNat := by
    simp only [groups, List.range, List.range.loop, List.map, List.foldl,
      Nat.shiftRight_eq_div_pow]
    omega
  rw [hfold, BitVec.ofNat_toNat, BitVec.setWidth_eq]

theorem group?_toDigits {g : Nat} (h : g < 65536) :
    group? (Nat.toDigits 16 g) = some g := by
  have hlength : (Nat.toDigits 16 g).length ≤ 4 :=
    (Nat.length_toDigits_le_iff (by decide) (by decide)).mpr h
  rw [group?, if_pos hlength, numeral?_toDigits (by decide) (by decide)]

theorem groups?_map_toDigits {gs : List Nat} (h : ∀ g ∈ gs, g < 65536) (tail : Bool) :
    groups? tail (gs.map (Nat.toDigits 16)) = some gs := by
  induction gs with
  | nil => rfl
  | cons g gs ih =>
    have hg := group?_toDigits (h g List.mem_cons_self)
    have hgs := ih fun a ha => h a (List.mem_cons_of_mem g ha)
    cases gs with
    | nil => simp [groups?, hg]
    | cons a gs =>
      rw [List.map_cons] at hgs
      simp only [List.map_cons, groups?, hg, hgs]

/-- Groups with colons between. -/
def colons (gs : List Nat) : List Char :=
  [':'].intercalate (gs.map (Nat.toDigits 16))

theorem toList_joinWith_hexadecimal (gs : List Nat) :
    (joinWith ":" (gs.map hexadecimal)).toList = colons gs := by
  rw [joinWith, String.toList_intercalate, List.map_map, colons]
  have hdigits : String.toList ∘ hexadecimal = Nat.toDigits 16 := by
    funext g
    rw [Function.comp_apply, hexadecimal, String.toList_ofList]
  rw [hdigits]
  rfl

theorem colon_not_mem_toDigits (g : Nat) : ':' ∉ Nat.toDigits 16 g := by
  intro hmem
  obtain ⟨d, hd, hc⟩ := exists_digitChar_of_mem_toDigits (by decide) hmem
  have hall : ∀ d < 16, ':' ≠ Nat.digitChar d := by decide
  exact hall d hd hc

theorem splitOn_colons {gs : List Nat} (h : gs ≠ []) :
    (colons gs).splitOn ':' = gs.map (Nat.toDigits 16) := by
  rw [colons, List.splitOn_intercalate]
  · intro l hl
    obtain ⟨g, -, rfl⟩ := List.mem_map.mp hl
    exact colon_not_mem_toDigits g
  · simpa using h

theorem colons_eq_nil_iff {gs : List Nat} : colons gs = [] ↔ gs = [] := by
  constructor
  · intro h
    cases gs with
    | nil => rfl
    | cons g gs =>
      have hsplit := splitOn_colons (List.cons_ne_nil g gs)
      rw [h, List.splitOn_nil] at hsplit
      have hfirst : [] = Nat.toDigits 16 g := (List.cons.inj hsplit).1
      exact absurd hfirst.symm Nat.toDigits_ne_nil
  · rintro rfl
    rfl

/-! ## The mark of zeros -/

theorem cutText_go_colon {s : List Char} (h : s.head? ≠ some ':') (before : List Char) :
    cutText.go [':', ':'] before (':' :: s) =
      cutText.go [':', ':'] (':' :: before) s := by
  have hafter : after? [':', ':'] (':' :: s) = none := by
    rw [after?, if_pos rfl]
    cases s with
    | nil => rfl
    | cons c s =>
      rw [after?, if_neg]
      rintro rfl
      exact h rfl
  rw [cutText.go, hafter]

theorem colons_cons_cons (g a : Nat) (gs : List Nat) :
    colons (g :: a :: gs) = Nat.toDigits 16 g ++ ':' :: colons (a :: gs) := by
  simp [colons, List.intercalate_cons_cons]

theorem head?_colons_cons (g : Nat) (gs : List Nat) (t : List Char) :
    (colons (g :: gs) ++ t).head? ≠ some ':' := by
  obtain ⟨d, digits, hdigits⟩ :=
    List.exists_cons_of_ne_nil (Nat.toDigits_ne_nil (n := g) (b := 16))
  have hd : d ≠ ':' := by
    rintro rfl
    exact colon_not_mem_toDigits g (by simp [hdigits])
  cases gs with
  | nil => simpa [colons, hdigits] using hd
  | cons a gs => simpa [colons_cons_cons, hdigits] using hd

/-- No mark of zeros starts within groups between which single colons stand. -/
theorem cutText_go_colons (gs : List Nat) (before t : List Char) :
    cutText.go [':', ':'] before (colons gs ++ t) =
      cutText.go [':', ':'] ((colons gs).reverse ++ before) t := by
  induction gs generalizing before with
  | nil => rfl
  | cons g gs ih =>
    cases gs with
    | nil =>
      have hone : colons [g] = Nat.toDigits 16 g := by simp [colons]
      rw [hone]
      exact cutText_go_append (colon_not_mem_toDigits g) [':'] before t
    | cons a gs =>
      rw [colons_cons_cons, List.append_assoc, List.cons_append,
        cutText_go_append (colon_not_mem_toDigits g),
        cutText_go_colon (head?_colons_cons a gs t), ih]
      simp

theorem cutText_colons (gs : List Nat) : cutText [':', ':'] (colons gs) = none := by
  have hgo := cutText_go_colons gs [] []
  rw [List.append_nil] at hgo
  rw [cutText, hgo]
  rfl

theorem cutText_colons_append (gs : List Nat) (t : List Char) :
    cutText [':', ':'] (colons gs ++ ':' :: ':' :: t) = some (colons gs, t) := by
  rw [cutText, cutText_go_colons, cutText.go]
  simp [after?]

/-! ## The longest run of zeros -/

/-- The run that is left out is one of zeros. -/
theorem longestZeroRun_le (gs : List Nat) :
    (longestZeroRun gs).2 ≤ zeroRun (gs.drop (longestZeroRun gs).1) := by
  -- Any run that is one of zeros stays one whichever start is tried next.
  have hstep : ∀ (starts : List Nat) (best : Nat × Nat),
      best.2 ≤ zeroRun (gs.drop best.1) →
      let found := starts.foldl
        (fun (best : Nat × Nat) i =>
          let n := zeroRun (gs.drop i)
          if best.2 < n then (i, n) else best) best
      found.2 ≤ zeroRun (gs.drop found.1) := by
    intro starts
    induction starts with
    | nil => exact fun best h => h
    | cons i starts ih =>
      intro best h
      rw [List.foldl_cons]
      refine ih _ ?_
      dsimp only
      split
      · exact Nat.le_refl _
      · exact h
  exact hstep _ _ (Nat.zero_le _)

theorem take_of_le_zeroRun {gs : List Nat} {n : Nat} (h : n ≤ zeroRun gs) :
    gs.take n = List.replicate n 0 := by
  induction gs generalizing n with
  | nil =>
    have hn : n = 0 := by simpa [zeroRun] using h
    rw [hn]
    rfl
  | cons g gs ih =>
    cases n with
    | zero => rfl
    | succ n =>
      rw [zeroRun, List.takeWhile_cons] at h
      split at h
      · next hg =>
        rw [List.take_succ_cons, List.replicate_succ, ih (Nat.le_of_succ_le_succ h),
          beq_iff_eq.mp hg]
      · exact absurd h (Nat.not_succ_le_zero n)

/-- Groups are those before the run, the zeros of the run, and those after it. -/
theorem eq_take_append_zeros_append_drop (gs : List Nat) :
    gs = gs.take (longestZeroRun gs).1 ++ List.replicate (longestZeroRun gs).2 0 ++
      gs.drop ((longestZeroRun gs).1 + (longestZeroRun gs).2) := by
  have hzeros := take_of_le_zeroRun (longestZeroRun_le gs)
  rw [← hzeros, List.append_assoc, ← List.drop_drop, List.take_append_drop,
    List.take_append_drop]

theorem sideGroups?_colons {gs : List Nat} (h : ∀ g ∈ gs, g < 65536) (tail : Bool) :
    sideGroups? tail (colons gs) = some gs := by
  rw [sideGroups?]
  split
  · next hempty =>
    rw [colons_eq_nil_iff.mp (List.isEmpty_iff.mp hempty)]
  · next hempty =>
    have hne : gs ≠ [] := by
      rintro rfl
      exact hempty rfl
    rw [splitOn_colons hne, groups?_map_toDigits h]

/-! ## Whole addresses -/

/-- A version 6 address is written as the groups before and after the run that is
left out. -/
theorem toList_groupsText (gs : List Nat) :
    (groupsText gs).toList =
      if (longestZeroRun gs).2 < 2 then colons gs
      else colons (gs.take (longestZeroRun gs).1) ++ ':' :: ':' ::
        colons (gs.drop ((longestZeroRun gs).1 + (longestZeroRun gs).2)) := by
  have htext : groupsText gs =
      if (longestZeroRun gs).2 < 2 then joinWith ":" (gs.map hexadecimal)
      else joinWith ":" ((gs.take (longestZeroRun gs).1).map hexadecimal) ++ "::" ++
        joinWith ":" ((gs.drop ((longestZeroRun gs).1 + (longestZeroRun gs).2)).map
          hexadecimal) := rfl
  rw [htext]
  split
  · exact toList_joinWith_hexadecimal gs
  · rw [String.toList_append, String.toList_append, toList_joinWith_hexadecimal,
      toList_joinWith_hexadecimal, List.append_assoc]
    rfl

theorem eightGroups?_groupsText {gs : List Nat} (hlength : gs.length = 8)
    (h : ∀ g ∈ gs, g < 65536) : eightGroups? (groupsText gs).toList = some gs := by
  have hne : gs ≠ [] := by
    rintro rfl
    cases hlength
  rw [toList_groupsText]
  split
  · rw [eightGroups?, cutText_colons]
    simp only [splitOn_colons hne, groups?_map_toDigits h, hlength, if_true]
  · next hrun =>
    have hall := eq_take_append_zeros_append_drop gs
    generalize (longestZeroRun gs).1 = start at *
    generalize (longestZeroRun gs).2 = n at *
    have hleft : sideGroups? false (colons (gs.take start)) = some (gs.take start) :=
      sideGroups?_colons (fun g hg => h g (List.mem_of_mem_take hg)) false
    have hright : sideGroups? true (colons (gs.drop (start + n))) =
        some (gs.drop (start + n)) :=
      sideGroups?_colons (fun g hg => h g (List.mem_of_mem_drop hg)) true
    have hlengths : (gs.take start).length + n + (gs.drop (start + n)).length = 8 := by
      rw [← hlength]
      conv_rhs => rw [hall]
      rw [List.length_append, List.length_append, List.length_replicate]
    -- The reader puts in as many zeros as are wanting to eight groups, and that is
    -- the run.
    have hfits : (gs.take start).length + (gs.drop (start + n)).length ≤ 7 := by omega
    have hzeros : 8 - (gs.take start).length - (gs.drop (start + n)).length = n := by
      omega
    rw [eightGroups?, cutText_colons_append]
    simp only [hleft, hright, if_pos hfits, hzeros]
    rw [← hall]

/-- The spelling of a version 6 address stands for that address. -/
theorem v6?_groupsText (bits : BitVec 128) :
    v6? (groupsText (groups bits)).toList = some bits := by
  rw [v6?, eightGroups?_groupsText (length_groups bits) fun g hg => lt_of_mem_groups hg,
    Option.map_some, foldl_groups]

end CredRelay.Net
