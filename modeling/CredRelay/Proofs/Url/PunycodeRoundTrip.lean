import CredRelay.Proofs.Url.Punycode
/-! Punycode read back. The reader of a written text stands, after every number, where the
writer stood when it wrote that number: its text is the part of the whole text that was
placed so far. -/
namespace CredRelay.Url.Punycode

/-! ## Digits and biases -/

theorem value?_digit {n : Nat} (h : n < 36) : value? (digit n) = some n := by
  have hall : ∀ m < 36, value? (digit m) = some m := by decide
  exact hall n h

theorem scale_le {delta k j : Nat} (h : delta ≤ 455 * Nat.pow 35 j) :
    scale delta k ≤ k + 36 * j + 33 := by
  induction j generalizing delta k with
  | zero =>
    have hle : delta ≤ 455 := h
    have hlast : 36 * delta / (delta + 38) < 34 :=
      (Nat.div_lt_iff_lt_mul (by omega)).mpr (by omega)
    rw [scale, if_neg (by omega)]
    omega
  | succ j ih =>
    have hle : delta ≤ 455 * (Nat.pow 35 j * 35) := h
    rw [scale]
    split
    · have := ih (k := k + 36) (show delta / 35 ≤ 455 * Nat.pow 35 j by omega)
      omega
    · have hlast : 36 * delta / (delta + 38) < 34 :=
        (Nat.div_lt_iff_lt_mul (by omega)).mpr (by omega)
      omega

theorem adapt_le {delta : Nat} (h : delta < 4294967296) (count : Nat) (first : Bool) :
    adapt delta count first ≤ 213 := by
  have hd : (if first then delta / 700 else delta / 2) < 4294967296 := by split <;> omega
  have hshare := Nat.div_le_self (if first then delta / 700 else delta / 2) count
  have hle := scale_le (k := 0) (j := 5)
    (show (if first then delta / 700 else delta / 2) +
      (if first then delta / 700 else delta / 2) / count ≤ 455 * Nat.pow 35 5 by
        rw [show Nat.pow 35 5 = 52521875 from rfl]
        omega)
  exact hle

/-! ## Numbers -/

/-- The next weight stays in range where there is a next digit. While thresholds are below
the highest the weights are powers of 35, and the bias allows for few of these. -/
theorem weight_lt {q k bias j weight : Nat} (hle : bias ≤ 213) (hk : k = 36 * (j + 1))
    (hweight : k < bias + 26 → weight ≤ Nat.pow 35 j) (hq : threshold k bias ≤ q)
    (hsum : q * weight < 4294967296) : weight * (36 - threshold k bias) < 4294967296 := by
  have hpos := threshold_pos k bias
  -- At the highest threshold the number itself is large enough to bound the next weight;
  -- before that it is not, and the weight is bounded by the few places there are.
  by_cases hlow : k < bias + 26
  · have hpow : weight ≤ Nat.pow 35 5 :=
      Nat.le_trans (hweight hlow) (Nat.pow_le_pow_right (by decide) (by omega))
    calc weight * (36 - threshold k bias)
        ≤ Nat.pow 35 5 * 35 := Nat.mul_le_mul hpow (by omega)
      _ < 4294967296 := by decide
  · have hhigh : threshold k bias = 26 := by
      rw [threshold, if_neg (by omega), if_pos (by omega)]
    rw [hhigh] at hq ⊢
    calc weight * (36 - 26)
        ≤ q * weight := by rw [Nat.mul_comm]; exact Nat.mul_le_mul_right weight (by omega)
      _ < 4294967296 := hsum

/-- The digit at a place and the number behind it make up the number from that
place on. -/
theorem digit_add_rest {q t : Nat} (hq : t ≤ q) (weight : Nat) :
    (t + (q - t) % (36 - t)) * weight + (q - t) / (36 - t) * (weight * (36 - t)) =
      q * weight := by
  have hmod := Nat.mod_add_div (q - t) (36 - t)
  rw [Nat.mul_comm weight, ← Nat.mul_assoc, ← Nat.add_mul,
    Nat.mul_comm ((q - t) / (36 - t))]
  congr 1
  omega

/-- A number that was written is read as what it says, if it stays in range. -/
theorem foldlM_step_number {q k bias j : Nat} {r : Reader} (hplace : r.place = k)
    (hbias : r.bias = bias) (hle : bias ≤ 213) (hk : k = 36 * (j + 1))
    (hweight : k < bias + 26 → r.weight ≤ Nat.pow 35 j)
    (hsum : r.sum + q * r.weight < 4294967296) :
    (number q k bias).foldlM Reader.step r = r.insert (r.sum + q * r.weight) := by
  have ht := threshold_le k bias
  have hpos := threshold_pos k bias
  -- The number shrinks from digit to digit while what it adds to the sum stays the same.
  induction q using Nat.strongRecOn generalizing k j r with
  | ind q ih =>
    rw [number]
    by_cases hq : q < threshold k bias
    · have hstep : r.step (digit q) = r.insert (r.sum + q * r.weight) := by
        simp only [Reader.step, value?_digit (show q < 36 by omega), hplace, hbias]
        rw [if_neg (by omega), if_pos hq]
      rw [if_pos hq, List.foldlM_cons, hstep]
      cases r.insert (r.sum + q * r.weight) <;> rfl
    · rw [Nat.not_lt] at hq
      have hmod : (q - threshold k bias) % (36 - threshold k bias) <
          36 - threshold k bias :=
        Nat.mod_lt _ (by omega)
      have hparts := digit_add_rest hq r.weight
      have hnext := weight_lt hle hk hweight hq (by omega)
      generalize hd :
        threshold k bias + (q - threshold k bias) % (36 - threshold k bias) = d at *
      generalize hrest : (q - threshold k bias) / (36 - threshold k bias) = rest at *
      let after : Reader := { r with
        sum := r.sum + d * r.weight
        weight := r.weight * (36 - threshold k bias)
        place := k + 36 }
      have hstep : r.step (digit d) = some after := by
        simp only [Reader.step, value?_digit (show d < 36 by omega), hplace, hbias, after]
        rw [if_neg (by omega), if_neg (by omega), if_neg (by omega)]
      have hlt : rest < q := by
        rw [← hrest]
        exact Nat.lt_of_le_of_lt (Nat.div_le_self _ _) (by omega)
      have hweight' : k + 36 < bias + 26 →
          r.weight * (36 - threshold k bias) ≤ Nat.pow 35 (j + 1) := by
        intro hlow
        have hone : threshold k bias = 1 := by rw [threshold, if_pos (by omega)]
        rw [hone]
        exact Nat.mul_le_mul_right 35 (hweight (by omega))
      have hsum' : after.sum + rest * after.weight = r.sum + q * r.weight := by
        rw [← hparts, ← Nat.add_assoc]
      rw [if_neg (by omega), List.foldlM_cons, hstep]
      show (number rest (k + 36) bias).foldlM Reader.step after = _
      rw [ih rest hlt (k := k + 36) (j := j + 1) (r := after) rfl hbias
        (by omega) hweight'
        (by rw [hsum']; exact hsum) (threshold_le _ _) (threshold_pos _ _), hsum']
      rfl

/-! ## The reader behind the writer -/

/-- The characters of a text before a code point. -/
def below (n : Nat) (s : List Char) : List Char :=
  s.filter (fun c => c.toNat < n)

theorem below_append (n : Nat) (u v : List Char) :
    below n (u ++ v) = below n u ++ below n v :=
  List.filter_append _ _

theorem below_cons_of_lt {n : Nat} {c : Char} (h : c.toNat < n) (s : List Char) :
    below n (c :: s) = c :: below n s :=
  List.filter_cons_of_pos (by simpa using h)

theorem below_cons_of_le {n : Nat} {c : Char} (h : n ≤ c.toNat) (s : List Char) :
    below n (c :: s) = below n s :=
  List.filter_cons_of_neg (by simpa using h)

theorem length_below_le (n : Nat) (s : List Char) : (below n s).length ≤ s.length :=
  List.length_filter_le _ _

/-- Where the reader of what was written stands while the code point `n` is being placed
in `u ++ v`, of which `u` is passed: its text holds what was placed so far, and the steps
of the writer lead to the place behind what was placed in `u`. -/
structure Follows (ascii n : Nat) (u v : List Char) (w : Writer) (r : Reader) : Prop where
  text : r.text = below (n + 1) u ++ below n v
  placed : w.placed = r.text.length
  point_le : r.point ≤ n
  steps :
    r.origin + w.steps = (n - r.point) * (r.text.length + 1) + (below (n + 1) u).length
  bias : r.bias = w.bias
  bias_le : w.bias ≤ 213
  sum : r.sum = r.origin
  weight : r.weight = 1
  place : r.place = 36
  first : (r.origin == 0) = (w.placed == ascii)
  ascii_le : ascii ≤ w.placed

/-- Whether a reader of all that was written follows the writer. -/
def Readable (start : Reader) (ascii n : Nat) (u v : List Char) (w : Writer) : Prop :=
  ∃ r, w.written.reverse.foldlM Reader.step start = some r ∧ Follows ascii n u v w r

variable {start : Reader} {ascii n : Nat} {u v s : List Char} {w : Writer} {r : Reader}

/-- The number that places a character stays in range: a name has few characters. -/
theorem Follows.sum_lt (h : Follows ascii n u v w r) (hn : n ≤ 0x10FFFF)
    (hlength : (u ++ v).length ≤ 1000) : r.origin + w.steps < 4294967296 := by
  have htext : r.text.length ≤ 1000 := by
    have hu := length_below_le (n + 1) u
    have hv := length_below_le n v
    rw [h.text, List.length_append]
    rw [List.length_append] at hlength
    omega
  have hu : (below (n + 1) u).length ≤ r.text.length := by
    rw [h.text, List.length_append]
    omega
  have hmul : (n - r.point) * (r.text.length + 1) ≤ 0x10FFFF * 1001 :=
    Nat.mul_le_mul (by omega) (by omega)
  rw [h.steps]
  omega

/-- What the reader inserts for the number of steps: the character at the place
behind `u`. -/
theorem Follows.insert_eq {c : Char} (h : Follows ascii n u (c :: v) w r)
    (hc : c.toNat = n) : r.insert (r.origin + w.steps) = some {
      text := below (n + 1) u ++ c :: below n v
      point := n
      origin := (below (n + 1) u).length + 1
      sum := (below (n + 1) u).length + 1
      weight := 1
      place := 36
      bias := adapt w.steps (w.placed + 1) (w.placed == ascii) } := by
  have hbelow : below n (c :: v) = below n v := below_cons_of_le (by omega) v
  have htext := h.text
  rw [hbelow] at htext
  have hle : (below (n + 1) u).length < r.text.length + 1 := by
    rw [htext, List.length_append]
    omega
  have hdiv : (r.origin + w.steps) / (r.text.length + 1) = n - r.point := by
    rw [h.steps, Nat.mul_comm, Nat.mul_add_div (by omega), Nat.div_eq_of_lt hle,
      Nat.add_zero]
  have hmod : (r.origin + w.steps) % (r.text.length + 1) = (below (n + 1) u).length := by
    rw [h.steps, Nat.mul_add_mod', Nat.mod_eq_of_lt hle]
  have hpoint : r.point + (n - r.point) = n := Nat.add_sub_cancel' h.point_le
  have hvalid : n.isValidChar := hc ▸ c.valid
  have hchar : Char.ofNat n = c := by rw [← hc, Char.ofNat_toNat]
  rw [Reader.insert, hdiv, hmod, hpoint, if_pos hvalid, hchar, htext, List.take_left,
    List.drop_left, ← htext, Nat.add_sub_cancel_left, h.first, h.placed]

/-- Placing a character: its number takes the reader to its place. -/
theorem Follows.insert {c : Char} (h : Follows ascii n u (c :: v) w r) (hc : c.toNat = n)
    (hlength : (u ++ c :: v).length ≤ 1000) :
    ∃ r', (number w.steps 36 w.bias).foldlM Reader.step r = some r' ∧
      Follows ascii n (u ++ [c]) v (w.pass ascii n c) r' := by
  have hn : n ≤ 0x10FFFF := by
    have hvalid : c.toNat.isValidChar := c.valid
    simp only [Nat.isValidChar] at hvalid
    omega
  have hlt := h.sum_lt hn hlength
  have hread : (number w.steps 36 w.bias).foldlM Reader.step r =
      r.insert (r.origin + w.steps) := by
    have hone : r.weight ≤ Nat.pow 35 0 := Nat.le_of_eq h.weight
    rw [foldlM_step_number h.place h.bias h.bias_le rfl (fun _ => hone)
      (by rw [h.sum, h.weight]; omega), h.sum, h.weight, Nat.mul_one]
  have hpass : w.pass ascii n c = { w with
      steps := 0
      bias := adapt w.steps (w.placed + 1) (w.placed == ascii)
      placed := w.placed + 1
      written := (number w.steps 36 w.bias).reverse ++ w.written } := by
    rw [Writer.pass, if_neg (by omega), if_pos hc]
  have hbelow : below (n + 1) (u ++ [c]) = below (n + 1) u ++ [c] := by
    rw [below_append, below_cons_of_lt (by omega)]
    rfl
  have hlength' : r.text.length = (below (n + 1) u).length + (below n v).length := by
    rw [h.text, below_cons_of_le (by omega), List.length_append]
  -- The number is spent, so the reader's sum starts again from the place behind the
  -- character.
  refine ⟨_, hread.trans (h.insert_eq hc), ?_⟩
  rw [hpass]
  constructor
  case text => simp [hbelow]
  case placed =>
    simp [h.placed, hlength']
    omega
  case point_le => exact Nat.le_refl n
  case steps => simp [hbelow]
  case bias => rfl
  case bias_le => exact adapt_le (by omega) _ _
  case sum => rfl
  case weight => rfl
  case place => rfl
  case first =>
    have := h.ascii_le
    simp
    omega
  case ascii_le => exact Nat.le_succ_of_le h.ascii_le

/-- Steps without a number leave the reader where it is. -/
theorem Readable.advance {n' d next : Nat} {u' v' : List Char}
    (h : Readable start ascii n u v w) (hn : n ≤ n')
    (htext : below (n + 1) u ++ below n v = below (n' + 1) u' ++ below n' v')
    (hd : (below (n + 1) u).length + d =
      (n' - n) * ((below (n + 1) u ++ below n v).length + 1) +
      (below (n' + 1) u').length) :
    Readable start ascii n' u' v' { w with steps := w.steps + d, next := next } := by
  obtain ⟨r, hread, hr⟩ := h
  refine ⟨r, hread, { hr with
    text := hr.text.trans htext
    point_le := Nat.le_trans hr.point_le hn
    steps := ?_ }⟩
  have hpoint : n' - r.point = (n - r.point) + (n' - n) := by
    have := hr.point_le
    omega
  rw [← hr.text] at hd
  rw [hpoint, Nat.add_mul, Nat.add_assoc, ← hd, ← Nat.add_assoc, ← Nat.add_assoc,
    hr.steps]

/-- Passing one character keeps the reader with the writer. -/
theorem Readable.pass {c : Char} (h : Readable start ascii n u (c :: v) w)
    (hlength : (u ++ c :: v).length ≤ 1000) :
    Readable start ascii n (u ++ [c]) v (w.pass ascii n c) := by
  rcases Nat.lt_trichotomy c.toNat n with hlt | heq | hgt
  · have hpass : w.pass ascii n c = { w with steps := w.steps + 1 } := by
      rw [Writer.pass, if_pos hlt]
    have hu : below (n + 1) (u ++ [c]) = below (n + 1) u ++ [c] := by
      rw [below_append, below_cons_of_lt (by omega)]
      rfl
    rw [hpass]
    refine h.advance (Nat.le_refl n) ?_ ?_
    · rw [hu, below_cons_of_lt hlt, List.append_assoc]
      rfl
    · simp [hu]
  · obtain ⟨r, hread, hr⟩ := h
    obtain ⟨r', hread', hr'⟩ := hr.insert heq hlength
    have hwritten :
        (w.pass ascii n c).written = (number w.steps 36 w.bias).reverse ++ w.written := by
      rw [Writer.pass, if_neg (by omega), if_pos heq]
    refine ⟨r', ?_, hr'⟩
    rw [hwritten, List.reverse_append, List.reverse_reverse, List.foldlM_append, hread]
    exact hread'
  · have hpass : w.pass ascii n c = { w with steps := w.steps + 0 } := by
      rw [Writer.pass, if_neg (by omega), if_neg (by omega), Nat.add_zero]
    have hu : below (n + 1) (u ++ [c]) = below (n + 1) u := by
      rw [below_append, below_cons_of_le (by omega)]
      exact List.append_nil _
    rw [hpass]
    refine h.advance (Nat.le_refl n) ?_ ?_
    · rw [hu, below_cons_of_le (by omega)]
    · simp [hu]

theorem Readable.foldl_pass (h : Readable start ascii n u v w)
    (hlength : (u ++ v).length ≤ 1000) :
    Readable start ascii n (u ++ v) [] (v.foldl (Writer.pass ascii n) w) := by
  induction v generalizing u w with
  | nil => rwa [List.append_nil]
  | cons c v ih =>
    have hstep := ih (h.pass hlength) (by rwa [List.append_assoc])
    rwa [List.append_assoc] at hstep

/-- Placing a code point keeps the reader with the writer, where no code point was
left out. -/
theorem Readable.place (h : Readable start ascii w.next [] s w) (hn : w.next ≤ n)
    (hnone : ∀ c ∈ s, c.toNat < n → c.toNat < w.next) (hlength : s.length ≤ 1000) :
    Readable start ascii (n + 1) [] s (w.place ascii s n) := by
  -- Between the code points there is nothing to place: the steps over them only count.
  have hsame : below w.next s = below n s := by
    refine List.filter_congr fun c hc => ?_
    rw [decide_eq_decide]
    exact ⟨fun hlt => by omega, hnone c hc⟩
  have hbegin : Readable start ascii n [] s
      { w with steps := w.steps + (n - w.next) * (w.placed + 1) } := by
    have hplaced : w.placed = (below w.next s).length := by
      obtain ⟨r, -, hr⟩ := h
      rw [hr.placed, hr.text]
      rfl
    refine h.advance hn (by rw [hsame]; rfl) ?_
    rw [hplaced]
    simp [below]
  have hpassed := hbegin.foldl_pass hlength
  rw [List.nil_append] at hpassed
  refine hpassed.advance (Nat.le_succ n) ?_ ?_
  · simp [below]
  · simp [below]

/-! ## The code points that are placed -/

theorem mem_insertAscending {m n : Nat} {points : List Nat} :
    m ∈ insertAscending n points ↔ m = n ∨ m ∈ points := by
  induction points with
  | nil => simp [insertAscending]
  | cons k points ih =>
    rw [insertAscending]
    split
    · simp
    · split
      · next heq => simp [heq]
      · simp [ih, or_left_comm]

theorem pairwise_insertAscending {n : Nat} {points : List Nat}
    (h : points.Pairwise (· < ·)) : (insertAscending n points).Pairwise (· < ·) := by
  induction points with
  | nil => exact List.pairwise_singleton _ _
  | cons k points ih =>
    obtain ⟨hk, hpoints⟩ := List.pairwise_cons.mp h
    rw [insertAscending]
    split
    · next hlt =>
      refine List.pairwise_cons.mpr ⟨fun m hm => ?_, h⟩
      rcases List.mem_cons.mp hm with rfl | hm
      · exact hlt
      · exact Nat.lt_trans hlt (hk m hm)
    · split
      · exact h
      · refine List.pairwise_cons.mpr ⟨fun m hm => ?_, ih hpoints⟩
        rcases mem_insertAscending.mp hm with rfl | hm
        · omega
        · exact hk m hm

/-- The code points that are placed are in ascending order and those of the text that are
not ASCII. -/
theorem foldl_insertAscending {wide : List Char} {points : List Nat}
    (h : points.Pairwise (· < ·)) :
    (wide.foldl (fun l c => insertAscending c.toNat l) points).Pairwise (· < ·) ∧
      ∀ n, n ∈ wide.foldl (fun l c => insertAscending c.toNat l) points ↔
        n ∈ points ∨ ∃ c ∈ wide, c.toNat = n := by
  induction wide generalizing points with
  | nil => simpa using h
  | cons c wide ih =>
    obtain ⟨hsorted, hmem⟩ := ih (pairwise_insertAscending (n := c.toNat) h)
    refine ⟨hsorted, fun n => ?_⟩
    rw [List.foldl_cons, hmem, mem_insertAscending]
    simp [or_assoc, or_left_comm, eq_comm]

theorem pairwise_widePoints (s : List Char) : (widePoints s).Pairwise (· < ·) :=
  (foldl_insertAscending .nil).1

theorem mem_widePoints {s : List Char} {n : Nat} :
    n ∈ widePoints s ↔ 0x80 ≤ n ∧ ∃ c ∈ s, c.toNat = n := by
  rw [widePoints, (foldl_insertAscending .nil).2]
  simp only [List.not_mem_nil, false_or, List.mem_filter, decide_eq_true_eq]
  constructor
  · rintro ⟨c, ⟨hc, hwide⟩, rfl⟩
    exact ⟨hwide, c, hc, rfl⟩
  · rintro ⟨hwide, c, hc, rfl⟩
    exact ⟨c, ⟨hc, hwide⟩, rfl⟩

/-! ## The round trip -/

/-- Once all code points are placed the reader has the whole text. -/
theorem Readable.foldl_place {points : List Nat} (h : Readable start ascii w.next [] s w)
    (hsorted : points.Pairwise (· < ·)) (hnext : ∀ n ∈ points, w.next ≤ n)
    (hall : ∀ c ∈ s, w.next ≤ c.toNat → c.toNat ∈ points) (hlength : s.length ≤ 1000) :
    ∃ r, (points.foldl (Writer.place ascii s) w).written.reverse.foldlM
        Reader.step start = some r ∧
      r.text = s ∧ r.place = 36 := by
  induction points generalizing w with
  | nil =>
    obtain ⟨r, hread, hr⟩ := h
    refine ⟨r, hread, ?_, hr.place⟩
    rw [hr.text]
    refine List.filter_eq_self.mpr fun c hc => ?_
    rw [decide_eq_true_eq]
    exact Nat.lt_of_not_le fun hle => List.not_mem_nil (hall c hc hle)
  | cons n points ih =>
    obtain ⟨hleast, hsorted'⟩ := List.pairwise_cons.mp hsorted
    have hplaced : Readable start ascii (n + 1) [] s (w.place ascii s n) := by
      refine h.place (hnext n List.mem_cons_self) (fun c hc hlt => ?_) hlength
      refine Nat.lt_of_not_le fun hle => ?_
      rcases List.mem_cons.mp (hall c hc hle) with heq | hmem
      · omega
      · have := hleast _ hmem
        omega
    refine ih (w := w.place ascii s n) hplaced hsorted' (fun m hm => hleast m hm)
      fun c hc hle => ?_
    have hle' : n + 1 ≤ c.toNat := hle
    have hfirst := hnext n List.mem_cons_self
    rcases List.mem_cons.mp (hall c hc (by omega)) with heq | hmem
    · omega
    · exact hmem

/-- No digit is a hyphen, so the last hyphen parts the ASCII characters from the
digits. -/
theorem cutLastHyphen_encode (s : List Char) :
    cutLastHyphen (encode s) = (plainPart s, digits s) := by
  have hdigits : ∀ c ∈ (digits s).reverse, (c != '-') = true := by
    intro c hc
    rw [bne_iff_ne]
    rintro rfl
    exact absurd (isDigitCharacter_of_mem_digits _ (List.mem_reverse.mp hc)) (by decide)
  rw [encode_eq]
  cases plainPart s with
  | nil =>
    have hwhole : (digits s).reverse.takeWhile (· != '-') = (digits s).reverse := by
      have happend : ((digits s).reverse ++ []).takeWhile (· != '-') =
          (digits s).reverse ++ [].takeWhile (· != '-') :=
            List.takeWhile_append_of_pos hdigits
      simpa using happend
    simp [cutLastHyphen, hwhole]
  | cons c plain =>
    have hbehind : (c :: plain ++ ['-'] ++ digits s).reverse.takeWhile (· != '-') =
        (digits s).reverse := by
      rw [List.reverse_append, List.takeWhile_append_of_pos hdigits]
      simp
    have hlength : (c :: plain ++ ['-'] ++ digits s).length =
        (plain.length + 1) + 1 + (digits s).length := by
      simp
      omega
    simp only [List.isEmpty_cons, Bool.false_eq_true, if_false]
    rw [cutLastHyphen, hbehind, List.reverse_reverse, hlength, Nat.add_sub_cancel,
      Nat.add_sub_cancel]
    simp

/-- The text of a label is what its written form is read as. -/
theorem decode?_encode {s : List Char} (h : s.length ≤ 1000) :
    decode? (encode s) = some s := by
  have hstart :
      Readable ⟨plainPart s, 0x80, 0, 0, 1, 36, 72⟩ (plainPart s).length 0x80 [] s
      ⟨0x80, 0, 72, (plainPart s).length, []⟩ := by
    refine ⟨_, rfl, ?_⟩
    constructor <;> simp [below, plainPart]
  obtain ⟨r, hread, htext, hplace⟩ := hstart.foldl_place (pairwise_widePoints s)
    (fun n hn => (mem_widePoints.mp hn).1)
    (fun c hc hwide => mem_widePoints.mpr ⟨hwide, c, hc, rfl⟩) h
  rw [decode?, cutLastHyphen_encode]
  simp only [digits]
  rw [hread]
  simp [htext, hplace]

end CredRelay.Url.Punycode
