import ClientTrial.Decimal.Shortest
import ClientTrial.Proofs.Decimal.Scientific

/-!
# The shortest decimal reads back

The digits that show a number are read as that number.  While fewer than seventeen digits
are tried this is checked on the way; seventeen digits are always near enough, so the
search does not come to an end without an answer.

## Main results

* `leadingPower_bounds` — the powers of ten around a value.
* `rounds_of_close` — a rational that is near enough to a number is read as that number.
* `toFloat_neighbours_head` — seventeen digits are near enough.
* `toFloat_shortest` — **the shortest decimal of a number is read as the number**.
-/

namespace ClientTrial
namespace Decimal

/-! ### Near a number -/

theorem eq_pack_of_ofFloat {x : Float} {s : ℕ} {e : ℤ} (hx : Binary.ofFloat x = .finite false s e)
    (hpos : 0 < s) : x = .ofModel (.pack (.finite .positive s e hpos)) :=
  Binary.eq_of_ofFloat hx (Binary.ofFloat_pack (Binary.canonical_of_ofFloat hx) false hpos)

/-- A number that is found equal to a positive one is the same. -/
theorem eq_of_beq_of_ofFloat {x y : Float} {s : ℕ} {e : ℤ}
    (hx : Binary.ofFloat x = .finite false s e) (hpos : 0 < s) (h : (y == x) = true) :
    y = x := by
  have hplus : Binary.ofFloat 0 = .finite false 0 (-1074) := by decide +kernel
  have hminus : Binary.ofFloat (-0) = .finite true 0 (-1074) := by decide +kernel
  obtain ⟨-, -, hsame | ⟨-, rfl⟩ | ⟨-, rfl⟩⟩ := Float.beq_iff_ne_nan_and_eq.1 h
  · exact hsame
  · cases hminus.symm.trans hx
  · cases hplus.symm.trans hx
    exact absurd hpos (lt_irrefl 0)

/-- Less than half a step from a number, on its grid. -/
theorem rounds_of_near {x : Float} {s : ℕ} {e : ℤ} {t : ℚ}
    (hx : Binary.ofFloat x = .finite false s e) (hpos : 0 < s) (hnear : |t - s| < 1 / 2)
    (hfills : e = -1074 ∨ 2 ^ 52 ≤ t) : Rounds (t * 2 ^ e) x := by
  have hcanonical := Binary.canonical_of_ofFloat hx
  have hsmax : (s : ℚ) ≤ 9007199254740991 := by exact_mod_cast Nat.le_of_lt_succ hcanonical.fits
  obtain ⟨hlow, hhigh⟩ := abs_lt.1 hnear
  have hgrid : OnGrid (t * 2 ^ e) e := by
    refine ⟨hcanonical.least, ?_, ?_⟩
    · rw [add_comm, zpow_add₀ (by norm_num)]
      gcongr
      norm_num
      linarith
    · rcases hfills with h | h
      · exact .inl h
      · right
        rw [add_comm, zpow_add₀ (by norm_num)]
        gcongr
        exact_mod_cast h
  refine ⟨s, e, hgrid, .inl ?_, ?_⟩
  · rwa [mul_div_cancel_right₀ _ (by positivity)]
  · rw [eq_pack_of_ofFloat hx hpos, settled, dif_neg hpos.ne',
      if_pos (lt_of_lt_of_eq hcanonical.fits (by norm_num))]

/-- Just below a power of two the grid is finer, so less than a quarter of a step is needed. -/
theorem rounds_of_near_below {x : Float} {e : ℤ} {t : ℚ}
    (hx : Binary.ofFloat x = .finite false (2 ^ 52) e) (hleast : -1074 < e)
    (hnear : |t - 2 ^ 52| < 1 / 4) (hbelow : t < 2 ^ 52) : Rounds (t * 2 ^ e) x := by
  obtain ⟨hlow, -⟩ := abs_lt.1 hnear
  have hfine : t * 2 ^ e = t * 2 * 2 ^ (e - 1) := by
    rw [zpow_sub_one₀ (by norm_num)]
    ring
  have hgrid : OnGrid (t * 2 ^ e) (e - 1) := by
    rw [hfine]
    refine ⟨by omega, ?_, .inr ?_⟩
    · rw [add_comm, zpow_add₀ (by norm_num)]
      gcongr
      norm_num at hbelow ⊢
      linarith
    · rw [add_comm, zpow_add₀ (by norm_num)]
      gcongr
      norm_num at hlow ⊢
      linarith
  refine ⟨2 ^ 53, e - 1, hgrid, .inl ?_, ?_⟩
  · rw [hfine, mul_div_cancel_right₀ _ (by positivity)]
    have hdouble : t * 2 - ((2 ^ 53 : ℕ) : ℚ) = (t - 2 ^ 52) * 2 := by push_cast; ring
    rw [hdouble, abs_mul, abs_two]
    linarith
  · rw [eq_pack_of_ofFloat hx (by norm_num), settled, dif_neg (by norm_num),
      if_neg (by norm_num), sub_add_cancel]

/-- A rational that is near enough to a number is read as that number. -/
theorem rounds_of_close {x : Float} {s : ℕ} {e : ℤ} {w : ℚ}
    (hx : Binary.ofFloat x = .finite false s e) (hpos : 0 < s)
    (hclose : |w - s * 2 ^ e| * (2 * 10 ^ 16) ≤ s * 2 ^ e) : Rounds w x := by
  have hcanonical := Binary.canonical_of_ofFloat hx
  have hstep : (0 : ℚ) < 2 ^ e := by positivity
  -- everything is measured in steps
  obtain ⟨t, rfl⟩ : ∃ t : ℚ, w = t * 2 ^ e := ⟨w / 2 ^ e, by field_simp⟩
  have hunits : |t - s| * (2 * 10 ^ 16) ≤ s := by
    rw [← sub_mul, abs_mul, abs_of_pos hstep, mul_right_comm] at hclose
    exact le_of_mul_le_mul_right hclose hstep
  have hsmax : (s : ℚ) ≤ 9007199254740991 := by exact_mod_cast Nat.le_of_lt_succ hcanonical.fits
  by_cases hfills : e = -1074 ∨ 2 ^ 52 ≤ t
  · exact rounds_of_near hx hpos (by linarith) hfills
  · obtain ⟨hleast, hbelow⟩ := not_or.1 hfills
    have hs : s = 2 ^ 52 := by
      have hlow := (abs_lt.1 (show |t - s| < 1 / 2 by linarith)).1
      have hlt : (s : ℚ) < 4503599627370497 := by norm_num at hbelow; linarith
      have hnat : s < 4503599627370497 := by exact_mod_cast hlt
      have hge := hcanonical.fills.resolve_left hleast
      omega
    subst hs
    push_cast at hunits
    refine rounds_of_near_below hx (lt_of_le_of_ne hcanonical.least (Ne.symm hleast)) ?_
      (not_le.1 hbelow)
    norm_num at hunits ⊢
    linarith

/-! ### The decimals around a value -/

section Neighbours

variable {num den : ℕ}

/-- The powers of ten around a value. -/
theorem leadingPower_bounds (hnum : 0 < num) (hden : 0 < den) :
    (10 : ℚ) ^ leadingPower num den ≤ (num : ℚ) / den ∧
      (num : ℚ) / den < 10 ^ (leadingPower num den + 1) := by
  have hn : (0 : ℚ) < num := by exact_mod_cast hnum
  have hd : (0 : ℚ) < den := by exact_mod_cast hden
  unfold leadingPower
  split
  · next hge =>
    have hpos : 0 < num / den := Nat.div_pos hge hden
    have hlength := length_digits_pos (num / den)
    have hexp : ((digits (num / den)).length : ℤ) - 1 = ((digits (num / den)).length - 1 : ℕ) := by
      omega
    rw [sub_add_cancel, hexp, zpow_natCast, zpow_natCast, le_div_iff₀ hd, div_lt_iff₀ hd]
    constructor
    · exact_mod_cast (Nat.le_div_iff_mul_le hden).1 (pow_length_le hpos)
    · exact_mod_cast (Nat.div_lt_iff_lt_mul hden).1 (lt_pow_length (num / den))
  · next hlt =>
    -- the inverse is between the whole numbers `k` and `k + 1`
    set k := (den + num - 1) / num - 1 with hk
    have hround : (den + num - 1) / num = k + 1 := by
      have hone : 1 < (den + num - 1) / num + 0 := by
        rw [Nat.add_zero, Nat.lt_div_iff_mul_lt hnum]
        omega
      omega
    have hlow : k * num < den := by
      have hle := (Nat.le_div_iff_mul_le hnum).1 hround.ge
      rw [Nat.add_mul] at hle
      omega
    have hhigh : den ≤ (k + 1) * num := by
      have hlt := Nat.lt_succ_self ((den + num - 1) / num)
      rw [hround, Nat.succ_eq_add_one, ← hround, Nat.div_lt_iff_lt_mul hnum, hround,
        Nat.add_mul (k + 1)] at hlt
      omega
    have hpos : 0 < k := by
      by_contra hzero
      have hk0 : k = 0 := by omega
      rw [hk0] at hhigh
      omega
    have hlength := length_digits_pos k
    have hexp : -((digits k).length : ℤ) + 1 = -((digits k).length - 1 : ℕ) := by omega
    rw [hexp, zpow_neg, zpow_neg, zpow_natCast, zpow_natCast,
      inv_le_iff_one_le_mul₀ (by positivity), lt_inv_comm₀ (by positivity) (by positivity), inv_div]
    constructor
    · have hceil : den ≤ num * 10 ^ (digits k).length := by
        rw [Nat.mul_comm]
        exact le_trans hhigh (Nat.mul_le_mul_right num (lt_pow_length k))
      rw [div_mul_eq_mul_div, le_div_iff₀ hd, one_mul]
      exact_mod_cast hceil
    · have hfloor : 10 ^ ((digits k).length - 1) * num < den :=
        lt_of_le_of_lt (Nat.mul_le_mul_right num (pow_length_le hpos)) hlow
      rw [lt_div_iff₀ hn]
      exact_mod_cast hfloor

/-- A value in units of a power of ten. -/
theorem scaled_ratio (num : ℕ) (hden : 0 < den) (power : ℤ) :
    0 < (scaled num den power).2 ∧
      ((scaled num den power).1 : ℚ) / (scaled num den power).2 = num / den / 10 ^ power := by
  have hd : (0 : ℚ) < den := by exact_mod_cast hden
  constructor
  · exact Nat.mul_pos hden (Nat.pow_pos (by decide))
  · change ((num * 10 ^ (-power).toNat : ℕ) : ℚ) / ((den * 10 ^ power.toNat : ℕ) : ℚ) = _
    have hsplit : (10 : ℚ) ^ power * 10 ^ (-power).toNat = 10 ^ power.toNat := by
      rw [← zpow_natCast, ← zpow_natCast, ← zpow_add₀ (by norm_num)]
      congr 1
      omega
    push_cast
    rw [← hsplit]
    field_simp

/-- The power of ten that the last of so many digits stands for. -/
def lastPower (num den count : ℕ) : ℤ := leadingPower num den - count + 1

/-- The whole part of a value, in units of the last digit. -/
def wholePart (num den count : ℕ) : ℕ :=
  (scaled num den (lastPower num den count)).1 / (scaled num den (lastPower num den count)).2

theorem wholePart_bounds (num : ℕ) (hden : 0 < den) (count : ℕ) :
    (wholePart num den count : ℚ) ≤ num / den / 10 ^ lastPower num den count ∧
      (num / den / 10 ^ lastPower num den count : ℚ) < wholePart num den count + 1 := by
  obtain ⟨hd, hratio⟩ := scaled_ratio num hden (lastPower num den count)
  rw [← hratio]
  obtain ⟨hlow, hhigh⟩ := (tells_quotient (scaled num den (lastPower num den count)).1 hd).within
  exact ⟨hlow, hhigh⟩

theorem mem_neighbours {count : ℕ} {y : Numeral} (hy : y ∈ neighbours num den count) :
    y.exponent = lastPower num den count ∧
      (y.coefficient = wholePart num den count ∨ y.coefficient = wholePart num den count + 1) := by
  unfold neighbours at hy
  dsimp only at hy
  split at hy
  · rw [List.mem_singleton.1 hy]
    exact ⟨rfl, .inl rfl⟩
  · split at hy
    · rcases List.mem_pair.1 hy with rfl | rfl
      · exact ⟨rfl, .inl rfl⟩
      · exact ⟨rfl, .inr rfl⟩
    · rcases List.mem_pair.1 hy with rfl | rfl
      · exact ⟨rfl, .inr rfl⟩
      · exact ⟨rfl, .inl rfl⟩

/-- The decimal that is tried first is off by at most half of its last digit. -/
theorem neighbours_head (num : ℕ) (hden : 0 < den) (count : ℕ) :
    ∃ y ∈ neighbours num den count, (neighbours num den count).headD ⟨0, 0⟩ = y ∧
      |(y.coefficient : ℚ) - num / den / 10 ^ lastPower num den count| ≤ 1 / 2 := by
  obtain ⟨hd, hratio⟩ := scaled_ratio num hden (lastPower num den count)
  have hpos : (0 : ℚ) < (scaled num den (lastPower num den count)).2 := by exact_mod_cast hd
  unfold neighbours
  dsimp only
  rw [← lastPower, ← hratio, quotient_add_rest _ hd]
  generalize (scaled num den (lastPower num den count)).1 = n at *
  generalize (scaled num den (lastPower num den count)).2 = d at *
  have hnonneg : (0 : ℚ) ≤ ((n % d : ℕ) : ℚ) / d := by positivity
  have hlt : ((n % d : ℕ) : ℚ) / d < 1 := by
    rw [div_lt_one hpos]
    exact_mod_cast Nat.mod_lt n hd
  split
  · next hexact =>
    refine ⟨_, List.mem_singleton_self _, rfl, ?_⟩
    rw [hexact]
    norm_num
  · split
    · next hlow =>
      refine ⟨_, List.mem_pair.2 (.inl rfl), rfl, ?_⟩
      have hhalf : ((n % d : ℕ) : ℚ) / d ≤ 1 / 2 := by
        rw [div_le_div_iff₀ hpos (by norm_num)]
        have hnat : (n % d) * 2 ≤ 1 * d := by omega
        exact_mod_cast hnat
      dsimp only
      rw [sub_add_cancel_left, abs_neg, abs_of_nonneg hnonneg]
      exact hhalf
    · next hhigh =>
      refine ⟨_, List.mem_pair.2 (.inl rfl), rfl, ?_⟩
      have hhalf : 1 / 2 ≤ ((n % d : ℕ) : ℚ) / d := by
        rw [div_le_div_iff₀ (by norm_num) hpos]
        have hnat : 1 * d ≤ (n % d) * 2 := by omega
        exact_mod_cast hnat
      dsimp only
      push_cast
      rw [add_sub_add_left_eq_sub, abs_of_pos (by linarith)]
      linarith

/-- The decimals that are tried have as many digits as are asked for, or are the next power of
ten. -/
theorem coefficient_bounds (hnum : 0 < num) (hden : 0 < den) {count : ℕ} (hcount : 0 < count)
    {y : Numeral} (hy : y ∈ neighbours num den count) :
    10 ^ (count - 1) ≤ y.coefficient ∧ y.coefficient ≤ 10 ^ count := by
  obtain ⟨hlow, hhigh⟩ := leadingPower_bounds hnum hden
  obtain ⟨hwhole, hnext⟩ := wholePart_bounds num hden count
  have hstep : (0 : ℚ) < 10 ^ lastPower num den count := by positivity
  have hleast : (10 : ℚ) ^ (count - 1) ≤ num / den / 10 ^ lastPower num den count := by
    rw [le_div_iff₀ hstep, ← zpow_natCast, ← zpow_add₀ (by norm_num)]
    refine le_trans (le_of_eq ?_) hlow
    congr 1
    unfold lastPower
    omega
  have hmost : num / den / 10 ^ lastPower num den count < (10 : ℚ) ^ count := by
    rw [div_lt_iff₀ hstep, ← zpow_natCast, ← zpow_add₀ (by norm_num)]
    refine lt_of_lt_of_eq hhigh ?_
    congr 1
    unfold lastPower
    omega
  have hge : 10 ^ (count - 1) < wholePart num den count + 1 := by
    exact_mod_cast lt_of_le_of_lt hleast hnext
  have hlt : wholePart num den count < 10 ^ count := by
    exact_mod_cast lt_of_le_of_lt hwhole hmost
  rcases (mem_neighbours hy).2 with h | h <;> omega

/-- The decimals that are tried are within reach if the value is. -/
theorem inReach_of_mem_neighbours (hnum : 0 < num) (hden : 0 < den)
    (hleast : -399 ≤ leadingPower num den) (hmost : leadingPower num den ≤ 398) {count : ℕ}
    (hcount : 0 < count) {y : Numeral} (hy : y ∈ neighbours num den count) : y.InReach := by
  obtain ⟨hlow, hhigh⟩ := coefficient_bounds hnum hden hcount hy
  have hpos : 0 < y.coefficient := lt_of_lt_of_le (Nat.pow_pos (by decide)) hlow
  have hlonger := (Nat.pow_lt_pow_iff_right (by decide)).1
    (lt_of_le_of_lt hlow (lt_pow_length y.coefficient))
  have hshorter := (Nat.pow_le_pow_iff_right (by decide)).1
    (le_trans (pow_length_le hpos) hhigh)
  have hexponent := (mem_neighbours hy).1
  have hfar : (Numeral.farPower : ℤ) = 400 := rfl
  unfold lastPower at hexponent
  exact ⟨hpos, by omega, by omega⟩

end Neighbours

/-! ### The search -/

section Search

variable {x : Float} {s : ℕ} {e : ℤ}

/-- The magnitudes of numbers are within reach. -/
theorem leadingPower_reach (hx : Binary.ofFloat x = .finite false s e) (hpos : 0 < s) :
    -399 ≤ leadingPower (Binary.numerator s e) (Binary.denominator e) ∧
      leadingPower (Binary.numerator s e) (Binary.denominator e) ≤ 398 := by
  obtain ⟨hleast, hmost, hfits, -⟩ := Binary.canonical_of_ofFloat hx
  have hnum : 0 < Binary.numerator s e := Nat.mul_pos hpos (Nat.two_pow_pos _)
  obtain ⟨hlow, hhigh⟩ := leadingPower_bounds hnum (Binary.denominator_pos e)
  rw [Binary.numerator_div_denominator] at hlow hhigh
  have hone : (1 : ℚ) ≤ s := by exact_mod_cast hpos
  have hs : (s : ℚ) < 2 ^ (53 : ℤ) := by
    norm_num
    exact hfits
  have hpow : (8 : ℚ) ^ (399 : ℤ) ≤ 10 ^ (399 : ℤ) :=
    zpow_le_zpow_left₀ (by norm_num) (by norm_num) (by norm_num)
  have height : (8 : ℚ) = 2 ^ (3 : ℤ) := by norm_num
  have hsmall : (10 : ℚ) ^ (-399 : ℤ) ≤ s * 2 ^ e := by
    have hten : (10 : ℚ) ^ (-399 : ℤ) ≤ 8 ^ (-399 : ℤ) := by
      rw [zpow_neg, zpow_neg]
      exact inv_anti₀ (by positivity) hpow
    refine hten.trans (le_trans ?_ (le_mul_of_one_le_left (by positivity) hone))
    rw [height, ← zpow_mul]
    exact two_zpow_le (by omega)
  have hlarge : (s : ℚ) * 2 ^ e < 10 ^ (399 : ℤ) := by
    calc (s : ℚ) * 2 ^ e < 2 ^ (53 : ℤ) * 2 ^ e := by gcongr
      _ ≤ 8 ^ (399 : ℤ) := by
        rw [height, ← zpow_mul, ← zpow_add₀ (by norm_num)]
        exact two_zpow_le (by omega)
      _ ≤ 10 ^ (399 : ℤ) := hpow
  have hup := (zpow_lt_zpow_iff_right₀ (by norm_num)).1 (lt_of_le_of_lt hsmall hhigh)
  have hdown := (zpow_lt_zpow_iff_right₀ (by norm_num)).1 (lt_of_le_of_lt hlow hlarge)
  omega

/-- Seventeen digits are near enough. -/
theorem toFloat_neighbours_head (hx : Binary.ofFloat x = .finite false s e) (hpos : 0 < s)
    {count : ℕ} (hcount : 17 ≤ count) :
    ((neighbours (Binary.numerator s e) (Binary.denominator e) count).headD ⟨0, 0⟩).InReach ∧
      ((neighbours (Binary.numerator s e) (Binary.denominator e) count).headD ⟨0, 0⟩).toFloat =
        x := by
  have hnum : 0 < Binary.numerator s e := Nat.mul_pos hpos (Nat.two_pow_pos _)
  have hden := Binary.denominator_pos e
  obtain ⟨hleast, hmost⟩ := leadingPower_reach hx hpos
  obtain ⟨y, hy, hhead, hhalf⟩ := neighbours_head (Binary.numerator s e) hden count
  have hreach : y.InReach := inReach_of_mem_neighbours hnum hden hleast hmost (by omega) hy
  rw [hhead]
  refine ⟨hreach, Rounds.unique (Numeral.rounds_toFloat hreach) (rounds_of_close hx hpos ?_)⟩
  have hlow := (leadingPower_bounds hnum hden).1
  rw [Binary.numerator_div_denominator] at hhalf hlow
  set power := lastPower (Binary.numerator s e) (Binary.denominator e) count with hpower
  have hstep : (0 : ℚ) < 10 ^ power := by positivity
  -- half of the last digit is at most the value by twice ten to the sixteenth
  have hvalue : y.value - s * 2 ^ e = (y.coefficient - s * 2 ^ e / 10 ^ power) * 10 ^ power := by
    rw [Numeral.value, (mem_neighbours hy).1, ← hpower]
    field_simp
  have hunit : (10 : ℚ) ^ power * 10 ^ 16 ≤ s * 2 ^ e := by
    rw [← zpow_natCast, ← zpow_add₀ (by norm_num)]
    refine le_trans (zpow_le_zpow_right₀ (by norm_num) ?_) hlow
    rw [hpower, lastPower]
    push_cast
    omega
  rw [hvalue, abs_mul, abs_of_pos hstep]
  calc |(y.coefficient : ℚ) - s * 2 ^ e / 10 ^ power| * 10 ^ power * (2 * 10 ^ 16)
      ≤ 1 / 2 * 10 ^ power * (2 * 10 ^ 16) := by gcongr
    _ = 10 ^ power * 10 ^ 16 := by ring
    _ ≤ s * 2 ^ e := hunit

/-- The search finds a decimal that reads back. -/
theorem toFloat_shortestFrom (hx : Binary.ofFloat x = .finite false s e) (hpos : 0 < s)
    (fuel : ℕ) {count : ℕ} (hcount : 0 < count) (hfuel : 17 ≤ count + fuel) :
    (shortestFrom x (Binary.numerator s e) (Binary.denominator e) fuel count).InReach ∧
      (shortestFrom x (Binary.numerator s e) (Binary.denominator e) fuel count).toFloat = x := by
  induction fuel generalizing count with
  | zero => exact toFloat_neighbours_head hx hpos hfuel
  | succ fuel ih =>
    unfold shortestFrom
    split
    · next y hfound =>
      have hmem := List.mem_of_find?_eq_some hfound
      have hnum : 0 < Binary.numerator s e := Nat.mul_pos hpos (Nat.two_pow_pos _)
      obtain ⟨hleast, hmost⟩ := leadingPower_reach hx hpos
      exact ⟨inReach_of_mem_neighbours hnum (Binary.denominator_pos e) hleast hmost hcount hmem,
        eq_of_beq_of_ofFloat hx hpos (by simpa using List.find?_some hfound)⟩
    · exact ih (Nat.succ_pos count) (by omega)

/-- Zeros at the end are dropped without changing what the digits denote. -/
theorem dropZeros_spec {y : Numeral} (h : y.InReach) (fuel : ℕ) :
    (dropZeros fuel y).InReach ∧ (dropZeros fuel y).value = y.value := by
  induction fuel generalizing y with
  | zero => exact ⟨h, rfl⟩
  | succ fuel ih =>
    unfold dropZeros
    split
    · next hzero =>
      have hback : y = Numeral.withZeros ⟨y.coefficient / 10, y.exponent + 1⟩ 1 := by
        unfold Numeral.withZeros
        dsimp only
        rw [pow_one, Nat.div_mul_cancel (Nat.dvd_of_mod_eq_zero hzero.2)]
        rw [Nat.cast_one, add_sub_cancel_right]
      rw [hback] at h
      obtain ⟨hreach, hvalue⟩ := ih (Numeral.inReach_withZeros.1 h)
      refine ⟨hreach, hvalue.trans ?_⟩
      conv_rhs => rw [hback]
      rw [Numeral.value_withZeros]
    · exact ⟨h, rfl⟩

/-- **The shortest decimal of a number is read as the number.** -/
theorem toFloat_shortest (hx : Binary.ofFloat x = .finite false s e) (hpos : 0 < s) :
    (shortest s e x).InReach ∧ (shortest s e x).toFloat = x := by
  obtain ⟨hreach, hread⟩ := toFloat_shortestFrom hx hpos 17 Nat.one_pos (by decide)
  obtain ⟨hreach', hvalue⟩ := dropZeros_spec hreach 20
  exact ⟨hreach', (Numeral.toFloat_congr hreach' hreach hvalue).trans hread⟩

end Search

end Decimal
end ClientTrial
