/-
WebrtcAnalysis/Rounding.lean

Two facts about `roundDouble` that the charts' time axis rests on: rounding
to binary64 is monotone, and it leaves a double unchanged.

`roundMagnitude a b` rounds `a / b` half to even at a multiple of
`2 ^ gridExp a b`, the exponent of its binade less 52 and at least the
subnormal `-1074`, and overflows at `2 ^ 1024` (`roundMagnitude_eq`).  Round
half to even is monotone (`roundHalfEven_mono`), so rounding at one exponent
is.  Across binades, the value rounded in the lower one stays at or below the
power of two that opens the upper one, and the upper rounding keeps that
power (`unboundedRound_mono`).  A rounded value is a multiple of its own
grid, so rounding it again changes nothing (`unboundedRound_idem`).  With the
signs and the overflow to infinity: `roundDouble_mono`, `roundDouble_idem`.
From them, the order facts of `float(n)`, `x / d` and `x + 1.0` that the
charts' times need (`PyFloat.divPos_mono`, `PyFloat.add_finite_mono`,
`PyFloat.le_add_one`), and the doubles those times are bracketed by: a
multiple of `2 ^ -n` with at most 53 significant bits rounds to itself
(`roundDouble_grid`), so a value above or below it rounds above or below it
(`grid_le_roundDouble`, `roundDouble_le_grid`).
-/
import WebrtcAnalysis.PyFloat
import Mathlib.Algebra.Order.Field.Power

namespace WebrtcAnalysis

/-! ### Round half to even -/

section RoundHalfEven

variable {a c a' c' : ℕ}

/-- `roundHalfEven a c` lies within a half of `a / c`, and it is even at a
tie. -/
theorem roundHalfEven_spec (hc : 0 < c) :
    2 * roundHalfEven a c * c ≤ 2 * a + c ∧ 2 * a ≤ (2 * roundHalfEven a c + 1) * c ∧
    (2 * roundHalfEven a c * c = 2 * a + c → roundHalfEven a c % 2 = 0) ∧
    (2 * a = (2 * roundHalfEven a c + 1) * c → roundHalfEven a c % 2 = 0) := by
  have ha := Nat.div_add_mod a c
  have hr := Nat.mod_lt a hc
  have e1 : 2 * (a / c) * c = 2 * (c * (a / c)) := by ring
  have e2 : (2 * (a / c) + 1) * c = 2 * (c * (a / c)) + c := by ring
  have e3 : 2 * (a / c + 1) * c = 2 * (c * (a / c)) + 2 * c := by ring
  have e4 : (2 * (a / c + 1) + 1) * c = 2 * (c * (a / c)) + 3 * c := by ring
  unfold roundHalfEven
  split_ifs <;> simp only [e1, e2, e3, e4] <;> omega

/-- **Round half to even is monotone** in the quotient it rounds. -/
theorem roundHalfEven_mono (hc : 0 < c) (hc' : 0 < c') (h : a * c' ≤ a' * c) :
    roundHalfEven a c ≤ roundHalfEven a' c' := by
  obtain ⟨h1, -, h3, -⟩ := roundHalfEven_spec (a := a) hc
  obtain ⟨-, h2', -, h4'⟩ := roundHalfEven_spec (a := a') hc'
  set n := roundHalfEven a c
  set n' := roundHalfEven a' c'
  clear_value n n'
  by_contra hlt
  obtain ⟨k, rfl⟩ : ∃ k, n = n' + 1 + k := ⟨n - (n' + 1), by omega⟩
  -- scaled by `c * c'`, the halves around the two quotients chain up:
  -- `n - 1/2 ≤ a / c ≤ a' / c' ≤ n' + 1/2`, so `k = 0` and both are ties
  have s1 := Nat.mul_le_mul_right c' h1
  have s2 := Nat.mul_le_mul_right c h2'
  have e1 : 2 * (n' + 1 + k) * c * c' =
      2 * (n' * (c * c')) + 2 * (c * c') + 2 * (k * (c * c')) := by ring
  have e2 : (2 * a + c) * c' = 2 * (a * c') + c * c' := by ring
  have e3 : 2 * a' * c = 2 * (a' * c) := by ring
  have e4 : (2 * n' + 1) * c' * c = 2 * (n' * (c * c')) + c * c' := by ring
  rw [e1, e2] at s1
  rw [e3, e4] at s2
  have hk : k * (c * c') = 0 := by omega
  obtain rfl : k = 0 := (Nat.mul_eq_zero.mp hk).resolve_right (Nat.mul_pos hc hc').ne'
  have t1 : 2 * (n' + 1 + 0) * c = 2 * a + c :=
    Nat.eq_of_mul_eq_mul_right hc' (by rw [e1, e2]; omega)
  have t2 : 2 * a' = (2 * n' + 1) * c' :=
    Nat.eq_of_mul_eq_mul_right hc (by rw [e3, e4]; omega)
  have := h3 t1
  have := h4' t2
  omega

/-- A whole number rounds to itself. -/
theorem roundHalfEven_mul_self (j : ℕ) (hc : 0 < c) : roundHalfEven (j * c) c = j := by
  simp [roundHalfEven, Nat.mul_div_cancel j hc, Nat.mul_mod_left, hc]

/-- A quotient at most `j` rounds to at most `j`. -/
theorem roundHalfEven_le_of_le (hc : 0 < c) {j : ℕ} (h : (a : ℚ) / c ≤ j) :
    roundHalfEven a c ≤ j := by
  have hmul : a * 1 ≤ j * 1 * c := by
    rw [div_le_iff₀ (by exact_mod_cast hc)] at h
    rw [mul_one, mul_one]; exact_mod_cast h
  calc roundHalfEven a c ≤ roundHalfEven (j * 1) 1 := roundHalfEven_mono hc one_pos hmul
    _ = j := roundHalfEven_mul_self j one_pos

/-- A quotient at least `j` rounds to at least `j`. -/
theorem le_roundHalfEven_of_le (hc : 0 < c) {j : ℕ} (h : (j : ℚ) ≤ a / c) :
    j ≤ roundHalfEven a c := by
  have hmul : j * 1 * c ≤ a * 1 := by
    rw [le_div_iff₀ (by exact_mod_cast hc)] at h
    rw [mul_one, mul_one]; exact_mod_cast h
  calc j = roundHalfEven (j * 1) 1 := (roundHalfEven_mul_self j one_pos).symm
    _ ≤ roundHalfEven a c := roundHalfEven_mono one_pos hc hmul

end RoundHalfEven

/-! ### The binade -/

theorem log2Floor_spec {fuel n : ℕ} (hn : 1 ≤ n) (hf : n < 2 ^ fuel) :
    2 ^ log2Floor fuel n ≤ n ∧ n < 2 ^ (log2Floor fuel n + 1) := by
  induction fuel generalizing n with
  | zero => simp at hf; omega
  | succ fuel ih =>
    unfold log2Floor
    split
    · simp; omega
    · rw [pow_succ] at hf
      obtain ⟨h1, h2⟩ := ih (n := n / 2) (by omega) (by omega)
      rw [pow_succ] at h2
      rw [pow_succ, pow_succ]
      omega

/-- The test `binade` makes is `2 ^ k ≤ a / b`. -/
theorem binade_test_iff {a b : ℕ} (hb : 0 < b) (k : ℤ) :
    (if 0 ≤ k then 2 ^ k.toNat * b ≤ a else b ≤ a * 2 ^ (-k).toNat) ↔ (2 : ℚ) ^ k ≤ a / b := by
  have hbq : (0 : ℚ) < b := by exact_mod_cast hb
  split_ifs with hk
  · obtain ⟨m, rfl⟩ := Int.eq_ofNat_of_zero_le hk
    rw [Int.toNat_natCast, zpow_natCast, le_div_iff₀ hbq]
    exact_mod_cast Iff.rfl
  · obtain ⟨m, hm⟩ := Int.eq_ofNat_of_zero_le (neg_nonneg.mpr (le_of_lt (not_le.mp hk)))
    rw [show k = -(m : ℤ) by omega, neg_neg, Int.toNat_natCast, zpow_neg, zpow_natCast,
      inv_eq_one_div, div_le_div_iff₀ (by positivity) hbq, one_mul]
    exact_mod_cast Iff.rfl

/-- **The binade**: `2 ^ binade a b ≤ a / b < 2 ^ (binade a b + 1)`. -/
theorem binade_spec {a b : ℕ} (ha : 0 < a) (hb : 0 < b) :
    (2 : ℚ) ^ binade a b ≤ a / b ∧ (a : ℚ) / b < 2 ^ (binade a b + 1) := by
  obtain ⟨ha1, ha2⟩ := log2Floor_spec ha (Nat.lt_two_pow a)
  obtain ⟨hb1, hb2⟩ := log2Floor_spec hb (Nat.lt_two_pow b)
  unfold binade
  dsimp only
  generalize log2Floor a a = la at ha1 ha2 ⊢
  generalize log2Floor b b = lb at hb1 hb2 ⊢
  have hbq : (0 : ℚ) < b := by exact_mod_cast hb
  have hA1 : (2 : ℚ) ^ la ≤ a := by exact_mod_cast ha1
  have hA2 : (a : ℚ) < 2 ^ (la + 1) := by exact_mod_cast ha2
  have hB1 : (2 : ℚ) ^ lb ≤ b := by exact_mod_cast hb1
  have hB2 : (b : ℚ) < 2 ^ (lb + 1) := by exact_mod_cast hb2
  have hzpow : ∀ m n : ℕ, (2 : ℚ) ^ ((m : ℤ) - n) = 2 ^ m / 2 ^ n := fun m n => by
    rw [zpow_sub₀ two_ne_zero, zpow_natCast, zpow_natCast]
  -- `a / b` lies strictly between `2 ^ (la - lb - 1)` and `2 ^ (la - lb + 1)`
  have hlow : (2 : ℚ) ^ ((la : ℤ) - lb - 1) < a / b := by
    rw [show (la : ℤ) - lb - 1 = (la : ℤ) - (lb + 1 : ℕ) by push_cast; ring, hzpow]
    calc (2 : ℚ) ^ la / 2 ^ (lb + 1) < 2 ^ la / b := div_lt_div_of_pos_left (by positivity) hbq hB2
      _ ≤ a / b := div_le_div_of_nonneg_right hA1 hbq.le
  have hup : (a : ℚ) / b < 2 ^ ((la : ℤ) - lb + 1) := by
    rw [show (la : ℤ) - lb + 1 = ((la + 1 : ℕ) : ℤ) - lb by push_cast; ring, hzpow]
    calc (a : ℚ) / b < 2 ^ (la + 1) / b := div_lt_div_of_pos_right hA2 hbq
      _ ≤ 2 ^ (la + 1) / 2 ^ lb := div_le_div_of_nonneg_left (by positivity) (by positivity) hB1
  have key := binade_test_iff (a := a) hb ((la : ℤ) - lb)
  by_cases ht : (2 : ℚ) ^ ((la : ℤ) - lb) ≤ a / b
  · rw [if_pos (key.mpr ht)]
    exact ⟨ht, hup⟩
  · rw [if_neg (mt key.mp ht), sub_add_cancel]
    exact ⟨hlow.le, lt_of_not_le ht⟩

theorem binade_mono {a b a' b' : ℕ} (ha : 0 < a) (hb : 0 < b) (ha' : 0 < a') (hb' : 0 < b')
    (h : (a : ℚ) / b ≤ a' / b') : binade a b ≤ binade a' b' := by
  by_contra hlt
  have hx := (binade_spec ha hb).1
  have hy := (binade_spec ha' hb').2
  have : (2 : ℚ) ^ (binade a' b' + 1) ≤ 2 ^ binade a b :=
    zpow_le_zpow_right₀ one_le_two (by omega)
  linarith

/-! ### The grid of `roundMagnitude` -/

/-- The exponent of the multiples of a power of two that `roundMagnitude a b`
rounds to: the binade's exponent less 52, at least the subnormal one. -/
def gridExp (a b : ℕ) : ℤ := max (binade a b - 52) (-1074)

/-- `a / b` divided by `2 ^ e`, as the numerator and denominator that
`roundMagnitude` hands to `roundHalfEven`. -/
def scaled (a b : ℕ) (e : ℤ) : ℕ × ℕ :=
  if 0 ≤ e then (a, b * 2 ^ e.toNat) else (a * 2 ^ (-e).toNat, b)

/-- `a / b` rounded half to even at a multiple of `2 ^ gridExp a b`, before
the overflow test. -/
def unboundedRound (a b : ℕ) : ℚ :=
  (roundHalfEven (scaled a b (gridExp a b)).1 (scaled a b (gridExp a b)).2 : ℚ) *
    2 ^ gridExp a b

section Grid

variable {a b : ℕ}

theorem scaled_pos (hb : 0 < b) (e : ℤ) : 0 < (scaled a b e).2 := by
  unfold scaled
  split_ifs <;> positivity

theorem scaled_div (e : ℤ) : ((scaled a b e).1 : ℚ) / (scaled a b e).2 = a / b / 2 ^ e := by
  unfold scaled
  split_ifs with he
  · obtain ⟨m, rfl⟩ := Int.eq_ofNat_of_zero_le he
    push_cast
    rw [Int.toNat_natCast, zpow_natCast, div_div]
  · obtain ⟨m, hm⟩ := Int.eq_ofNat_of_zero_le (neg_nonneg.mpr (le_of_lt (not_le.mp he)))
    rw [show e = -(m : ℤ) by omega, neg_neg, Int.toNat_natCast, zpow_neg, zpow_natCast]
    push_cast
    rw [div_inv_eq_mul, mul_div_right_comm]

theorem unboundedRound_nonneg : 0 ≤ unboundedRound a b := by
  unfold unboundedRound
  positivity

/-- Rounding stays at or below a multiple of the grid at or above `a / b`. -/
theorem unboundedRound_le (hb : 0 < b) {j : ℕ} (h : (a : ℚ) / b ≤ j * 2 ^ gridExp a b) :
    unboundedRound a b ≤ j * 2 ^ gridExp a b := by
  have hj : ((scaled a b (gridExp a b)).1 : ℚ) / (scaled a b (gridExp a b)).2 ≤ j := by
    rwa [scaled_div, div_le_iff₀ (by positivity)]
  exact mul_le_mul_of_nonneg_right (by exact_mod_cast roundHalfEven_le_of_le (scaled_pos hb _) hj)
    (by positivity)

/-- Rounding stays at or above a multiple of the grid at or below `a / b`. -/
theorem le_unboundedRound (hb : 0 < b) {j : ℕ} (h : (j : ℚ) * 2 ^ gridExp a b ≤ a / b) :
    j * 2 ^ gridExp a b ≤ unboundedRound a b := by
  have hj : (j : ℚ) ≤ ((scaled a b (gridExp a b)).1 : ℚ) / (scaled a b (gridExp a b)).2 := by
    rwa [scaled_div, le_div_iff₀ (by positivity)]
  exact mul_le_mul_of_nonneg_right (by exact_mod_cast le_roundHalfEven_of_le (scaled_pos hb _) hj)
    (by positivity)

/-- A power of two at or above the grid's exponent is a multiple of the grid. -/
theorem two_zpow_eq_mul_grid {g m : ℤ} (hm : g ≤ m) :
    (2 : ℚ) ^ m = ((2 ^ (m - g).toNat : ℕ) : ℚ) * 2 ^ g := by
  rw [Nat.cast_pow, Nat.cast_ofNat, ← zpow_natCast, Int.toNat_of_nonneg (sub_nonneg.mpr hm),
    ← zpow_add₀ two_ne_zero, sub_add_cancel]

theorem unboundedRound_le_two_pow (hb : 0 < b) {m : ℤ} (hm : gridExp a b ≤ m)
    (h : (a : ℚ) / b ≤ 2 ^ m) : unboundedRound a b ≤ 2 ^ m := by
  rw [two_zpow_eq_mul_grid hm] at h ⊢
  exact unboundedRound_le hb h

theorem two_pow_le_unboundedRound (hb : 0 < b) {m : ℤ} (hm : gridExp a b ≤ m)
    (h : (2 : ℚ) ^ m ≤ a / b) : 2 ^ m ≤ unboundedRound a b := by
  rw [two_zpow_eq_mul_grid hm] at h ⊢
  exact le_unboundedRound hb h

/-- A rounded value stays at or below `2 ^ (gridExp a b + 53)`. -/
theorem unboundedRound_le_grid (ha : 0 < a) (hb : 0 < b) :
    unboundedRound a b ≤ 2 ^ (gridExp a b + 53) :=
  unboundedRound_le_two_pow hb (by omega) ((binade_spec ha hb).2.le.trans
    (zpow_le_zpow_right₀ one_le_two (by unfold gridExp; omega)))

/-- **`roundMagnitude` is rounding at the grid**, `none` from `2 ^ 1024` on. -/
theorem roundMagnitude_eq (ha : 0 < a) (hb : 0 < b) :
    roundMagnitude a b =
      if unboundedRound a b < 2 ^ 1024 then some (unboundedRound a b) else none := by
  have hg : max (binade a b - 52) (-1074) = gridExp a b := rfl
  simp only [roundMagnitude, hg]
  rcases le_or_lt 0 (gridExp a b) with he | he
  · obtain ⟨m, hm⟩ := Int.eq_ofNat_of_zero_le he
    have hU : unboundedRound a b =
        ((roundHalfEven a (b * 2 ^ m) * 2 ^ m : ℕ) : ℚ) := by
      rw [unboundedRound, scaled, if_pos he, hm, Int.toNat_natCast, zpow_natCast]
      push_cast; rfl
    rw [if_pos he, hm, Int.toNat_natCast, hU]
    by_cases hlt : roundHalfEven a (b * 2 ^ m) * 2 ^ m < 2 ^ 1024
    · rw [if_pos hlt, if_pos (by exact_mod_cast hlt)]
    · rw [if_neg hlt, if_neg (by exact_mod_cast hlt)]
  · obtain ⟨m, hm⟩ := Int.eq_ofNat_of_zero_le (neg_nonneg.mpr he.le)
    have hU : unboundedRound a b = mkRat (roundHalfEven (a * 2 ^ m) b) (2 ^ m) := by
      rw [unboundedRound, scaled, if_neg (not_le.mpr he), hm, Int.toNat_natCast,
        Rat.mkRat_eq_div, show gridExp a b = -(m : ℤ) by omega, zpow_neg, zpow_natCast]
      push_cast; rfl
    have hsmall : unboundedRound a b < 2 ^ 1024 :=
      calc unboundedRound a b ≤ 2 ^ (gridExp a b + 53) := unboundedRound_le_grid ha hb
        _ < 2 ^ (1024 : ℤ) := zpow_lt_zpow_right₀ one_lt_two (by omega)
        _ = 2 ^ 1024 := zpow_natCast 2 1024
    rw [if_neg (not_le.mpr he), hm, Int.toNat_natCast, if_pos hsmall, hU]

end Grid

/-! ### Monotone, and idempotent -/

section Round

variable {a b a' b' : ℕ}

/-- **Rounding at the grid is monotone.**  At one exponent this is
`roundHalfEven_mono`.  Across binades the lower value rounds to at most the
power of two that opens the upper binade, which the upper rounding keeps. -/
theorem unboundedRound_mono (ha : 0 < a) (hb : 0 < b) (ha' : 0 < a') (hb' : 0 < b')
    (h : (a : ℚ) / b ≤ a' / b') : unboundedRound a b ≤ unboundedRound a' b' := by
  have hk := binade_mono ha hb ha' hb' h
  have hgrid : gridExp a b ≤ gridExp a' b' := max_le_max_right (-1074) (sub_le_sub_right hk 52)
  rcases eq_or_lt_of_le hgrid with hg | hg
  · -- one grid
    unfold unboundedRound
    rw [← hg]
    refine mul_le_mul_of_nonneg_right ?_ (by positivity)
    refine Nat.cast_le.mpr (roundHalfEven_mono (scaled_pos hb _) (scaled_pos hb' _) ?_)
    have hq : ((scaled a b (gridExp a b)).1 : ℚ) / (scaled a b (gridExp a b)).2 ≤
        ((scaled a' b' (gridExp a b)).1 : ℚ) / (scaled a' b' (gridExp a b)).2 := by
      rw [scaled_div, scaled_div]
      exact div_le_div_of_nonneg_right h (by positivity)
    rw [div_le_div_iff₀ (by exact_mod_cast scaled_pos hb _) (by exact_mod_cast scaled_pos hb' _)]
      at hq
    exact_mod_cast hq
  · -- two binades, with the power of two `2 ^ binade a' b'` between them
    have hup : gridExp a' b' ≤ binade a' b' := by unfold gridExp at hg ⊢; omega
    have hlow : binade a b + 1 ≤ binade a' b' := by unfold gridExp at hg; omega
    calc unboundedRound a b ≤ 2 ^ max (binade a b + 1) (gridExp a b) :=
          unboundedRound_le_two_pow hb (le_max_right _ _) ((binade_spec ha hb).2.le.trans
            (zpow_le_zpow_right₀ one_le_two (le_max_left _ _)))
      _ ≤ 2 ^ binade a' b' := zpow_le_zpow_right₀ one_le_two (max_le hlow (hg.le.trans hup))
      _ ≤ unboundedRound a' b' := two_pow_le_unboundedRound hb' hup (binade_spec ha' hb').1

/-- A value on its own grid rounds to itself. -/
theorem unboundedRound_of_grid (hb : 0 < b) {j : ℕ} (h : (a : ℚ) / b = j * 2 ^ gridExp a b) :
    unboundedRound a b = a / b :=
  le_antisymm (h ▸ unboundedRound_le hb h.le) (h ▸ le_unboundedRound hb h.ge)

/-- **A rounded value rounds to itself.**  It is a multiple of its own grid:
of the same one, or, when it rounded up to the power of two that opens the
next binade, of the next. -/
theorem unboundedRound_idem (ha : 0 < a) (hb : 0 < b) (ha' : 0 < a') (hb' : 0 < b')
    (hv : (a' : ℚ) / b' = unboundedRound a b) : unboundedRound a' b' = unboundedRound a b := by
  set g := gridExp a b
  set n := roundHalfEven (scaled a b g).1 (scaled a b g).2
  have hvn : unboundedRound a b = n * 2 ^ g := rfl
  have hvle : (a' : ℚ) / b' ≤ 2 ^ (g + 53) := hv ▸ unboundedRound_le_grid ha hb
  obtain ⟨hk1, -⟩ := binade_spec ha' hb'
  have hk : binade a' b' ≤ g + 53 :=
    (zpow_le_zpow_iff_right₀ one_lt_two).mp (hk1.trans hvle)
  have hg : -1074 ≤ g := le_max_right _ _
  rw [← hv]
  by_cases hg' : gridExp a' b' ≤ g
  · -- the value is a multiple of the finer grid `2 ^ gridExp a' b'`
    refine unboundedRound_of_grid hb' (j := n * 2 ^ (g - gridExp a' b').toNat) ?_
    rw [hv, hvn, Nat.cast_mul, mul_assoc, ← two_zpow_eq_mul_grid hg']
  · -- it rounded up to `2 ^ (g + 53)`, which opens the binade of grid `g + 1`
    have hk' : binade a' b' = g + 53 := by unfold gridExp at hg'; omega
    have htop : (a' : ℚ) / b' = 2 ^ (gridExp a' b' + 52) := by
      refine le_antisymm ?_ ?_
      · rw [show gridExp a' b' + 52 = g + 53 by unfold gridExp; omega]; exact hvle
      · rw [show gridExp a' b' + 52 = binade a' b' by unfold gridExp; omega]; exact hk1
    refine unboundedRound_of_grid hb' (j := 2 ^ 52) (htop.trans ?_)
    rw [two_zpow_eq_mul_grid (g := gridExp a' b') (by omega), add_sub_cancel_left]
    rfl

end Round

/-! ### `roundDouble` -/

/-- The magnitude `roundDouble q` takes, before its sign and the overflow. -/
def roundedMagnitude (q : ℚ) : ℚ := unboundedRound q.num.natAbs q.den

theorem natAbs_num_div_den (q : ℚ) : (q.num.natAbs : ℚ) / q.den = |q| := by
  conv_rhs => rw [← Rat.num_div_den q]
  rw [abs_div, Nat.abs_cast, Int.cast_natAbs, Int.cast_abs]

/-- `roundDouble q`: zero, the rounded magnitude with the sign of `q`, or an
infinity of that sign. -/
theorem roundDouble_eq (q : ℚ) :
    roundDouble q =
      if q = 0 then .finite 0
      else if roundedMagnitude q < 2 ^ 1024 then
        .finite (if q < 0 then -roundedMagnitude q else roundedMagnitude q)
      else .inf (decide (q < 0)) := by
  unfold roundDouble
  by_cases hq : q = 0
  · simp [hq]
  · have ha : 0 < q.num.natAbs := Int.natAbs_pos.mpr (Rat.num_ne_zero.mpr hq)
    rw [if_neg (Rat.num_ne_zero.mpr hq), if_neg hq, roundMagnitude_eq ha q.den_pos,
      ← roundedMagnitude]
    split_ifs <;> simp_all [Rat.num_neg]

theorem roundedMagnitude_mono {q q' : ℚ} (hq : q ≠ 0) (h : |q| ≤ |q'|) :
    roundedMagnitude q ≤ roundedMagnitude q' := by
  have hq' : q' ≠ 0 := by
    rintro rfl
    rw [abs_zero] at h
    exact hq (abs_eq_zero.mp (le_antisymm h (abs_nonneg q)))
  exact unboundedRound_mono (Int.natAbs_pos.mpr (Rat.num_ne_zero.mpr hq)) q.den_pos
    (Int.natAbs_pos.mpr (Rat.num_ne_zero.mpr hq')) q'.den_pos
    (by rwa [natAbs_num_div_den, natAbs_num_div_den])

theorem roundedMagnitude_nonneg (q : ℚ) : 0 ≤ roundedMagnitude q := unboundedRound_nonneg

/-- Rounding keeps the sign: of a value at least zero, the result is at least
zero. -/
theorem roundDouble_nonneg {q : ℚ} (hq : 0 ≤ q) : (0 : WithBot (WithTop ℚ)) ≤ (roundDouble q).toExt := by
  rw [roundDouble_eq]
  split_ifs with h0 hm h1
  · exact le_rfl
  · exact absurd h1 (not_lt.mpr hq)
  · exact PyFloat.toExt_finite_le.mpr (roundedMagnitude_nonneg q)
  · simp [show ¬ q < 0 from not_lt.mpr hq, PyFloat.toExt]

theorem roundDouble_nonpos {q : ℚ} (hq : q ≤ 0) : (roundDouble q).toExt ≤ (0 : WithBot (WithTop ℚ)) := by
  rw [roundDouble_eq]
  split_ifs with h0 hm h1
  · exact le_rfl
  · exact PyFloat.toExt_finite_le.mpr (neg_nonpos.mpr (roundedMagnitude_nonneg q))
  · exact absurd (lt_of_le_of_ne hq h0) h1
  · simp [lt_of_le_of_ne hq h0, PyFloat.toExt]

/-- **Rounding to binary64 is monotone**, infinities included. -/
theorem roundDouble_mono {q q' : ℚ} (h : q ≤ q') : (roundDouble q).toExt ≤ (roundDouble q').toExt := by
  by_cases hq : 0 < q
  · have hq' : 0 < q' := hq.trans_le h
    have hm : roundedMagnitude q ≤ roundedMagnitude q' :=
      roundedMagnitude_mono hq.ne' (by rwa [abs_of_pos hq, abs_of_pos hq'])
    rw [roundDouble_eq q, roundDouble_eq q', if_neg hq.ne', if_neg hq'.ne', if_neg (not_lt.mpr hq.le),
      if_neg (not_lt.mpr hq'.le)]
    by_cases hlt : roundedMagnitude q' < 2 ^ 1024
    · rw [if_pos (hm.trans_lt hlt), if_pos hlt]
      exact PyFloat.toExt_finite_le.mpr hm
    · rw [if_neg hlt, decide_eq_false (not_lt.mpr hq'.le)]
      exact le_top
  · by_cases hq' : q' < 0
    · have hq0 : q < 0 := h.trans_lt hq'
      have hm : roundedMagnitude q' ≤ roundedMagnitude q :=
        roundedMagnitude_mono hq'.ne (by rw [abs_of_neg hq0, abs_of_neg hq']; linarith)
      rw [roundDouble_eq q, roundDouble_eq q', if_neg hq0.ne, if_neg hq'.ne, if_pos hq0, if_pos hq']
      by_cases hlt : roundedMagnitude q < 2 ^ 1024
      · rw [if_pos hlt, if_pos (hm.trans_lt hlt)]
        exact PyFloat.toExt_finite_le.mpr (neg_le_neg hm)
      · rw [if_neg hlt, decide_eq_true hq0]
        exact bot_le
    · exact (roundDouble_nonpos (not_lt.mp hq)).trans (roundDouble_nonneg (not_lt.mp hq'))

/-- **A double rounds to itself.** -/
theorem roundDouble_idem {q v : ℚ} (h : roundDouble q = .finite v) : roundDouble v = .finite v := by
  by_cases hv : v = 0
  · rw [hv]; rfl
  rw [roundDouble_eq] at h
  by_cases h0 : q = 0
  · rw [if_pos h0] at h
    exact absurd (PyFloat.finite.inj h).symm hv
  rw [if_neg h0] at h
  by_cases hm : roundedMagnitude q < 2 ^ 1024
  · rw [if_pos hm] at h
    have habs : |v| = roundedMagnitude q := by
      rw [← PyFloat.finite.inj h]
      split_ifs <;> simp [abs_of_nonneg (roundedMagnitude_nonneg q)]
    have hmv : roundedMagnitude v = roundedMagnitude q :=
      unboundedRound_idem (Int.natAbs_pos.mpr (Rat.num_ne_zero.mpr h0)) q.den_pos
        (Int.natAbs_pos.mpr (Rat.num_ne_zero.mpr hv)) v.den_pos
        (by rw [natAbs_num_div_den, habs]; rfl)
    rw [roundDouble_eq, if_neg hv, hmv, if_pos hm, ← habs]
    congr 1
    split_ifs with hneg
    · rw [abs_of_neg hneg, neg_neg]
    · rw [abs_of_nonneg (not_lt.mp hneg)]
  · rw [if_neg hm] at h
    cases h

/-! ### Dyadic doubles -/

section Dyadic

variable {k n : ℕ}

theorem roundDouble_zero : roundDouble 0 = .finite 0 := rfl

@[simp]
theorem PyFloat.toExt_finite_zero : (PyFloat.finite 0).toExt = 0 := rfl

theorem roundedMagnitude_neg (q : ℚ) : roundedMagnitude (-q) = roundedMagnitude q := by
  simp [roundedMagnitude]

/-- `k / 2 ^ n` with `k < 2 ^ 53` is a multiple of its own grid, so it rounds
to itself. -/
theorem roundedMagnitude_grid (hk : k < 2 ^ 53) (hn : n ≤ 1074) (h0 : (k : ℚ) / 2 ^ n ≠ 0) :
    roundedMagnitude (k / 2 ^ n) = k / 2 ^ n := by
  set q : ℚ := k / 2 ^ n with hq
  have hpos : 0 < q := lt_of_le_of_ne (by positivity) (Ne.symm h0)
  have ha : 0 < q.num.natAbs := Int.natAbs_pos.mpr (Rat.num_ne_zero.mpr h0)
  have hab : (q.num.natAbs : ℚ) / q.den = q := by rw [natAbs_num_div_den, abs_of_pos hpos]
  have hq53 : q < 2 ^ (53 - n : ℤ) := by
    rw [hq, zpow_sub₀ two_ne_zero, zpow_natCast, zpow_ofNat]
    exact div_lt_div_of_pos_right (by exact_mod_cast hk) (by positivity)
  have hbin : binade q.num.natAbs q.den < 53 - n := by
    have h2 := (binade_spec ha q.den_pos).1
    rw [hab] at h2
    exact (zpow_lt_zpow_iff_right₀ one_lt_two).mp (h2.trans_lt hq53)
  have hg : gridExp q.num.natAbs q.den ≤ -n := max_le (by omega) (by omega)
  have hgrid : (q.num.natAbs : ℚ) / q.den =
      ((k * 2 ^ (-(n : ℤ) - gridExp q.num.natAbs q.den).toNat : ℕ) : ℚ) *
        2 ^ gridExp q.num.natAbs q.den := by
    rw [hab, hq, Nat.cast_mul, mul_assoc, ← two_zpow_eq_mul_grid hg, zpow_neg, zpow_natCast,
      div_eq_mul_inv]
  rw [roundedMagnitude, unboundedRound_of_grid q.den_pos hgrid, hab]

theorem grid_lt_two_pow (hk : k < 2 ^ 53) : (k : ℚ) / 2 ^ n < 2 ^ 1024 := by
  have hk' : k < 2 ^ 1024 := hk.trans (Nat.pow_lt_pow_right (by norm_num) (by norm_num))
  exact (div_le_self (Nat.cast_nonneg k) (one_le_pow₀ one_le_two)).trans_lt (by exact_mod_cast hk')

/-- **A dyadic value with at most 53 significant bits is a double.** -/
theorem roundDouble_grid (hk : k < 2 ^ 53) (hn : n ≤ 1074) :
    roundDouble (k / 2 ^ n) = .finite (k / 2 ^ n) := by
  by_cases h0 : (k : ℚ) / 2 ^ n = 0
  · rw [h0]; rfl
  have hpos : 0 < (k : ℚ) / 2 ^ n := lt_of_le_of_ne (by positivity) (Ne.symm h0)
  rw [roundDouble_eq, if_neg h0, roundedMagnitude_grid hk hn h0, if_pos (grid_lt_two_pow hk),
    if_neg (not_lt.mpr hpos.le)]

theorem roundDouble_neg_grid (hk : k < 2 ^ 53) (hn : n ≤ 1074) :
    roundDouble (-(k / 2 ^ n)) = .finite (-(k / 2 ^ n)) := by
  by_cases h0 : (k : ℚ) / 2 ^ n = 0
  · rw [h0, neg_zero]; rfl
  have hpos : 0 < (k : ℚ) / 2 ^ n := lt_of_le_of_ne (by positivity) (Ne.symm h0)
  rw [roundDouble_eq, if_neg (neg_ne_zero.mpr h0), roundedMagnitude_neg, roundedMagnitude_grid hk hn h0,
    if_pos (grid_lt_two_pow hk), if_pos (neg_lt_zero.mpr hpos)]

/-- A value at or above a dyadic double rounds at or above it. -/
theorem grid_le_roundDouble (hk : k < 2 ^ 53) (hn : n ≤ 1074) {q : ℚ} (h : (k : ℚ) / 2 ^ n ≤ q) :
    (PyFloat.finite (k / 2 ^ n)).toExt ≤ (roundDouble q).toExt := by
  rw [← roundDouble_grid hk hn]
  exact roundDouble_mono h

/-- A value at or below a dyadic double rounds at or below it. -/
theorem roundDouble_le_grid (hk : k < 2 ^ 53) (hn : n ≤ 1074) {q : ℚ} (h : q ≤ (k : ℚ) / 2 ^ n) :
    (roundDouble q).toExt ≤ (PyFloat.finite (k / 2 ^ n)).toExt := by
  rw [← roundDouble_grid hk hn]
  exact roundDouble_mono h

end Dyadic

/-! ### Float operations -/

/-- `float(n)` is monotone in `n`. -/
theorem PyFloat.ofInt_mono {m n : ℤ} (h : m ≤ n) : (PyFloat.ofInt m).toExt ≤ (PyFloat.ofInt n).toExt :=
  roundDouble_mono (Int.cast_le.mpr h)

/-- Division by a positive constant is monotone, the infinities included. -/
theorem PyFloat.divPos_mono {x y : PyFloat} {d : ℚ} (hd : 0 < d) (h : x.toExt ≤ y.toExt) :
    (x.divPos d).toExt ≤ (y.divPos d).toExt := by
  rcases x with a | ⟨_ | _⟩ | _ <;> rcases y with b | ⟨_ | _⟩ | _ <;>
    simp_all [PyFloat.divPos, PyFloat.toExt]
  exact roundDouble_mono (div_le_div_of_nonneg_right h hd.le)

/-- A finite quotient is a double. -/
theorem PyFloat.divPos_idem {x : PyFloat} {d v : ℚ} (h : x.divPos d = .finite v) :
    roundDouble v = .finite v := by
  cases x with
  | finite a => exact roundDouble_idem h
  | inf s => cases h
  | nan => cases h

/-- Adding `1.0` to a double does not lower it. -/
theorem PyFloat.le_add_one {x : PyFloat} (hx : ∀ v, x = .finite v → roundDouble v = .finite v) :
    x.toExt ≤ (x.add (.finite 1)).toExt := by
  cases x with
  | finite v =>
    calc (PyFloat.finite v).toExt = (roundDouble v).toExt := by rw [hx v rfl]
      _ ≤ (roundDouble (v + 1)).toExt := roundDouble_mono (by linarith)
  | inf s => exact le_rfl
  | nan => exact bot_le

/-- Adding a constant is monotone, the infinities included. -/
theorem PyFloat.add_finite_mono {x y : PyFloat} (c : ℚ) (h : x.toExt ≤ y.toExt) :
    (x.add (.finite c)).toExt ≤ (y.add (.finite c)).toExt := by
  rcases x with a | ⟨_ | _⟩ | _ <;> rcases y with b | ⟨_ | _⟩ | _ <;>
    simp_all [PyFloat.add, PyFloat.toExt]
  exact roundDouble_mono (by linarith)

theorem PyFloat.divPos_ne_nan {x : PyFloat} (hx : x ≠ .nan) (d : ℚ) : x.divPos d ≠ .nan := by
  cases x with
  | finite a => exact roundDouble_ne_nan _
  | inf s => nofun
  | nan => exact absurd rfl hx

theorem PyFloat.add_finite_ne_nan {x : PyFloat} (hx : x ≠ .nan) (c : ℚ) : x.add (.finite c) ≠ .nan := by
  cases x with
  | finite a => exact roundDouble_ne_nan _
  | inf s => nofun
  | nan => exact absurd rfl hx

end WebrtcAnalysis
