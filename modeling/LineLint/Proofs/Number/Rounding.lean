import LineLint.Number.Binary64
import Mathlib.Algebra.Order.Field.Power
import Mathlib.Data.Int.Log
import Mathlib.Data.Rat.Floor
import Mathlib.Tactic.Linarith
import Mathlib.Tactic.Positivity
import Mathlib.Tactic.Ring

/-!
# Rounding to binary floating point

What `Binary64.ofRatio?` does, said with fractions: there is a result for every ratio below the
largest value and half a step, there is none from the next power of two on, and the result is half a
step away at most.

* `Binary64.size` — the magnitude of a value, exactly.

Results:

* `abs_roundHalfEven_sub_le`: a ratio is rounded by one half at most.
* `exponentFor_eq`: the step at which a ratio is rounded, by its binary logarithm.
* `exists_ofRatio?`, `ofRatio?_eq_none`: which ratios have a result.
* `ofRatio?_error`: the error of a result, relative to a ratio that is not subnormal.
* `mul?_eq_ofRatio?`: a product is rounded like the ratio that it is.
-/

namespace LineLint.Number

variable {num den : ℕ} {negative : Bool}

/-! ## Whole numbers -/

/-- A ratio is rounded by one half at most. -/
theorem abs_roundHalfEven_sub_le (num : ℕ) (hden : 0 < den) :
    |(Binary64.roundHalfEven num den : ℚ) - num / den| ≤ 1 / 2 := by
  have hsplit := Nat.div_add_mod num den
  have hmod := Nat.mod_lt num hden
  have hround : 2 * num ≤ 2 * (den * Binary64.roundHalfEven num den) + den ∧
      2 * (den * Binary64.roundHalfEven num den) ≤ 2 * num + den := by
    unfold Binary64.roundHalfEven
    dsimp only
    have hsucc : den * (num / den + 1) = den * (num / den) + den := Nat.mul_succ _ _
    split_ifs <;> omega
  have hden' : (0 : ℚ) < den := by exact_mod_cast hden
  have hle : (2 * num : ℚ) ≤ 2 * (den * Binary64.roundHalfEven num den) + den := by
    exact_mod_cast hround.1
  have hge : (2 * (den * Binary64.roundHalfEven num den) : ℚ) ≤ 2 * num + den := by
    exact_mod_cast hround.2
  have hratio : (num : ℚ) / den * den = num := div_mul_cancel₀ _ hden'.ne'
  rw [abs_le]
  constructor <;> nlinarith

/-! ## Powers of two -/

theorem two_zpow_pos (e : ℤ) : (0 : ℚ) < 2 ^ e := zpow_pos (by norm_num) e

/-- A power of two as the ratio of two whole ones, one of which is one. -/
theorem two_zpow_eq_div (e : ℤ) :
    (2 : ℚ) ^ e = (Nat.pow 2 e.toNat : ℕ) / (Nat.pow 2 (-e).toNat : ℕ) := by
  simp only [Nat.pow_eq, Nat.cast_pow, Nat.cast_ofNat]
  rw [← zpow_natCast, ← zpow_natCast, ← zpow_sub₀ (by norm_num)]
  congr 1
  omega

/-- Both parts of a ratio, shifted so that it is divided by a power of two. -/
theorem div_shift (num den : ℕ) (e : ℤ) :
    ((num * Nat.pow 2 (-e).toNat : ℕ) : ℚ) / (den * Nat.pow 2 e.toNat : ℕ) =
      num / den / 2 ^ e := by
  rw [two_zpow_eq_div]
  push_cast
  rw [div_div_div_eq]

theorem shift_lt_iff (hden : 0 < den) (e : ℤ) :
    num * Nat.pow 2 (-e).toNat < den * Nat.pow 2 e.toNat ↔ (num : ℚ) / den < 2 ^ e := by
  have hpos : (0 : ℚ) < (den * Nat.pow 2 e.toNat : ℕ) := by
    exact_mod_cast Nat.mul_pos hden (Nat.pow_pos (by decide))
  rw [← div_lt_one (two_zpow_pos e), ← div_shift, div_lt_one hpos, Nat.cast_lt]

/-- The binary logarithms of both parts give that of a ratio up to one. -/
theorem log2_sub_log2_bounds (hnum : 0 < num) (hden : 0 < den) :
    (2 : ℚ) ^ ((num.log2 : ℤ) - den.log2 - 1) ≤ num / den ∧
      (num : ℚ) / den < 2 ^ ((num.log2 : ℤ) - den.log2 + 1) := by
  have hnum' : (2 : ℚ) ^ (num.log2 : ℤ) ≤ num ∧ (num : ℚ) < 2 ^ ((num.log2 : ℤ) + 1) := by
    exact_mod_cast And.intro (Nat.log2_self_le hnum.ne') (Nat.lt_log2_self (n := num))
  have hden' : (2 : ℚ) ^ (den.log2 : ℤ) ≤ den ∧ (den : ℚ) < 2 ^ ((den.log2 : ℤ) + 1) := by
    exact_mod_cast And.intro (Nat.log2_self_le hden.ne') (Nat.lt_log2_self (n := den))
  have hpos : (0 : ℚ) < den := by exact_mod_cast hden
  constructor
  · rw [le_div_iff₀ hpos]
    calc (2 : ℚ) ^ ((num.log2 : ℤ) - den.log2 - 1) * den
        ≤ 2 ^ ((num.log2 : ℤ) - den.log2 - 1) * 2 ^ ((den.log2 : ℤ) + 1) := by
          gcongr
          exact hden'.2.le
      _ = 2 ^ (num.log2 : ℤ) := by
          rw [← zpow_add₀ (by norm_num)]
          congr 1
          ring
      _ ≤ num := hnum'.1
  · rw [div_lt_iff₀ hpos]
    calc (num : ℚ) < 2 ^ ((num.log2 : ℤ) + 1) := hnum'.2
      _ = 2 ^ ((num.log2 : ℤ) - den.log2 + 1) * 2 ^ (den.log2 : ℤ) := by
          rw [← zpow_add₀ (by norm_num)]
          congr 1
          ring
      _ ≤ 2 ^ ((num.log2 : ℤ) - den.log2 + 1) * den := by
          gcongr
          exact hden'.1

theorem intLog_eq_of_bounds {r : ℚ} {l : ℤ} (hle : (2 : ℚ) ^ l ≤ r) (hlt : r < 2 ^ (l + 1)) :
    Int.log 2 r = l := by
  have hr : 0 < r := (two_zpow_pos l).trans_le hle
  have hge : l ≤ Int.log 2 r := (Int.zpow_le_iff_le_log (by decide) hr).mp (by exact_mod_cast hle)
  have hle' : Int.log 2 r < l + 1 :=
    (Int.lt_zpow_iff_log_lt (by decide) hr).mp (by exact_mod_cast hlt)
  omega

namespace Binary64

/-- The step at which a ratio is rounded, by its binary logarithm. -/
theorem exponentFor_eq (hnum : 0 < num) (hden : 0 < den) :
    exponentFor num den = max minExponent (Int.log 2 ((num : ℚ) / den) - 52) := by
  obtain ⟨hge, hlt⟩ := log2_sub_log2_bounds hnum hden
  have hfloor : (if num * Nat.pow 2 (-((num.log2 : ℤ) - den.log2)).toNat <
      den * Nat.pow 2 ((num.log2 : ℤ) - den.log2).toNat then (num.log2 : ℤ) - den.log2 - 1
      else (num.log2 : ℤ) - den.log2) = Int.log 2 ((num : ℚ) / den) := by
    split_ifs with hbelow
    · rw [shift_lt_iff hden] at hbelow
      exact (intLog_eq_of_bounds hge (by simpa using hbelow)).symm
    · rw [shift_lt_iff hden, not_lt] at hbelow
      exact (intLog_eq_of_bounds hbelow hlt).symm
  unfold exponentFor
  dsimp only
  rw [hfloor]

/-- The magnitude of a value, exactly. -/
def size (x : Binary64) : ℚ := x.significand * 2 ^ x.exponent

theorem size_nonneg (x : Binary64) : 0 ≤ x.size :=
  mul_nonneg (Nat.cast_nonneg _) (two_zpow_pos _).le

/-! ## Rounding a ratio -/

/-- The rounded significand of a ratio, before a carry into the next binade. -/
theorem exists_rounded (negative : Bool) (hnum : 0 < num) (hden : 0 < den) :
    ∃ (m : ℕ) (e : ℤ), e = max minExponent (Int.log 2 ((num : ℚ) / den) - 52) ∧
      |(m : ℚ) - num / den / 2 ^ e| ≤ 1 / 2 ∧
      ofRatio? negative num den =
        if m = 2 ^ 53 then if maxExponent < e + 1 then none else some ⟨negative, 2 ^ 52, e + 1⟩
        else if maxExponent < e then none else some ⟨negative, m, e⟩ := by
  have hpos : 0 < den * Nat.pow 2 (exponentFor num den).toNat :=
    Nat.mul_pos hden (Nat.pow_pos (by decide))
  refine ⟨roundHalfEven (num * Nat.pow 2 (-exponentFor num den).toNat)
    (den * Nat.pow 2 (exponentFor num den).toNat), exponentFor num den,
    exponentFor_eq hnum hden, ?_, ?_⟩
  · rw [← div_shift]
    exact abs_roundHalfEven_sub_le _ hpos
  · unfold ofRatio?
    rw [if_neg hnum.ne']
    simp only [Nat.pow_eq]
    split_ifs <;> rfl

/-- The largest value and half a step more. -/
def limit : ℚ := (2 ^ 54 - 1) * 2 ^ 970

/-- A ratio below this has a result. -/
theorem exists_ofRatio? (negative : Bool) (hden : 0 < den) (h : (num : ℚ) / den < limit) :
    ∃ x, ofRatio? negative num den = some x := by
  obtain rfl | hnum := num.eq_zero_or_pos
  · exact ⟨_, rfl⟩
  obtain ⟨m, e, he, hm, heq⟩ := exists_rounded negative hnum hden
  have hlog : Int.log 2 ((num : ℚ) / den) < 1024 := by
    have hlimit : limit < 2 ^ (54 + 970) := by
      rw [limit, pow_add]
      gcongr
      norm_num
    refine (Int.lt_zpow_iff_log_lt (by decide) (by positivity)).mp ?_
    rw [Nat.cast_ofNat, zpow_ofNat]
    exact h.trans hlimit
  rw [heq]
  split_ifs with hcarry hlarge hlarge
  · -- a carry at the largest exponent would take a ratio that is nearer to the next binade
    have hexponent : e = 971 := by
      simp only [minExponent, maxExponent] at he hlarge
      omega
    rw [hexponent, zpow_ofNat, hcarry] at hm
    have hratio : (num : ℚ) / den / 2 ^ 971 < (2 ^ 54 - 1) / 2 := by
      have hpow : (2 : ℚ) ^ 971 = 2 * 2 ^ 970 := pow_succ' 2 970
      rw [div_lt_iff₀ (by positivity), hpow, ← mul_assoc, div_mul_cancel₀ _ two_ne_zero]
      exact h
    have hle := (abs_le.mp hm).2
    generalize (num : ℚ) / den / 2 ^ 971 = r at hle hratio
    norm_num at hle
    linarith
  · exact ⟨_, rfl⟩
  · simp only [minExponent, maxExponent] at he hlarge
    omega
  · exact ⟨_, rfl⟩

/-- From the next power of two on there is no result. -/
theorem ofRatio?_eq_none (negative : Bool) (hden : 0 < den) (h : 2 ^ 1024 ≤ (num : ℚ) / den) :
    ofRatio? negative num den = none := by
  have hratio : 0 < (num : ℚ) / den := lt_of_lt_of_le (by positivity) h
  have hnum : 0 < num := by
    by_contra hzero
    obtain rfl := Nat.eq_zero_of_not_pos hzero
    simp at hratio
  obtain ⟨m, e, he, -, heq⟩ := exists_rounded negative hnum hden
  have hlog : 1024 ≤ Int.log 2 ((num : ℚ) / den) := by
    refine (Int.zpow_le_iff_le_log (by decide) hratio).mp ?_
    rwa [Nat.cast_ofNat, zpow_ofNat]
  have hexponent : maxExponent < e := by
    simp only [minExponent, maxExponent] at he ⊢
    omega
  rw [heq, if_pos hexponent, if_pos (hexponent.trans (lt_add_one e)), ite_self]

/-- The error of a result, relative to a ratio that is not subnormal. -/
theorem ofRatio?_error {x : Binary64} (hden : 0 < den) (h : 2 ^ (-1022 : ℤ) ≤ (num : ℚ) / den)
    (hx : ofRatio? negative num den = some x) : |x.size - num / den| ≤ num / den / 2 ^ 53 := by
  have hratio : 0 < (num : ℚ) / den := (two_zpow_pos _).trans_le h
  have hnum : 0 < num := by
    by_contra hzero
    obtain rfl := Nat.eq_zero_of_not_pos hzero
    simp at hratio
  obtain ⟨m, e, he, hm, heq⟩ := exists_rounded negative hnum hden
  have hlog : -1022 ≤ Int.log 2 ((num : ℚ) / den) :=
    (Int.zpow_le_iff_le_log (by decide) hratio).mp (by exact_mod_cast h)
  have hsize : x.size = m * 2 ^ e := by
    rw [heq] at hx
    split_ifs at hx with hcarry
    · cases hx
      rw [size, hcarry, zpow_add_one₀ (by norm_num)]
      push_cast
      ring
    · cases hx
      rfl
  have hstep : (2 : ℚ) ^ e / 2 ≤ num / den / 2 ^ 53 := by
    have hexponent : e + 52 = Int.log 2 ((num : ℚ) / den) := by
      simp only [minExponent] at he
      omega
    have hle : (2 : ℚ) ^ (e + 52) ≤ num / den := by
      rw [hexponent]
      exact_mod_cast Int.zpow_log_le_self (by decide) hratio
    rw [zpow_add₀ (by norm_num), zpow_ofNat] at hle
    rw [div_le_div_iff₀ (by norm_num) (by positivity), pow_succ]
    linarith
  rw [hsize]
  calc |(m : ℚ) * 2 ^ e - num / den|
      = |(m : ℚ) - num / den / 2 ^ e| * 2 ^ e := by
        rw [← abs_of_pos (two_zpow_pos e), ← abs_mul, abs_of_pos (two_zpow_pos e), sub_mul,
          div_mul_cancel₀ _ (two_zpow_pos e).ne']
    _ ≤ 1 / 2 * 2 ^ e := by gcongr
    _ = 2 ^ e / 2 := by ring
    _ ≤ num / den / 2 ^ 53 := hstep

/-- A whole number below the largest value has a nearest one. -/
theorem exists_ofNat? {n : ℕ} (h : (n : ℚ) < limit) :
    ∃ x, ofNat? n = some x ∧ |x.size - n| ≤ n / 2 ^ 53 := by
  obtain ⟨x, hx⟩ : ∃ x, ofRatio? false n 1 = some x :=
    exists_ofRatio? false Nat.one_pos (by simpa using h)
  refine ⟨x, hx, ?_⟩
  obtain rfl | hn := n.eq_zero_or_pos
  · cases hx
    simp [size, zero]
  · have hnormal : (2 : ℚ) ^ (-1022 : ℤ) ≤ (n : ℚ) / (1 : ℕ) := by
      have hone : (2 : ℚ) ^ (-1022 : ℤ) ≤ 2 ^ (0 : ℤ) := by gcongr <;> norm_num
      have hle : (1 : ℚ) ≤ n := by exact_mod_cast hn
      rw [Nat.cast_one, div_one]
      exact hone.trans hle
    simpa using ofRatio?_error Nat.one_pos hnormal hx

/-! ## Products -/

theorem ratio_snd_pos (x : Binary64) : 0 < x.ratio.2 := Nat.pow_pos (by decide)

/-- The two parts of a magnitude give its size. -/
theorem ratio_eq_size (x : Binary64) : (x.ratio.1 : ℚ) / x.ratio.2 = x.size := by
  rw [ratio, size, two_zpow_eq_div]
  push_cast
  rw [mul_div_assoc]

/-- A product is rounded like the ratio that it is. -/
theorem mul?_eq_ofRatio? (x y : Binary64) : ∃ num den : ℕ, 0 < den ∧
    (num : ℚ) / den = x.size * y.size ∧
      x.mul? y = ofRatio? (x.negative != y.negative) num den := by
  refine ⟨x.ratio.1 * y.ratio.1, x.ratio.2 * y.ratio.2,
    Nat.mul_pos x.ratio_snd_pos y.ratio_snd_pos, ?_, rfl⟩
  rw [Nat.cast_mul, Nat.cast_mul, ← div_mul_div_comm, ratio_eq_size, ratio_eq_size]

end Binary64

end LineLint.Number
