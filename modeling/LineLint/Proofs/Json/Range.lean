import LineLint.Proofs.Json.Numerals
import LineLint.Proofs.Number.Rounding

/-!
# Which literals are in range

The reader rounds more than once: it passes over digits for which there is no room, then rounds the
significand, a power of ten and their product. All of this moves a literal by a small part of its
size, so one that is clear of the largest floating point number is on the same side as exactly
written.

* `Literal.size` — what is written, exactly.
* `Literal.gathered` — the significand and its power of ten, exactly.
* `Close` — two sizes that are the same up to the first eighteen digits.
* `Literal.InRange` — a size below the largest floating point number, and an exponent of 31 bits.

Results:

* `gather_spec`, `le_gather`: digits are left over only when eighteen have been taken.
* `Literal.gathered_close`: what is gathered is close to what is written.
* `exists_magnitude?`, `magnitude?_eq_none`: which magnitudes are in range.
* `Literal.exists_value`, `Literal.value?_eq_none`: which literals are.
-/

namespace LineLint.Json

open Number (Binary64)

variable {ds : List Char} {n : ℕ} {e : ℤ} {a b : ℚ}

/-! ## Gathered digits -/

theorem ofDigitChars_lt (hds : Digits ds) : Nat.ofDigitChars 10 ds 0 < 10 ^ ds.length := by
  induction ds with
  | nil => exact Nat.one_pos
  | cons c ds ih =>
    have hc := digitValue_lt (hds c List.mem_cons_self)
    have hlt := ih fun d hd => hds d (List.mem_cons_of_mem c hd)
    rw [ofDigitChars_cons, Nat.ofDigitChars_eq_ofDigitChars_zero, List.length_cons, pow_succ']
    nlinarith

/-- Digits after a number make it that much longer. -/
theorem ofDigitChars_bounds (hds : Digits ds) (n : ℕ) :
    n * 10 ^ ds.length ≤ Nat.ofDigitChars 10 ds n ∧
      Nat.ofDigitChars 10 ds n < (n + 1) * 10 ^ ds.length := by
  have hlt := ofDigitChars_lt hds
  rw [Nat.ofDigitChars_eq_ofDigitChars_zero, Nat.succ_mul, Nat.mul_comm n]
  omega

/-- What is gathered is a first part of the digits, as long as possible. -/
theorem gather_spec (n : ℕ) (ds : List Char) :
    ∃ taken, ds = taken ++ (gather n ds).2 ∧ (gather n ds).1 = Nat.ofDigitChars 10 taken n := by
  induction ds generalizing n with
  | nil => exact ⟨[], rfl, rfl⟩
  | cons c ds ih =>
    rw [gather]
    split_ifs with hfull
    · exact ⟨[], rfl, rfl⟩
    · obtain ⟨taken, htaken, hvalue⟩ := ih (n * 10 + digitValue c)
      refine ⟨c :: taken, ?_, ?_⟩
      · rw [List.cons_append, ← htaken]
      · rw [hvalue, ofDigitChars_cons]

theorem gather_lt (h : n < 2 ^ 64) (ds : List Char) : (gather n ds).1 < 2 ^ 64 := by
  induction ds generalizing n with
  | nil => exact h
  | cons c ds ih =>
    rw [gather]
    split_ifs with hfull
    · exact h
    · refine ih ?_
      simp only [maxSignificand, Nat.pow_eq] at hfull
      omega

/-- Digits are left over only after eighteen of them at least. -/
theorem le_gather (hds : Digits ds) (h : (gather n ds).2 ≠ []) : 10 ^ 18 ≤ (gather n ds).1 := by
  induction ds generalizing n with
  | nil => exact absurd rfl h
  | cons c ds ih =>
    have hc := digitValue_lt (hds c List.mem_cons_self)
    rw [gather] at h ⊢
    split_ifs at h ⊢ with hfull
    · simp only [maxSignificand, Nat.pow_eq] at hfull
      omega
    · exact ih (fun d hd => hds d (List.mem_cons_of_mem c hd)) h

/-! ## Sizes -/

/-- Two sizes that are the same up to the first eighteen digits. -/
structure Close (a b : ℚ) : Prop where
  left : a ≤ b * (1 + 1 / 10 ^ 18)
  right : b ≤ a * (1 + 1 / 10 ^ 18)

theorem close_refl (ha : 0 ≤ a) : Close a a := ⟨by linarith, by linarith⟩

theorem Close.mul (h : Close a b) {c : ℚ} (hc : 0 ≤ c) : Close (a * c) (b * c) := by
  constructor
  · rw [mul_right_comm]
    exact mul_le_mul_of_nonneg_right h.left hc
  · rw [mul_right_comm]
    exact mul_le_mul_of_nonneg_right h.right hc

/-- A size between a number of units and the next. -/
def Within (m : ℕ) (w a : ℚ) : Prop := m * w ≤ a ∧ a < (m + 1) * w

/-- Two sizes between a number of units and the next are close if the number is large. -/
theorem close_of_within {m : ℕ} {w : ℚ} (hm : 10 ^ 18 ≤ m) (hw : 0 < w) (ha : Within m w a)
    (hb : Within m w b) : Close a b := by
  have hm' : (10 ^ 18 : ℚ) ≤ m := by exact_mod_cast hm
  have hunit : w ≤ m * w / 10 ^ 18 := by
    rw [le_div_iff₀ (by norm_num), mul_comm]
    exact mul_le_mul_of_nonneg_right hm' hw.le
  obtain ⟨hage, halt⟩ := ha
  obtain ⟨hbge, hblt⟩ := hb
  constructor <;> linarith

/-- Digits after a number stay within its units. -/
theorem within_ofDigitChars (hds : Digits ds) (n : ℕ) (p : ℤ) :
    Within n (10 ^ p) (Nat.ofDigitChars 10 ds n * 10 ^ (p - ds.length)) := by
  obtain ⟨hge, hlt⟩ := ofDigitChars_bounds hds n
  have hunit : (0 : ℚ) < 10 ^ (p - ds.length) := zpow_pos (by norm_num) _
  have hpow : (10 : ℚ) ^ p = 10 ^ ds.length * 10 ^ (p - ds.length) := by
    rw [← zpow_natCast, ← zpow_add₀ (by norm_num)]
    congr 1
    omega
  rw [Within, hpow, ← mul_assoc, ← mul_assoc]
  constructor
  · exact mul_le_mul_of_nonneg_right (by exact_mod_cast hge) hunit.le
  · exact mul_lt_mul_of_pos_right (by exact_mod_cast hlt) hunit

namespace Literal

/-- All digits of a literal, as one whole number. -/
def digits (l : Literal) : ℕ := Nat.ofDigitChars 10 (l.integer ++ l.fraction) 0

/-- The power of ten that the exponent stands for. -/
def shift (l : Literal) : ℤ := l.exponent.elim 0 Exponent.value

/-- The size of what is written, exactly. -/
def size (l : Literal) : ℚ := l.digits * 10 ^ (-(l.fraction.length : ℤ)) * 10 ^ l.shift

/-- The significand and its power of ten, exactly. -/
def gathered (l : Literal) : ℚ := l.significand * 10 ^ l.power * 10 ^ l.shift

/-- What is gathered is close to what is written. -/
theorem gathered_close (l : Literal) : Close l.gathered l.size := by
  refine Close.mul ?_ (zpow_pos (by norm_num) _).le
  obtain ⟨first, hinteger, hhead⟩ := gather_spec 0 l.integer
  obtain ⟨taken, hfraction, hsignificand⟩ := gather_spec l.head.1 l.fraction
  change l.integer = first ++ l.head.2 at hinteger
  change l.head.1 = _ at hhead
  change l.significand = _ at hsignificand
  have hleft : Digits (l.head.2 ++ l.fraction) := by
    intro c hc
    obtain hc | hc := List.mem_append.mp hc
    · exact l.isInteger c (hinteger ▸ List.mem_append_right _ hc)
    · exact l.isFraction c hc
  have htaken : Digits taken := fun c hc => l.isFraction c (hfraction ▸ List.mem_append_left _ hc)
  have hdigits : l.digits = Nat.ofDigitChars 10 (l.head.2 ++ l.fraction) l.head.1 := by
    rw [digits, hinteger, List.append_assoc, Nat.ofDigitChars_append, ← hhead]
  have hpower : l.power = l.head.2.length - taken.length := by
    rw [power, powerAfter]
    have hlength := congrArg List.length hfraction
    rw [List.length_append] at hlength
    omega
  by_cases hroom : l.head.2 = []
  · generalize hmore : (gather l.head.1 l.fraction).2 = more at hfraction
    have hmore' : Digits more := fun c hc => l.isFraction c (hfraction ▸ List.mem_append_right _ hc)
    have hlength : (l.fraction.length : ℤ) = taken.length + more.length := by
      rw [hfraction, List.length_append, Nat.cast_add]
    rw [hroom, List.nil_append, hfraction, Nat.ofDigitChars_append, ← hsignificand] at hdigits
    rw [hroom, List.length_nil, Nat.cast_zero, zero_sub] at hpower
    have hunit : (0 : ℚ) < 10 ^ l.power := zpow_pos (by norm_num) _
    have hsize := within_ofDigitChars hmore' l.significand l.power
    rw [← hdigits, hpower, sub_eq_add_neg, ← neg_add, ← hlength, ← hpower] at hsize
    by_cases hall : more = []
    · rw [hall, Nat.ofDigitChars_nil] at hdigits
      rw [hall, List.length_nil, Nat.cast_zero, add_zero] at hlength
      rw [hdigits, hlength, ← hpower]
      exact close_refl (mul_nonneg (Nat.cast_nonneg _) hunit.le)
    · have hbound : 10 ^ 18 ≤ l.significand := le_gather l.isFraction (hmore ▸ hall)
      refine close_of_within hbound hunit ⟨le_refl _, ?_⟩ hsize
      exact mul_lt_mul_of_pos_right (lt_add_one _) hunit
  · -- the fraction counts less than the integer digits left over
    have hbound : 10 ^ 18 ≤ l.head.1 := le_gather l.isInteger hroom
    have hgathered := within_ofDigitChars htaken l.head.1 l.head.2.length
    have hsize := within_ofDigitChars hleft l.head.1 l.head.2.length
    rw [← hsignificand, ← hpower] at hgathered
    rw [← hdigits, List.length_append, Nat.cast_add, sub_add_cancel_left] at hsize
    exact close_of_within hbound (zpow_pos (by norm_num) _) hgathered hsize

end Literal

/-! ## Magnitudes -/

/-- Two roundings move a product by a small part. -/
theorem product_bounds {x y : Binary64} (ha : 0 ≤ a) (hb : 0 ≤ b) (hx : |x.size - a| ≤ a / 2 ^ 53)
    (hy : |y.size - b| ≤ b / 2 ^ 53) :
    x.size * y.size ≤ a * b * (1 + 1 / 10 ^ 15) ∧ a * b * (1 - 1 / 10 ^ 15) ≤ x.size * y.size := by
  obtain ⟨hxge, hxle⟩ := abs_le.mp hx
  obtain ⟨hyge, hyle⟩ := abs_le.mp hy
  have hab : 0 ≤ a * b := mul_nonneg ha hb
  constructor
  · calc x.size * y.size ≤ (a * (1 + 1 / 2 ^ 53)) * (b * (1 + 1 / 2 ^ 53)) :=
          mul_le_mul (by linarith) (by linarith) y.size_nonneg (by positivity)
      _ = a * b * ((1 + 1 / 2 ^ 53) * (1 + 1 / 2 ^ 53)) := by ring
      _ ≤ a * b * (1 + 1 / 10 ^ 15) := mul_le_mul_of_nonneg_left (by norm_num) hab
  · calc a * b * (1 - 1 / 10 ^ 15) ≤ a * b * ((1 - 1 / 2 ^ 53) * (1 - 1 / 2 ^ 53)) :=
          mul_le_mul_of_nonneg_left (by norm_num) hab
      _ = (a * (1 - 1 / 2 ^ 53)) * (b * (1 - 1 / 2 ^ 53)) := by ring
      _ ≤ x.size * y.size :=
          mul_le_mul (by linarith) (by linarith) (mul_nonneg hb (by norm_num)) x.size_nonneg

/-- A comparison with the largest value, on whole numbers. -/
theorem lt_limit {c k : ℕ} (h : c * 10 ^ k < (2 ^ 54 - 1) * 2 ^ 970) :
    (c : ℚ) * 10 ^ k < Binary64.limit := by
  have hcast : ((c * 10 ^ k : ℕ) : ℚ) < ((2 ^ 54 - 1) * 2 ^ 970 : ℕ) := Nat.cast_lt.mpr h
  have hsub : ((2 ^ 54 - 1 : ℕ) : ℚ) = 2 ^ 54 - 1 := by norm_num
  rwa [Nat.cast_mul, Nat.cast_mul, hsub, Nat.cast_pow, Nat.cast_pow, Nat.cast_ofNat,
    Nat.cast_ofNat] at hcast

theorem limit_le : Binary64.limit ≤ 10 ^ 309 := by
  have h : (2 ^ 54 - 1) * 2 ^ 970 ≤ 10 ^ 309 := by decide +kernel
  have hcast : (((2 ^ 54 - 1) * 2 ^ 970 : ℕ) : ℚ) ≤ (10 ^ 309 : ℕ) := Nat.cast_le.mpr h
  have hsub : ((2 ^ 54 - 1 : ℕ) : ℚ) = 2 ^ 54 - 1 := by norm_num
  rwa [Nat.cast_mul, hsub, Nat.cast_pow, Nat.cast_pow, Nat.cast_ofNat, Nat.cast_ofNat] at hcast

/-- The significand itself is always in range. -/
theorem exists_significand (hn : n < 2 ^ 64) :
    ∃ x, Binary64.ofNat? n = some x ∧ |x.size - n| ≤ n / 2 ^ 53 := by
  have hlimit : 2 ^ 64 ≤ (2 ^ 54 - 1) * 2 ^ 970 := by decide +kernel
  have hlt := lt_limit (c := n) (k := 0) (by rw [pow_zero, mul_one]; exact hn.trans_le hlimit)
  exact Binary64.exists_ofNat? (by simpa using hlt)

/-- So is every power of ten that is used in one step. -/
theorem exists_power {k : ℕ} (hk : k ≤ maxPower) :
    ∃ y, Binary64.ofNat? (Nat.pow 10 k) = some y ∧ |y.size - 10 ^ k| ≤ 10 ^ k / 2 ^ 53 := by
  have hlimit : 10 ^ maxPower < (2 ^ 54 - 1) * 2 ^ 970 := by decide +kernel
  have hpow : 10 ^ k ≤ 10 ^ maxPower := Nat.pow_le_pow_right (by decide) hk
  have hlt := lt_limit (c := 1) (k := k) (by rw [one_mul]; exact hpow.trans_lt hlimit)
  have hcast : ((Nat.pow 10 k : ℕ) : ℚ) = 10 ^ k := by
    rw [Nat.pow_eq, Nat.cast_pow, Nat.cast_ofNat]
  rw [Nat.cast_one, one_mul, ← hcast] at hlt
  obtain ⟨y, hy, herror⟩ := Binary64.exists_ofNat? hlt
  exact ⟨y, hy, by rwa [hcast] at herror⟩

theorem exists_magnitude? (hn : n < 2 ^ 64)
    (h : (n : ℚ) * 10 ^ e * (1 + 1 / 10 ^ 15) < Binary64.limit) :
    ∃ x, magnitude? n e = some x := by
  obtain ⟨x, hx, hxerror⟩ := exists_significand hn
  unfold magnitude?
  rw [hx]
  dsimp only
  split_ifs with hnonneg hle hzero
  · obtain ⟨k, rfl⟩ := Int.eq_ofNat_of_zero_le hnonneg
    rw [Int.toNat_natCast]
    obtain ⟨y, hy, hyerror⟩ := exists_power (k := k) (by exact_mod_cast hle)
    obtain ⟨num, den, hden, hratio, hmul⟩ := x.mul?_eq_ofRatio? y
    have hbound := (product_bounds (Nat.cast_nonneg n) (by positivity) hxerror hyerror).1
    rw [hy, Option.bind_some, hmul]
    refine Binary64.exists_ofRatio? _ hden ?_
    rw [hratio]
    rw [zpow_natCast] at h
    exact hbound.trans_lt h
  · exact ⟨x, rfl⟩
  · -- a power of ten this large is past the limit with any significand but zero
    exfalso
    have hpos : 0 < n := by
      by_contra hn0
      obtain rfl := Nat.eq_zero_of_not_pos hn0
      cases hx
      exact hzero rfl
    have hone : (1 : ℚ) ≤ n := by exact_mod_cast hpos
    have hpow : (10 : ℚ) ^ 309 ≤ 10 ^ e := by
      rw [← zpow_natCast]
      refine zpow_le_zpow_right₀ (by norm_num) ?_
      simp only [maxPower] at hle
      omega
    have hlarge : (10 : ℚ) ^ e ≤ n * 10 ^ e * (1 + 1 / 10 ^ 15) := by
      have hunit : (0 : ℚ) ≤ 10 ^ e := zpow_nonneg (by norm_num) e
      have hscaled : (10 : ℚ) ^ e ≤ n * 10 ^ e := le_mul_of_one_le_left hunit hone
      linarith only [hunit, hscaled]
    exact absurd h (not_lt.mpr (limit_le.trans (hpow.trans hlarge)))
  · exact ⟨_, rfl⟩

theorem magnitude?_eq_none (hn : n < 2 ^ 64)
    (h : 2 ^ 1024 ≤ (n : ℚ) * 10 ^ e * (1 - 1 / 10 ^ 15)) : magnitude? n e = none := by
  obtain ⟨x, hx, hxerror⟩ := exists_significand hn
  have hn' : (n : ℚ) < 2 ^ 64 := by exact_mod_cast hn
  have hunit : (0 : ℚ) < 10 ^ e := zpow_pos (by norm_num) e
  have hpos : (0 : ℚ) < n := by
    by_contra hzero
    have hle : (n : ℚ) * 10 ^ e * (1 - 1 / 10 ^ 15) ≤ 0 :=
      mul_nonpos_of_nonpos_of_nonneg
        (mul_nonpos_of_nonpos_of_nonneg (not_lt.mp hzero) hunit.le) (by norm_num)
    exact absurd (h.trans hle) (not_le.mpr (by positivity))
  have hnonneg : 0 ≤ e := by
    by_contra hneg
    have hone : (10 : ℚ) ^ e ≤ 1 := zpow_le_one_of_nonpos₀ (by norm_num) (by omega)
    have hle : (n : ℚ) * 10 ^ e * (1 - 1 / 10 ^ 15) ≤ n := by
      have hscaled : (n : ℚ) * 10 ^ e ≤ n := mul_le_of_le_one_right hpos.le hone
      have hscaled_nonneg : 0 ≤ (n : ℚ) * 10 ^ e := mul_nonneg hpos.le hunit.le
      linarith only [hscaled, hscaled_nonneg]
    have hlarge : (2 : ℚ) ^ 64 ≤ 2 ^ 1024 := by gcongr <;> norm_num
    exact absurd (h.trans hle) (not_le.mpr (hn'.trans_le hlarge))
  unfold magnitude?
  rw [hx]
  dsimp only
  rw [if_pos hnonneg]
  split_ifs with hle hzero
  · obtain ⟨k, rfl⟩ := Int.eq_ofNat_of_zero_le hnonneg
    rw [Int.toNat_natCast]
    obtain ⟨y, hy, hyerror⟩ := exists_power (k := k) (by exact_mod_cast hle)
    obtain ⟨num, den, hden, hratio, hmul⟩ := x.mul?_eq_ofRatio? y
    have hbound := (product_bounds hpos.le (by positivity) hxerror hyerror).2
    rw [hy, Option.bind_some, hmul]
    refine Binary64.ofRatio?_eq_none _ hden ?_
    rw [hratio]
    rw [zpow_natCast] at h
    exact h.trans hbound
  · exfalso
    have hsize : x.size = 0 := by
      have hsignificand : x.significand = 0 := by simpa [Binary64.isZero] using hzero
      rw [Binary64.size, hsignificand, Nat.cast_zero, zero_mul]
    rw [hsize, zero_sub, abs_neg, abs_of_pos hpos, le_div_iff₀ (by norm_num)] at hxerror
    linarith only [hxerror, hpos]
  · rfl

/-! ## Literals -/

namespace Literal

theorem size_nonneg (l : Literal) : 0 ≤ l.size :=
  mul_nonneg (mul_nonneg (Nat.cast_nonneg _) (zpow_pos (by norm_num) _).le)
    (zpow_pos (by norm_num) _).le

theorem significand_lt (l : Literal) : l.significand < 2 ^ 64 :=
  gather_lt (gather_lt (by decide) l.integer) l.fraction

/-- A literal is zero just if nothing but zeros has been gathered. -/
theorem significand_eq_zero_iff (l : Literal) : l.significand = 0 ↔ l.size = 0 := by
  have hunit : (0 : ℚ) < 10 ^ l.power * 10 ^ l.shift :=
    mul_pos (zpow_pos (by norm_num) _) (zpow_pos (by norm_num) _)
  have hzero : l.significand = 0 ↔ l.gathered = 0 := by
    rw [gathered, mul_assoc, mul_eq_zero, or_iff_left hunit.ne', Nat.cast_eq_zero]
  obtain ⟨hle, hge⟩ := l.gathered_close
  rw [hzero]
  constructor
  · intro h
    rw [h, zero_mul] at hge
    exact le_antisymm hge l.size_nonneg
  · intro h
    rw [h, zero_mul] at hle
    exact le_antisymm hle (mul_nonneg (mul_nonneg (Nat.cast_nonneg _)
      (zpow_pos (by norm_num) _).le) (zpow_pos (by norm_num) _).le)

/-- A size below the largest floating point number. The exponent of a number that is not zero has 31
bits unless it is negative. -/
structure InRange (l : Literal) : Prop where
  size_le : l.size ≤ 1797 * 10 ^ 305
  exponent_lt : l.size ≠ 0 → ∀ e ∈ l.exponent, e.up = true → e.number < 2 ^ 31

theorem lt_limit_of_size_le (l : Literal) (h : l.size ≤ 1797 * 10 ^ 305) :
    l.gathered * (1 + 1 / 10 ^ 15) < Binary64.limit := by
  have hclear : 1797 * (10 ^ 14 + 1) * 10 ^ 291 < (2 ^ 54 - 1) * 2 ^ 970 := by decide +kernel
  refine lt_of_le_of_lt ?_ (lt_limit hclear)
  have hpow : (10 : ℚ) ^ 305 = 10 ^ 14 * 10 ^ 291 := by rw [← pow_add]
  have hunit : (0 : ℚ) < 10 ^ 291 := by positivity
  have hclose := l.gathered_close.left
  have hcast : ((1797 * (10 ^ 14 + 1) : ℕ) : ℚ) = 1797 * (10 ^ 14 + 1) := by norm_num
  rw [hpow] at h
  rw [hcast]
  generalize (10 : ℚ) ^ 291 = u at h hunit ⊢
  linarith only [h, hunit, hclose]

theorem two_pow_le_of_le_size (l : Literal) (h : 1798 * 10 ^ 305 ≤ l.size) :
    2 ^ 1024 ≤ l.gathered * (1 - 1 / 10 ^ 15) := by
  have hclear : 2 ^ 1024 ≤ 17979 * 10 ^ 13 * 10 ^ 291 := by decide +kernel
  have hlarge : ((2 ^ 1024 : ℕ) : ℚ) ≤ (17979 * 10 ^ 13 * 10 ^ 291 : ℕ) :=
    Nat.cast_le.mpr hclear
  have hcast : ((17979 * 10 ^ 13 : ℕ) : ℚ) = 17979 * 10 ^ 13 := by norm_num
  rw [Nat.cast_mul, hcast, Nat.cast_pow, Nat.cast_pow, Nat.cast_ofNat, Nat.cast_ofNat] at hlarge
  refine hlarge.trans ?_
  have hpow : (10 : ℚ) ^ 305 = 10 ^ 14 * 10 ^ 291 := by rw [← pow_add]
  have hunit : (0 : ℚ) < 10 ^ 291 := by positivity
  have hclose := l.gathered_close.right
  clear hclear hlarge hcast
  rw [hpow] at h
  generalize (10 : ℚ) ^ 291 = u at h hunit ⊢
  linarith only [h, hunit, hclose]

/-- The magnitude of a literal with its exponent, for an exponent that is not past 31 bits. -/
theorem scaled?_eq (l : Literal) (h : ∀ e ∈ l.exponent, e.number < 2 ^ 31) :
    scaled? l.significand l.power l.exponent = magnitude? l.significand (l.power + l.shift) := by
  unfold scaled? shift
  cases hexponent : l.exponent with
  | none => simp
  | some e =>
    have hlt := h e hexponent
    have hfits : ¬maxExponentDigits < e.number := by
      simp only [maxExponentDigits, Nat.pow_eq]
      omega
    rw [Option.elim_some, Option.elim_some, if_neg hfits]

theorem gathered_eq (l : Literal) :
    l.gathered = l.significand * 10 ^ (l.power + l.shift) := by
  rw [gathered, mul_assoc, ← zpow_add₀ (by norm_num)]

/-- A literal in range stands for a number. -/
theorem exists_value (l : Literal) (h : l.InRange) : ∃ v, l.value? = some v := by
  unfold value?
  split_ifs with hwhole
  · exact ⟨_, rfl⟩
  suffices hscaled : ∃ x, scaled? l.significand l.power l.exponent = some x by
    obtain ⟨x, hx⟩ := hscaled
    exact ⟨_, by rw [hx]; rfl⟩
  by_cases hfits : ∀ e ∈ l.exponent, e.number < 2 ^ 31
  · rw [l.scaled?_eq hfits]
    refine exists_magnitude? l.significand_lt ?_
    rw [← l.gathered_eq]
    exact l.lt_limit_of_size_le h.size_le
  · push Not at hfits
    obtain ⟨e, he, hnumber⟩ := hfits
    have hlarge : maxExponentDigits < e.number := by
      simp only [maxExponentDigits, Nat.pow_eq]
      omega
    have hzero : ¬(l.significand ≠ 0 ∧ e.up = true) := by
      rintro ⟨hsignificand, hup⟩
      have hsize : l.size ≠ 0 := fun hsize => hsignificand (l.significand_eq_zero_iff.mpr hsize)
      exact absurd (h.exponent_lt hsize e he hup) (not_lt.mpr hnumber)
    rw [Option.mem_def.mp he, scaled?, Option.elim_some, if_pos hlarge, if_neg hzero]
    exact ⟨_, rfl⟩

/-- A literal past the largest floating point number does not, and neither does one with an exponent
past 31 bits, unless it is zero. -/
theorem value?_eq_none (l : Literal)
    (h : (1798 * 10 ^ 305 ≤ l.size ∧ ∀ e ∈ l.exponent, e.number < 2 ^ 31) ∨
      (l.size ≠ 0 ∧ ∃ e ∈ l.exponent, e.up = true ∧ 2 ^ 31 ≤ e.number)) : l.value? = none := by
  obtain ⟨hsize, hfits⟩ | ⟨hsize, e, he, hup, hnumber⟩ := h
  · have hlarge := l.two_pow_le_of_le_size hsize
    rw [l.gathered_eq] at hlarge
    have hnone := magnitude?_eq_none l.significand_lt hlarge
    have hwhole : ¬l.IsWhole := by
      rintro ⟨hfraction, hexponent, hroom⟩
      have hpower : l.power + l.shift = 0 := by
        simp [power, powerAfter, shift, hfraction, hexponent, hroom, gather]
      have hlt : (l.significand : ℚ) < 2 ^ 64 := by exact_mod_cast l.significand_lt
      have hle : (2 : ℚ) ^ 64 ≤ 2 ^ 1024 := by gcongr <;> norm_num
      rw [hpower, zpow_zero, mul_one] at hlarge
      generalize (2 : ℚ) ^ 1024 = u at hlarge hle
      linarith only [hlarge, hle, hlt]
    rw [value?, if_neg hwhole, l.scaled?_eq hfits, hnone]
    rfl
  · have hwhole : ¬l.IsWhole := by
      intro hwhole
      rw [hwhole.2.1] at he
      cases he
    have hlarge : maxExponentDigits < e.number := by
      simp only [maxExponentDigits, Nat.pow_eq]
      omega
    have hsignificand : l.significand ≠ 0 := fun hzero => hsize (l.significand_eq_zero_iff.mp hzero)
    rw [value?, if_neg hwhole, Option.mem_def.mp he, scaled?, Option.elim_some, if_pos hlarge,
      if_pos ⟨hsignificand, hup⟩]
    rfl

end Literal

end LineLint.Json
