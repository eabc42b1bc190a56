import DocumentDb.Binary64
import Mathlib.Algebra.Order.Ring.Int

/-!
# The doubles nearest to integers

An integer is converted by rounding a ratio. Here the same is said with integers only: from `2 ^ 53`
on, the doubles among the natural numbers stand at the multiples of a `spacing`, which doubles at
every power of two, and an integer goes to the `nearest` of them.

**Conversion** (`toInt?_ofInt`). An integer of 64 bits becomes its nearest double, which is again an
integer. No other number that is an integer is nearer to it (`natAbs_nearest_sub_le`).

**Order** (`totalCompare_ofInt`). The pattern of a natural number that is a double is its `place`,
and places grow with the numbers. So integers compare in the line of all patterns as their nearest
doubles do.

**Doubles of their own** (`hasOwnDouble_iff`). Some integers share their nearest double with no
other integer of 64 bits. These are all integers below `2 ^ 53` in size, and below `2 ^ 54` those
that lie in the middle of two multiples of four, since their odd neighbours are rounded away from
them.
-/

namespace DocumentDb.Binary64

/-! ## Rounding natural numbers -/

/-- How far apart the natural numbers around `n` are that are doubles. -/
def spacing (n : Nat) : Nat :=
  2 ^ (n.log2 - 52)

/-- Whether `n` goes to the multiple of the spacing above it. -/
def roundsUp (n : Nat) : Bool :=
  decide (spacing n < 2 * (n % spacing n)) ||
    2 * (n % spacing n) == spacing n && n / spacing n % 2 == 1

/-- The number of spacings in the double nearest to `n`. -/
def steps (n : Nat) : Nat :=
  n / spacing n + if roundsUp n then 1 else 0

/-- The double nearest to `n`, as a natural number; a middle goes to the even multiple of the
spacing. -/
def nearestNat (n : Nat) : Nat :=
  steps n * spacing n

variable {k m n : Nat}

theorem spacing_pos (n : Nat) : 0 < spacing n :=
  Nat.two_pow_pos _

theorem spacing_of_lt (h : n < 2 ^ 53) : spacing n = 1 := by
  rw [spacing, Nat.sub_eq_zero_of_le, Nat.pow_zero]
  rcases Nat.eq_zero_or_pos n with rfl | hn
  · decide
  · exact Nat.le_of_lt_succ ((Nat.log2_lt (by omega)).2 h)

/-- From `2 ^ 52` on, a number has 53 binary digits in front of its spacing. -/
theorem spacing_bounds (h : 2 ^ 52 ≤ n) : 2 ^ 52 * spacing n ≤ n ∧ n < 2 ^ 53 * spacing n := by
  have hn : n ≠ 0 := by omega
  have hl : 52 ≤ n.log2 := (Nat.le_log2 hn).2 h
  have hlow := Nat.log2_self_le hn
  have hhigh := @Nat.lt_log2_self n
  rw [spacing, ← Nat.pow_add, ← Nat.pow_add]
  rw [Nat.add_sub_cancel' hl, show 53 + (n.log2 - 52) = n.log2 + 1 by omega]
  exact ⟨hlow, hhigh⟩

theorem log2_eq_of_bounds (hl : 2 ^ 52 * 2 ^ k ≤ n) (hu : n < 2 ^ 53 * 2 ^ k) :
    n.log2 = k + 52 := by
  rw [← Nat.pow_add] at hl hu
  have hn : n ≠ 0 := Nat.ne_of_gt (Nat.lt_of_lt_of_le (Nat.two_pow_pos _) hl)
  rw [Nat.log2_eq_iff hn, Nat.add_comm k, show 52 + k + 1 = 53 + k by omega]
  exact ⟨hl, hu⟩

theorem spacing_eq_of_bounds (hl : 2 ^ 52 * 2 ^ k ≤ n) (hu : n < 2 ^ 53 * 2 ^ k) :
    spacing n = 2 ^ k := by
  rw [spacing, log2_eq_of_bounds hl hu, Nat.add_sub_cancel]

theorem spacing_dvd_spacing (h : m ≤ n) : spacing m ∣ spacing n := by
  refine Nat.pow_dvd_pow 2 (Nat.sub_le_sub_right ?_ 52)
  rcases Nat.eq_zero_or_pos m with rfl | hm
  · exact Nat.zero_le _
  · exact (Nat.le_log2 (by omega)).2 (Nat.le_trans (Nat.log2_self_le (by omega)) h)

theorem spacing_mono (h : m ≤ n) : spacing m ≤ spacing n :=
  Nat.le_of_dvd (spacing_pos n) (spacing_dvd_spacing h)

theorem roundsUp_of_dvd (h : spacing n ∣ n) : roundsUp n = false := by
  have hp := spacing_pos n
  have hr : n % spacing n = 0 := Nat.mod_eq_zero_of_dvd h
  rw [roundsUp, hr]
  simp [Nat.ne_of_lt hp]

/-- A double is the double nearest to it. -/
theorem nearestNat_of_dvd (h : spacing n ∣ n) : nearestNat n = n := by
  rw [nearestNat, steps, roundsUp_of_dvd h]
  exact Nat.div_mul_cancel h

theorem nearestNat_of_lt (h : n < 2 ^ 53) : nearestNat n = n :=
  nearestNat_of_dvd (by rw [spacing_of_lt h]; exact Nat.one_dvd n)

theorem steps_bounds (h : 2 ^ 52 ≤ n) : 2 ^ 52 ≤ steps n ∧ steps n ≤ 2 ^ 53 := by
  have hp := spacing_pos n
  obtain ⟨hl, hu⟩ := spacing_bounds h
  have hl' : 2 ^ 52 ≤ n / spacing n := (Nat.le_div_iff_mul_le hp).2 hl
  have hu' : n / spacing n < 2 ^ 53 := (Nat.div_lt_iff_lt_mul hp).2 hu
  rw [steps]
  split <;> omega

/-- The nearest double of a number that is not small lies between the powers of two around it. -/
theorem nearestNat_bounds (h : 2 ^ 52 ≤ n) :
    2 ^ 52 * spacing n ≤ nearestNat n ∧ nearestNat n ≤ 2 ^ 53 * spacing n :=
  ⟨Nat.mul_le_mul_right _ (steps_bounds h).1, Nat.mul_le_mul_right _ (steps_bounds h).2⟩

/-- Rounding adds a binary digit exactly if it leads to the next power of two. -/
theorem log2_nearestNat (h : 2 ^ 52 ≤ n) :
    (nearestNat n).log2 = n.log2 + if steps n = 2 ^ 53 then 1 else 0 := by
  have hl : 52 ≤ n.log2 := (Nat.le_log2 (by omega)).2 h
  split
  · next hs =>
    have hx : nearestNat n = 2 ^ (n.log2 + 1) := by
      rw [nearestNat, hs, spacing, ← Nat.pow_add]
      congr 1
      omega
    rw [hx, Nat.log2_two_pow]
  · next hs =>
    have hlt : steps n < 2 ^ 53 := Nat.lt_of_le_of_ne (steps_bounds h).2 hs
    rw [log2_eq_of_bounds (nearestNat_bounds h).1
      (Nat.mul_lt_mul_of_pos_right hlt (spacing_pos n))]
    omega

theorem spacing_nearestNat (h : 2 ^ 52 ≤ n) :
    spacing (nearestNat n) = if steps n = 2 ^ 53 then 2 * spacing n else spacing n := by
  have hl : 52 ≤ n.log2 := (Nat.le_log2 (by omega)).2 h
  rw [spacing, log2_nearestNat h, spacing]
  split
  · rw [Nat.sub_add_comm hl, Nat.pow_succ']
  · rfl

theorem spacing_dvd_nearestNat (n : Nat) : spacing (nearestNat n) ∣ nearestNat n := by
  rcases Nat.lt_or_ge n (2 ^ 53) with h | h
  · rw [nearestNat_of_lt h, spacing_of_lt h]
    exact Nat.one_dvd n
  · rw [spacing_nearestNat (by omega)]
    split
    · next hs =>
      rw [nearestNat, hs]
      exact ⟨2 ^ 52, by omega⟩
    · exact Nat.dvd_mul_left ..

@[simp] theorem nearestNat_nearestNat (n : Nat) : nearestNat (nearestNat n) = nearestNat n :=
  nearestNat_of_dvd (spacing_dvd_nearestNat n)

theorem steps_le_of_spacing_eq (h : m ≤ n) (hs : spacing m = spacing n) : steps m ≤ steps n := by
  have hq : m / spacing n ≤ n / spacing n := Nat.div_le_div_right h
  have hm := Nat.div_add_mod m (spacing n)
  have hn := Nat.div_add_mod n (spacing n)
  simp only [steps, roundsUp, hs, Bool.or_eq_true, Bool.and_eq_true, decide_eq_true_eq, beq_iff_eq]
  rcases Nat.lt_or_eq_of_le hq with hq | hq
  · split <;> omega
  · rw [hq] at hm ⊢
    split <;> split <;> omega

theorem nearestNat_mono (h : m ≤ n) : nearestNat m ≤ nearestNat n := by
  rcases Nat.lt_or_ge n (2 ^ 52) with hn | hn
  · rwa [nearestNat_of_lt (by omega), nearestNat_of_lt (by omega)]
  rcases Nat.lt_or_ge m (2 ^ 52) with hm | hm
  · have hp := spacing_pos n
    have := (nearestNat_bounds hn).1
    rw [nearestNat_of_lt (by omega)]
    omega
  rcases Nat.lt_or_eq_of_le (spacing_mono h) with hs | hs
  · have hd : 2 * spacing m ≤ spacing n := by
      rw [spacing, spacing, ← Nat.pow_succ']
      exact Nat.pow_le_pow_right (by decide)
        ((Nat.pow_lt_pow_iff_right (by decide)).1 (show 2 ^ _ < 2 ^ _ from hs))
    have := (nearestNat_bounds hm).2
    have := (nearestNat_bounds hn).1
    omega
  · rw [nearestNat, nearestNat, hs]
    exact Nat.mul_le_mul_right _ (steps_le_of_spacing_eq h hs)

/-! ## The nearest of all -/

/-- The numbers with at most 53 binary digits in front of some zeros are doubles. -/
theorem spacing_dvd_mul_pow {a : Nat} (ha : a < 2 ^ 53) (k : Nat) :
    spacing (a * 2 ^ k) ∣ a * 2 ^ k := by
  rcases Nat.eq_zero_or_pos (a * 2 ^ k) with h0 | hp
  · rw [h0]
    exact Nat.dvd_zero _
  · have hlt : a * 2 ^ k < 2 ^ (53 + k) := by
      rw [Nat.pow_add]
      exact Nat.mul_lt_mul_of_pos_right ha (Nat.two_pow_pos k)
    have hl : (a * 2 ^ k).log2 < 53 + k := (Nat.log2_lt (Nat.ne_of_gt hp)).2 hlt
    exact Nat.dvd_trans (Nat.pow_dvd_pow 2 (by omega)) (Nat.dvd_mul_left ..)

/-- No double lies between a number and the multiple of the spacing below it. -/
theorem le_div_mul_of_dvd (hk : spacing k ∣ k) (h : k ≤ n) :
    k ≤ n / spacing n * spacing n := by
  rcases Nat.lt_or_ge n (2 ^ 52) with hn | hn
  · rw [spacing_of_lt (by omega), Nat.div_one, Nat.mul_one]
    exact h
  obtain ⟨hl, hu⟩ := spacing_bounds hn
  rcases Nat.lt_or_ge k (2 ^ 52 * spacing n) with hlt | hge
  · have hq : 2 ^ 52 ≤ n / spacing n := (Nat.le_div_iff_mul_le (spacing_pos n)).2 hl
    exact Nat.le_trans (Nat.le_of_lt hlt) (Nat.mul_le_mul_right _ hq)
  · have hs : spacing k = spacing n := spacing_eq_of_bounds hge (Nat.lt_of_le_of_lt h hu)
    obtain ⟨q, rfl⟩ := hs ▸ hk
    rw [Nat.mul_comm (spacing n)] at h ⊢
    exact Nat.mul_le_mul_right _ ((Nat.le_div_iff_mul_le (spacing_pos n)).2 h)

/-- No double lies between a number and the multiple of the spacing above it. -/
theorem div_succ_mul_le_of_dvd (hk : spacing k ∣ k) (h : n < k) :
    (n / spacing n + 1) * spacing n ≤ k := by
  obtain ⟨q, rfl⟩ := Nat.dvd_trans (spacing_dvd_spacing (Nat.le_of_lt h)) hk
  rw [Nat.mul_comm (spacing n)] at h ⊢
  exact Nat.mul_le_mul_right _ ((Nat.div_lt_iff_lt_mul (spacing_pos n)).2 h)

/-- No double is nearer to a number than its nearest double. -/
theorem natAbs_nearestNat_sub_le (hk : spacing k ∣ k) :
    ((nearestNat n : Int) - n).natAbs ≤ ((k : Int) - n).natAbs := by
  have hn := Nat.div_add_mod n (spacing n)
  rw [Nat.mul_comm] at hn
  have hr := Nat.mod_lt n (spacing_pos n)
  have hup : (n / spacing n + 1) * spacing n = n / spacing n * spacing n + spacing n :=
    Nat.succ_mul ..
  -- where a double lies that is another one than the two around the number
  have hside : k ≤ n / spacing n * spacing n ∨ n < k ∧ (n / spacing n + 1) * spacing n ≤ k := by
    rcases Nat.lt_or_ge n k with h | h
    · exact .inr ⟨h, div_succ_mul_le_of_dvd hk h⟩
    · exact .inl (le_div_mul_of_dvd hk h)
  rw [nearestNat, steps]
  cases hb : roundsUp n with
  | false =>
    have hle : 2 * (n % spacing n) ≤ spacing n := by
      rw [roundsUp, Bool.or_eq_false_iff, decide_eq_false_iff_not] at hb
      omega
    rw [if_neg (by decide), Nat.add_zero]
    omega
  | true =>
    have hle : spacing n ≤ 2 * (n % spacing n) := by
      rw [roundsUp, Bool.or_eq_true, decide_eq_true_eq, Bool.and_eq_true, beq_iff_eq] at hb
      omega
    rw [if_pos rfl]
    omega

/-! ## Places in the line of patterns -/

/-- The significand with 53 binary digits of a natural number that is a double. -/
def lead (n : Nat) : Nat :=
  if n.log2 < 52 then n * 2 ^ (52 - n.log2) else n / spacing n

/-- The pattern of a natural number that is a double. -/
def place (n : Nat) : Nat :=
  if n = 0 then 0 else (n.log2 + 1022) * 2 ^ 52 + lead n

theorem lead_bounds (h : n ≠ 0) : 2 ^ 52 ≤ lead n ∧ lead n < 2 ^ 53 := by
  rw [lead]
  split
  · next hl =>
    have hlow := Nat.mul_le_mul_right (2 ^ (52 - n.log2)) (Nat.log2_self_le h)
    have hhigh := Nat.mul_lt_mul_of_pos_right (@Nat.lt_log2_self n) (Nat.two_pow_pos (52 - n.log2))
    rw [← Nat.pow_add] at hlow hhigh
    rw [Nat.add_sub_cancel' (Nat.le_of_lt hl)] at hlow
    rw [show n.log2 + 1 + (52 - n.log2) = 53 by omega] at hhigh
    exact ⟨hlow, hhigh⟩
  · next hl =>
    have hn : 2 ^ 52 ≤ n := (Nat.le_log2 h).1 (by omega)
    have hp := spacing_pos n
    exact ⟨(Nat.le_div_iff_mul_le hp).2 (spacing_bounds hn).1,
      (Nat.div_lt_iff_lt_mul hp).2 (spacing_bounds hn).2⟩

/-- The significand of the nearest double is that of the number, rounded; at a power of two it is
halved, and the exponent counts one more. -/
theorem lead_nearestNat (h : 2 ^ 52 ≤ n) :
    lead (nearestNat n) = if steps n = 2 ^ 53 then 2 ^ 52 else steps n := by
  have hl : 52 ≤ n.log2 := (Nat.le_log2 (by omega)).2 h
  have hp := spacing_pos n
  rw [lead, if_neg (by rw [log2_nearestNat h]; omega), spacing_nearestNat h, nearestNat]
  split
  · next hs =>
    rw [hs, show 2 ^ 53 * spacing n = 2 ^ 52 * (2 * spacing n) by omega]
    exact Nat.mul_div_cancel _ (by omega)
  · exact Nat.mul_div_cancel _ hp

theorem place_nearestNat (h : n ≠ 0) :
    place (nearestNat n) =
      (n.log2 + 1022) * 2 ^ 52 + lead n + if roundsUp n then 1 else 0 := by
  rcases Nat.lt_or_ge n (2 ^ 52) with hn | hn
  · have hd : spacing n ∣ n := by
      rw [spacing_of_lt (by omega)]
      exact Nat.one_dvd n
    rw [nearestNat_of_dvd hd, roundsUp_of_dvd hd, place, if_neg h]
    simp
  · have hl : 52 ≤ n.log2 := (Nat.le_log2 h).2 hn
    have hx : nearestNat n ≠ 0 := by
      have := (nearestNat_bounds hn).1
      have := spacing_pos n
      omega
    have hlead : lead n + (if roundsUp n then 1 else 0) = steps n := by
      rw [lead, if_neg (by omega), steps]
    rw [Nat.add_assoc, hlead, place, if_neg hx, log2_nearestNat hn, lead_nearestNat hn]
    split <;> omega

theorem lead_lt_lead (h : m < n) (hl : m.log2 = n.log2) (hn : spacing n ∣ n) :
    lead m < lead n := by
  rw [lead, lead, hl]
  split
  · exact Nat.mul_lt_mul_of_pos_right h (Nat.two_pow_pos _)
  · rw [spacing, hl]
    exact Nat.div_lt_div_of_lt_of_dvd hn h

/-- Places grow with the numbers that are doubles. -/
theorem place_lt_place (h : m < n) (hn : spacing n ∣ n) : place m < place n := by
  have hn0 : n ≠ 0 := by omega
  have hlow := (lead_bounds hn0).1
  rw [place, place, if_neg hn0]
  split
  · omega
  · next hm0 =>
    have hhigh := (lead_bounds hm0).2
    have hl : m.log2 ≤ n.log2 :=
      (Nat.le_log2 hn0).2 (Nat.le_trans (Nat.log2_self_le hm0) (Nat.le_of_lt h))
    rcases Nat.lt_or_eq_of_le hl with hl | hl
    · omega
    · have := lead_lt_lead h hl hn
      omega

theorem place_lt (h : n ≤ 2 ^ 63) : place n < topExponent * 2 ^ 52 := by
  rw [place, topExponent]
  split
  · decide
  · next hn =>
    have hl : n.log2 < 64 := (Nat.log2_lt hn).2 (by omega)
    have := (lead_bounds hn).2
    omega

theorem place_lt_pow (h : n ≤ 2 ^ 63) : place n < 2 ^ 63 := by
  have := place_lt h
  rw [topExponent] at this
  omega

/-! ## Rounding integers -/

/-- At the scale of the spacing, a number has its significand as quotient. -/
theorem scaledRatio_one (n : Nat) :
    scaledRatio n 1 ((n.log2 : Int) - 52) = (lead n, n % spacing n, spacing n) := by
  rw [scaledRatio, lead, spacing]
  rcases Nat.lt_or_ge n.log2 52 with hl | hl
  · have he : (n.log2 : Int) - 52 < 0 := by omega
    have hs : n.log2 - 52 = 0 := by omega
    have hd : (-((n.log2 : Int) - 52)).toNat = 52 - n.log2 := by omega
    simp only [if_pos he, if_pos hl, hs, hd, Nat.pow_eq, Nat.pow_zero, Nat.div_one, Nat.mod_one]
  · have he : ¬ (n.log2 : Int) - 52 < 0 := by omega
    have hd : ((n.log2 : Int) - 52).toNat = n.log2 - 52 := by omega
    simp only [if_neg he, if_neg (Nat.not_lt.2 hl), hd, Nat.pow_eq, Nat.one_mul]

theorem roundingScale_one (h : n ≠ 0) : roundingScale n 1 = (n.log2 : Int) - 52 := by
  have hlead : ¬ lead n < Nat.pow 2 52 := Nat.not_lt.2 (lead_bounds h).1
  have he : (n.log2 : Int) - Nat.log2 1 - 52 = (n.log2 : Int) - 52 := by
    rw [show Nat.log2 1 = 0 by decide]
    omega
  simp only [roundingScale, he, scaledRatio_one, if_neg hlead]
  omega

theorem roundsUp_eq (n : Nat) :
    (decide (spacing n < 2 * (n % spacing n)) ||
      2 * (n % spacing n) == spacing n && lead n % 2 == 1) = roundsUp n := by
  rw [roundsUp, lead]
  split
  · next hl =>
    have hs : spacing n = 1 := by
      rw [spacing, Nat.sub_eq_zero_of_le (Nat.le_of_lt hl), Nat.pow_zero]
    simp [hs, Nat.mod_one]
  · rfl

/-- A natural number is rounded to the pattern of its nearest double. -/
theorem roundRatio_one (negative : Bool) (h : n ≠ 0) (hn : nearestNat n ≤ 2 ^ 63) :
    roundRatio negative n 1 = ofMagnitude negative (place (nearestNat n)) := by
  have hlt := place_lt hn
  rw [place_nearestNat h] at hlt ⊢
  have he : ((n.log2 : Int) - 52 + 1074).toNat = n.log2 + 1022 := by omega
  simp only [roundRatio, if_neg h, roundingScale_one h, scaledRatio_one, roundsUp_eq, he,
    Nat.pow_eq]
  rw [if_neg (Nat.not_le.2 hlt)]

theorem toNat_bits_ofMagnitude (negative : Bool) (h : n < 2 ^ 63) :
    (ofMagnitude negative n).bits.toNat = (if negative then 2 ^ 63 else 0) + n := by
  rw [ofMagnitude, UInt64.toNat_ofNat']
  cases negative with
  | false => exact Nat.mod_eq_of_lt (Nat.add_lt_add (by decide) h)
  | true => exact Nat.mod_eq_of_lt (Nat.add_lt_add_left h _)

theorem negative_ofMagnitude (negative : Bool) (h : n < 2 ^ 63) :
    (ofMagnitude negative n).negative = negative := by
  rw [Binary64.negative, toNat_bits_ofMagnitude negative h, Nat.pow_eq]
  cases negative with
  | false => simpa using h
  | true => simp

theorem magnitude_ofMagnitude (negative : Bool) (h : n < 2 ^ 63) :
    (ofMagnitude negative n).magnitude = n := by
  rw [magnitude, toNat_bits_ofMagnitude negative h, Nat.pow_eq]
  cases negative with
  | false => rw [if_neg (by decide), Nat.zero_add, Nat.mod_eq_of_lt h]
  | true => rw [if_pos rfl, Nat.add_mod_left, Nat.mod_eq_of_lt h]

theorem rank_ofMagnitude (negative : Bool) (h : n < 2 ^ 63) :
    (ofMagnitude negative n).rank = if negative then -(n : Int) - 1 else n := by
  rw [rank, negative_ofMagnitude negative h, magnitude_ofMagnitude negative h]

/-- The pattern at a place is read with the exponent and the significand of the number. -/
theorem parts_ofMagnitude_place (negative : Bool) (h0 : n ≠ 0) (h : n ≤ 2 ^ 63) :
    (ofMagnitude negative (place n)).exponent = n.log2 + 1023 ∧
      (ofMagnitude negative (place n)).significand = lead n := by
  obtain ⟨hl, hu⟩ := lead_bounds h0
  have hp : place n = (n.log2 + 1022) * 2 ^ 52 + lead n := by rw [place, if_neg h0]
  have hlt := place_lt_pow h
  have he : (ofMagnitude negative (place n)).exponent = n.log2 + 1023 := by
    rw [exponent, magnitude_ofMagnitude negative hlt, Nat.pow_eq]
    omega
  refine ⟨he, ?_⟩
  rw [significand, he, if_neg (by omega), fraction, magnitude_ofMagnitude negative hlt, Nat.pow_eq]
  omega

theorem lead_mul_spacing (h : spacing n ∣ n) : lead n * spacing n = n * 2 ^ (52 - n.log2) := by
  rw [lead]
  split
  · next hl =>
    rw [spacing, Nat.sub_eq_zero_of_le (Nat.le_of_lt hl), Nat.pow_zero, Nat.mul_one]
  · next hl =>
    rw [Nat.div_mul_cancel h, Nat.sub_eq_zero_of_le (Nat.not_lt.1 hl), Nat.pow_zero, Nat.mul_one]

/-- A finite number is the integer that its significand and its power of two make. -/
theorem toInt?_of_significand {x : Binary64} (hf : x.isFinite = true)
    (h : x.significand * 2 ^ x.scale.toNat = n * 2 ^ (-x.scale).toNat) :
    x.toInt? = some (if x.negative then -(n : Int) else n) := by
  rw [toInt?, if_pos hf]
  by_cases hs : x.scale < 0
  · have h0 : x.scale.toNat = 0 := by omega
    rw [h0, Nat.pow_zero, Nat.mul_one] at h
    simp only [if_pos hs, h, Nat.pow_eq, Nat.mul_mod_left, if_pos,
      Nat.mul_div_cancel _ (Nat.two_pow_pos _)]
    rfl
  · have h0 : (-x.scale).toNat = 0 := by omega
    rw [h0, Nat.pow_zero, Nat.mul_one] at h
    simp only [if_neg hs, h, Nat.pow_eq]
    rfl

/-- The number that stands at the place of a natural number that is a double is this number. -/
theorem toInt?_ofMagnitude_place (negative : Bool) (hd : spacing n ∣ n) (h : n ≤ 2 ^ 63) :
    (ofMagnitude negative (place n)).toInt? = some (if negative then -(n : Int) else n) := by
  have hlt := place_lt_pow h
  have hneg := negative_ofMagnitude negative hlt
  rcases Nat.eq_zero_or_pos n with rfl | hn
  · have hm : (ofMagnitude negative (place 0)).magnitude = 0 := magnitude_ofMagnitude negative hlt
    have he : (ofMagnitude negative (place 0)).exponent = 0 := by rw [exponent, hm, Nat.zero_div]
    have hs : (ofMagnitude negative (place 0)).significand = 0 := by
      rw [significand, if_pos he, fraction, hm, Nat.zero_mod]
    rw [toInt?_of_significand (by rw [isFinite, he]; rfl) (by rw [hs, Nat.zero_mul, Nat.zero_mul]),
      hneg]
  · have h0 : n ≠ 0 := Nat.ne_of_gt hn
    obtain ⟨he, hs⟩ := parts_ofMagnitude_place negative h0 h
    have hl : n.log2 < 64 := (Nat.log2_lt h0).2 (by omega)
    have hf : (ofMagnitude negative (place n)).isFinite = true := by
      rw [isFinite, he, topExponent, bne_iff_ne]
      omega
    have hscale : (ofMagnitude negative (place n)).scale = (n.log2 : Int) - 52 := by
      rw [scale, he]
      omega
    rw [toInt?_of_significand hf ?_, hneg]
    rw [hs, hscale, show ((n.log2 : Int) - 52).toNat = n.log2 - 52 by omega,
      show (-((n.log2 : Int) - 52)).toNat = 52 - n.log2 by omega]
    exact lead_mul_spacing hd

/-! ## The order of integers -/

/-- The double nearest to an integer, as an integer. -/
def nearest (n : Int) : Int :=
  if n < 0 then -(nearestNat n.natAbs : Int) else nearestNat n.natAbs

/-- The place of an integer that is a double in the line of all patterns. -/
def line (n : Int) : Int :=
  if n < 0 then -(place n.natAbs : Int) - 1 else place n.natAbs

theorem line_lt_line {m n : Int} (h : m < n) (hm : spacing m.natAbs ∣ m.natAbs)
    (hn : spacing n.natAbs ∣ n.natAbs) : line m < line n := by
  rw [line, line]
  split
  · split
    · have := place_lt_place (show n.natAbs < m.natAbs by omega) hm
      omega
    · omega
  · rw [if_neg (by omega)]
    exact Int.ofNat_lt.2 (place_lt_place (by omega) hn)

theorem natAbs_ite_neg (p : Prop) [Decidable p] (n : Nat) :
    (if p then -(n : Int) else n).natAbs = n := by
  split
  · rw [Int.natAbs_neg, Int.natAbs_natCast]
  · exact Int.natAbs_natCast n

theorem natAbs_nearest (n : Int) : (nearest n).natAbs = nearestNat n.natAbs :=
  natAbs_ite_neg ..

theorem nearestNat_pos (h : n ≠ 0) : 0 < nearestNat n := by
  rcases Nat.lt_or_ge n (2 ^ 52) with hn | hn
  · rw [nearestNat_of_lt (by omega)]
    omega
  · have := (nearestNat_bounds hn).1
    have := spacing_pos n
    omega

theorem nearest_neg_iff {n : Int} : nearest n < 0 ↔ n < 0 := by
  rw [nearest]
  split
  · next h =>
    have := nearestNat_pos (Int.natAbs_ne_zero.2 (Int.ne_of_lt h))
    omega
  · omega

theorem nearestNat_le_limit (h : n ≤ 2 ^ 63) : nearestNat n ≤ 2 ^ 63 :=
  Nat.le_trans (nearestNat_mono h) (Nat.le_of_eq (nearestNat_of_dvd (by decide)))

theorem ofInt_eq {n : Int} (h : n.natAbs ≤ 2 ^ 63) :
    ofInt n = ofMagnitude (decide (nearest n < 0)) (place (nearest n).natAbs) := by
  simp only [ofInt, nearest_neg_iff, natAbs_nearest]
  by_cases h0 : n.natAbs = 0
  · rw [h0, roundRatio, if_pos rfl]
    rfl
  · rw [roundRatio_one _ h0 (nearestNat_le_limit h)]

/-- An integer of 64 bits is converted to its nearest double. -/
theorem toInt?_ofInt {n : Int} (h : n.natAbs ≤ 2 ^ 63) : (ofInt n).toInt? = some (nearest n) := by
  have hd : spacing (nearest n).natAbs ∣ (nearest n).natAbs := by
    rw [natAbs_nearest]
    exact spacing_dvd_nearestNat _
  rw [ofInt_eq h, toInt?_ofMagnitude_place _ hd (natAbs_nearest n ▸ nearestNat_le_limit h)]
  simp only [decide_eq_true_eq, Option.some.injEq]
  split <;> omega

theorem significand_lt (x : Binary64) : x.significand < 2 ^ 53 := by
  have hf : x.fraction < 2 ^ 52 := Nat.mod_lt _ (by decide)
  rw [significand, Nat.pow_eq]
  split <;> omega

/-- An integer that is a number has the size of a natural number that is a double. -/
theorem spacing_dvd_of_toInt? {x : Binary64} {m : Int} (h : x.toInt? = some m) :
    spacing m.natAbs ∣ m.natAbs := by
  have hx := significand_lt x
  -- such an integer is a part of the significand, or the significand before some zeros
  obtain ⟨a, ha, k, hm⟩ : ∃ a < 2 ^ 53, ∃ k, m.natAbs = a * 2 ^ k := by
    rw [toInt?, Option.ite_none_right_eq_some] at h
    obtain ⟨-, h⟩ := h
    by_cases hs : x.scale < 0
    · simp only [if_pos hs] at h
      by_cases hd : x.significand % Nat.pow 2 (-x.scale).toNat = 0
      · rw [if_pos hd] at h
        cases h
        refine ⟨x.significand / Nat.pow 2 (-x.scale).toNat,
          Nat.lt_of_le_of_lt (Nat.div_le_self ..) hx, 0, ?_⟩
        rw [natAbs_ite_neg, Nat.pow_zero, Nat.mul_one]
      · rw [if_neg hd] at h
        cases h
    · simp only [if_neg hs] at h
      cases h
      exact ⟨_, hx, _, natAbs_ite_neg ..⟩
  exact hm ▸ spacing_dvd_mul_pow ha k

/-- No number that is an integer is nearer to an integer than its nearest double. -/
theorem natAbs_nearest_sub_le (n : Int) {x : Binary64} {m : Int} (h : x.toInt? = some m) :
    (nearest n - n).natAbs ≤ (m - n).natAbs := by
  have hm := @natAbs_nearestNat_sub_le _ n.natAbs (spacing_dvd_of_toInt? h)
  have h0 := @natAbs_nearestNat_sub_le 0 n.natAbs (Nat.dvd_zero _)
  rw [nearest]
  split <;> omega

/-- An integer of 64 bits stands in the line of patterns where its nearest double does. -/
theorem rank_ofInt {n : Int} (h : n.natAbs ≤ 2 ^ 63) : (ofInt n).rank = line (nearest n) := by
  have hlt := place_lt_pow (natAbs_nearest n ▸ nearestNat_le_limit h)
  rw [ofInt_eq h, rank_ofMagnitude _ hlt, line]
  simp only [decide_eq_true_eq]

/-- Integers of 64 bits compare as their nearest doubles do. -/
theorem totalCompare_ofInt {m n : Int} (hm : m.natAbs ≤ 2 ^ 63) (hn : n.natAbs ≤ 2 ^ 63) :
    (ofInt m).totalCompare (ofInt n) = compare (nearest m) (nearest n) := by
  have hdvd (k : Int) : spacing (nearest k).natAbs ∣ (nearest k).natAbs := by
    rw [natAbs_nearest]
    exact spacing_dvd_nearestNat _
  rw [totalCompare, rank_ofInt hm, rank_ofInt hn]
  rcases lt_trichotomy (nearest m) (nearest n) with h | h | h
  · rw [compare_lt_iff_lt.2 h, compare_lt_iff_lt.2 (line_lt_line h (hdvd m) (hdvd n))]
  · rw [h, compare_eq_iff_eq.2 rfl, compare_eq_iff_eq.2 rfl]
  · rw [compare_gt_iff_gt.2 h, compare_gt_iff_gt.2 (line_lt_line h (hdvd n) (hdvd m))]

/-! ## Integers with a double of their own -/

/-- The integer is small, or it lies in the middle of two multiples of four and is not large. -/
def HasOwnDouble (n : Int) : Prop :=
  n.natAbs < 2 ^ 53 ∨ n.natAbs < 2 ^ 54 ∧ n.natAbs % 4 = 2

instance (n : Int) : Decidable (HasOwnDouble n) :=
  inferInstanceAs (Decidable (_ ∨ _))

theorem le_nearestNat_of_le (hk : spacing k ∣ k) (h : k ≤ n) : k ≤ nearestNat n := by
  have := nearestNat_mono h
  rwa [nearestNat_of_dvd hk] at this

/-- Between `2 ^ 53` and `2 ^ 54` the odd numbers go to the multiples of four. -/
theorem nearestNat_of_spacing_two (hl : 2 ^ 53 ≤ n) (hu : n < 2 ^ 54) :
    nearestNat n = if n % 4 = 1 then n - 1 else if n % 4 = 3 then n + 1 else n := by
  have hs : spacing n = 2 := @spacing_eq_of_bounds 1 n (by omega) (by omega)
  rw [nearestNat, steps, roundsUp, hs]
  simp only [Bool.or_eq_true, Bool.and_eq_true, decide_eq_true_eq, beq_iff_eq]
  split <;> split <;> (try split) <;> omega

theorem eq_of_nearestNat_eq (hn : n < 2 ^ 53 ∨ n < 2 ^ 54 ∧ n % 4 = 2)
    (h : nearestNat m = nearestNat n) : m = n := by
  rcases Nat.lt_or_ge m (2 ^ 53) with hm | hm
  · rw [nearestNat_of_lt hm] at h
    rcases Nat.lt_or_ge n (2 ^ 53) with hn' | hn'
    · rwa [nearestNat_of_lt hn'] at h
    · have := le_nearestNat_of_le (by decide) hn'
      omega
  have hge := le_nearestNat_of_le (by decide) hm
  rcases hn with hn | ⟨hn, h4⟩
  · rw [nearestNat_of_lt hn] at h
    omega
  rcases Nat.lt_or_ge n (2 ^ 53) with hn' | hn'
  · rw [nearestNat_of_lt hn'] at h
    omega
  rw [nearestNat_of_spacing_two hn' hn, if_neg (by omega), if_neg (by omega)] at h
  rcases Nat.lt_or_ge m (2 ^ 54) with hm' | hm'
  · rw [nearestNat_of_spacing_two hm hm'] at h
    split at h
    · omega
    · split at h <;> omega
  · have := le_nearestNat_of_le (by decide) hm'
    omega

/-- The number behind a double is rounded to it, if it is nearer to it than to the next double or in
the middle behind an even one. -/
theorem nearestNat_succ_of_dvd (hl : 2 ^ 53 ≤ n) (hd : spacing n ∣ n)
    (h4 : spacing n = 2 → n % 4 = 0) : nearestNat (n + 1) = n := by
  have hs2 : 2 ≤ spacing n := spacing_mono hl
  obtain ⟨hlow, hhigh⟩ := spacing_bounds (n := n) (by omega)
  obtain ⟨q, hq⟩ := hd
  have hn : n = q * spacing n := hq.trans (Nat.mul_comm ..)
  have hq53 : q < 2 ^ 53 := Nat.lt_of_mul_lt_mul_right (a := spacing n) (hn ▸ hhigh)
  have hhigh' : n + 1 < 2 ^ 53 * spacing n := by
    have := Nat.mul_le_mul_right (spacing n) (Nat.succ_le_of_lt hq53)
    rw [Nat.succ_mul, ← hn] at this
    omega
  have hs : spacing (n + 1) = spacing n :=
    spacing_eq_of_bounds (Nat.le_succ_of_le hlow) hhigh'
  obtain ⟨hdiv, hmod⟩ : (n + 1) / spacing n = q ∧ (n + 1) % spacing n = 1 :=
    (Nat.div_mod_unique (by omega)).2 ⟨by omega, by omega⟩
  have hup : roundsUp (n + 1) = false := by
    have hlt : ¬ spacing n < 2 := Nat.not_lt.2 hs2
    rw [roundsUp, hs, hmod, hdiv, Bool.or_eq_false_iff, Bool.and_eq_false_imp]
    refine ⟨decide_eq_false hlt, fun h2 => ?_⟩
    have h2 : spacing n = 2 := (beq_iff_eq.1 h2).symm
    have := h4 h2
    rw [h2] at hq
    exact beq_false_of_ne (by omega)
  rw [nearestNat, steps, hup, hs, hdiv]
  exact hn.symm

theorem exists_nearestNat_eq (hn : ¬ (n < 2 ^ 53 ∨ n < 2 ^ 54 ∧ n % 4 = 2)) (h : n ≤ 2 ^ 63) :
    ∃ m < 2 ^ 63, m ≠ n ∧ nearestNat m = nearestNat n := by
  have htop : nearestNat (2 ^ 63) = 2 ^ 63 := nearestNat_of_dvd (by decide)
  have hle : nearestNat n ≤ 2 ^ 63 := htop ▸ nearestNat_mono h
  by_cases hd : spacing n ∣ n
  · have h4 : spacing n = 2 → n % 4 = 0 := by
      intro hs
      have h54 : n < 2 ^ 54 := by
        refine Nat.lt_of_not_le fun h54 => ?_
        have : 4 ≤ spacing n := spacing_mono h54
        omega
      rw [hs] at hd
      omega
    rcases Nat.lt_or_eq_of_le h with h | rfl
    · have htop' : n ≠ 2 ^ 63 - 1 := by
        rintro rfl
        exact absurd hd (by decide)
      refine ⟨n + 1, by omega, by omega, ?_⟩
      rw [nearestNat_succ_of_dvd (by omega) hd h4, nearestNat_of_dvd hd]
    · exact ⟨2 ^ 63 - 1, by decide, by decide, by decide⟩
  · rcases Nat.lt_or_eq_of_le hle with hlt | heq
    · refine ⟨nearestNat n, hlt, fun he => hd ?_, nearestNat_nearestNat n⟩
      rw [← he]
      exact spacing_dvd_nearestNat n
    · by_cases he : n = 2 ^ 63 - 1
      · exact ⟨2 ^ 63 - 2, by decide, by omega, by subst he; decide⟩
      · exact ⟨2 ^ 63 - 1, by decide, Ne.symm he, by rw [heq]; decide⟩

theorem nearest_eq_iff {m n : Int} :
    nearest m = nearest n ↔ (m < 0 ↔ n < 0) ∧ nearestNat m.natAbs = nearestNat n.natAbs := by
  constructor
  · intro h
    rw [← nearest_neg_iff, h, nearest_neg_iff, ← natAbs_nearest, h, natAbs_nearest]
    exact ⟨.rfl, rfl⟩
  · rintro ⟨hs, hn⟩
    rw [nearest, nearest, hn]
    simp only [hs]

/-- An integer has a double of its own exactly if no other integer of 64 bits is rounded alike. -/
theorem hasOwnDouble_iff {n : Int} (hl : -2 ^ 63 ≤ n) (hu : n < 2 ^ 63) :
    HasOwnDouble n ↔ ∀ m : Int, -2 ^ 63 ≤ m → m < 2 ^ 63 → nearest m = nearest n → m = n := by
  constructor
  · intro hn m _ _ h
    obtain ⟨hs, ha⟩ := nearest_eq_iff.1 h
    have := eq_of_nearestNat_eq hn ha
    omega
  · intro h
    by_contra hn
    have hn0 : n.natAbs ≠ 0 := fun h0 => hn (.inl (by omega))
    obtain ⟨m, hm, hne, he⟩ := exists_nearestNat_eq hn (by omega)
    have hm0 : m ≠ 0 := by
      rintro rfl
      have := nearestNat_pos hn0
      rw [← he] at this
      cases this
    -- the other integer, with the sign of this one
    obtain ⟨k, hk, ha⟩ : ∃ k : Int, (k < 0 ↔ n < 0) ∧ k.natAbs = m :=
      ⟨if n < 0 then -m else m, by split <;> omega, by split <;> omega⟩
    have := h k (by omega) (by omega) (nearest_eq_iff.2 ⟨hk, ha ▸ he⟩)
    omega

theorem nearest_mono {m n : Int} (h : m ≤ n) : nearest m ≤ nearest n := by
  rw [nearest, nearest]
  split
  · split
    · have := nearestNat_mono (show n.natAbs ≤ m.natAbs by omega)
      omega
    · omega
  · rw [if_neg (by omega)]
    exact Int.ofNat_le.2 (nearestNat_mono (by omega))

end DocumentDb.Binary64
