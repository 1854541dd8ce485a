import Mathlib.Algebra.Order.Ring.Nat
import Mathlib.Tactic.Ring
import ResourcePool.Decimal.Shortest

/-!
# Integers as doubles

A natural number up to `2 ^ 53` is a double, and no digit of it is lost when the double is written
out: the shortest decimal of the double is the number, with zeros at its end taken for an exponent
and put back by the positional form.

* `Binary64.ofNat_eq` — the double of a number below `2 ^ 53`, which is exact.
* `Decimal.onGrid?_natural` — a grid has a point next to the number exactly if it goes through it.
* `Decimal.positional_shift` — zeros that are taken off are put back.
* `Binary64.positional_ofNat` — **a number is written as it is**.
-/

namespace ResourcePool

/-! ## Doubles -/

namespace Binary64

/-- Scaled up by a power of two, a number below `2 ^ 53` has 53 bits. -/
theorem scaled_bounds {n : Nat} (pos : n ≠ 0) (small : n < 2 ^ 53) :
    2 ^ 52 ≤ n * 2 ^ (52 - n.log2) ∧ n * 2 ^ (52 - n.log2) < 2 ^ 53 := by
  have hlog : n.log2 ≤ 52 := Nat.le_of_lt_succ ((Nat.log2_lt pos).mpr small)
  constructor
  · calc 2 ^ 52 = 2 ^ n.log2 * 2 ^ (52 - n.log2) := by rw [← pow_add, Nat.add_sub_cancel' hlog]
      _ ≤ n * 2 ^ (52 - n.log2) := Nat.mul_le_mul_right _ (Nat.log2_self_le pos)
  · calc n * 2 ^ (52 - n.log2) < 2 ^ (n.log2 + 1) * 2 ^ (52 - n.log2) :=
          Nat.mul_lt_mul_of_pos_right Nat.lt_log2_self (Nat.two_pow_pos _)
      _ = 2 ^ 53 := by rw [← pow_add]; congr 1; omega

/-- A number below `2 ^ 53` is scaled up to 53 bits, and nothing is rounded off. -/
theorem ofNat_eq {n : Nat} (pos : n ≠ 0) (small : n < 2 ^ 53) :
    ofNat n = ⟨false, n * 2 ^ (52 - n.log2), (n.log2 : Int) - 52⟩ := by
  have hlog : n.log2 ≤ 52 := Nat.le_of_lt_succ ((Nat.log2_lt pos).mpr small)
  obtain ⟨hlow, hhigh⟩ := scaled_bounds pos small
  have hguess : (n.log2 : Int) - (1 : Nat).log2 - 52 = n.log2 - 52 := by
    have : (1 : Nat).log2 = 0 := by decide
    rw [this]
    simp
  have hscaled : scaleDown n 1 (n.log2 - 52) = (n * 2 ^ (52 - n.log2), 1) := by
    have hup : (-((n.log2 : Int) - 52)).toNat = 52 - n.log2 := by omega
    have hdown : ((n.log2 : Int) - 52).toNat = 0 := by omega
    rw [scaleDown, hup, hdown, Nat.shiftLeft_eq]
    rfl
  have hround : ∀ m, roundQuotient m 1 = m := by
    intro m
    simp [roundQuotient, Nat.mod_one]
  have hmax : max ((n.log2 : Int) - 52) minExponent = n.log2 - 52 := by
    unfold minExponent
    omega
  have hfit : ¬ n * 2 ^ (52 - n.log2) < 1 <<< 52 := Nat.not_lt.mpr hlow
  have hwhole : ¬ n * 2 ^ (52 - n.log2) = 1 <<< 53 := Nat.ne_of_lt hhigh
  unfold ofNat ofQuotient
  rw [if_neg pos, hguess]
  simp only [hscaled, hfit, if_false, hmax, hround, hwhole]

end Binary64

/-! ## Decimals -/

/-- Zeros at the end of a number are zeros at the end of its digits. -/
theorem toDigits_mul_pow {c : Nat} (pos : 0 < c) (places : Nat) :
    Nat.toDigits 10 (c * 10 ^ places) = Nat.toDigits 10 c ++ List.replicate places '0' := by
  induction places with
  | zero => simp
  | succ places ih =>
    have hstep : c * 10 ^ (places + 1) = 10 * (c * 10 ^ places) + 0 := by ring
    have hzero : Nat.toDigits 10 0 = ['0'] := by decide
    have hpos : 0 < c * 10 ^ places := Nat.mul_pos pos (Nat.pow_pos (by decide))
    rw [hstep, ← Nat.toDigits_append_toDigits (by decide) hpos (by decide), ih, hzero,
      List.replicate_succ', List.append_assoc]

namespace Decimal

/-- Of the multiples of a width, only the given one is within two of it. -/
theorem within_iff {n m width below : Nat} (wide : 4 ≤ width) (pos : 0 < n) (below_pos : 0 < below)
    (below_le : below ≤ 2) (closed : Bool) :
    (if closed = true
      then decide (n * width - below ≤ m * width) && decide (m * width ≤ n * width + 2)
      else decide (n * width - below < m * width) && decide (m * width < n * width + 2)) =
    decide (m = n) := by
  have hwidth : width ≤ n * width := Nat.le_mul_of_pos_left width pos
  rcases Nat.lt_trichotomy m n with hlt | rfl | hgt
  · have hstep : (m + 1) * width ≤ n * width := Nat.mul_le_mul_right width hlt
    rw [Nat.succ_mul] at hstep
    have hlow : m * width < n * width - below := by omega
    simp [Nat.not_le.mpr hlow, Nat.not_lt.mpr hlow.le, hlt.ne]
  · have hlow : m * width - below < m * width := by omega
    simp [hlow, hlow.le]
  · have hstep : (n + 1) * width ≤ m * width := Nat.mul_le_mul_right width hgt
    rw [Nat.succ_mul] at hstep
    have hhigh : n * width + 2 < m * width := by omega
    simp [Nat.not_le.mpr hhigh, Nat.not_lt.mpr hhigh.le, hgt.ne']

/-- The grid of a power of ten has a point among the reals that round to a natural number exactly
if it goes through the number, as long as those reals are less than one away from it. -/
theorem onGrid?_natural {n scale below : Nat} (wide : 2 ≤ scale) (pos : 0 < n)
    (below_pos : 0 < below) (below_le : below ≤ 2) (closed : Bool) (power : Nat) :
    onGrid? ⟨n * 2 ^ scale - below, n * 2 ^ scale, n * 2 ^ scale + 2, -(scale : Int), closed⟩
        power =
      if 10 ^ power ∣ n then some ⟨n / 10 ^ power, power⟩ else none := by
  have hwide : 2 ^ 2 ≤ 2 ^ scale := Nat.pow_le_pow_right (Nat.succ_pos 1) wide
  have hscales : scales (-(scale : Int)) power = (1, 10 ^ power * 2 ^ scale) := by
    have hunit : (-(power : Int)).toNat = 0 := by omega
    have hquarter : (-(scale : Int)).toNat = 0 := by omega
    have hstep : (-(-(scale : Int))).toNat = scale := by omega
    rw [scales, hunit, hquarter, hstep, Int.toNat_natCast, Nat.shiftLeft_eq, Nat.shiftLeft_eq]
    rfl
  have hinside : ∀ c, (if closed = true
      then decide ((n * 2 ^ scale - below) * 1 ≤ c * (10 ^ power * 2 ^ scale)) &&
        decide (c * (10 ^ power * 2 ^ scale) ≤ (n * 2 ^ scale + 2) * 1)
      else decide ((n * 2 ^ scale - below) * 1 < c * (10 ^ power * 2 ^ scale)) &&
        decide (c * (10 ^ power * 2 ^ scale) < (n * 2 ^ scale + 2) * 1)) =
      decide (c * 10 ^ power = n) := by
    intro c
    rw [Nat.mul_one, Nat.mul_one, ← Nat.mul_assoc]
    exact within_iff hwide pos below_pos below_le closed
  have hbelow : n * 2 ^ scale * 1 / (10 ^ power * 2 ^ scale) = n / 10 ^ power := by
    rw [Nat.mul_one]
    exact Nat.mul_div_mul_right n _ (Nat.two_pow_pos scale)
  have habove : ¬ (n / 10 ^ power + 1) * 10 ^ power = n := by
    have hpow : 0 < 10 ^ power := Nat.pow_pos (Nat.succ_pos 9)
    have hlt : n < n / 10 ^ power * 10 ^ power + 10 ^ power := Nat.lt_div_mul_add hpow
    rw [Nat.succ_mul]
    omega
  have hexact : n / 10 ^ power * 10 ^ power = n ↔ 10 ^ power ∣ n :=
    ⟨fun h => ⟨_, (Nat.mul_comm _ _).trans h |>.symm⟩, Nat.div_mul_cancel⟩
  unfold onGrid?
  simp only [hscales, hinside, hbelow, habove, decide_false, hexact]
  by_cases hdvd : 10 ^ power ∣ n <;> simp [hdvd]

/-- Zeros that are taken off a number are put back when it is written out. -/
theorem positional_shift {n places : Nat} (pos : n ≠ 0) (dvd : 10 ^ places ∣ n) :
    (Decimal.mk (n / 10 ^ places) places).positional = toString n := by
  obtain ⟨c, rfl⟩ := dvd
  have hc : c ≠ 0 := by
    rintro rfl
    exact pos (Nat.mul_zero _)
  have hquotient : 10 ^ places * c / 10 ^ places = c :=
    Nat.mul_div_cancel_left c (Nat.pow_pos (by decide))
  have hplaces : (0 : Int) ≤ (places : Int) := Int.natCast_nonneg _
  unfold positional
  simp only [hquotient, if_pos hplaces, if_neg hc, Int.toNat_natCast]
  apply String.toList_injective
  rw [String.toList_append, String.toList_ofList, Nat.toString_eq_repr, Nat.toString_eq_repr,
    Nat.toList_repr, Nat.toList_repr, ← toDigits_mul_pow (Nat.pos_of_ne_zero hc), Nat.mul_comm]

/-- The reals that round to a number below `2 ^ 53`, on a scale on which the number is a multiple of
four. -/
theorem ofBinary64_ofNat {n : Nat} (pos : n ≠ 0) (small : n < 2 ^ 53) :
    ∃ below closed, 0 < below ∧ below ≤ 2 ∧ Interval.ofBinary64 (Binary64.ofNat n) =
      ⟨n * 2 ^ (54 - n.log2) - below, n * 2 ^ (54 - n.log2), n * 2 ^ (54 - n.log2) + 2,
        -((54 - n.log2 : Nat) : Int), closed⟩ := by
  have hlog : n.log2 ≤ 52 := Nat.le_of_lt_succ ((Nat.log2_lt pos).mpr small)
  have hmiddle : 4 * (n * 2 ^ (52 - n.log2)) = n * 2 ^ (54 - n.log2) := by
    have hscale : 54 - n.log2 = 52 - n.log2 + 2 := by omega
    rw [hscale, pow_add]
    ring
  have hquarter : (n.log2 : Int) - 52 - 2 = -((54 - n.log2 : Nat) : Int) := by omega
  rw [Binary64.ofNat_eq pos small]
  unfold Interval.ofBinary64
  simp only [hmiddle, hquarter]
  split
  · exact ⟨1, _, by decide, by decide, rfl⟩
  · exact ⟨2, _, by decide, by decide, rfl⟩

/-- The coarsest grid that is tried for a number below `2 ^ 53` is not finer than the one of step
one, and at most sixteen grids coarser. -/
theorem coarsestPower_ofNat {n : Nat} (pos : n ≠ 0) (small : n < 2 ^ 53) :
    ∃ coarsest : Nat, coarsest ≤ 16 ∧ coarsestPower (Binary64.ofNat n) = coarsest := by
  have hlog : n.log2 ≤ 52 := Nat.le_of_lt_succ ((Nat.log2_lt pos).mpr small)
  have hsignificand : (n * 2 ^ (52 - n.log2)).log2 = 52 := by
    obtain ⟨hlow, hhigh⟩ := Binary64.scaled_bounds pos small
    exact (Nat.log2_eq_iff (Nat.mul_ne_zero pos (Nat.two_pow_pos _).ne')).mpr ⟨hlow, hhigh⟩
  refine ⟨(n.log2 + 1) * 30103 / 100000 + 1, by omega, ?_⟩
  rw [Binary64.ofNat_eq pos small, coarsestPower]
  simp only [hsignificand]
  omega

/-- Of the grids that are tried, the one of step one goes through every number, so the shortest
decimal is the number with some zeros taken off. -/
theorem shortest_ofNat {n : Nat} (pos : n ≠ 0) (small : n < 2 ^ 53) :
    ∃ places : Nat, 10 ^ places ∣ n ∧
      shortest (Binary64.ofNat n) = ⟨n / 10 ^ places, (places : Int)⟩ := by
  obtain ⟨below, closed, hpos, hle, hinterval⟩ := ofBinary64_ofNat pos small
  obtain ⟨coarsest, hcoarsest, hpower⟩ := coarsestPower_ofNat pos small
  have hlog : n.log2 ≤ 52 := Nat.le_of_lt_succ ((Nat.log2_lt pos).mpr small)
  have hgrid :=
    onGrid?_natural (by omega : 2 ≤ 54 - n.log2) (Nat.pos_of_ne_zero pos) hpos hle closed
  have hsignificand : (Binary64.ofNat n).significand ≠ 0 := by
    rw [Binary64.ofNat_eq pos small]
    exact Nat.mul_ne_zero pos (Nat.two_pow_pos _).ne'
  -- the grids down to the one of step one, and the others
  have hsplit : List.range 20 = List.range (coarsest + 1) ++
      (List.range (19 - coarsest)).map (coarsest + 1 + ·) := by
    rw [← List.range_add]
    congr 1
    omega
  let found : Nat → Option Decimal := fun k =>
    onGrid? (Interval.ofBinary64 (Binary64.ofNat n)) ((coarsest : Int) - (k : Int))
  have hfound : ∀ k < coarsest + 1, found k = if 10 ^ (coarsest - k) ∣ n
      then some ⟨n / 10 ^ (coarsest - k), ((coarsest - k : Nat) : Int)⟩ else none := by
    intro k hk
    have hsub : (coarsest : Int) - (k : Int) = ((coarsest - k : Nat) : Int) := by omega
    simp only [found]
    rw [hsub, hinterval, hgrid]
  have hlast : ((List.range (coarsest + 1)).findSome? found).isSome = true := by
    apply List.findSome?_isSome_iff.mpr
    refine ⟨coarsest, List.mem_range.mpr (Nat.lt_succ_self _), ?_⟩
    rw [hfound coarsest (Nat.lt_succ_self _), Nat.sub_self, pow_zero, if_pos (one_dvd n)]
    rfl
  obtain ⟨decimal, hdecimal⟩ := Option.isSome_iff_exists.mp hlast
  obtain ⟨k, hk, hon⟩ := List.exists_of_findSome?_eq_some hdecimal
  rw [hfound k (List.mem_range.mp hk)] at hon
  split at hon
  · next hdvd =>
    refine ⟨coarsest - k, hdvd, ?_⟩
    unfold shortest
    simp only [hsignificand, if_false, hpower, List.findSome?_map]
    show ((List.range 20).findSome? found).getD _ = _
    rw [hsplit, List.findSome?_append, hdecimal, Option.some.inj hon]
    rfl
  · cases hon

end Decimal

namespace Binary64

/-- **A natural number up to `2 ^ 53` is written as it is.** -/
theorem positional_ofNat {n : Nat} (small : n ≤ 2 ^ 53) : (ofNat n).positional = toString n := by
  rcases Nat.eq_zero_or_pos n with rfl | hpos
  · decide +kernel
  rcases Nat.eq_or_lt_of_le small with rfl | hlt
  · decide +kernel
  · obtain ⟨places, hdvd, hshortest⟩ := Decimal.shortest_ofNat hpos.ne' hlt
    have hsign : (ofNat n).sign = "" := by
      rw [ofNat_eq hpos.ne' hlt]
      rfl
    rw [positional, hsign, hshortest, Decimal.positional_shift hpos.ne' hdvd]
    exact String.empty_append

end Binary64

end ResourcePool
