import Mathlib.Algebra.Group.Int.Defs
import Mathlib.Algebra.Group.Nat.Defs
import RequestSuite.Number.Basic

/-!
# Whole numbers as doubles

A double keeps the first 53 bits of a whole number and rounds away the others.  `Binary64.nearest`
says so in plain arithmetic on whole numbers, and `Binary64.toUnits_ofInt` that this is the number
for which the nearest double stands.  Rounding keeps the order of whole numbers, though not their
difference: it changes nothing up to `2 ^ 53`, and beyond that it can make different numbers equal,
if they are close to each other.
-/

namespace RequestSuite.Binary64

/-! ## Rounded quotients -/

variable {m n d k : Nat}

theorem divNearest_cases (n d : Nat) : (divNearest n d = n / d ∧ 2 * (n % d) ≤ d) ∨
    (divNearest n d = n / d + 1 ∧ d ≤ 2 * (n % d)) := by
  unfold divNearest
  simp only
  split
  · exact .inl ⟨rfl, by omega⟩
  · split
    · exact .inr ⟨rfl, by omega⟩
    · split
      · exact .inl ⟨rfl, by omega⟩
      · exact .inr ⟨rfl, by omega⟩

theorem divNearest_mono (h : m ≤ n) : divNearest m d ≤ divNearest n d := by
  rcases Nat.lt_or_eq_of_le (Nat.div_le_div_right (c := d) h) with hlt | heq
  · rcases divNearest_cases m d with ⟨hm, -⟩ | ⟨hm, -⟩
    all_goals rcases divNearest_cases n d with ⟨hn, -⟩ | ⟨hn, -⟩
    all_goals omega
  · -- With the same quotient it is the remainders that decide.
    have hmod : m % d ≤ n % d := by
      have hm := Nat.div_add_mod m d
      have hn := Nat.div_add_mod n d
      rw [heq] at hm
      omega
    unfold divNearest
    simp only [heq]
    grind

theorem divNearest_mul (hd : 0 < d) (k : Nat) : divNearest (k * d) d = k := by
  have hmod : k * d % d = 0 := Nat.mul_mod_left k d
  have hdiv : k * d / d = k := Nat.mul_div_cancel k hd
  rw [divNearest]
  simp only [hmod, hdiv, Nat.mul_zero, if_pos hd]

/-- A rounded quotient is at most half a unit away. -/
theorem divNearest_mul_near (hd : 0 < d) (n : Nat) : 2 * (divNearest n d * d) ≤ 2 * n + d ∧
    2 * n ≤ 2 * (divNearest n d * d) + d := by
  have hn := Nat.div_add_mod n d
  have hlt := Nat.mod_lt n hd
  rcases divNearest_cases n d with ⟨heq, hmod⟩ | ⟨heq, hmod⟩
  · rw [heq, Nat.mul_comm (n / d)]
    omega
  · have hstep : (n / d + 1) * d = d * (n / d) + d := by rw [Nat.succ_mul, Nat.mul_comm]
    rw [heq, hstep]
    omega

/-! ## Rounded whole numbers -/

/-- The number of last bits of a whole number that no double around it keeps. -/
def dropped (n : Nat) : Nat :=
  n.log2 - 52

/-- A whole number rounded to 53 bits, a half going to the even neighbour. -/
def nearestNat (n : Nat) : Nat :=
  divNearest n (2 ^ dropped n) * 2 ^ dropped n

/-- The whole number for which the double nearest to a whole number stands. -/
def nearest (i : Int) : Int :=
  if i < 0 then -(nearestNat i.natAbs : Int) else nearestNat i.natAbs

theorem two_pow_log2_eq (n : Nat) : 2 ^ n.log2 = 2 ^ (n.log2 - dropped n) * 2 ^ dropped n := by
  have hle : dropped n ≤ n.log2 := Nat.sub_le n.log2 52
  rw [← Nat.pow_add, Nat.sub_add_cancel hle]

theorem two_pow_log2_le_nearestNat (hn : n ≠ 0) : 2 ^ n.log2 ≤ nearestNat n := by
  have hle := divNearest_mono (d := 2 ^ dropped n) (Nat.log2_self_le hn)
  rw [two_pow_log2_eq, divNearest_mul (Nat.two_pow_pos _)] at hle
  rw [two_pow_log2_eq, nearestNat]
  exact Nat.mul_le_mul_right _ hle

theorem nearestNat_le_two_pow (n : Nat) : nearestNat n ≤ 2 ^ (n.log2 + 1) := by
  have htop : 2 ^ (n.log2 + 1) = 2 * 2 ^ (n.log2 - dropped n) * 2 ^ dropped n := by
    rw [Nat.pow_succ', two_pow_log2_eq, Nat.mul_assoc]
  have hle := divNearest_mono (d := 2 ^ dropped n) (Nat.le_of_lt (Nat.lt_log2_self (n := n)))
  rw [htop, divNearest_mul (Nat.two_pow_pos _)] at hle
  rw [htop, nearestNat]
  exact Nat.mul_le_mul_right _ hle

theorem nearestNat_mono (h : m ≤ n) : nearestNat m ≤ nearestNat n := by
  by_cases hm : m = 0
  · subst hm
    exact Nat.zero_le _
  · have hn : n ≠ 0 := by omega
    have hlog : m.log2 ≤ n.log2 :=
      (Nat.le_log2 hn).mpr (Nat.le_trans (Nat.log2_self_le hm) h)
    rcases Nat.lt_or_eq_of_le hlog with hlt | heq
    · -- A power of two lies between the two numbers, and it is not rounded.
      calc nearestNat m
          ≤ 2 ^ (m.log2 + 1) := nearestNat_le_two_pow m
        _ ≤ 2 ^ n.log2 := Nat.pow_le_pow_right (by decide) hlt
        _ ≤ nearestNat n := two_pow_log2_le_nearestNat hn
    · have hdropped : dropped m = dropped n := by rw [dropped, dropped, heq]
      rw [nearestNat, nearestNat, hdropped]
      exact Nat.mul_le_mul_right _ (divNearest_mono h)

theorem nearestNat_eq_self (h : n ≤ 2 ^ 53) : nearestNat n = n := by
  rcases Nat.lt_or_eq_of_le h with hlt | rfl
  · have hlog : n.log2 ≤ 52 := by
      by_cases hn : n = 0
      · subst hn
        decide
      · have := (Nat.log2_lt hn).mpr hlt
        omega
    have hdropped : dropped n = 0 := Nat.sub_eq_zero_of_le hlog
    have hone : divNearest (n * 1) 1 = n := divNearest_mul Nat.one_pos n
    rw [nearestNat, hdropped, Nat.pow_zero, Nat.mul_one]
    rwa [Nat.mul_one] at hone
  · decide

theorem nearestNat_near (h : n < 2 ^ 64) :
    nearestNat n ≤ n + 2 ^ 10 ∧ n ≤ nearestNat n + 2 ^ 10 := by
  have hdropped : 2 ^ dropped n ≤ 2 ^ 11 := by
    refine Nat.pow_le_pow_right (by decide) ?_
    by_cases hn : n = 0
    · subst hn
      decide
    · have := (Nat.log2_lt hn).mpr h
      rw [dropped]
      omega
  obtain ⟨hbelow, habove⟩ := divNearest_mul_near (Nat.two_pow_pos (dropped n)) n
  rw [nearestNat]
  omega

theorem nearest_mono {i j : Int} (h : i ≤ j) : nearest i ≤ nearest j := by
  unfold nearest
  split
  · split
    · have := nearestNat_mono (m := j.natAbs) (n := i.natAbs) (by omega)
      omega
    · omega
  · split
    · omega
    · have := nearestNat_mono (m := i.natAbs) (n := j.natAbs) (by omega)
      omega

theorem nearest_eq_self {i : Int} (h : i.natAbs ≤ 2 ^ 53) : nearest i = i := by
  rw [nearest, nearestNat_eq_self h]
  split
  · omega
  · omega

theorem nearest_near {i : Int} (h : i.natAbs < 2 ^ 64) :
    nearest i ≤ i + 2 ^ 10 ∧ i ≤ nearest i + 2 ^ 10 := by
  obtain ⟨hbelow, habove⟩ := nearestNat_near h
  unfold nearest
  split
  · omega
  · omega

/-! ## The nearest double -/

/-- A whole number with a sign. -/
def signed (negative : Bool) (n : Nat) : Int :=
  if negative then -(n : Int) else n

theorem nearest_eq_signed (i : Int) :
    nearest i = signed (decide (i < 0)) (nearestNat i.natAbs) := by
  by_cases hi : i < 0 <;> simp [nearest, signed, hi]

theorem signed_mul (negative : Bool) (m n : Nat) :
    signed negative (m * n) = signed negative m * n := by
  cases negative
  · exact Int.natCast_mul m n
  · simp only [signed, if_true, Int.natCast_mul, Int.neg_mul]

theorem toUnits_eq (x : Binary64) :
    x.toUnits = signed x.negative (x.significand * 2 ^ (x.exponent + 1074).toNat) := by
  simp only [toUnits, signed, Int.natCast_mul]
  rfl

/-- One in units of the smallest double. -/
def unitsInOne : Nat :=
  2 ^ 1074

theorem unitsInOne_eq {j k : Nat} (h : j + k = 1074) : 2 ^ j * 2 ^ k = unitsInOne := by
  rw [← pow_add, h, unitsInOne]

theorem unitsInOne_pos : 0 < unitsInOne := by
  obtain ⟨k, hk⟩ : ∃ k, 0 + k = 1074 := ⟨1074, rfl⟩
  rw [← unitsInOne_eq hk]
  exact Nat.mul_pos (Nat.two_pow_pos 0) (Nat.two_pow_pos k)

/-- Fields in normal form are those of a double. -/
theorem ofFields?_of_normal (negative : Bool) {m : Nat} {e : Int} (hmin : significandMin ≤ m)
    (hmax : m < significandBound) (hlow : -1074 ≤ e) (hhigh : e ≤ 971) :
    ∃ x, ofFields? negative m e = some x ∧
      x.toUnits = signed negative (m * 2 ^ (e + 1074).toNat) := by
  refine ⟨_, dif_pos ⟨hmax, hlow, hhigh, .inl hmin⟩, ?_⟩
  exact toUnits_eq _

/-- The quotient that is rounded for a whole number, in units of the last of its first 53 bits. -/
theorem exists_quotient (hn : n ≠ 0) : ∃ num den, scaleBy n 1 ((n.log2 : Int) - 52) = (num, den) ∧
    0 < den ∧ significandMin * den ≤ num ∧ num < significandBound * den ∧
      divNearest num den * 2 ^ (n.log2 + 1022) = nearestNat n * unitsInOne := by
  have hlow := Nat.log2_self_le hn
  have hhigh := Nat.lt_log2_self (n := n)
  by_cases hlog : 52 ≤ n.log2
  · obtain ⟨k, hk⟩ := Nat.exists_eq_add_of_le hlog
    have hdropped : dropped n = k := by
      rw [dropped]
      omega
    refine ⟨n, 2 ^ k, ?_, Nat.two_pow_pos k, ?_, ?_, ?_⟩
    · have hplace : (n.log2 : Int) - 52 = k := by omega
      rw [hplace, scaleBy, if_pos (Int.natCast_nonneg k), Int.toNat_natCast, Nat.one_mul]
      rfl
    · rwa [hk, Nat.pow_add] at hlow
    · rwa [hk, Nat.add_right_comm, Nat.pow_add] at hhigh
    · have hexponent : n.log2 + 1022 = k + 1074 := by omega
      rw [nearestNat, hdropped, hexponent, pow_add, ← Nat.mul_assoc, unitsInOne]
  · obtain ⟨k, hk⟩ := Nat.exists_eq_add_of_le (Nat.le_of_not_le hlog)
    refine ⟨n * 2 ^ k, 1, ?_, Nat.one_pos, ?_, ?_, ?_⟩
    · have hplace : ¬ 0 ≤ (n.log2 : Int) - 52 := by omega
      have hscale : (-((n.log2 : Int) - 52)).toNat = k := by omega
      rw [scaleBy, if_neg hplace, hscale]
      rfl
    · have hle := Nat.mul_le_mul_right (2 ^ k) hlow
      rwa [← Nat.pow_add, ← hk] at hle
    · have hlt := Nat.mul_lt_mul_of_pos_right hhigh (Nat.two_pow_pos k)
      rwa [← Nat.pow_add, Nat.add_right_comm, ← hk] at hlt
    · -- Such a number has fewer than 53 bits, so nothing is rounded.
      have hself : nearestNat n = n := by
        refine nearestNat_eq_self (Nat.le_trans (Nat.le_of_lt hhigh) ?_)
        exact Nat.pow_le_pow_right (by decide) (by omega)
      have hone : divNearest (n * 2 ^ k * 1) 1 = n * 2 ^ k := divNearest_mul Nat.one_pos _
      rw [Nat.mul_one] at hone
      rw [hone, hself, Nat.mul_assoc, unitsInOne_eq (by omega)]

theorem lastPlace_one (hn : n ≠ 0) : lastPlace n 1 = (n.log2 : Int) - 52 := by
  obtain ⟨num, den, hscale, hden, hnum, -, -⟩ := exists_quotient hn
  have hfull : ¬ num / den < significandMin :=
    Nat.not_lt.mpr ((Nat.le_div_iff_mul_le hden).mpr hnum)
  have hone : Nat.log2 1 = 0 := by decide
  rw [lastPlace]
  simp only [hone, Int.natCast_zero, Int.sub_zero, hscale, if_neg hfull]
  omega

theorem exists_ofRatio?_one (negative : Bool) (hn : n ≠ 0) (h : n < 2 ^ 64) :
    ∃ x, ofRatio? negative n 1 = some x ∧
      x.toUnits = signed negative (nearestNat n) * unitsInOne := by
  obtain ⟨num, den, hscale, hden, hnum, hnum', hvalue⟩ := exists_quotient hn
  have hlog : n.log2 < 64 := (Nat.log2_lt hn).mpr h
  have hmin : significandMin ≤ divNearest num den := by
    have hle := divNearest_mono (d := den) hnum
    rwa [divNearest_mul hden] at hle
  have hmax : divNearest num den ≤ significandBound := by
    have hle := divNearest_mono (d := den) (Nat.le_of_lt hnum')
    rwa [divNearest_mul hden] at hle
  have hunits : signed negative (nearestNat n) * unitsInOne =
      signed negative (divNearest num den * 2 ^ (n.log2 + 1022)) := by
    rw [hvalue, signed_mul]
  rw [ofRatio?, if_neg hn]
  simp only [lastPlace_one hn, hscale, hunits]
  split
  · -- All ones are rounded up to a power of two, which has one bit more.
    rename_i hround
    obtain ⟨x, hx, hxunits⟩ := ofFields?_of_normal negative (m := significandMin)
      (e := (n.log2 : Int) - 52 + 1) (by decide) (by decide) (by omega) (by omega)
    refine ⟨x, hx, hxunits.trans ?_⟩
    have hplace : ((n.log2 : Int) - 52 + 1 + 1074).toNat = 1 + (n.log2 + 1022) := by omega
    have hdouble : significandMin * 2 ^ 1 = significandBound := by decide
    rw [hround, hplace, Nat.pow_add, ← Nat.mul_assoc, hdouble]
  · rename_i hround
    obtain ⟨x, hx, hxunits⟩ := ofFields?_of_normal negative (m := divNearest num den)
      (e := (n.log2 : Int) - 52) hmin (by omega) (by omega) (by omega)
    refine ⟨x, hx, hxunits.trans ?_⟩
    have hplace : ((n.log2 : Int) - 52 + 1074).toNat = n.log2 + 1022 := by omega
    rw [hplace]

/-- The double nearest to a whole number stands for that number rounded to 53 bits. -/
theorem toUnits_ofInt {i : Int} (h : i.natAbs < 2 ^ 64) :
    (ofInt i).toUnits = nearest i * unitsInOne := by
  by_cases hi : i = 0
  · subst hi
    exact (Int.zero_mul _).symm
  · obtain ⟨x, hx, hunits⟩ := exists_ofRatio?_one (decide (i < 0)) (Int.natAbs_ne_zero.mpr hi) h
    rw [ofInt, hx, Option.getD_some, hunits, nearest_eq_signed]

/-- Two whole numbers compare as their nearest doubles do. -/
theorem compare_ofInt {i j : Int} (hi : i.natAbs < 2 ^ 64) (hj : j.natAbs < 2 ^ 64) :
    (ofInt i).compare (ofInt j) = Ord.compare (nearest i) (nearest j) := by
  have hpos : (0 : Int) < unitsInOne := Int.natCast_pos.mpr unitsInOne_pos
  rw [compare, toUnits_ofInt hi, toUnits_ofInt hj]
  rcases Int.lt_trichotomy (nearest i) (nearest j) with hlt | heq | hgt
  · rw [Int.compare_eq_lt.mpr hlt, Int.compare_eq_lt.mpr (Int.mul_lt_mul_of_pos_right hlt hpos)]
  · rw [heq, Std.compare_self, Std.compare_self]
  · rw [Int.compare_eq_gt.mpr hgt, Int.compare_eq_gt.mpr (Int.mul_lt_mul_of_pos_right hgt hpos)]

end RequestSuite.Binary64
