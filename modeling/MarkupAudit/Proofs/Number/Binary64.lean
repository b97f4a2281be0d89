import Mathlib.Algebra.Order.Archimedean.Basic
import Mathlib.Data.Int.Log
import Mathlib.Data.Rat.Cast.Order
import Mathlib.Tactic.FieldSimp
import Mathlib.Tactic.Linarith
import Mathlib.Tactic.NormNum
import Mathlib.Tactic.Ring
import MarkupAudit.Number.Binary64

/-! Rounding to binary64 as the choice of a nearest multiple of a power of two. It keeps the order of
numbers and leaves the powers of two in its range where they are, so that a number between two of
them stays between them. -/
namespace MarkupAudit.Binary64

/-- Whether an integer is nearest to a number, and even where another one is as near. -/
structure Nearest (x : Rat) (n : Int) : Prop where
  low : (n : Rat) - 1 / 2 ≤ x
  high : x ≤ n + 1 / 2
  even : x = n - 1 / 2 ∨ x = n + 1 / 2 → n % 2 = 0

theorem Nearest.of_int (n : Int) : Nearest n n := by
  refine ⟨by linarith, by linarith, ?_⟩
  rintro (h | h) <;> linarith

/-- Two numbers with the half between two integers between them cannot go past each other, since both
would have to be that half. -/
theorem Nearest.mono {x y : Rat} {m n : Int} (hx : Nearest x m) (hy : Nearest y n)
    (hxy : x ≤ y) : m ≤ n := by
  by_contra h
  have hle : (n : Rat) + 1 ≤ m := by
    have : n + 1 ≤ m := by omega
    exact_mod_cast this
  have hlow := hx.low
  have hhigh := hy.high
  have hmn : m = n + 1 := by
    have : (m : Rat) = n + 1 := by linarith
    exact_mod_cast this
  have hm := hx.even (.inl (by linarith))
  have hn := hy.even (.inr (by linarith))
  omega

theorem nearestEven_spec (num : Nat) {den : Nat} (h : 0 < den) :
    2 * (nearestEven num den * den) ≤ 2 * num + den ∧
    2 * num ≤ 2 * (nearestEven num den * den) + den ∧
    (2 * (nearestEven num den * den) = 2 * num + den ∨
      2 * num = 2 * (nearestEven num den * den) + den → nearestEven num den % 2 = 0) := by
  have hdiv := Nat.div_add_mod num den
  have hmod := Nat.mod_lt num h
  rw [Nat.mul_comm] at hdiv
  have hnext : (num / den + 1) * den = num / den * den + den := by ring
  unfold nearestEven
  dsimp only
  split
  · refine ⟨by omega, by omega, by omega⟩
  · split
    · rw [hnext]
      refine ⟨by omega, by omega, by omega⟩
    · split
      · refine ⟨by omega, by omega, by omega⟩
      · rw [hnext]
        refine ⟨by omega, by omega, by omega⟩

theorem nearest_nearestEven (num : Nat) {den : Nat} (h : 0 < den) :
    Nearest ((num : Rat) / den) (nearestEven num den) := by
  obtain ⟨hlow, hhigh, heven⟩ := nearestEven_spec num h
  have hden : (0 : Rat) < den := by exact_mod_cast h
  generalize nearestEven num den = n at *
  have hlow : 2 * ((n : Rat) * den) ≤ 2 * num + den := by exact_mod_cast hlow
  have hhigh : 2 * (num : Rat) ≤ 2 * (n * den) + den := by exact_mod_cast hhigh
  refine ⟨?_, ?_, ?_⟩
  · rw [le_div_iff₀ hden]
    push_cast
    linarith
  · rw [div_le_iff₀ hden]
    push_cast
    linarith
  · intro hx
    have hcases : 2 * (n * den) = 2 * num + den ∨ 2 * num = 2 * (n * den) + den := by
      rcases hx with hx | hx
      · left
        rw [div_eq_iff hden.ne'] at hx
        push_cast at hx
        have : 2 * ((n : Rat) * den) = 2 * num + den := by linarith
        exact_mod_cast this
      · right
        rw [div_eq_iff hden.ne'] at hx
        push_cast at hx
        have : 2 * (num : Rat) = 2 * (n * den) + den := by linarith
        exact_mod_cast this
    exact_mod_cast heven hcases

theorem log_eq_of_zpow_le {x : Rat} {e : Int} (hlow : (2 : Rat) ^ e ≤ x)
    (hhigh : x < (2 : Rat) ^ (e + 1)) : Int.log 2 x = e := by
  have hx : 0 < x := lt_of_lt_of_le (zpow_pos (by norm_num) e) hlow
  have hle := (Int.zpow_le_iff_le_log (b := 2) (by norm_num) hx).1 (by exact_mod_cast hlow)
  have hlt := (Int.lt_zpow_iff_log_lt (b := 2) (by norm_num) hx).1 (by exact_mod_cast hhigh)
  omega

theorem reached_iff (num : Nat) {den : Nat} (hden : 0 < den) (e : Int) :
    (if 0 ≤ e then den * 2 ^ e.toNat ≤ num else den ≤ num * 2 ^ (-e).toNat) ↔
      (2 : Rat) ^ e ≤ num / den := by
  have hd : (0 : Rat) < den := by exact_mod_cast hden
  rw [le_div_iff₀ hd]
  split
  · rename_i he
    obtain ⟨k, rfl⟩ := Int.eq_ofNat_of_zero_le he
    rw [Int.toNat_natCast, zpow_natCast, mul_comm]
    exact_mod_cast Iff.rfl
  · rename_i he
    obtain ⟨k, hk⟩ := Int.eq_ofNat_of_zero_le (show 0 ≤ -e by omega)
    have hpow : (0 : Rat) < 2 ^ k := pow_pos (by norm_num) k
    rw [hk, Int.toNat_natCast, show e = -(k : Int) by omega, zpow_neg, zpow_natCast,
      inv_mul_le_iff₀ hpow, mul_comm]
    exact_mod_cast Iff.rfl

theorem log2_bounds {num den : Nat} (hnum : 0 < num) (hden : 0 < den) :
    (2 : Rat) ^ ((num.log2 : Int) - den.log2 - 1) ≤ num / den ∧
      (num : Rat) / den < 2 ^ ((num.log2 : Int) - den.log2 + 1) := by
  have hd : (0 : Rat) < den := by exact_mod_cast hden
  have two_ne : (2 : Rat) ≠ 0 := by norm_num
  have hpos (e : Int) : (0 : Rat) ≤ 2 ^ e := zpow_nonneg (by norm_num) e
  rw [le_div_iff₀ hd, div_lt_iff₀ hd]
  constructor
  · have hdenHigh : (den : Rat) ≤ 2 ^ ((den.log2 : Int) + 1) := by
      exact_mod_cast Nat.lt_log2_self.le
    calc (2 : Rat) ^ ((num.log2 : Int) - den.log2 - 1) * den
        ≤ 2 ^ ((num.log2 : Int) - den.log2 - 1) * 2 ^ ((den.log2 : Int) + 1) :=
          mul_le_mul_of_nonneg_left hdenHigh (hpos _)
      _ = 2 ^ (num.log2 : Int) := by
          rw [← zpow_add₀ two_ne]
          congr 1
          omega
      _ ≤ num := by exact_mod_cast Nat.log2_self_le (by omega)
  · have hdenLow : (2 : Rat) ^ (den.log2 : Int) ≤ den := by
      exact_mod_cast Nat.log2_self_le (by omega)
    calc (num : Rat) < 2 ^ ((num.log2 : Int) + 1) := by exact_mod_cast Nat.lt_log2_self
      _ = 2 ^ ((num.log2 : Int) - den.log2 + 1) * 2 ^ (den.log2 : Int) := by
          rw [← zpow_add₀ two_ne]
          congr 1
          omega
      _ ≤ 2 ^ ((num.log2 : Int) - den.log2 + 1) * den :=
          mul_le_mul_of_nonneg_left hdenLow (hpos _)

theorem floorLog2_eq_log {num den : Nat} (hnum : 0 < num) (hden : 0 < den) :
    floorLog2 num den = Int.log 2 ((num : Rat) / den) := by
  obtain ⟨hlow, hhigh⟩ := log2_bounds hnum hden
  have hreached := reached_iff num hden ((num.log2 : Int) - den.log2)
  symm
  unfold floorLog2
  simp only [Nat.pow_eq]
  by_cases h : (2 : Rat) ^ ((num.log2 : Int) - den.log2) ≤ num / den
  · simp only [if_pos (hreached.2 h)]
    exact log_eq_of_zpow_le h hhigh
  · simp only [if_neg fun hr => h (hreached.1 hr)]
    apply log_eq_of_zpow_le hlow
    rw [sub_add_cancel]
    exact lt_of_not_ge h

/-- The exponent of the last place of the values around a number. -/
def place (x : Rat) : Int :=
  max (Int.log 2 x - 52) (-1074)

theorem lastPlace_eq_place {num den : Nat} (hnum : 0 < num) (hden : 0 < den) :
    lastPlace num den = place ((num : Rat) / den) := by
  rw [lastPlace, place, floorLog2_eq_log hnum hden]

/-- A number is rounded to a multiple of the unit in its last place. -/
theorem roundMagnitude_spec (num : Nat) {den : Nat} (hden : 0 < den) :
    ∃ n : Int, roundMagnitude num den = n * 2 ^ lastPlace num den ∧
      Nearest ((num : Rat) / den / 2 ^ lastPlace num den) n := by
  unfold roundMagnitude
  generalize lastPlace num den = e
  simp only [Nat.pow_eq]
  split
  · rename_i he
    obtain ⟨k, rfl⟩ := Int.eq_ofNat_of_zero_le he
    refine ⟨nearestEven num (den * 2 ^ k), ?_, ?_⟩
    · rw [Int.toNat_natCast, zpow_natCast]
      push_cast
      rfl
    · have h := nearest_nearestEven num (Nat.mul_pos hden (Nat.two_pow_pos k))
      push_cast at h
      rw [zpow_natCast, div_div]
      exact h
  · rename_i he
    obtain ⟨k, hk⟩ := Int.eq_ofNat_of_zero_le (show 0 ≤ -e by omega)
    obtain rfl : e = -(k : Int) := by omega
    refine ⟨nearestEven (num * 2 ^ k) den, ?_, ?_⟩
    · rw [hk, Int.toNat_natCast, zpow_neg, zpow_natCast]
      push_cast
      rfl
    · have h := nearest_nearestEven (num * 2 ^ k) hden
      push_cast at h
      rw [zpow_neg, zpow_natCast, div_inv_eq_mul, div_mul_eq_mul_div]
      exact h

theorem round_of_nonneg {x : Rat} (hx : 0 ≤ x) : round x = roundMagnitude x.num.natAbs x.den :=
  if_neg (not_lt.2 hx)

theorem natAbs_num_div_den {x : Rat} (hx : 0 ≤ x) : ((x.num.natAbs : Rat)) / x.den = x := by
  have hnum : ((x.num.natAbs : Int) : Rat) = x.num := by
    rw [Int.natAbs_of_nonneg (Rat.num_nonneg.2 hx)]
  rw [← Int.cast_natCast, hnum, Rat.num_div_den]

theorem round_zero : round 0 = 0 := by
  decide +kernel

theorem round_spec {x : Rat} (hx : 0 ≤ x) :
    ∃ n : Int, round x = n * 2 ^ place x ∧ Nearest (x / 2 ^ place x) n := by
  rcases hx.eq_or_lt with rfl | hpos
  · refine ⟨0, ?_, ?_⟩
    · rw [round_zero]
      simp
    · have h := Nearest.of_int 0
      simpa using h
  · have hnum : 0 < x.num.natAbs := Int.natAbs_pos.2 (Rat.num_pos.2 hpos).ne'
    have h := roundMagnitude_spec x.num.natAbs x.den_pos
    rw [lastPlace_eq_place hnum x.den_pos, natAbs_num_div_den hx] at h
    rw [round_of_nonneg hx]
    exact h

theorem zpow_two_pos (e : Int) : (0 : Rat) < 2 ^ e :=
  zpow_pos (by norm_num) e

theorem le_round_of_le {x : Rat} (hx : 0 ≤ x) {m : Int} (h : m * 2 ^ place x ≤ x) :
    m * 2 ^ place x ≤ round x := by
  obtain ⟨n, hround, hnearest⟩ := round_spec hx
  have hm : m ≤ n := (Nearest.of_int m).mono hnearest ((le_div_iff₀ (zpow_two_pos _)).2 h)
  rw [hround]
  exact mul_le_mul_of_nonneg_right (by exact_mod_cast hm) (zpow_two_pos _).le

theorem round_le_of_le {x : Rat} (hx : 0 ≤ x) {m : Int} (h : x ≤ m * 2 ^ place x) :
    round x ≤ m * 2 ^ place x := by
  obtain ⟨n, hround, hnearest⟩ := round_spec hx
  have hm : n ≤ m := hnearest.mono (Nearest.of_int m) ((div_le_iff₀ (zpow_two_pos _)).2 h)
  rw [hround]
  exact mul_le_mul_of_nonneg_right (by exact_mod_cast hm) (zpow_two_pos _).le

theorem round_nonneg {x : Rat} (hx : 0 ≤ x) : 0 ≤ round x := by
  have h := le_round_of_le hx (m := 0) (by simpa using hx)
  simpa using h

theorem zpow_eq_mul_zpow {p j : Int} (h : p ≤ j) :
    ∃ m : Int, (2 : Rat) ^ j = m * 2 ^ p := by
  obtain ⟨k, hk⟩ := Int.le.dest h
  refine ⟨2 ^ k, ?_⟩
  rw [← hk, add_comm, zpow_add₀ (by norm_num), zpow_natCast]
  push_cast
  rfl

theorem round_le_zpow {x : Rat} {j : Int} (hx : 0 ≤ x) (hj : place x ≤ j) (h : x ≤ 2 ^ j) :
    round x ≤ 2 ^ j := by
  obtain ⟨m, hm⟩ := zpow_eq_mul_zpow hj
  rw [hm] at h ⊢
  exact round_le_of_le hx h

theorem zpow_le_round {x : Rat} {j : Int} (hx : 0 ≤ x) (hj : place x ≤ j) (h : 2 ^ j ≤ x) :
    2 ^ j ≤ round x := by
  obtain ⟨m, hm⟩ := zpow_eq_mul_zpow hj
  rw [hm] at h ⊢
  exact le_round_of_le hx h

theorem place_mono {x y : Rat} (hx : 0 < x) (hxy : x ≤ y) : place x ≤ place y := by
  have hlog : Int.log 2 x ≤ Int.log 2 y := Int.log_mono_right hx hxy
  unfold place
  omega

/-- Where the last places differ, a power of two lies between the numbers. -/
theorem round_mono_of_nonneg {x y : Rat} (hx : 0 ≤ x) (hxy : x ≤ y) : round x ≤ round y := by
  rcases hx.eq_or_lt with rfl | hpos
  · rw [round_zero]
    exact round_nonneg hxy
  have hy : 0 < y := lt_of_lt_of_le hpos hxy
  rcases (place_mono hpos hxy).eq_or_lt with hplace | hplace
  · obtain ⟨m, hm, hmx⟩ := round_spec hx
    obtain ⟨n, hn, hny⟩ := round_spec hy.le
    rw [hplace] at hm hmx
    have hmn : m ≤ n :=
      hmx.mono hny (div_le_div_of_nonneg_right hxy (zpow_two_pos _).le)
    rw [hm, hn]
    exact mul_le_mul_of_nonneg_right (by exact_mod_cast hmn) (zpow_two_pos _).le
  · have hlog : Int.log 2 x < Int.log 2 y ∧ place x ≤ Int.log 2 y ∧ place y ≤ Int.log 2 y := by
      unfold place at *
      omega
    have hyLow : (2 : Rat) ^ Int.log 2 y ≤ y := Int.zpow_log_le_self (by norm_num) hy
    have hxHigh : x ≤ (2 : Rat) ^ Int.log 2 y := by
      have h := (Int.lt_zpow_iff_log_lt (b := 2) (by norm_num) hpos).2 hlog.1
      exact_mod_cast h.le
    exact (round_le_zpow hx hlog.2.1 hxHigh).trans (zpow_le_round hy.le hlog.2.2 hyLow)

theorem round_neg (x : Rat) : round (-x) = -round x := by
  unfold round
  rw [Rat.neg_num, Int.natAbs_neg, Rat.neg_den]
  rcases lt_trichotomy x 0 with h | rfl | h
  · rw [if_neg (by linarith), if_pos h, neg_neg]
  · decide +kernel
  · rw [if_pos (by linarith), if_neg (by linarith)]

theorem round_mono {x y : Rat} (hxy : x ≤ y) : round x ≤ round y := by
  rcases le_total 0 x with hx | hx
  · exact round_mono_of_nonneg hx hxy
  have hneg : round x ≤ 0 := by
    have h := round_nonneg (neg_nonneg.2 hx)
    rw [round_neg] at h
    linarith
  rcases le_total 0 y with hy | hy
  · exact hneg.trans (round_nonneg hy)
  · have h := round_mono_of_nonneg (neg_nonneg.2 hy) (neg_le_neg hxy)
    rw [round_neg, round_neg] at h
    linarith

theorem round_zpow {j : Int} (hj : -1074 ≤ j) : round (2 ^ j) = 2 ^ j := by
  have hlog : Int.log 2 ((2 : Rat) ^ j) = j := by
    have h := Int.log_zpow (R := Rat) (b := 2) (by norm_num) j
    exact_mod_cast h
  have hplace : place (2 ^ j) ≤ j := by
    unfold place
    omega
  exact le_antisymm (round_le_zpow (zpow_two_pos j).le hplace le_rfl)
    (zpow_le_round (zpow_two_pos j).le hplace le_rfl)

theorem zpow_lt_natPow {j : Int} {n : Nat} (hj : j < n) : (2 : Rat) ^ j < (Nat.pow 2 n : Nat) := by
  rw [Nat.pow_eq, Nat.cast_pow, ← zpow_natCast]
  exact zpow_lt_zpow_right₀ (by norm_num) hj

theorem isFinite_of_abs_le {x : Rat} {j : Int} (hj : j < 1024) (hlow : -2 ^ j ≤ x)
    (hhigh : x ≤ 2 ^ j) : isFinite x := by
  have hbound : (2 : Rat) ^ j < bound := zpow_lt_natPow hj
  unfold isFinite
  rw [Bool.and_eq_true, decide_eq_true_iff, decide_eq_true_iff]
  constructor <;> linarith

theorem round_abs_le {x : Rat} {j : Int} (hj : -1074 ≤ j) (hlow : -2 ^ j ≤ x) (hhigh : x ≤ 2 ^ j) :
    -2 ^ j ≤ round x ∧ round x ≤ 2 ^ j := by
  have h1 := round_mono hlow
  have h2 := round_mono hhigh
  rw [round_neg, round_zpow hj] at h1
  rw [round_zpow hj] at h2
  exact ⟨h1, h2⟩

theorem round_le_pred {x : Rat} {m e : Int} (he : -1074 ≤ e) (hlow : 2 ^ 52 < m)
    (hhigh : m ≤ 2 ^ 53) (h : round x < m * 2 ^ e) : round x ≤ ((m - 1 : Int) : Rat) * 2 ^ e := by
  have hunit := zpow_two_pos e
  have hpred : (2 : Rat) ^ (52 + e) ≤ ((m - 1 : Int) : Rat) * 2 ^ e := by
    have hm : (2 : Rat) ^ (52 : Int) ≤ ((m - 1 : Int) : Rat) := by
      have : 2 ^ 52 ≤ m - 1 := by omega
      exact_mod_cast this
    rw [zpow_add₀ (by norm_num)]
    exact mul_le_mul_of_nonneg_right hm hunit.le
  -- From 2^(52 + e) on, numbers that round to less than `m * 2^e` have `e` as their last place.
  rcases lt_or_ge x (2 ^ (52 + e)) with hx | hx
  · have hround := round_mono hx.le
    rw [round_zpow (by omega)] at hround
    exact hround.trans hpred
  · have hpos : 0 < x := lt_of_lt_of_le (zpow_two_pos _) hx
    have hx' : x < 2 ^ (52 + e + 1) := by
      by_contra hge
      have hround := round_mono (not_lt.1 hge)
      rw [round_zpow (by omega), show 52 + e + 1 = 53 + e by ring, zpow_add₀ (by norm_num)]
        at hround
      have hm : (m : Rat) ≤ 2 ^ (53 : Int) := by exact_mod_cast hhigh
      have := mul_le_mul_of_nonneg_right hm hunit.le
      linarith
    have hplace : place x = e := by
      rw [place, log_eq_of_zpow_le hx hx']
      omega
    obtain ⟨n, hround, -⟩ := round_spec hpos.le
    rw [hplace] at hround
    rw [hround] at h ⊢
    have hn : n < m := by exact_mod_cast lt_of_mul_lt_mul_right h hunit.le
    have hn : (n : Rat) ≤ ((m - 1 : Int) : Rat) := by
      have : n ≤ m - 1 := by omega
      exact_mod_cast this
    exact mul_le_mul_of_nonneg_right hn hunit.le

end MarkupAudit.Binary64
