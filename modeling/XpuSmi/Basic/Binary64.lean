import Mathlib.Tactic.Ring

/-!
# `double` values, as the dump prints them

The dump prints `value / (double)scale` through a stream set to `std::fixed` and
`std::setprecision(2)`. The `uint64_t` operand converts to `double` rounding to nearest, ties
to even; the `uint32_t` scale converts exactly; the quotient rounds once more; and the stream
prints the exact binary value of the result rounded to hundredths, again to nearest with ties
to even (glibc's `printf("%.2f")`).

Every finite non-negative `double` is a multiple of `2 ^ -1074`, the spacing of the
subnormals: such a value is held here as that multiple, its *units* (`unitsPerOne` units make
one). `roundToDouble n d` is the `double` nearest to `n / d`: the quotient in units, rounded
to its 53 leading bits, fewer below the normal range. The dump's quotients stay below 2^64,
so overflow to infinity is not modelled.

* `roundHalfEven_nearest` — `roundHalfEven n d` is within half of `n / d`;
* `log2Below_eq_log2` — the halving search `log2Below` is `Nat.log2` below its bound, so that
  `roundToDouble` evaluates by `decide`;
* `roundToDouble_spec` — **the nearest `double`**: the result has a significand of at most 53
  bits, of exactly 53 above the subnormal range, and lies within half a unit in its last
  place of `n / d`;
* `roundToDouble_of_lt` — a natural number below 2^53 converts exactly.
-/

namespace XpuSmi

namespace Binary64

/-- The units of `2 ^ -1074` in one. -/
def unitsPerOne : Nat := 2 ^ 1074

set_option exponentiation.threshold 1100 in
theorem unitsPerOne_pos : 0 < unitsPerOne := Nat.two_pow_pos 1074

/-- The integer nearest to `n / d`, the even one on a tie. -/
def roundHalfEven (n d : Nat) : Nat :=
  if 2 * (n % d) < d then n / d
  else if d < 2 * (n % d) then n / d + 1
  else if n / d % 2 = 0 then n / d else n / d + 1

/-- `⌊log2 n⌋` (0 for 0), for `n < 2 ^ 2 ^ k`: `k` halvings of the width searched. -/
def log2Below : Nat → Nat → Nat
  | 0, _ => 0
  | k + 1, n => if n >>> 2 ^ k = 0 then log2Below k n else 2 ^ k + log2Below k (n >>> 2 ^ k)

/-- The `double` nearest to `n / d`, ties to even, in units: `n / d` in units, with the bits
below its 53 leading ones (below the unit, for a subnormal) rounded off. -/
def roundToDouble (n d : Nat) : Nat :=
  let s := log2Below 12 (n * unitsPerOne / d) - 52
  roundHalfEven (n * unitsPerOne) (d <<< s) <<< s

/-! ## Rounding a quotient -/

theorem roundHalfEven_bounds (n d : Nat) :
    n / d ≤ roundHalfEven n d ∧ roundHalfEven n d ≤ n / d + 1 := by
  unfold roundHalfEven
  split_ifs <;> omega

/-- `roundHalfEven n d` lies within half of `n / d`. -/
theorem roundHalfEven_nearest {d : Nat} (n : Nat) (hd : 0 < d) :
    2 * n ≤ (2 * roundHalfEven n d + 1) * d ∧ 2 * roundHalfEven n d * d ≤ 2 * n + d := by
  have hdm := Nat.div_add_mod n d
  have hlt := Nat.mod_lt n hd
  unfold roundHalfEven
  generalize n / d = q at *
  generalize n % d = r at *
  subst hdm
  split_ifs <;> constructor <;> ring_nf <;> omega

theorem roundHalfEven_mul {d : Nat} (k : Nat) (hd : 0 < d) : roundHalfEven (k * d) d = k := by
  simp [roundHalfEven, Nat.mul_mod_left, Nat.mul_div_cancel _ hd, hd]

/-! ## The binary exponent -/

theorem log2_eq_add_log2_div {n j : Nat} (h : n / 2 ^ j ≠ 0) :
    n.log2 = j + (n / 2 ^ j).log2 := by
  have hn : n ≠ 0 := fun h0 => h (by simp [h0])
  apply Nat.le_antisymm
  · refine Nat.lt_succ_iff.mp ((Nat.log2_lt hn).2 ?_)
    calc n < 2 ^ j * (n / 2 ^ j + 1) := Nat.lt_mul_div_succ n (Nat.two_pow_pos j)
      _ ≤ 2 ^ j * 2 ^ ((n / 2 ^ j).log2 + 1) := Nat.mul_le_mul_left _ Nat.lt_log2_self
      _ = 2 ^ (j + (n / 2 ^ j).log2).succ := by rw [← Nat.pow_add]; rfl
  · refine (Nat.le_log2 hn).2 ?_
    calc 2 ^ (j + (n / 2 ^ j).log2) = 2 ^ j * 2 ^ (n / 2 ^ j).log2 := Nat.pow_add _ _ _
      _ ≤ 2 ^ j * (n / 2 ^ j) := Nat.mul_le_mul_left _ (Nat.log2_self_le h)
      _ ≤ n := Nat.mul_div_le n (2 ^ j)

/-- Below its bound, the halving search finds `Nat.log2`. -/
theorem log2Below_eq_log2 {k n : Nat} (h : n < 2 ^ 2 ^ k) : log2Below k n = n.log2 := by
  induction k generalizing n with
  | zero =>
    by_cases hn : n = 0
    · subst hn
      exact Nat.log2_zero.symm
    · exact (Nat.lt_one_iff.mp ((Nat.log2_lt hn).2 h)).symm
  | succ k ih =>
    rw [log2Below, Nat.shiftRight_eq_div_pow]
    split_ifs with hm
    · exact ih ((Nat.div_eq_zero_iff (Nat.two_pow_pos _)).1 hm)
    · rw [ih ((Nat.div_lt_iff_lt_mul (Nat.two_pow_pos _)).2 ?_), ← log2_eq_add_log2_div hm]
      rwa [← Nat.pow_add, ← Nat.two_mul, ← Nat.pow_succ']

/-! ## The nearest `double` -/

/-- `roundToDouble` in closed form: the quotient's `⌊log2⌋` picks the shift. -/
theorem roundToDouble_eq {n d : Nat} (hq : n * unitsPerOne / d < 2 ^ 2 ^ 12) :
    roundToDouble n d =
      roundHalfEven (n * unitsPerOne) (d * 2 ^ ((n * unitsPerOne / d).log2 - 52)) *
        2 ^ ((n * unitsPerOne / d).log2 - 52) := by
  rw [roundToDouble, log2Below_eq_log2 hq, Nat.shiftLeft_eq, Nat.shiftLeft_eq]

/-- **The nearest `double`.** The result is `m * 2 ^ s` units with a significand `m` of at
most 53 bits, and of 53 unless `s = 0` (the spacing of the subnormals); it lies within half a
unit `2 ^ s` of its last place from `n / d`. -/
theorem roundToDouble_spec {n d : Nat} (hd : 0 < d) (hq : n * unitsPerOne / d < 2 ^ 2 ^ 12) :
    ∃ m s, roundToDouble n d = m * 2 ^ s ∧ m ≤ 2 ^ 53 ∧ (s = 0 ∨ 2 ^ 52 ≤ m) ∧
      2 * (n * unitsPerOne) ≤ 2 * roundToDouble n d * d + d * 2 ^ s ∧
      2 * roundToDouble n d * d ≤ 2 * (n * unitsPerOne) + d * 2 ^ s := by
  rw [roundToDouble_eq hq]
  generalize n * unitsPerOne = N at *
  generalize hL : (N / d).log2 = L
  have hD : 0 < d * 2 ^ (L - 52) := Nat.mul_pos hd (Nat.two_pow_pos _)
  have hdiv : N / (d * 2 ^ (L - 52)) = N / d / 2 ^ (L - 52) :=
    (Nat.div_div_eq_div_mul _ _ _).symm
  obtain ⟨hlo, hhi⟩ := roundHalfEven_bounds N (d * 2 ^ (L - 52))
  obtain ⟨hnear₁, hnear₂⟩ := roundHalfEven_nearest N hD
  refine ⟨_, L - 52, rfl, ?_, ?_, ?_, ?_⟩
  · -- the quotient has at most `L + 1` bits, `53` once shifted
    have hQ : N / d < 2 ^ 53 * 2 ^ (L - 52) := by
      rw [← Nat.pow_add]
      exact Nat.lt_of_lt_of_le (hL ▸ Nat.lt_log2_self)
        (Nat.pow_le_pow_right (by decide) (by omega))
    have : N / d / 2 ^ (L - 52) < 2 ^ 53 := (Nat.div_lt_iff_lt_mul (Nat.two_pow_pos _)).2 hQ
    omega
  · by_cases hs : L - 52 = 0
    · exact .inl hs
    · refine .inr (le_trans ?_ (hdiv ▸ hlo))
      refine (Nat.le_div_iff_mul_le (Nat.two_pow_pos _)).2 ?_
      have hQ : N / d ≠ 0 := fun h0 => hs (by rw [← hL, h0, Nat.log2_zero])
      calc 2 ^ 52 * 2 ^ (L - 52) = 2 ^ L := by rw [← Nat.pow_add]; congr 1; omega
        _ ≤ N / d := hL ▸ Nat.log2_self_le hQ
  · calc 2 * N ≤ (2 * roundHalfEven N (d * 2 ^ (L - 52)) + 1) * (d * 2 ^ (L - 52)) := hnear₁
      _ = _ := by ring
  · calc _ = 2 * roundHalfEven N (d * 2 ^ (L - 52)) * (d * 2 ^ (L - 52)) := by ring
      _ ≤ 2 * N + d * 2 ^ (L - 52) := hnear₂

theorem mul_two_pow_lt {n a b c : Nat} (hn : n < 2 ^ a) (h : a + b ≤ c) : n * 2 ^ b < 2 ^ c :=
  calc n * 2 ^ b < 2 ^ a * 2 ^ b := Nat.mul_lt_mul_of_pos_right hn (Nat.two_pow_pos _)
    _ = 2 ^ (a + b) := (Nat.pow_add _ _ _).symm
    _ ≤ 2 ^ c := Nat.pow_le_pow_right (by decide) h

/-- A natural number below `2 ^ 53` converts to `double` exactly. -/
theorem roundToDouble_of_lt {n : Nat} (hn : n < 2 ^ 53) :
    roundToDouble n 1 = n * unitsPerOne := by
  rw [roundToDouble_eq (by rw [Nat.div_one]; exact mul_two_pow_lt hn (by decide)),
    Nat.div_one, Nat.one_mul]
  by_cases h0 : n = 0
  · simp [h0, roundHalfEven]
  have hlog : (n * unitsPerOne).log2 = 1074 + n.log2 := by
    rw [unitsPerOne, log2_eq_add_log2_div (by rwa [Nat.mul_div_cancel _ (Nat.two_pow_pos _)]),
      Nat.mul_div_cancel _ (Nat.two_pow_pos _)]
  have hsmall : n.log2 < 53 := (Nat.log2_lt h0).2 hn
  have hsplit : n * unitsPerOne =
      n * 2 ^ (1074 - (1074 + n.log2 - 52)) * 2 ^ (1074 + n.log2 - 52) := by
    rw [unitsPerOne, Nat.mul_assoc, ← Nat.pow_add]
    congr 2
    omega
  rw [hlog, hsplit, roundHalfEven_mul _ (Nat.two_pow_pos _)]

end Binary64

end XpuSmi
