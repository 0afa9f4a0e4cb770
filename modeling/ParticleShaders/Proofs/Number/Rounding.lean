import Mathlib.Algebra.Order.Field.Power
import Mathlib.Data.Rat.Cast.Order
import Mathlib.Order.Monotone.Basic
import Mathlib.Tactic.Linarith
import Mathlib.Tactic.Positivity
import Mathlib.Tactic.Ring
import ParticleShaders.Number.Style
/-! The reals that round to a magnitude. Those of neighbouring magnitudes meet in one point, which
belongs to the even one of the two; so nothing rounds to two magnitudes, and the shortest decimal of
a number tells which number it is. -/

namespace ParticleShaders

def Decimal.value (d : Decimal) : ℚ := d.digits * 10 ^ d.exponent

namespace BinaryFormat

variable {f : BinaryFormat} {bits other n : Nat} {p : Int} {tie : Tie} {x : ℚ}

theorem decode_eq (f : BinaryFormat) (biased : Nat) {fraction : Nat}
    (h : fraction < 2 ^ f.significandBits) :
    f.decode (biased * 2 ^ f.significandBits + fraction) =
      if biased = 0 then (fraction, f.leastExponent)
      else (fraction + 2 ^ f.significandBits, f.leastExponent + biased - 1) := by
  have quotient : (biased * 2 ^ f.significandBits + fraction) >>> f.significandBits = biased := by
    rw [Nat.shiftRight_eq_div_pow, Nat.mul_comm, Nat.mul_add_div (Nat.two_pow_pos _),
      Nat.div_eq_of_lt h, Nat.add_zero]
  have rest : (biased * 2 ^ f.significandBits + fraction) % 2 ^ f.significandBits = fraction := by
    rw [Nat.mul_comm, Nat.mul_add_mod, Nat.mod_eq_of_lt h]
  simp only [decode, quotient, Nat.one_shiftLeft, rest]

theorem exists_biased (f : BinaryFormat) (bits : Nat) : ∃ biased fraction,
    fraction < 2 ^ f.significandBits ∧ biased * 2 ^ f.significandBits + fraction = bits :=
  ⟨bits / 2 ^ f.significandBits, bits % 2 ^ f.significandBits, Nat.mod_lt _ (Nat.two_pow_pos _),
    Nat.div_add_mod' ..⟩

def place (f : BinaryFormat) (bits : Nat) : Nat :=
  ((f.decode bits).2 - f.leastExponent).toNat

/-- The ends of what rounds to a magnitude, in quarters of the last place of the format. -/
def lower (f : BinaryFormat) (bits : Nat) : Nat := (f.rounding bits).1 * 2 ^ f.place bits

def upper (f : BinaryFormat) (bits : Nat) : Nat := (f.rounding bits).2.1 * 2 ^ f.place bits

def isClosed (f : BinaryFormat) (bits : Nat) : Bool := (f.rounding bits).2.2

theorem exponent_eq (f : BinaryFormat) (bits : Nat) :
    (f.decode bits).2 = f.leastExponent + f.place bits := by
  obtain ⟨biased, fraction, small, rfl⟩ := f.exists_biased bits
  rw [place, f.decode_eq biased small]
  split <;> omega

theorem place_eq (f : BinaryFormat) (biased : Nat) {fraction : Nat}
    (h : fraction < 2 ^ f.significandBits) :
    f.place (biased * 2 ^ f.significandBits + fraction) = biased - 1 := by
  rw [place, f.decode_eq biased h]
  split <;> omega

theorem upper_eq (f : BinaryFormat) (biased : Nat) {fraction : Nat}
    (h : fraction < 2 ^ f.significandBits) :
    f.upper (biased * 2 ^ f.significandBits + fraction)
      = (4 * (if biased = 0 then fraction else fraction + 2 ^ f.significandBits) + 2)
        * 2 ^ (biased - 1) := by
  rw [upper, f.place_eq biased h, rounding, f.decode_eq biased h]
  split <;> rfl

theorem lower_eq (f : BinaryFormat) (biased : Nat) {fraction : Nat}
    (h : fraction < 2 ^ f.significandBits) :
    f.lower (biased * 2 ^ f.significandBits + fraction)
      = if biased = 0 then 4 * fraction - 2
        else (4 * (fraction + 2 ^ f.significandBits) - if fraction = 0 ∧ 2 ≤ biased then 1 else 2)
          * 2 ^ (biased - 1) := by
  have narrow : 2 ^ (f.significandBits + 1) ≤ biased * 2 ^ f.significandBits ↔ 2 ≤ biased := by
    rw [Nat.pow_succ, Nat.mul_comm, Nat.mul_le_mul_right_iff (Nat.two_pow_pos _)]
  rw [lower, f.place_eq biased h, rounding, f.decode_eq biased h]
  simp only [Nat.one_shiftLeft]
  split
  · next least =>
    subst least
    simp [h.ne]
  · next above =>
    congr 3
    simp only [Nat.add_eq_right, eq_iff_iff]
    refine and_congr_right fun zero => ?_
    rw [zero]
    exact narrow

theorem lower_lt_upper (f : BinaryFormat) (bits : Nat) : f.lower bits < f.upper bits := by
  refine Nat.mul_lt_mul_of_pos_right ?_ (Nat.two_pow_pos _)
  simp only [rounding]
  omega

/-- What rounds to a magnitude ends where that of the next one begins. -/
theorem lower_succ (f : BinaryFormat) (bits : Nat) : f.lower (bits + 1) = f.upper bits := by
  obtain ⟨biased, fraction, small, rfl⟩ := f.exists_biased bits
  rw [f.upper_eq biased small, Nat.add_assoc]
  rcases (Nat.succ_le_of_lt small).lt_or_eq with within | last
  · rw [f.lower_eq biased within]
    split
    · next least =>
      subst least
      omega
    · simp only [Nat.add_one_ne_zero, false_and, if_false]
      congr 1
      omega
  · rw [show biased * 2 ^ f.significandBits + (fraction + 1)
        = (biased + 1) * 2 ^ f.significandBits + 0 by rw [Nat.succ_mul]; omega,
      f.lower_eq (biased + 1) (Nat.two_pow_pos _), if_neg (Nat.succ_ne_zero _)]
    cases biased with
    | zero =>
      simp only [true_and, Nat.zero_add, Nat.not_ofNat_le_one, if_false, if_true, Nat.sub_self,
        Nat.pow_zero, Nat.mul_one]
      omega
    | succ biased =>
      have twice : 4 * (fraction + 2 ^ f.significandBits) + 2
          = (4 * 2 ^ f.significandBits - 1) * 2 := by omega
      simp only [true_and, Nat.le_add_left, if_true, Nat.add_one_ne_zero, if_false, Nat.zero_add,
        Nat.add_sub_cancel, twice, Nat.pow_succ]
      ring

theorem isClosed_eq (stored : 0 < f.significandBits) (bits : Nat) :
    f.isClosed bits = decide (bits % 2 = 0) := by
  obtain ⟨biased, fraction, small, rfl⟩ := f.exists_biased bits
  obtain ⟨k, width⟩ := Nat.exists_eq_add_of_lt stored
  have even : 2 ^ f.significandBits = 2 * 2 ^ k := by
    rw [width, Nat.zero_add, Nat.pow_succ, Nat.mul_comm]
  have whole : (biased * 2 ^ f.significandBits + fraction) % 2 = fraction % 2 := by
    rw [even, Nat.mul_left_comm, Nat.mul_add_mod]
  rw [isClosed, rounding, f.decode_eq biased small, whole]
  split
  · rfl
  · dsimp only
    rw [even, Nat.add_mul_mod_self_left]

theorem strictMono_upper (f : BinaryFormat) : StrictMono f.upper :=
  strictMono_nat_of_lt_succ fun bits => f.lower_succ bits ▸ f.lower_lt_upper (bits + 1)

def quarters (f : BinaryFormat) (x : ℚ) : ℚ := x * 2 ^ (2 - f.leastExponent)

structure RoundsTo (f : BinaryFormat) (x : ℚ) (bits : Nat) : Prop where
  lower_le : f.lower bits ≤ f.quarters x
  le_upper : f.quarters x ≤ f.upper bits
  closed : f.quarters x = f.lower bits ∨ f.quarters x = f.upper bits → f.isClosed bits

theorem RoundsTo.not_lt (stored : 0 < f.significandBits) (h : f.RoundsTo x bits)
    (h' : f.RoundsTo x other) : ¬ bits < other := by
  intro before
  obtain ⟨d, rfl⟩ := Nat.exists_eq_add_of_lt before
  have meet : f.upper bits ≤ f.upper (bits + d) := f.strictMono_upper.monotone (Nat.le_add_right ..)
  have above : (f.lower (bits + d + 1) : ℚ) ≤ f.upper bits := h'.lower_le.trans h.le_upper
  rw [lower_succ] at above
  have same : d = 0 := by
    have := f.strictMono_upper.injective (Nat.le_antisymm meet (by exact_mod_cast above))
    omega
  subst same
  have edge : f.quarters x = f.upper bits :=
    le_antisymm h.le_upper (f.lower_succ bits ▸ h'.lower_le)
  have even := h.closed (.inr edge)
  have odd := h'.closed (.inl (edge.trans (by rw [Nat.add_zero, lower_succ])))
  simp only [isClosed_eq stored, decide_eq_true_eq] at even odd
  omega

theorem RoundsTo.unique (stored : 0 < f.significandBits) (h : f.RoundsTo x bits)
    (h' : f.RoundsTo x other) : bits = other :=
  Nat.le_antisymm (Nat.not_lt.1 (h'.not_lt stored h)) (Nat.not_lt.1 (h.not_lt stored h'))

theorem roundsTo_zero (f : BinaryFormat) : f.RoundsTo 0 0 := by
  have least : f.decode 0 = (0, f.leastExponent) := by
    simpa using f.decode_eq 0 (Nat.two_pow_pos f.significandBits)
  have lower : f.lower 0 = 0 := by
    simp [lower, rounding, least]
  have zero : f.quarters 0 = 0 := zero_mul _
  refine ⟨?_, ?_, fun _ => ?_⟩
  · rw [zero, lower, Nat.cast_zero]
  · rw [zero]
    exact Nat.cast_nonneg _
  · simp [isClosed, rounding, least]

theorem RoundsTo.pos (positive : 0 < bits) (h : f.RoundsTo x bits) : 0 < x := by
  obtain ⟨before, rfl⟩ := Nat.exists_eq_succ_of_ne_zero positive.ne'
  have above : (0 : ℚ) < f.quarters x := by
    refine lt_of_lt_of_le ?_ h.lower_le
    rw [lower_succ]
    exact_mod_cast (f.lower_lt_upper before).pos
  exact pos_of_mul_pos_left above (by positivity)

def scale (f : BinaryFormat) (bits : Nat) (p : Int) : Nat :=
  10 ^ (-p).toNat * 2 ^ ((f.decode bits).2 - 2).toNat

def spacing (f : BinaryFormat) (bits : Nat) (p : Int) : Nat :=
  10 ^ p.toNat * 2 ^ (2 - (f.decode bits).2).toNat

def below (f : BinaryFormat) (bits : Nat) (p : Int) : Nat :=
  4 * (f.decode bits).1 * f.scale bits p / f.spacing bits p

def fits (f : BinaryFormat) (bits : Nat) (p : Int) (n : Nat) : Bool :=
  let (low, high, closed) := f.rounding bits
  if closed then
    low * f.scale bits p ≤ n * f.spacing bits p && n * f.spacing bits p ≤ high * f.scale bits p
  else
    low * f.scale bits p < n * f.spacing bits p && n * f.spacing bits p < high * f.scale bits p

theorem gridPoint?_eq (f : BinaryFormat) (tie : Tie) (bits : Nat) (p : Int) :
    f.gridPoint? tie bits p =
      let n := f.below bits p
      let middle := 4 * (f.decode bits).1 * f.scale bits p
      match f.fits bits p n, f.fits bits p (n + 1) with
      | false, false => none
      | true, false => some n
      | false, true => some (n + 1)
      | true, true =>
        if middle - n * f.spacing bits p < (n + 1) * f.spacing bits p - middle then some n
        else if (n + 1) * f.spacing bits p - middle < middle - n * f.spacing bits p then
          some (n + 1)
        else match tie with
          | .up => some (n + 1)
          | .even => some (n + n % 2) := by
  simp only [gridPoint?, below, fits, scale, spacing, Nat.shiftLeft_eq]
  rfl

theorem fits_of_gridPoint? (h : f.gridPoint? tie bits p = some n) : f.fits bits p n := by
  rw [gridPoint?_eq] at h
  dsimp only at h
  split at h
  · cases h
  · next here _ =>
    cases h
    exact here
  · next _ there =>
    cases h
    exact there
  · next here there =>
    split at h
    · cases h
      exact here
    · split at h
      · cases h
        exact there
      · cases tie with
        | up =>
          cases h
          exact there
        | even =>
          cases h
          rcases Nat.mod_two_eq_zero_or_one (f.below bits p) with even | odd
          · rwa [even]
          · rwa [odd]

theorem isSome_gridPoint? (h : f.fits bits p (f.below bits p)) :
    (f.gridPoint? tie bits p).isSome := by
  rw [gridPoint?_eq]
  dsimp only
  rw [h]
  split
  · contradiction
  · rfl
  · contradiction
  · split
    · rfl
    · split
      · rfl
      · cases tie <;> rfl

theorem pow_toNat {a : ℚ} (h : a ≠ 0) (z : Int) : a ^ z.toNat = a ^ (-z).toNat * a ^ z := by
  rw [← zpow_natCast, ← zpow_natCast, ← zpow_add₀ h]
  congr 1
  omega

theorem spacing_eq (f : BinaryFormat) (bits : Nat) (p : Int) :
    (f.spacing bits p : ℚ) = f.scale bits p * (10 ^ p * 2 ^ (2 - (f.decode bits).2)) := by
  have tens := pow_toNat (show (10 : ℚ) ≠ 0 by norm_num) p
  have twos := pow_toNat (show (2 : ℚ) ≠ 0 by norm_num) (2 - (f.decode bits).2)
  rw [neg_sub] at twos
  simp only [spacing, scale, Nat.cast_mul, Nat.cast_pow, Nat.cast_ofNat, tens, twos]
  ring

theorem quarters_eq (f : BinaryFormat) (bits : Nat) (x : ℚ) :
    f.quarters x = x * 2 ^ (2 - (f.decode bits).2) * 2 ^ f.place bits := by
  have places : (2 : ℚ) ^ (2 - f.leastExponent)
      = 2 ^ (2 - (f.decode bits).2) * 2 ^ f.place bits := by
    rw [← zpow_natCast, ← zpow_add₀ (by norm_num), f.exponent_eq]
    congr 1
    ring
  rw [quarters, places, mul_assoc]

theorem roundsTo_of_fits (h : f.fits bits p n) : f.RoundsTo (n * 10 ^ p) bits := by
  let y : ℚ := n * 10 ^ p * 2 ^ (2 - (f.decode bits).2)
  have units : (0 : ℚ) < f.scale bits p := by
    simp [scale]
  have grid : (n * f.spacing bits p : ℚ) = y * f.scale bits p := by
    rw [spacing_eq]
    ring
  have quarters : f.quarters (n * 10 ^ p) = y * 2 ^ f.place bits := f.quarters_eq bits _
  have places : (0 : ℚ) < 2 ^ f.place bits := by positivity
  have lower : (f.lower bits : ℚ) = (f.rounding bits).1 * 2 ^ f.place bits := by
    simp [BinaryFormat.lower]
  have upper : (f.upper bits : ℚ) = (f.rounding bits).2.1 * 2 ^ f.place bits := by
    simp [BinaryFormat.upper]
  have above (low : Nat) : low * f.scale bits p ≤ n * f.spacing bits p ↔ (low : ℚ) ≤ y := by
    rw [← mul_le_mul_iff_left₀ units, ← grid]
    exact_mod_cast Iff.rfl
  have beneath (high : Nat) : n * f.spacing bits p ≤ high * f.scale bits p ↔ y ≤ (high : ℚ) := by
    rw [← mul_le_mul_iff_left₀ units, ← grid]
    exact_mod_cast Iff.rfl
  have inside : (f.rounding bits).1 ≤ y ∧ y ≤ (f.rounding bits).2.1 ∧
      (¬ f.isClosed bits → (f.rounding bits).1 < y ∧ y < (f.rounding bits).2.1) := by
    unfold fits at h
    dsimp only at h
    split at h
    · next closed =>
      simp only [Bool.and_eq_true, decide_eq_true_eq, above, beneath] at h
      exact ⟨h.1, h.2, fun isOpen => absurd closed isOpen⟩
    · simp only [Bool.and_eq_true, decide_eq_true_eq, ← not_le, above, beneath] at h
      rw [not_le, not_le] at h
      exact ⟨h.1.le, h.2.le, fun _ => h⟩
  obtain ⟨low, high, strict⟩ := inside
  refine ⟨?_, ?_, fun edge => ?_⟩
  · rw [quarters, lower]
    gcongr
  · rw [quarters, upper]
    gcongr
  · by_contra isOpen
    obtain ⟨low, high⟩ := strict isOpen
    rw [quarters, lower, upper, mul_left_inj' places.ne', mul_left_inj' places.ne'] at edge
    rcases edge with same | same
    · exact low.ne' same
    · exact high.ne same

theorem significand_pos (f : BinaryFormat) (positive : 0 < bits) : 0 < (f.decode bits).1 := by
  obtain ⟨biased, fraction, small, rfl⟩ := f.exists_biased bits
  rw [f.decode_eq biased small]
  split
  · next least =>
    subst least
    simpa using positive
  · exact Nat.lt_of_lt_of_le (Nat.two_pow_pos _) (Nat.le_add_left ..)

theorem spacing_dvd (fine : p ≤ min (f.decode bits).2 0) :
    f.spacing bits p ∣ 4 * f.scale bits p := by
  have whole : p.toNat = 0 := by omega
  have places : (2 - (f.decode bits).2).toNat ≤ 2 + (-p).toNat := by omega
  rw [spacing, scale, whole, Nat.pow_zero, Nat.one_mul, ← Nat.mul_assoc]
  refine Dvd.dvd.mul_right ((Nat.pow_dvd_pow 2 places).trans ?_) _
  rw [Nat.pow_add, show 10 = 2 * 5 from rfl, Nat.mul_pow, ← Nat.mul_assoc]
  exact Nat.dvd_mul_right ..

theorem fits_below (positive : 0 < bits) (fine : p ≤ min (f.decode bits).2 0) :
    f.fits bits p (f.below bits p) := by
  have significand := f.significand_pos positive
  have units : 0 < f.scale bits p := by
    simp [scale]
  have exact : f.below bits p * f.spacing bits p = 4 * (f.decode bits).1 * f.scale bits p := by
    refine Nat.div_mul_cancel ?_
    rw [Nat.mul_right_comm]
    exact (spacing_dvd fine).mul_right _
  have low : (f.rounding bits).1 < 4 * (f.decode bits).1 := by
    simp only [rounding]
    split <;> omega
  have high : 4 * (f.decode bits).1 < (f.rounding bits).2.1 := by
    simp only [rounding]
    omega
  unfold fits
  dsimp only
  rw [exact]
  split
  · simp only [Bool.and_eq_true, decide_eq_true_eq]
    exact ⟨Nat.mul_le_mul_right _ low.le, Nat.mul_le_mul_right _ high.le⟩
  · simp only [Bool.and_eq_true, decide_eq_true_eq]
    exact ⟨Nat.mul_lt_mul_of_pos_right low units, Nat.mul_lt_mul_of_pos_right high units⟩

theorem exists_search {fuel : Nat} (h : (f.gridPoint? tie bits (p - fuel)).isSome) :
    ∃ n q, f.search tie bits fuel p = ⟨n, q⟩ ∧ f.gridPoint? tie bits q = some n := by
  induction fuel generalizing p with
  | zero =>
    obtain ⟨n, found⟩ := Option.isSome_iff_exists.1 h
    rw [Nat.cast_zero, sub_zero] at found
    exact ⟨n, p, by rw [search, found]; rfl, found⟩
  | succ fuel ih =>
    unfold search
    split
    · next n found => exact ⟨n, p, rfl, found⟩
    · -- The grid that is one step finer is one step nearer to the last one.
      apply ih
      rwa [sub_sub, add_comm, ← Nat.cast_succ]

theorem roundsTo_shortest (tie : Tie) (positive : 0 < bits) :
    f.RoundsTo (f.shortest tie bits).value bits := by
  let e := (f.decode bits).2
  let start := ((f.decode bits).1.log2 + e + 1) * 1233 / 4096 + 2
  have last : start - (start - min e 0).toNat ≤ min e 0 := by omega
  obtain ⟨n, p, found, point⟩ := exists_search (isSome_gridPoint? (fits_below positive last))
  have shortest : f.shortest tie bits = ⟨n, p⟩ := found
  rw [shortest]
  exact roundsTo_of_fits (fits_of_gridPoint? point)

end BinaryFormat

end ParticleShaders
