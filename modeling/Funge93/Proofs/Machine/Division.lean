import Funge93.Proofs.Machine.Invariant

/-!
# Quotients and remainders

Quotients are rounded toward zero. What a quotient leaves of the dividend is smaller than the
divisor and has the sign of the dividend, unless it is zero. For any signs, these two conditions
leave one quotient only (`RoundsTowardZero.eq_tdiv`). Flooring would satisfy the first condition as
well, so the second one cannot be dropped.

One quotient of cells is no cell value, that of the smallest cell by minus one; it wraps around to
the smallest cell. All remainders are cell values. Quotient times divisor plus remainder gives back
the dividend in any case, because it is computed in wrapped arithmetic.

Results:
1. `RoundsTowardZero.eq_tdiv`, `tdiv_eq_natAbs`: the quotient by what it leaves, and by magnitudes
   and signs.
2. `toInt_quotient_eq`, `quotient_mul_add_remainder`: the quotient of two cells, and the dividend
   from quotient and remainder.
3. `quotient_and_remainder`: the two instructions on any stack.
-/

namespace Funge93

/-- `RoundsTowardZero b a q`: what the quotient `q` leaves of the dividend `b` is smaller than the
divisor `a`, and it is zero or has the sign of `b`. -/
structure RoundsTowardZero (b a q : Int) : Prop where
  small : (b - a * q).natAbs < a.natAbs
  sign : b - a * q = 0 ∨ (b - a * q).sign = b.sign

variable {b a q : Int}

/-! ## Integers -/

namespace RoundsTowardZero

theorem tdiv (b : Int) (ha : a ≠ 0) : RoundsTowardZero b a (b.tdiv a) where
  small := by
    rw [← Int.tmod_def, Int.natAbs_tmod]
    exact Nat.mod_lt _ (Int.natAbs_pos.mpr ha)
  sign := by
    rw [← Int.tmod_def]
    have hsign := Int.sign_tmod b a
    split at hsign
    · exact .inl (Int.sign_eq_zero_iff_zero.mp hsign)
    · exact .inr hsign

theorem nonneg (h : RoundsTowardZero b a q) (hb : 0 ≤ b) : 0 ≤ b - a * q := by
  rcases h.sign with hzero | hsign
  · simp [hzero]
  · rw [← Int.sign_nonneg_iff, hsign]
    exact Int.sign_nonneg_iff.mpr hb

theorem nonpos (h : RoundsTowardZero b a q) (hb : b ≤ 0) : b - a * q ≤ 0 := by
  rcases h.sign with hzero | hsign
  · simp [hzero]
  · rw [← Int.sign_nonpos_iff, hsign]
    exact Int.sign_nonpos_iff.mpr hb

/-- The quotient is determined by what it leaves. -/
theorem eq_tdiv (h : RoundsTowardZero b a q) : q = b.tdiv a := by
  have hsmall := h.small
  have ha : a ≠ 0 := by
    rintro rfl
    simp at hsmall
  have hsum : b - a * q + a * q = b := Int.sub_add_cancel b (a * q)
  rcases Int.le_total 0 b with hb | hb
  · have hr := h.nonneg hb
    exact ((Int.tdiv_tmod_unique hb ha).mpr ⟨hsum, hr, by omega⟩).1.symm
  · have hr := h.nonpos hb
    exact ((Int.tdiv_tmod_unique' hb ha).mpr ⟨hsum, by omega, hr⟩).1.symm

end RoundsTowardZero

/-- The magnitudes are divided, and the quotient is negated if exactly one of the two numbers is
below zero. -/
theorem tdiv_eq_natAbs (b a : Int) :
    b.tdiv a = if b < 0 ↔ a < 0 then ↑(b.natAbs / a.natAbs) else -↑(b.natAbs / a.natAbs) := by
  cases b with
  | ofNat m =>
    have hb : ¬ Int.ofNat m < 0 := Int.not_lt.mpr (Int.natCast_nonneg m)
    cases a with
    | ofNat n =>
      have ha : ¬ Int.ofNat n < 0 := Int.not_lt.mpr (Int.natCast_nonneg n)
      rw [if_pos (iff_of_false hb ha)]
      rfl
    | negSucc n =>
      rw [if_neg fun h => hb (h.mpr (Int.negSucc_lt_zero n))]
      rfl
  | negSucc m =>
    have hb : Int.negSucc m < 0 := Int.negSucc_lt_zero m
    cases a with
    | ofNat n =>
      have ha : ¬ Int.ofNat n < 0 := Int.not_lt.mpr (Int.natCast_nonneg n)
      rw [if_neg fun h => ha (h.mp hb)]
      rfl
    | negSucc n =>
      rw [if_pos (iff_of_true hb (Int.negSucc_lt_zero n))]
      rfl

/-! ## Cells -/

namespace Cell

variable {left right : Cell}

/-- The smallest cell by minus one is the only quotient that wraps. -/
theorem toInt_quotient_eq (left : Cell) (hright : right ≠ 0) : (quotient left right).toInt =
    if left.toInt = -9223372036854775808 ∧ right.toInt = -1 then -9223372036854775808
    else left.toInt.tdiv right.toInt := by
  split
  · next overflow =>
    obtain rfl : left = -9223372036854775808 := Int64.toInt_inj.mp overflow.1
    obtain rfl : right = -1 := Int64.toInt_inj.mp overflow.2
    decide
  · next fits =>
    unfold quotient
    rw [if_neg hright]
    by_cases hleft : left = Int64.minValue
    · have hone : right ≠ -1 := by
        rintro rfl
        exact fits ⟨congrArg Int64.toInt hleft, rfl⟩
      exact Int64.toInt_div_of_ne_right left right hone
    · exact Int64.toInt_div_of_ne_left left right hleft

/-- Quotient and remainder make up the dividend again, even where the quotient wraps. -/
theorem quotient_mul_add_remainder (left : Cell) (hright : right ≠ 0) :
    quotient left right * right + remainder left right = left := by
  let l := left.toInt
  let r := right.toInt
  have hsum : l.tdiv r * r + l.tmod r = l := by rw [Int.mul_comm, Int.mul_tdiv_add_tmod]
  calc
    quotient left right * right + remainder left right
      = ofInt (l.tdiv r) * ofInt r + ofInt (l.tmod r) := by
      rw [Machine.ofInt_tdiv_toInt hright, Machine.ofInt_tmod_toInt hright, ofInt_toInt right]
    _ = ofInt (l.tdiv r * r + l.tmod r) := by rw [← Int64.ofInt_mul, ← Int64.ofInt_add]
    _ = left := by rw [hsum, ofInt_toInt left]

theorem ofInt_mul_add (a b c : Cell) : ofInt (a.toInt * b.toInt + c.toInt) = a * b + c := by
  show Int64.ofInt (a.toInt * b.toInt + c.toInt) = _
  rw [Int64.ofInt_add, Int64.ofInt_mul, Int64.ofInt_toInt, Int64.ofInt_toInt, Int64.ofInt_toInt]

end Cell

/-! ## The two instructions -/

namespace Machine

/-- The two topmost cells, the lower one first. Each one that is missing is zero. -/
def topPair (m : Machine) : Cell × Cell := (m.stack.items.getD 1 0, m.stack.items.getD 0 0)

theorem topPair_eq (m : Machine) : m.topPair = (m.stack.discard.peek, m.stack.peek) := by
  unfold topPair Stack.peek
  rw [Stack.items_discard]
  match m.stack.items with
  | [] | [_] | _ :: _ :: _ => rfl

/-- The machine with a cell in place of the two topmost ones. -/
def replacePair (m : Machine) (v : Cell) : Machine :=
  { m with stack := m.stack.discard.discard.push v }

theorem combine_eq (m : Machine) (f : Cell → Cell → Cell) :
    m.combine f = m.replacePair (f m.topPair.1 m.topPair.2) := by
  rw [topPair_eq]
  rfl

/-- For any two integers of which the second is not zero, there is one quotient and only one that
leaves less than the divisor, with the sign of the dividend. On any stack, division and remainder
put one cell each in place of the two topmost ones. For the divisor zero it is zero. For any other
divisor, the remainder is what the quotient leaves, exactly; the cell of the quotient is the
quotient itself, but the smallest cell by minus one gives the smallest cell again; and quotient
times divisor plus remainder wraps to the dividend. -/
theorem quotient_and_remainder :
    (∀ b a : Int, a ≠ 0 → ∃ q, truncDiv? b a = some q ∧
      q = (if b < 0 ↔ a < 0 then ↑(b.natAbs / a.natAbs) else -↑(b.natAbs / a.natAbs)) ∧
      RoundsTowardZero b a q ∧ ∀ q', RoundsTowardZero b a q' → q' = q) ∧
    ∀ m : Machine, ∃ Q R : Cell,
      m.execute .divide = .ok (m.replacePair Q) ∧ m.execute .remainder = .ok (m.replacePair R) ∧
      (m.topPair.2 = 0 → Q = 0 ∧ R = 0) ∧
      (m.topPair.2 ≠ 0 →
        let b := m.topPair.1.toInt
        let a := m.topPair.2.toInt
        ∃ q, truncDiv? b a = some q ∧ R.toInt = b - a * q ∧
          Q.toInt = (if b = -9223372036854775808 ∧ a = -1 then -9223372036854775808 else q) ∧
          (Cell.ofInt (Q.toInt * a + R.toInt)).toInt = b) := by
  constructor
  · intro b a ha
    exact ⟨b.tdiv a, if_neg ha, tdiv_eq_natAbs b a, .tdiv b ha, fun q' h => h.eq_tdiv⟩
  · intro m
    generalize hpair : m.topPair = pair
    obtain ⟨left, right⟩ := pair
    have hdivide : m.execute .divide = .ok (m.replacePair (Cell.quotient left right)) := by
      show Except.ok (m.combine Cell.quotient) = _
      rw [combine_eq, hpair]
    have hremainder : m.execute .remainder = .ok (m.replacePair (Cell.remainder left right)) := by
      show Except.ok (m.combine Cell.remainder) = _
      rw [combine_eq, hpair]
    refine ⟨_, _, hdivide, hremainder, ?_, ?_⟩
    · rintro rfl
      exact ⟨Cell.quotient_zero left, Cell.remainder_zero left⟩
    · intro hright
      refine ⟨_, if_neg (Cell.toInt_ne_zero hright), ?_, Cell.toInt_quotient_eq left hright, ?_⟩
      · rw [Cell.toInt_remainder left hright, Int.tmod_def]
      · rw [Cell.ofInt_mul_add, Cell.quotient_mul_add_remainder left hright]

/-- Seven by minus two leaves one, and the smallest cell by minus one wraps. -/
theorem quotient_and_remainder_overflow :
    (∃ q, truncDiv? 7 (-2) = some q ∧ q = -3 ∧ RoundsTowardZero 7 (-2) q ∧
      ∀ q', RoundsTowardZero 7 (-2) q' → q' = q) ∧
    let m := ((start Grid.blank Console.bare (.ofSeed none) none).push
      (-9223372036854775808)).push (-1)
    ∃ Q R : Cell, m.execute .divide = .ok (m.replacePair Q) ∧
      m.execute .remainder = .ok (m.replacePair R) ∧
      Q.toInt = -9223372036854775808 ∧ R.toInt = 0 ∧
      (Cell.ofInt (Q.toInt * -1 + R.toInt)).toInt = -9223372036854775808 := by
  have hintegers := quotient_and_remainder.1 7 (-2) (by decide)
  refine ⟨hintegers, ?_⟩
  intro m
  obtain ⟨Q, R, hdivide, hremainder, -, hpair⟩ := quotient_and_remainder.2 m
  obtain ⟨q, hq, hR, hQ, hsum⟩ := hpair (by decide)
  obtain rfl : q = 9223372036854775808 := by
    have hquotient : truncDiv? m.topPair.1.toInt m.topPair.2.toInt = some 9223372036854775808 := by
      decide
    rw [hquotient] at hq
    exact (Option.some.inj hq).symm
  exact ⟨Q, R, hdivide, hremainder, hQ, hR, hsum⟩

end Machine

end Funge93
