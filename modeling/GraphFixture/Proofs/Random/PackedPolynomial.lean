import GraphFixture.Proofs.Arithmetic.Primality
import Mathlib.Algebra.Module.Defs
import Mathlib.Algebra.Ring.Commute
import Mathlib.Data.Nat.Cast.Commute
import Mathlib.Tactic.Abel
import Mathlib.Tactic.IntervalCases

/-!
# Packed polynomials

A polynomial over the field of two elements is packed into a number, one
coefficient to a place of sixteen bits.  The product of the numbers is then the
product of the polynomials, since no place overflows and a coefficient counts by
its parity alone.  Powers modulo a fixed polynomial are computed with few
operations on large numbers.  They are judged by the values of polynomials at
an element of a ring in which two is zero.
-/

namespace GraphFixture
namespace Packed

/-- The number of values that one place holds. -/
def radix : Nat :=
  65536

theorem radix_eq : radix = 2 ^ 16 :=
  rfl

theorem radix_pos : 0 < radix := by
  decide

/-- A number whose places, so many of them, hold at most a bound. -/
inductive Places (bound : Nat) : (count packed : Nat) → Prop
  | nil : Places bound 0 0
  | cons {count low high : Nat} (small : low ≤ bound)
      (later : Places bound count high) :
      Places bound (count + 1) (low + radix * high)

namespace Places

variable {bound count packed : Nat}

theorem zero (bound count : Nat) : Places bound count 0 := by
  induction count with
  | zero => exact .nil
  | succ count inductionHypothesis => exact .cons (Nat.zero_le bound) inductionHypothesis

/-- Further places at the top hold nothing. -/
theorem extend (places : Places bound count packed) (further : Nat) :
    Places bound (count + further) packed := by
  induction places with
  | nil => exact zero bound _
  | @cons count low high small _ inductionHypothesis =>
      rw [Nat.add_right_comm]
      exact .cons small inductionHypothesis

/-- Places that do not overflow add up one by one. -/
theorem add {other otherPacked : Nat} (places : Places bound count packed)
    (otherPlaces : Places other count otherPacked) :
    Places (bound + other) count (packed + otherPacked) := by
  induction places generalizing otherPacked with
  | nil =>
      cases otherPlaces
      exact .nil
  | @cons count low high small _ inductionHypothesis =>
      cases otherPlaces with
      | @cons _ otherLow otherHigh otherSmall otherLater =>
          have sum : low + radix * high + (otherLow + radix * otherHigh) =
              low + otherLow + radix * (high + otherHigh) := by
            rw [Nat.mul_add]
            omega
          rw [sum]
          exact .cons (Nat.add_le_add small otherSmall) (inductionHypothesis otherLater)

theorem lt_pow (fits : bound < radix) (places : Places bound count packed) :
    packed < radix ^ count := by
  induction places with
  | nil => exact Nat.one_pos
  | @cons count low high small _ inductionHypothesis =>
      have lowFits := Nat.lt_of_le_of_lt small fits
      calc low + radix * high < radix + radix * high := Nat.add_lt_add_right lowFits _
        _ = radix * (high + 1) := by rw [Nat.mul_succ, Nat.add_comm]
        _ ≤ radix * radix ^ count := Nat.mul_le_mul_left _ inductionHypothesis
        _ = radix ^ (count + 1) := (Nat.pow_succ').symm

/-- Dropping low places keeps the others. -/
theorem drop {dropped : Nat} (fits : bound < radix)
    (places : Places bound (dropped + count) packed) :
    Places bound count (packed / radix ^ dropped) := by
  induction dropped generalizing packed with
  | zero => simpa using places
  | succ dropped inductionHypothesis =>
      rw [Nat.succ_add] at places
      cases places with
      | @cons _ low high small later =>
          rw [Nat.pow_succ', ← Nat.div_div_eq_div_mul, Nat.add_mul_div_left _ _ radix_pos,
            Nat.div_eq_of_lt (Nat.lt_of_le_of_lt small fits), Nat.zero_add]
          exact inductionHypothesis later

/-- A number below a power of the radix needs no places from there on. -/
theorem shorten {further : Nat} (places : Places bound (count + further) packed)
    (inside : packed < radix ^ count) : Places bound count packed := by
  induction count generalizing packed with
  | zero =>
      obtain rfl : packed = 0 := by simpa using inside
      exact .nil
  | succ count inductionHypothesis =>
      rw [Nat.succ_add] at places
      cases places with
      | @cons _ low high small later =>
          refine .cons small (inductionHypothesis later ?_)
          apply Nat.lt_of_mul_lt_mul_left (a := radix)
          rw [← Nat.pow_succ']
          exact Nat.lt_of_le_of_lt (Nat.le_add_left _ _) inside

end Places

/-! ## Values -/

variable {R : Type} [Semiring R]

/-- The value of a packed polynomial at an element. -/
def value (x : R) (packed : Nat) : R :=
  if packed = 0 then 0
  else (packed % radix : Nat) + x * value x (packed / radix)
termination_by packed
decreasing_by exact Nat.div_lt_self (Nat.pos_of_ne_zero ‹_›) (by decide)

@[simp] theorem value_zero (x : R) : value x 0 = 0 := by
  rw [value, if_pos rfl]

theorem value_cons (x : R) {low : Nat} (fits : low < radix) (high : Nat) :
    value x (low + radix * high) = (low : R) + x * value x high := by
  have lowest : (low + radix * high) % radix = low := by
    rw [Nat.add_mul_mod_self_left, Nat.mod_eq_of_lt fits]
  have others : (low + radix * high) / radix = high := by
    rw [Nat.add_mul_div_left _ _ radix_pos, Nat.div_eq_of_lt fits, Nat.zero_add]
  by_cases isZero : low + radix * high = 0
  · obtain ⟨rfl, rfl⟩ : low = 0 ∧ high = 0 := by
      rw [radix] at isZero
      omega
    simp
  · rw [value, if_neg isZero, lowest, others]

@[simp] theorem value_one (x : R) : value x 1 = 1 := by
  have single := value_cons x (by decide : 1 < radix) 0
  simpa using single

/-- The polynomial of one variable has the element as its value. -/
@[simp] theorem value_radix (x : R) : value x radix = x := by
  have single := value_cons x (by decide : 0 < radix) 1
  simpa using single

theorem value_add (x : R) {bound other count packed otherPacked : Nat}
    (places : Places bound count packed) (otherPlaces : Places other count otherPacked)
    (fits : bound + other < radix) :
    value x (packed + otherPacked) = value x packed + value x otherPacked := by
  induction places generalizing otherPacked with
  | nil =>
      cases otherPlaces
      simp
  | @cons count low high small _ inductionHypothesis =>
      cases otherPlaces with
      | @cons _ otherLow otherHigh otherSmall otherLater =>
          have sum : low + radix * high + (otherLow + radix * otherHigh) =
              low + otherLow + radix * (high + otherHigh) := by
            rw [Nat.mul_add]
            omega
          rw [sum, value_cons x (by omega), value_cons x (by omega),
            value_cons x (by omega), inductionHypothesis otherLater, Nat.cast_add, mul_add]
          abel

/-- A polynomial commutes with the element at which it is evaluated. -/
theorem commute_value (x : R) (packed : Nat) : Commute x (value x packed) := by
  induction packed using Nat.strongRecOn with
  | ind packed inductionHypothesis =>
      rw [value]
      split
      · exact Commute.zero_right x
      · rename_i nonzero
        have later := inductionHypothesis (packed / radix)
          (Nat.div_lt_self (Nat.pos_of_ne_zero nonzero) (by decide))
        exact (Nat.commute_cast x _).add_right ((Commute.refl x).mul_right later)

/-- The product of packed polynomials is the product of the numbers, as long as
no place overflows. -/
theorem places_mul_and_value_mul (x : R) {count other packed otherPacked : Nat}
    (places : Places 1 count packed) (otherPlaces : Places 1 other otherPacked)
    (fits : count < radix) :
    Places count (count + other) (packed * otherPacked) ∧
      value x (packed * otherPacked) = value x packed * value x otherPacked := by
  induction places with
  | nil => simpa using Places.zero 0 other
  | @cons count low high small later inductionHypothesis =>
      obtain ⟨placesLater, valueLater⟩ := inductionHypothesis (Nat.lt_of_succ_lt fits)
      have split : (low + radix * high) * otherPacked =
          (0 + radix * (high * otherPacked)) + low * otherPacked := by
        rw [Nat.add_mul, Nat.mul_assoc, Nat.zero_add, Nat.add_comm]
      have placesHigh : Places count (count + 1 + other) (0 + radix * (high * otherPacked)) := by
        rw [Nat.add_right_comm]
        exact .cons (Nat.zero_le _) placesLater
      -- The lowest coefficient is zero or one, so its multiple does not overflow.
      have placesLow : Places 1 (count + 1 + other) (low * otherPacked) := by
        rw [Nat.add_comm _ other]
        interval_cases low
        · simpa using Places.zero 1 _
        · simpa using otherPlaces.extend _
      have valueLow : value x (low * otherPacked) = low * value x otherPacked := by
        interval_cases low <;> simp
      rw [split]
      refine ⟨placesHigh.add placesLow, ?_⟩
      rw [value_add x placesHigh placesLow fits, value_cons x radix_pos, valueLater, valueLow,
        value_cons x (Nat.lt_of_le_of_lt small (by decide)), add_mul, mul_assoc]
      simp [add_comm]

/-! ## Parities -/

/-- The number whose places, so many of them, all hold one. -/
def ones : Nat → Nat
  | 0 => 0
  | count + 1 => 1 + radix * ones count

/-- A packed polynomial with each coefficient replaced by its parity. -/
def parities (count packed : Nat) : Nat :=
  packed &&& ones count

theorem parities_cons {low : Nat} (fits : low < radix) (count high : Nat) :
    parities (count + 1) (low + radix * high) = low % 2 + radix * parities count high := by
  have shape (first second : Nat) (small : first < radix) :
      (first + radix * second) % 2 ^ 16 = first ∧ (first + radix * second) / 2 ^ 16 = second := by
    rw [← radix_eq, Nat.add_mul_mod_self_left, Nat.add_mul_div_left _ _ radix_pos,
      Nat.mod_eq_of_lt small, Nat.div_eq_of_lt small, Nat.zero_add]
    exact ⟨rfl, rfl⟩
  have lowest : parities (count + 1) (low + radix * high) % 2 ^ 16 = low % 2 := by
    rw [parities, ones, Nat.and_mod_two_pow, (shape low high fits).1,
      (shape 1 _ (by decide)).1, Nat.and_one_is_mod]
  have others : parities (count + 1) (low + radix * high) / 2 ^ 16 = parities count high := by
    rw [parities, ones, Nat.and_div_two_pow, (shape low high fits).2,
      (shape 1 _ (by decide)).2, parities]
  rw [← Nat.mod_add_div (parities (count + 1) _) (2 ^ 16), lowest, others, radix_eq]

/-- Where two is zero, a number counts by its parity. -/
theorem cast_mod_two (two : (2 : R) = 0) (number : Nat) : ((number % 2 : Nat) : R) = number := by
  conv_rhs => rw [← Nat.div_add_mod number 2]
  rw [Nat.cast_add, Nat.cast_mul, Nat.cast_two, two, zero_mul, zero_add]

theorem places_parities (count packed : Nat) : Places 1 count (parities count packed) := by
  induction count generalizing packed with
  | zero =>
      rw [parities, ones, Nat.and_zero]
      exact .nil
  | succ count inductionHypothesis =>
      rw [← Nat.mod_add_div packed radix, parities_cons (Nat.mod_lt _ radix_pos)]
      exact .cons (Nat.le_of_lt_succ (Nat.mod_lt _ (by decide))) (inductionHypothesis _)

/-- A polynomial keeps its value when its coefficients are replaced by their
parities. -/
theorem value_parities (x : R) (two : (2 : R) = 0) {count packed : Nat}
    (small : packed < radix ^ count) : value x (parities count packed) = value x packed := by
  induction count generalizing packed with
  | zero =>
      obtain rfl : packed = 0 := by simpa using small
      rfl
  | succ count inductionHypothesis =>
      have smallHigh : packed / radix < radix ^ count := by
        rw [Nat.div_lt_iff_lt_mul radix_pos, ← Nat.pow_succ]
        exact small
      have fits : packed % radix < radix := Nat.mod_lt _ radix_pos
      have parity : packed % radix % 2 < 2 := Nat.mod_lt _ (by decide)
      rw [← Nat.mod_add_div packed radix, parities_cons fits,
        value_cons x (Nat.lt_trans parity (by decide)), value_cons x fits,
        cast_mod_two two, inductionHypothesis smallHigh]

/-! ## Products and powers modulo a polynomial -/

/-- The number of places of a polynomial that is reduced. -/
def width : Nat :=
  256

/-- A polynomial of degree `width` with the number by which quotients are
estimated. -/
structure Modulus where
  packed : Nat
  reciprocal : Nat

/-- The value of a packed polynomial, applied to a vector by steps of the
element alone. -/
def combine {V : Type} [AddMonoid V] (step : V → V) : (count packed : Nat) → V → V
  | 0, _, _ => 0
  | count + 1, packed, vector =>
      if packed % radix = 0 then combine step count (packed / radix) (step vector)
      else vector + combine step count (packed / radix) (step vector)

theorem combine_eq_smul {V : Type} [AddCommMonoid V] [Module R V] (x : R)
    {count packed : Nat} (places : Places 1 count packed) (vector : V) :
    combine (x • ·) count packed vector = value x packed • vector := by
  induction places generalizing vector with
  | nil => simp [combine]
  | @cons count low high small later inductionHypothesis =>
      have fits : low < radix := Nat.lt_of_le_of_lt small (by decide)
      rw [combine, Nat.add_mul_mod_self_left, Nat.mod_eq_of_lt fits,
        Nat.add_mul_div_left _ _ radix_pos, Nat.div_eq_of_lt fits, Nat.zero_add,
        inductionHypothesis, value_cons x fits, add_smul, (commute_value x high).eq, mul_smul]
      interval_cases low <;> simp

namespace Modulus

/-- A product, reduced by the multiple of the modulus that the reciprocal
suggests.  There is none if that multiple was a bad guess. -/
def times (modulus : Modulus) (first second : Nat) : Option Nat :=
  let product := parities (width + width) (first * second)
  let quotient := parities (width + width)
    (product / radix ^ width * modulus.reciprocal) / radix ^ width
  let rest := parities (width + (width + 1)) (product + quotient * modulus.packed)
  if rest < radix ^ width then some rest else none

/-- A power of the variable. -/
def power (modulus : Modulus) (exponent : Nat) : Option Nat :=
  Arithmetic.binaryPower modulus.times 1 radix (width + 1) exponent

/-- A product differs by a multiple of the modulus from what it stands for,
whichever multiple that is. -/
theorem exists_value_times (x : R) (two : (2 : R) = 0) {modulus : Modulus}
    (monic : Places 1 (width + 1) modulus.packed) {first second rest : Nat}
    (placesFirst : Places 1 width first) (placesSecond : Places 1 width second)
    (reduced : modulus.times first second = some rest) :
    Places 1 width rest ∧ ∃ quotient,
      value x rest = value x first * value x second + quotient * value x modulus.packed := by
  obtain ⟨productPlaces, productValue⟩ :=
    places_mul_and_value_mul x placesFirst placesSecond (by decide)
  let product := parities (width + width) (first * second)
  let quotient := parities (width + width)
    (product / radix ^ width * modulus.reciprocal) / radix ^ width
  have placesProduct : Places 1 (width + (width + 1)) product :=
    (places_parities (width + width) _).extend 1
  have placesQuotient : Places 1 width quotient :=
    (places_parities (width + width) _).drop (by decide)
  obtain ⟨multiplePlaces, multipleValue⟩ :=
    places_mul_and_value_mul x placesQuotient monic (by decide)
  have small := (placesProduct.add multiplePlaces).lt_pow (by decide)
  have placesRest := places_parities (width + (width + 1)) (product + quotient * modulus.packed)
  change (if parities (width + (width + 1)) (product + quotient * modulus.packed) <
    radix ^ width then _ else none) = some rest at reduced
  split at reduced
  · rename_i inside
    rw [← Option.some.inj reduced]
    refine ⟨placesRest.shorten inside, value x quotient, ?_⟩
    rw [value_parities x two small, value_add x placesProduct multiplePlaces (by decide),
      multipleValue, value_parities x two (productPlaces.lt_pow (by decide)), productValue]
  · exact absurd reduced (by simp)

variable {V : Type} [AddCommMonoid V] [Module R V]

/-- On what the modulus maps to zero, a computed power acts as the power. -/
theorem value_power_smul (x : R) (two : (2 : R) = 0) {modulus : Modulus}
    (monic : Places 1 (width + 1) modulus.packed) {start : V}
    (annihilated : value x modulus.packed • start = 0) {exponent packed : Nat}
    (small : exponent < 2 ^ (width + 1)) (computed : modulus.power exponent = some packed) :
    Places 1 width packed ∧ value x packed • start = x ^ exponent • start := by
  unfold power at computed
  refine Arithmetic.represents_binaryPower (fun packed exponent =>
    Places 1 width packed ∧ value x packed • start = x ^ exponent • start) ?_ ?_ ?_
    small computed
  · exact ⟨.cons (Nat.le_refl 1) (.zero 1 255), by simp⟩
  · exact ⟨.cons (Nat.zero_le 1) (.cons (Nat.le_refl 1) (.zero 1 254)), by simp⟩
  · rintro first second rest left right ⟨placesFirst, firstValue⟩ ⟨placesSecond, secondValue⟩
      reduced
    obtain ⟨placesRest, quotient, restValue⟩ :=
      exists_value_times x two monic placesFirst placesSecond reduced
    refine ⟨placesRest, ?_⟩
    calc value x rest • start = (value x first * x ^ right) • start := by
          rw [restValue, add_smul, mul_smul, mul_smul, annihilated, smul_zero, add_zero,
            secondValue, mul_smul]
      _ = x ^ right • value x first • start := by
          rw [← ((commute_value x first).pow_left right).eq, mul_smul]
      _ = x ^ (left + right) • start := by
          rw [firstValue, ← mul_smul, ← pow_add, Nat.add_comm]

end Modulus
end Packed
end GraphFixture
