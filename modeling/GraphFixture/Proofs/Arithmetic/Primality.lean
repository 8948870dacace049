import Mathlib.Algebra.BigOperators.Associated
import Mathlib.NumberTheory.LucasPrimality
import Mathlib.Tactic.NormNum.Prime

/-!
# Powers by squaring and primality

A power is computed by one squaring for each bit of its exponent.  A number is
prime when some root has the order that it has modulo a prime, which a few such
powers show.  In this way the factors of `2 ^ 256 - 1` are seen to be prime.
-/

namespace GraphFixture
namespace Arithmetic

/-! ## Powers by squaring -/

variable {α : Type}

/-- A power of a base, by squaring for each bit of the exponent.  A product may
fail to exist. -/
def binaryPower (times : α → α → Option α) (one base : α) :
    (bits exponent : Nat) → Option α
  | 0, _ => some one
  | bits + 1, exponent =>
      (binaryPower times one base bits (exponent / 2)).bind fun root =>
        (times root root).bind fun square =>
          if exponent % 2 = 1 then times square base else some square

/-- A computed power stands for the exponent, if products stand for sums. -/
theorem represents_binaryPower {times : α → α → Option α} {one base : α}
    (Represents : α → Nat → Prop) (oneZero : Represents one 0)
    (baseOne : Represents base 1)
    (timesAdd : ∀ {first second product : α} {left right : Nat},
      Represents first left → Represents second right →
        times first second = some product → Represents product (left + right))
    {bits exponent : Nat} {power : α} (small : exponent < 2 ^ bits)
    (computed : binaryPower times one base bits exponent = some power) :
    Represents power exponent := by
  induction bits generalizing exponent power with
  | zero =>
      obtain rfl : exponent = 0 := by simpa using small
      obtain rfl := Option.some.inj computed
      exact oneZero
  | succ bits inductionHypothesis =>
      have half : exponent / 2 < 2 ^ bits := by
        rw [Nat.pow_succ] at small
        omega
      obtain ⟨root, rootComputed, squared⟩ := Option.bind_eq_some_iff.mp computed
      obtain ⟨square, squareComputed, last⟩ := Option.bind_eq_some_iff.mp squared
      have rootRepresents := inductionHypothesis half rootComputed
      have squareRepresents := timesAdd rootRepresents rootRepresents squareComputed
      split at last
      · have whole : exponent / 2 + exponent / 2 + 1 = exponent := by omega
        exact whole ▸ timesAdd squareRepresents baseOne last
      · have whole : exponent / 2 + exponent / 2 = exponent := by omega
        rw [← Option.some.inj last]
        exact whole ▸ squareRepresents

/-! ## Primality by a root -/

/-- A power modulo a number. -/
def powerModulo (modulus base exponent : Nat) : Option Nat :=
  binaryPower (fun first second => some (first * second % modulus)) 1 base
    (modulus.log2 + 1) exponent

theorem cast_powerModulo {modulus base exponent power : Nat} (small : exponent ≤ modulus)
    (computed : powerModulo modulus base exponent = some power) :
    (power : ZMod modulus) = (base : ZMod modulus) ^ exponent := by
  unfold powerModulo at computed
  refine represents_binaryPower (fun (power : Nat) exponent =>
    (power : ZMod modulus) = (base : ZMod modulus) ^ exponent) ?_ ?_ ?_
    (Nat.lt_of_le_of_lt small Nat.lt_log2_self) computed
  · rw [Nat.cast_one, pow_zero]
  · rw [pow_one]
  · intro first second product left right firstPower secondPower multiplied
    rw [← Option.some.inj multiplied, ZMod.natCast_mod, Nat.cast_mul, firstPower, secondPower,
      pow_add]

/-- A prime that divides a product of primes is one of them. -/
theorem mem_of_prime_dvd_prod {prime : Nat} {factors : List Nat} (isPrime : prime.Prime)
    (primes : ∀ factor ∈ factors, factor.Prime) (divides : prime ∣ factors.prod) :
    prime ∈ factors := by
  obtain ⟨factor, member, dividesFactor⟩ := (Prime.dvd_prod_iff isPrime.prime).mp divides
  rw [(Nat.prime_dvd_prime_iff_eq isPrime (primes factor member)).mp dividesFactor]
  exact member

/-- A root has the full order modulo a number, by the factors of the number less
one. -/
def hasFullOrder (number root : Nat) (factors : List Nat) : Bool :=
  decide (1 < number) && factors.prod == number - 1 &&
    powerModulo number root (number - 1) == some 1 &&
    factors.all fun factor =>
      (powerModulo number root ((number - 1) / factor)).any fun power =>
        power % number != 1

/-- A number with a root of full order is prime. -/
theorem prime_of_hasFullOrder {number : Nat} (root : Nat) (factors : List Nat)
    (primes : ∀ factor ∈ factors, factor.Prime)
    (fullOrder : hasFullOrder number root factors = true) : number.Prime := by
  simp only [hasFullOrder, Bool.and_eq_true, decide_eq_true_eq, beq_iff_eq,
    List.all_eq_true, Option.any_eq_true, bne_iff_ne] at fullOrder
  obtain ⟨⟨⟨large, product⟩, whole⟩, parts⟩ := fullOrder
  apply lucas_primality number (root : ZMod number)
  · rw [← cast_powerModulo (Nat.sub_le number 1) whole, Nat.cast_one]
  · intro prime isPrime divides isOne
    rw [← product] at divides
    have member := mem_of_prime_dvd_prod isPrime primes divides
    obtain ⟨power, computed, notOne⟩ := parts prime member
    have smaller : (number - 1) / prime ≤ number :=
      Nat.le_trans (Nat.div_le_self _ _) (Nat.sub_le _ _)
    rw [← cast_powerModulo smaller computed, ← Nat.cast_one, ZMod.natCast_eq_natCast_iff'] at isOne
    exact notOne (isOne.trans (Nat.mod_eq_of_lt large))

/-! ## The factors of `2 ^ 256 - 1` -/

theorem prime_67280421310721 : Nat.Prime 67280421310721 := by
  apply prime_of_hasFullOrder 3 (List.replicate 8 2 ++ [5, 47, 373, 2998279])
  · simp only [List.replicate, List.cons_append, List.nil_append, List.forall_mem_cons]
    norm_num
  · decide +kernel

theorem prime_59649589127497217 : Nat.Prime 59649589127497217 := by
  have first : Nat.Prime 18533742247 := by
    apply prime_of_hasFullOrder 6 [2, 3, 3, 3, 181, 1896229]
    · simp only [List.forall_mem_cons]
      norm_num
    · decide +kernel
  have second : Nat.Prime 116503103764643 := by
    apply prime_of_hasFullOrder 2 [2, 7, 449, 18533742247]
    · simp only [List.forall_mem_cons, first]
      norm_num
    · decide +kernel
  apply prime_of_hasFullOrder 3 (List.replicate 9 2 ++ [116503103764643])
  · simp only [List.replicate, List.cons_append, List.nil_append, List.forall_mem_cons, second]
    norm_num
  · decide +kernel

theorem prime_5704689200685129054721 : Nat.Prime 5704689200685129054721 := by
  have first : Nat.Prime 733803839347 := by
    apply prime_of_hasFullOrder 2 [2, 3, 2203, 55515497]
    · simp only [List.forall_mem_cons]
      norm_num
    · decide +kernel
  apply prime_of_hasFullOrder 21
    (List.replicate 9 2 ++ List.replicate 5 3 ++ [5, 12497, 733803839347])
  · simp only [List.replicate, List.cons_append, List.nil_append, List.forall_mem_cons, first]
    norm_num
  · decide +kernel

/-- The number of nonzero vectors of 256 bits. -/
def cycleLength : Nat :=
  2 ^ 256 - 1

/-- The primes whose product is the number of nonzero states. -/
def cycleFactors : List Nat :=
  [3, 5, 17, 257, 641, 65537, 274177, 6700417, 67280421310721, 59649589127497217,
    5704689200685129054721]

theorem prod_cycleFactors : cycleFactors.prod = cycleLength := by
  decide +kernel

theorem prime_of_mem_cycleFactors : ∀ factor ∈ cycleFactors, factor.Prime := by
  simp only [cycleFactors, List.forall_mem_cons, prime_67280421310721, prime_59649589127497217,
    prime_5704689200685129054721]
  norm_num

/-- The prime factors are all there are. -/
theorem mem_cycleFactors_of_prime_dvd {prime : Nat} (isPrime : prime.Prime)
    (divides : prime ∣ cycleLength) : prime ∈ cycleFactors :=
  mem_of_prime_dvd_prod isPrime prime_of_mem_cycleFactors (prod_cycleFactors ▸ divides)

end Arithmetic
end GraphFixture
