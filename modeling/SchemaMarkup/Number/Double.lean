set_option autoImplicit false

/-!
# Double precision numbers

A double is a whole number of at most 53 bits times a power of two, or an infinity, or no number at
all. Every result is the double next to the exact one, and of two that are equally near the one with
an even whole number.

## Main definitions

* `SchemaMarkup.Double` — the doubles.
* `SchemaMarkup.Double.nearest` — the double next to a quotient.
* `SchemaMarkup.Double.add`, `SchemaMarkup.Double.mul`, `SchemaMarkup.Double.neg` — arithmetic.
* `SchemaMarkup.Double.ofDecimal` — the double next to a decimal number.

## Main results

* `SchemaMarkup.roundHalfEven_bounds` — rounding moves a quotient by at most a half.
* `SchemaMarkup.Double.neg_neg` — negating twice changes nothing.
-/

namespace SchemaMarkup

/-- The whole number next to a quotient; of two equally near the even one. -/
def roundHalfEven (num den : Nat) : Nat :=
  let q := num / den
  let twice := 2 * (num % den)
  if twice < den || twice == den && q % 2 == 0 then q else q + 1

/-- Rounding moves a quotient by at most a half. -/
theorem roundHalfEven_bounds {num den : Nat} (h : 0 < den) :
    2 * (roundHalfEven num den * den) ≤ 2 * num + den ∧
      2 * num ≤ 2 * (roundHalfEven num den * den) + den := by
  have hd := Nat.div_add_mod num den
  have hm := Nat.mod_lt num h
  have hc : num / den * den = den * (num / den) := Nat.mul_comm _ _
  rw [roundHalfEven]
  split
  · rename_i hs
    simp only [Bool.or_eq_true, decide_eq_true_eq, Bool.and_eq_true, beq_iff_eq] at hs
    omega
  · rename_i hs
    simp only [Bool.or_eq_true, decide_eq_true_eq, Bool.and_eq_true, beq_iff_eq, not_or] at hs
    rw [Nat.add_mul, hc]
    omega

/-- A double precision number: `m` times two to the power `q`, an infinity, or no number. -/
inductive Double where
  | finite (negative : Bool) (m : Nat) (q : Int)
  | infinite (negative : Bool)
  | nan
  deriving DecidableEq, Repr, Inhabited

namespace Double

/-- How many bits the whole number of a double has at most. -/
def precision : Nat := 53

/-- The least power of two. -/
def leastPower : Int := -1074

/-- The greatest power of two. -/
def greatestPower : Int := 971

/-- The zero of a sign. -/
def zero (negative : Bool) : Double := finite negative 0 leastPower

/-- A whole number of at most 53 bits, or two to the power 53, times a power of two. A power beyond
the greatest makes an infinity. -/
def make (negative : Bool) (m : Nat) (q : Int) : Double :=
  let (m, q) := if m = Nat.pow 2 precision then (m / 2, q + 1) else (m, q)
  if q > greatestPower then infinite negative else finite negative m q

/-- The double next to the quotient of `num` and `den`. -/
def nearest (negative : Bool) (num den : Nat) : Double :=
  if num = 0 || den = 0 then zero negative
  else
    let scaled (q : Int) : Nat × Nat :=
      if q ≥ 0 then (num, den * Nat.pow 2 q.toNat) else (num * Nat.pow 2 (-q).toNat, den)
    let guess := max leastPower ((num.log2 : Int) - den.log2 - precision)
    let q := if (scaled guess).1 / (scaled guess).2 < Nat.pow 2 precision then guess else guess + 1
    make negative (roundHalfEven (scaled q).1 (scaled q).2) q

/-- The double next to a whole number. -/
def ofNat (n : Nat) : Double := nearest false n 1

/-- A double with the opposite sign. -/
def neg : Double → Double
  | finite negative m q => finite (!negative) m q
  | infinite negative => infinite (!negative)
  | nan => nan

/-- Negating twice changes nothing. -/
theorem neg_neg (x : Double) : x.neg.neg = x := by cases x <;> simp [neg]

/-- The double is zero. -/
def isZero : Double → Bool
  | finite _ m _ => m == 0
  | _ => false

/-- The double next to a whole number, possibly negative, times a power of two. Zero has the sign
given. -/
def ofScaled (zeroNegative : Bool) (n : Int) (q : Int) : Double :=
  if n = 0 then zero zeroNegative
  else nearest (n < 0) (n.natAbs * Nat.pow 2 q.toNat) (Nat.pow 2 (-q).toNat)

/-- The whole number of a finite double with its sign. -/
def signed (negative : Bool) (m : Nat) : Int := if negative then -m else m

/-- The sum. -/
def add : Double → Double → Double
  | finite s m q, finite s' m' q' =>
    let least := min q q'
    let sum :=
      signed s m * Int.pow 2 (q - least).toNat + signed s' m' * Int.pow 2 (q' - least).toNat
    ofScaled (s && s') sum least
  | nan, _ => nan
  | _, nan => nan
  | infinite s, infinite s' => if s = s' then infinite s else nan
  | infinite s, _ => infinite s
  | _, infinite s => infinite s

/-- The product. -/
def mul : Double → Double → Double
  | finite s m q, finite s' m' q' => ofScaled (s != s') (signed (s != s') (m * m')) (q + q')
  | nan, _ => nan
  | _, nan => nan
  | infinite s, finite s' m _ => if m = 0 then nan else infinite (s != s')
  | finite s m _, infinite s' => if m = 0 then nan else infinite (s != s')
  | infinite s, infinite s' => infinite (s != s')

/-- A decimal exponent beyond which every number of some digits is infinite, or zero. -/
def decimalLimit : Int := 400

/-- The double next to a whole number times a power of ten. -/
def ofDecimal (negative : Bool) (n : Nat) (exponent : Int) : Double :=
  let size : Int := exponent + (Nat.toDigits 10 n).length
  if n = 0 || size < -decimalLimit then zero negative
  else if size > decimalLimit then infinite negative
  else nearest negative (n * Nat.pow 10 exponent.toNat) (Nat.pow 10 (-exponent).toNat)

/-- A finite double as a whole number over a power of two, in lowest terms. -/
def lowest (negative : Bool) (m : Nat) (q : Int) : Int × Nat :=
  if q ≥ 0 then (signed negative (m * Nat.pow 2 q.toNat), 0)
  else
    let common := Nat.pow 2 (Nat.gcd m (Nat.pow 2 (-q).toNat)).log2
    if m = 0 then (0, 0) else (signed negative (m / common), (-q).toNat - common.log2)

end Double

end SchemaMarkup
