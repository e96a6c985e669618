import SchemaMarkup.Number.Double

set_option autoImplicit false

/-!
# The shortest form of a double

A double is written with the fewest digits from which it can be read back. Of several such numbers
the one next to the double is taken, and of two equally near the one with an even last digit.
Numbers of moderate size are written with a decimal point, others with an exponent of at least two
digits.

## Main definitions

* `SchemaMarkup.Double.digits` — the digits and the place of the decimal point.
* `SchemaMarkup.Double.text` — the written form.
-/

namespace SchemaMarkup.Double

/-- The numbers that are read as the double `m` times two to the power `q` lie between two bounds,
given as whole numbers over four times the same denominator as the double. -/
structure Interval where
  /-- Four times the numerator of the double. -/
  middle : Nat
  low : Nat
  high : Nat
  /-- The denominator of the double. -/
  den : Nat
  /-- The bounds themselves are read as the double. -/
  closed : Bool
  deriving Repr

/-- The numbers that are read as a double. Below a power of two the neighbours stand closer. -/
def interval (m : Nat) (q : Int) : Interval :=
  let num := Nat.pow 2 q.toNat
  let den := Nat.pow 2 (-q).toNat
  let below := if m = Nat.pow 2 (precision - 1) && q > leastPower then 1 else 2
  { middle := 4 * m * num, low := (4 * m - below) * num, high := (4 * m + 2) * num, den
    closed := m % 2 == 0 }

/-- The whole number `d` times ten to the power `k` is read as the double. -/
def Interval.holds (i : Interval) (k : Int) (d : Nat) : Bool :=
  let x := 4 * d * Nat.pow 10 k.toNat * i.den
  let scale := Nat.pow 10 (-k).toNat
  let low := i.low * scale
  let high := i.high * scale
  if i.closed then low ≤ x && x ≤ high else low < x && x < high

/-- The number next to the middle of the interval among the multiples of ten to the power `k`, if it
is read as the double. -/
def Interval.candidate? (i : Interval) (k : Int) : Option Nat :=
  let num := i.middle * Nat.pow 10 (-k).toNat
  let den := 4 * i.den * Nat.pow 10 k.toNat
  let near := roundHalfEven num den
  let floor := num / den
  [near, floor, floor + 1].find? fun d => d > 0 && i.holds k d

/-- The exponent of ten of the first digit of a quotient. -/
def leadingExponent (num den : Nat) : Int :=
  if num ≥ den then ((Nat.toDigits 10 (num / den)).length : Int) - 1
  else
    let guess := (Nat.toDigits 10 (den / num)).length
    if num * Nat.pow 10 (guess - 1) ≥ den then -(guess - 1 : Nat) else -guess

/-- The first multiple, of those of ever finer powers of ten, that is read as the double, with the
power. -/
def Interval.search (i : Interval) : Nat → Int → Nat × Int
  | 0, k => (roundHalfEven (i.middle * Nat.pow 10 (-k).toNat) (4 * i.den * Nat.pow 10 k.toNat), k)
  | n + 1, k =>
    match i.candidate? k with
    | some d => (d, k)
    | none => search i n (k - 1)

/-- Leave out the zeros at the end. -/
def trimZeros (ds : List Char) : List Char := (ds.reverse.dropWhile (· == '0')).reverse

/-- The digits of the shortest form of a double other than zero, and how many of them stand in front
of the decimal point. -/
def digits (m : Nat) (q : Int) : List Char × Int :=
  let i := interval m q
  let first := leadingExponent i.middle (4 * i.den)
  let (d, k) := i.search 17 first
  let ds := Nat.toDigits 10 d
  (trimZeros ds, ds.length + k)

/-- Digits with a decimal point, behind which at least one digit stands. -/
def positional (ds : List Char) (point : Int) : List Char :=
  if point ≤ 0 then '0' :: '.' :: List.replicate (-point).toNat '0' ++ ds
  else
    let n := point.toNat
    let whole := ds.take n ++ List.replicate (n - ds.length) '0'
    let rest := ds.drop n
    whole ++ '.' :: (if rest.isEmpty then ['0'] else rest)

/-- Digits with an exponent. -/
def exponential (ds : List Char) (point : Int) : List Char :=
  let exponent := point - 1
  let size := Nat.toDigits 10 exponent.natAbs
  let width := if size.length < 2 then '0' :: size else size
  let fraction := if (ds.drop 1).isEmpty then [] else '.' :: ds.drop 1
  ds.take 1 ++ fraction ++ 'e' :: (if exponent < 0 then '-' else '+') :: width

/-- The written form of a double. -/
def text : Double → String
  | nan => "nan"
  | infinite negative => if negative then "-inf" else "inf"
  | finite negative m q =>
    let body :=
      if m = 0 then ['0', '.', '0']
      else
        let (ds, point) := digits m q
        if -4 < point && point ≤ 16 then positional ds point else exponential ds point
    String.ofList (if negative then '-' :: body else body)

end SchemaMarkup.Double
