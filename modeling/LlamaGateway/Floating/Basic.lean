/-!
# Binary floating-point values

A finite value is an exact multiple of a power of two, so every rounding here is integer
arithmetic: the nearest multiple of the format's unit, a tie going to the even significand.

The decimal text of a value has the fewest digits that read back as the value. The values that round
to `significand * 2 ^ exponent` form an interval; the digits come from the coarsest decimal grid
with a point inside it, and of such points the one nearest to the value.
-/

namespace LlamaGateway

/-- A value of a binary floating-point format. -/
inductive Floating where
  /-- `significand * 2 ^ exponent`, negated on request; zero keeps its sign. -/
  | finite (negative : Bool) (significand : Nat) (exponent : Int)
  /-- A value beyond the largest finite one. -/
  | infinite (negative : Bool)
  /-- No number. -/
  | nan
deriving DecidableEq, Repr, Inhabited

namespace Floating

/-- The shape of a binary floating-point format. -/
structure Format where
  /-- Bits of a significand. -/
  precision : Nat
  /-- Exponent of the smallest unit. -/
  minExponent : Int
  /-- Exponent of the largest unit. -/
  maxExponent : Int
deriving DecidableEq, Repr

/-- The quotient of two naturals rounded to the nearest integer, a tie going to the even one. -/
def roundHalfEven (numerator denominator : Nat) : Nat :=
  let quotient := numerator / denominator
  let twice := 2 * (numerator % denominator)
  if twice < denominator then quotient
  else if denominator < twice then quotient + 1
  else quotient + quotient % 2

/-- A fraction divided by a power of two, again as a fraction. -/
def unscale (numerator denominator : Nat) (exponent : Int) : Nat × Nat :=
  match exponent with
  | .ofNat up => (numerator, denominator * Nat.pow 2 up)
  | .negSucc down => (numerator * Nat.pow 2 (down + 1), denominator)

namespace Format

/-- The 64-bit format. -/
def double : Format := ⟨53, -1074, 971⟩

/-- The 32-bit format. -/
def single : Format := ⟨24, -149, 104⟩

/-- The exponent of the unit in which a positive fraction has a full significand, or the smallest
unit for a fraction too small for one. -/
def unitExponent (format : Format) (numerator denominator : Nat) : Int :=
  let low : Int := (numerator.log2 : Int) - denominator.log2 - format.precision
  let scaled := unscale numerator denominator low
  let exact := if scaled.1 / scaled.2 < Nat.pow 2 format.precision then low else low + 1
  max exact format.minExponent

/-- The value of the format nearest to a fraction. -/
def nearest (format : Format) (negative : Bool) (numerator denominator : Nat) : Floating :=
  if numerator = 0 then .finite negative 0 format.minExponent
  else
    let exponent := format.unitExponent numerator denominator
    let scaled := unscale numerator denominator exponent
    let significand := roundHalfEven scaled.1 scaled.2
    let carried := significand = Nat.pow 2 format.precision
    let significand := if carried then Nat.pow 2 (format.precision - 1) else significand
    let exponent := if carried then exponent + 1 else exponent
    if format.maxExponent < exponent then .infinite negative
    else .finite negative significand exponent

/-- The value of the format nearest to an integer. -/
def ofInt (format : Format) (value : Int) : Floating :=
  format.nearest (value < 0) value.natAbs 1

/-- The positive zero of the format. -/
def zero (format : Format) : Floating :=
  .finite false 0 format.minExponent

/-- The format's value nearest to a value of another format. -/
def convert (format : Format) : Floating → Floating
  | .finite negative significand (.ofNat up) =>
    format.nearest negative (significand * Nat.pow 2 up) 1
  | .finite negative significand (.negSucc down) =>
    format.nearest negative significand (Nat.pow 2 (down + 1))
  | value => value

end Format

/-- The magnitude of a finite value as a fraction. -/
def magnitude (significand : Nat) (exponent : Int) : Nat × Nat :=
  match exponent with
  | .ofNat up => (significand * Nat.pow 2 up, 1)
  | .negSucc down => (significand, Nat.pow 2 (down + 1))

/-- A zero of either sign. -/
def isZero : Floating → Bool
  | .finite _ significand _ => significand = 0
  | _ => false

/-- The same magnitude with the other sign. -/
def negate : Floating → Floating
  | .finite negative significand exponent => .finite (!negative) significand exponent
  | .infinite negative => .infinite (!negative)
  | .nan => .nan

/-- The product of a double and a power of ten that is itself rounded to a double. -/
def timesPowerOfTen (value : Floating) (power : Nat) : Floating :=
  match value, Format.double.nearest false (Nat.pow 10 power) 1 with
  | .finite negative left leftExponent, .finite _ right rightExponent =>
    let first := magnitude left leftExponent
    let second := magnitude right rightExponent
    Format.double.nearest negative (first.1 * second.1) (first.2 * second.2)
  | _, _ => .nan

/-- The quotient of a double and a power of ten that is itself rounded to a double. -/
def overPowerOfTen (value : Floating) (power : Nat) : Floating :=
  match value, Format.double.nearest false (Nat.pow 10 power) 1 with
  | .finite negative left leftExponent, .finite _ right rightExponent =>
    let first := magnitude left leftExponent
    let second := magnitude right rightExponent
    Format.double.nearest negative (first.1 * second.2) (first.2 * second.1)
  | _, _ => .nan

/-- The value differs from one by more than `2 ^ -52`; so does everything that is not finite. -/
def farFromOne : Floating → Bool
  | .finite negative significand exponent =>
    let fraction := magnitude significand exponent
    let signed : Int := if negative then -(fraction.1 : Int) else fraction.1
    fraction.2 < Nat.pow 2 52 * (signed - fraction.2).natAbs
  | .infinite _ => true
  | .nan => false

/-- A positive decimal `digits * 10 ^ exponent`. -/
structure Decimal where
  /-- The digits as one number. -/
  digits : Nat
  /-- The power of ten of the last digit. -/
  exponent : Int
deriving DecidableEq, Repr

/-- The positive values that round to one floating-point value, over a common denominator. -/
structure RoundingInterval where
  /-- Numerator of the lower end. -/
  lower : Nat
  /-- Numerator of the value itself. -/
  value : Nat
  /-- Numerator of the upper end. -/
  upper : Nat
  /-- The common denominator. -/
  denominator : Nat
  /-- The ends themselves round to the value. -/
  closed : Bool

/-- The values that round to `significand * 2 ^ exponent`. The gap below a power of two is half as
wide as the gap above it, unless the unit is already the smallest one. -/
def RoundingInterval.around (format : Format) (significand : Nat) (exponent : Int) :
    RoundingInterval :=
  let narrow := significand = Nat.pow 2 (format.precision - 1) ∧ format.minExponent < exponent
  let lower := if narrow then 4 * significand - 1 else 4 * significand - 2
  let scale := magnitude 1 (exponent - 2)
  ⟨lower * scale.1, 4 * significand * scale.1, (4 * significand + 2) * scale.1, scale.2,
    significand % 2 = 0⟩

/-- The point `digits * 10 ^ exponent` lies in the interval. -/
def RoundingInterval.contains (interval : RoundingInterval) (digits : Nat) (exponent : Int) :
    Bool :=
  let point : Nat × Nat :=
    match exponent with
    | .ofNat up => (digits * Nat.pow 10 up, 1)
    | .negSucc down => (digits, Nat.pow 10 (down + 1))
  let scaled := point.1 * interval.denominator
  if interval.closed then interval.lower * point.2 ≤ scaled && scaled ≤ interval.upper * point.2
  else interval.lower * point.2 < scaled && scaled < interval.upper * point.2

/-- The point of a decimal grid in the interval that is nearest to its value, a tie going to the
even digit. -/
def RoundingInterval.pointOn? (interval : RoundingInterval) (exponent : Int) : Option Nat :=
  let fraction : Nat × Nat :=
    match exponent with
    | .ofNat up => (interval.value, interval.denominator * Nat.pow 10 up)
    | .negSucc down => (interval.value * Nat.pow 10 (down + 1), interval.denominator)
  let below := fraction.1 / fraction.2
  let near := roundHalfEven fraction.1 fraction.2
  let far := if near = below then below + 1 else below
  if interval.contains near exponent then some near
  else if interval.contains far exponent then some far
  else none

/-- The first grid with a point in the interval, going down from a power of ten. -/
def RoundingInterval.coarsest (interval : RoundingInterval) : Nat → Int → Decimal
  | 0, exponent => ⟨(interval.pointOn? exponent).getD 0, exponent⟩
  | steps + 1, exponent =>
    match interval.pointOn? exponent with
    | some digits => ⟨digits, exponent⟩
    | none => interval.coarsest steps (exponent - 1)

/-- The shortest decimal that reads back as the positive value `significand * 2 ^ exponent`. -/
def shortest (format : Format) (significand : Nat) (exponent : Int) : Decimal :=
  let interval := RoundingInterval.around format significand exponent
  let bits : Int := (significand.log2 : Int) + exponent
  let top := bits * 30103 / 100000 + 2
  interval.coarsest 25 top

/-- The digits of a decimal, most significant first. -/
def Decimal.digitChars (decimal : Decimal) : List Char :=
  Nat.toDigits 10 decimal.digits

/-- The power of ten of the first digit. -/
def Decimal.leadingExponent (decimal : Decimal) : Int :=
  decimal.digitChars.length + decimal.exponent - 1

/-- How decimals are written. -/
structure DecimalLayout where
  /-- Smallest power of ten of the first digit that is written without an exponent. -/
  minPositional : Int
  /-- Largest power of ten of the first digit that is written without an exponent. -/
  maxPositional : Int

/-- The decimal with a point and without an exponent. -/
def Decimal.positional (decimal : Decimal) : List Char :=
  let digits := decimal.digitChars
  let whole := decimal.leadingExponent + 1
  if 0 ≤ decimal.exponent then digits ++ List.replicate decimal.exponent.toNat '0' ++ ['.', '0']
  else if 0 < whole then digits.take whole.toNat ++ ['.'] ++ digits.drop whole.toNat
  else ['0', '.'] ++ List.replicate (-whole).toNat '0' ++ digits

/-- The decimal with one digit before the point and a signed exponent. -/
def Decimal.scientific (decimal : Decimal) : List Char :=
  let leading := decimal.leadingExponent
  let fraction :=
    match decimal.digitChars with
    | first :: [] => [first]
    | first :: rest => first :: '.' :: rest
    | [] => []
  let sign := if leading < 0 then '-' else '+'
  fraction ++ ['e', sign] ++ Nat.toDigits 10 leading.natAbs

/-- The text of a decimal under a layout. -/
def DecimalLayout.write (layout : DecimalLayout) (decimal : Decimal) : List Char :=
  let leading := decimal.leadingExponent
  if layout.minPositional ≤ leading && leading ≤ layout.maxPositional then decimal.positional
  else decimal.scientific

end Floating

end LlamaGateway
