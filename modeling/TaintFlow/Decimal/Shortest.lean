/-
Module: TaintFlow.Decimal.Shortest
Purpose: The shortest decimal that reads back as a given binary number, found in exact integer
  arithmetic.
Main exports: Decimal.Interval, Decimal.shortest
-/

namespace TaintFlow.Decimal

/-- The positive number `mantissa * 2 ^ exponent` measured in units of `10 ^ scale`, together with the
ends of the interval of numbers that round to it, all over one denominator. -/
structure Interval where
  low : Nat
  value : Nat
  high : Nat
  denominator : Nat
  /-- Do the ends themselves round to the number? -/
  closed : Bool

/-- The interval of the numbers that round to `mantissa * 2 ^ exponent`. Its ends lie half way to the
neighbours, and belong to it exactly when the mantissa is even. -/
def interval (mantissa : Nat) (exponent : Int) (narrow : Bool) (scale : Int) : Interval :=
  let quarter := exponent - 2
  let up := Nat.pow 2 quarter.toNat * Nat.pow 10 (-scale).toNat
  { low := (4 * mantissa - (if narrow then 1 else 2)) * up
    value := 4 * mantissa * up
    high := (4 * mantissa + 2) * up
    denominator := Nat.pow 2 (-quarter).toNat * Nat.pow 10 scale.toNat
    closed := mantissa % 2 == 0 }

/-- Does the whole multiple `count` of the unit round to the number? -/
def Interval.holds (range : Interval) (count : Nat) : Bool :=
  let point := count * range.denominator
  if range.closed then range.low ≤ point && point ≤ range.high
  else range.low < point && point < range.high

/-- The whole multiple of the unit that rounds to the number and is nearest to it, if there is one. It
is one of the two neighbours of the number; of two that are equally near, the larger. -/
def Interval.nearest? (range : Interval) : Option Nat :=
  let below := range.value / range.denominator
  let above := below + 1
  let rest := range.value % range.denominator
  match range.holds below, range.holds above with
  | true, true => some (if rest < range.denominator - rest then below else above)
  | true, false => some below
  | false, true => some above
  | false, false => none

/-- Try the units `10 ^ scale`, `10 ^ (scale - 1)`, … and stop at the first one with a multiple that
rounds to the number: the coarser the unit, the fewer the digits. -/
def search (mantissa : Nat) (exponent : Int) (narrow : Bool) : Nat → Int → Nat × Int
  | 0, scale => (0, scale)
  | steps + 1, scale =>
      match (interval mantissa exponent narrow scale).nearest? with
      | some digits => (digits, scale)
      | none => search mantissa exponent narrow steps (scale - 1)

/-- The shortest decimal `digits * 10 ^ scale` that reads back as the positive number
`mantissa * 2 ^ exponent`. The number lies below `2 ^ bits`, hence below the first unit tried, because
ten lies between eight and sixteen; and it is itself a multiple of the last one. -/
def shortest (mantissa : Nat) (exponent : Int) (narrow : Bool) : Nat × Int :=
  let bits : Int := mantissa.log2 + 1 + exponent
  let start := (if 0 ≤ bits then bits / 3 else bits / 4) + 1
  search mantissa exponent narrow (start - min exponent 0 + 1).toNat start

end TaintFlow.Decimal
