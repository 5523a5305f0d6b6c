/-
Module: TaintFlow.Decimal.Written
Purpose: Write a binary number as decimal text: plainly while its size is ordinary, and with an
  exponent of ten where it is very large or very small.
Main exports: Decimal.Layout, Decimal.Layout.write
-/
import TaintFlow.Decimal.Binary
import TaintFlow.Decimal.Shortest

namespace TaintFlow.Decimal

/-- Which numbers are written plainly, by the power of ten of their leading digit. -/
structure Layout where
  plainFrom : Int
  plainBelow : Int
deriving Repr, DecidableEq

/-- Drop the zeros at the end of a list of digits. -/
def trimZeros (digits : List Char) : List Char :=
  (digits.reverse.dropWhile (· == '0')).reverse

/-- A run of zeros. -/
def zeros (count : Nat) : List Char :=
  List.replicate count '0'

/-- Digits whose first one stands at `10 ^ lead`, in plain positions and with at least one digit on
either side of the point. -/
def plain (digits : List Char) (lead : Int) : List Char :=
  if lead < 0 then
    '0' :: '.' :: zeros (-lead - 1).toNat ++ digits
  else
    let whole := lead.toNat + 1
    let front := digits.take whole ++ zeros (whole - digits.length)
    let back := digits.drop whole
    front ++ '.' :: (if back.isEmpty then ['0'] else back)

/-- Digits whose first one stands at `10 ^ lead`, as one digit before the point and an exponent. -/
def scientific (digits : List Char) (lead : Int) : List Char :=
  let back := digits.drop 1
  digits.take 1 ++ (if back.isEmpty then [] else '.' :: back) ++ 'e' :: (toString lead).toList

/-- The text of a bit pattern. -/
def Layout.write (layout : Layout) (format : Format) (bits : Nat) : String :=
  let signed (negative : Bool) (text : List Char) :=
    String.ofList (if negative then '-' :: text else text)
  match decode format bits with
  | .notANumber => "NaN"
  | .infinite negative => signed negative ['i', 'n', 'f']
  | .finite negative mantissa exponent narrow =>
      if mantissa = 0 then signed negative ['0', '.', '0']
      else
        let (number, scale) := shortest mantissa exponent narrow
        let digits := Nat.toDigits 10 number
        let lead := scale + digits.length - 1
        let text :=
          if layout.plainFrom ≤ lead ∧ lead < layout.plainBelow then plain (trimZeros digits) lead
          else scientific (trimZeros digits) lead
        signed negative text

end TaintFlow.Decimal
