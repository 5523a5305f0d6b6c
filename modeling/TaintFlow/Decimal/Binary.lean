/-
Module: TaintFlow.Decimal.Binary
Purpose: Read the bit patterns of binary floating point numbers as exact integers.
Main exports: Decimal.Format, Decimal.Number, Decimal.decode, Decimal.sameNumber
-/

namespace TaintFlow.Decimal

/-- A binary interchange format: how many bits hold the fraction and how many the exponent. -/
structure Format where
  fractionBits : Nat
  exponentBits : Nat
deriving Repr, DecidableEq

/-- Single precision. -/
def Format.binary32 : Format := ⟨23, 8⟩

/-- Double precision. -/
def Format.binary64 : Format := ⟨52, 11⟩

/-- What a bit pattern stands for. A finite number is `mantissa * 2 ^ exponent`; `narrow` says that the
next smaller number is only half as far away as the next larger one. -/
inductive Number where
  | notANumber
  | infinite (negative : Bool)
  | finite (negative : Bool) (mantissa : Nat) (exponent : Int) (narrow : Bool)
deriving Repr, DecidableEq

/-- Read a bit pattern: sign, exponent and fraction from the top down. -/
def decode (format : Format) (bits : Nat) : Number :=
  let unit := Nat.pow 2 format.fractionBits
  let fraction := bits % unit
  let exponents := Nat.pow 2 format.exponentBits
  let raised := bits / unit % exponents
  let negative := bits / unit / exponents % 2 == 1
  let lowest : Int := 2 - Nat.pow 2 (format.exponentBits - 1) - format.fractionBits
  if raised = exponents - 1 then
    if fraction = 0 then .infinite negative else .notANumber
  else if raised = 0 then .finite negative fraction lowest false
  else .finite negative (unit + fraction) (lowest + raised - 1) (fraction == 0 && raised != 1)

/-- Do two bit patterns denote equal numbers? Zero has two signs, and what is not a number differs
even from itself. -/
def sameNumber (format : Format) (one two : Nat) : Bool :=
  match decode format one, decode format two with
  | .notANumber, _ | _, .notANumber => false
  | .finite _ 0 _ _, .finite _ 0 _ _ => true
  | left, right => left = right

end TaintFlow.Decimal
