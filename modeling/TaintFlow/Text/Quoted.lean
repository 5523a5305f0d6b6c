/-
Module: TaintFlow.Text.Quoted
Purpose: Write a text or a character between quotation marks, on one line and with nothing
  invisible in it, as diagnostics and literals show them.
Main exports: Text.quoted, Text.quotedChar
-/
import TaintFlow.Text.Visible

namespace TaintFlow.Text

/-- The hexadecimal code point of a character, in lower case and without padding. -/
def hexCode (char : Char) : String :=
  String.ofList (Nat.toDigits 16 char.toNat)

/-- One character inside quotation marks of the given kind. The mark itself and the backslash take a
backslash, the four common controls have a letter, and what could not be seen is written as its
code point. -/
def escaped (mark char : Char) : String :=
  if char = mark ∨ char = '\\' then String.ofList ['\\', char]
  else if char = '\n' then "\\n"
  else if char = '\r' then "\\r"
  else if char = '\t' then "\\t"
  else if char = '\x00' then "\\0"
  else if isVisible char then String.singleton char
  else "\\u\x7b" ++ hexCode char ++ "\x7d"

/-- A text between double quotation marks. -/
def quoted (text : String) : String :=
  "\"" ++ String.join (text.toList.map (escaped '"')) ++ "\""

/-- A character between single quotation marks. -/
def quotedChar (char : Char) : String :=
  "'" ++ escaped '\'' char ++ "'"

end TaintFlow.Text
