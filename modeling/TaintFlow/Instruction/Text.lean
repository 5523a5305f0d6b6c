/-
Module: TaintFlow.Instruction.Text
Purpose: The text of an instruction as diagnostics show it.
Main exports: Instruction.text, Literal.text
-/
import TaintFlow.Decimal.Written
import TaintFlow.Instruction.Basic
import TaintFlow.Text.Quoted
import TaintFlow.Text.Term

namespace TaintFlow

open Text (applied labelled optional quoted quotedChar truth)

/-- Floating point constants are written plainly from `0.0001` up to, and without, ten to the
sixteenth. -/
def Literal.layout : Decimal.Layout := ⟨-4, 16⟩

def Literal.text : Literal → String
  | .string value => applied "String" (quoted value)
  | .int value => applied "Int" (toString value.toInt)
  | .char value => applied "Char" (quotedChar value)
  | .long value => applied "Long" (toString value.toInt)
  | .float bits => applied "Float" (layout.write .binary32 bits.toNat)
  | .double bits => applied "Double" (layout.write .binary64 bits.toNat)
  | .null => "Null"

def FieldName.text (field : FieldName) : String :=
  labelled "FieldRef"
    [("owner", quoted field.owner), ("name", quoted field.name),
      ("descriptor", quoted field.descriptor)]

def Dispatch.name : Dispatch → String
  | .virtual => "Virtual"
  | .interface => "Interface"
  | .special => "Special"
  | .static => "Static"

def Call.text (call : Call) : String :=
  labelled "CallSite"
    [("kind", call.dispatch.name), ("owner", quoted call.owner), ("name", quoted call.name),
      ("descriptor", quoted call.descriptor)]

def Shuffle.name : Shuffle → String
  | .pop => "Pop"
  | .pop2 => "Pop2"
  | .dup => "Dup"
  | .dupX1 => "DupX1"
  | .dup2 => "Dup2"
  | .swap => "Swap"

def Instruction.text : Instruction → String
  | .constant literal => applied "Constant" literal.text
  | .getField field isStatic =>
      labelled "GetField" [("field", field.text), ("is_static", truth isStatic)]
  | .putField field isStatic =>
      labelled "PutField" [("field", field.text), ("is_static", truth isStatic)]
  | .load index kind => labelled "Load" [("index", toString index), ("kind", kind.name)]
  | .store index kind => labelled "Store" [("index", toString index), ("kind", kind.name)]
  | .new className => labelled "New" [("class", quoted className)]
  | .newArray dimensions => labelled "NewArray" [("dimensions", toString dimensions)]
  | .arrayStore kind => labelled "ArrayStore" [("kind", kind.name)]
  | .arrayLoad kind => labelled "ArrayLoad" [("kind", kind.name)]
  | .checkCast className => labelled "CheckCast" [("class", quoted className)]
  | .return kind => labelled "Return" [("kind", optional Kind.name kind)]
  | .invoke call => applied "Invoke" call.text
  | .concat operands => labelled "Concat" [("operands", toString operands)]
  | .stack shuffle => applied "Stack" shuffle.name
  | .other consumed produced =>
      labelled "Other" [("consumed", toString consumed), ("produced", toString produced)]

end TaintFlow
