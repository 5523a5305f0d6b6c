/-
Module: TaintFlow.Text.CodeRange
Purpose: Closed intervals of code points, in which the tables of character properties are written.
  The tables follow version 17 of the Unicode standard.
Main exports: Text.CodeRange, Text.CodeRange.ascending, Text.CodeRange.total
-/

namespace TaintFlow.Text

/-- A closed interval of code points. -/
structure CodeRange where
  first : Nat
  last : Nat
deriving DecidableEq, Repr

namespace CodeRange

/-- Does the interval hold this code point? -/
def holds (range : CodeRange) (code : Nat) : Bool :=
  range.first ≤ code && code ≤ range.last

/-- Are the intervals in ascending order, none of them empty and no two of them adjacent? A set of code
points has only one such table. -/
def ascending : List CodeRange → Bool
  | [] => true
  | [range] => range.first ≤ range.last
  | range :: next :: rest =>
      range.first ≤ range.last && range.last + 1 < next.first && ascending (next :: rest)

/-- The number of code points in intervals that do not overlap. -/
def total (ranges : List CodeRange) : Nat :=
  ranges.foldr (fun range count => range.last + 1 - range.first + count) 0

end CodeRange

end TaintFlow.Text
