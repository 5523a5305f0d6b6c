/-
Module: TaintFlow.Taint.Tag
Purpose: Marks on a value that record which dangerous character has been escaped in it, and finite
  sets of such marks.
Main exports: Tag, Tag.character, TagSet
-/
import Std.Data.ExtTreeSet

namespace TaintFlow

/-- A record that every occurrence of one dangerous character has been replaced. -/
inductive Tag where
  | crEncoded
  | lfEncoded
  | quoteEncoded
  | apostropheEncoded
  | ltEncoded
deriving Repr, Inhabited, DecidableEq

namespace Tag

/-- All tags, in the order in which sets of them are listed. -/
def all : List Tag :=
  [crEncoded, lfEncoded, quoteEncoded, apostropheEncoded, ltEncoded]

/-- The place of a tag in a listing. -/
def place : Tag → Nat
  | crEncoded => 0
  | lfEncoded => 1
  | quoteEncoded => 2
  | apostropheEncoded => 3
  | ltEncoded => 4

instance : Ord Tag := ⟨compareOn place⟩

instance : Std.TransOrd Tag :=
  inferInstanceAs (Std.TransCmp (compareOn place))

instance : Std.LawfulEqOrd Tag where
  eq_of_compare {one two} same := by
    cases one <;> cases two <;> first | rfl | exact absurd same (by decide)

/-- The character whose replacement the tag records. -/
def character : Tag → Char
  | crEncoded => '\r'
  | lfEncoded => '\n'
  | quoteEncoded => '"'
  | apostropheEncoded => '\''
  | ltEncoded => '<'

/-- The name under which a tag is shown. -/
def name : Tag → String
  | crEncoded => "CrEncoded"
  | lfEncoded => "LfEncoded"
  | quoteEncoded => "QuoteEncoded"
  | apostropheEncoded => "ApostropheEncoded"
  | ltEncoded => "LtEncoded"

theorem mem_all (tag : Tag) : tag ∈ all := by
  cases tag <;> decide

end Tag

/-- A finite set of tags; two sets with the same members are equal. -/
abbrev TagSet := Std.ExtTreeSet Tag

/-- The tags of a set between braces. -/
def TagSet.text (tags : TagSet) : String :=
  "\x7b" ++ ", ".intercalate (tags.toList.map Tag.name) ++ "\x7d"

end TaintFlow
