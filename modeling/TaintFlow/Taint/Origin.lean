/-
Module: TaintFlow.Taint.Origin
Purpose: Where a value came from. Provenance is kept as lists in the order of discovery, without a
  second entry for the same origin.
Main exports: Offset, Source, Location, record, SameBy
-/
import TaintFlow.Taint.State

namespace TaintFlow

/-- A position in the code of one method. -/
abbrev Offset := Nat

/-- What kind of thing handed out a value. -/
inductive SourceKind where
  | field
  | returned
  | parameter
deriving Repr, Inhabited, DecidableEq

/-- Something that handed out a value. The state is the one the value had at that moment; it takes no
part in telling sources apart. -/
structure Source where
  kind : SourceKind
  state : State
  /-- The field, method or parameter meant, where it has a name. -/
  signature : Option String
deriving Repr, Inhabited, DecidableEq

/-- What identifies a source: its kind and its name. -/
def Source.key (source : Source) : SourceKind × Option String :=
  (source.kind, source.signature)

/-- A point of some method at which a value stopped being safe. -/
structure Location where
  method : String
  offset : Offset
deriving Repr, Inhabited, DecidableEq

/-- A location as `method:offset`. -/
def Location.text (location : Location) : String :=
  location.method ++ ":" ++ toString location.offset

section Record

variable {α κ : Type} [DecidableEq κ]

/-- Note down an entry at the end of a list, unless one with the same key is there already. -/
def record (key : α → κ) (known : List α) (entry : α) : List α :=
  if ∃ old ∈ known, key old = key entry then known else known ++ [entry]

/-- Note down the entries of a second list one after the other. -/
def recordAll (key : α → κ) (known entries : List α) : List α :=
  entries.foldl (record key) known

/-- Two lists name the same keys: they are equally long and every key of the first occurs in the
second. On lists without repeated keys this is equality up to order. -/
def SameBy (key : α → κ) (one two : List α) : Prop :=
  one.length = two.length ∧ ∀ entry ∈ one, ∃ other ∈ two, key other = key entry

instance (key : α → κ) (one two : List α) : Decidable (SameBy key one two) :=
  inferInstanceAs (Decidable (_ ∧ _))

@[simp] theorem recordAll_nil (key : α → κ) (known : List α) : recordAll key known [] = known := rfl

@[simp] theorem recordAll_cons (key : α → κ) (known rest : List α) (entry : α) :
    recordAll key known (entry :: rest) = recordAll key (record key known entry) rest := rfl

/-- Noting down adds at most the new key. -/
theorem exists_key_record {key : α → κ} {known : List α} {entry : α} {wanted : κ} :
    (∃ found ∈ record key known entry, key found = wanted) ↔
      (∃ found ∈ known, key found = wanted) ∨ key entry = wanted := by
  unfold record
  split
  next present =>
    constructor
    · exact Or.inl
    · rintro (old | rfl)
      · exact old
      · exact present
  next => simp [or_and_right, exists_or]

/-- The keys after noting down a list are the old ones and those of the list. -/
theorem exists_key_recordAll {key : α → κ} {known entries : List α} {wanted : κ} :
    (∃ found ∈ recordAll key known entries, key found = wanted) ↔
      (∃ found ∈ known, key found = wanted) ∨ ∃ found ∈ entries, key found = wanted := by
  induction entries generalizing known with
  | nil => simp
  | cons entry rest inductionHypothesis =>
      rw [recordAll_cons, inductionHypothesis, exists_key_record]
      simp [or_assoc]

/-- Lists built by noting down never repeat a key. -/
theorem nodup_keys_record {key : α → κ} {known : List α} {entry : α}
    (distinct : (known.map key).Nodup) : ((record key known entry).map key).Nodup := by
  unfold record
  split
  next => exact distinct
  next absent =>
    rw [List.map_append, List.nodup_append]
    refine ⟨distinct, by simp, ?_⟩
    intro one oneIn two twoIn same
    obtain ⟨old, oldIn, rfl⟩ := List.mem_map.1 oneIn
    simp only [List.map_cons, List.map_nil, List.mem_singleton] at twoIn
    exact absent ⟨old, oldIn, same.trans twoIn⟩

theorem nodup_keys_recordAll {key : α → κ} {known entries : List α}
    (distinct : (known.map key).Nodup) : ((recordAll key known entries).map key).Nodup := by
  induction entries generalizing known with
  | nil => exact distinct
  | cons entry rest inductionHypothesis => exact inductionHypothesis (nodup_keys_record distinct)

end Record

end TaintFlow
