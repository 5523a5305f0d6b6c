/-
Module: TaintFlow.Proofs.Makings
Purpose: Which facts there are, and that they can be compared. Whatever calls a fact is made by, its provenance
  is what the calls have noted, each thing once and where it was noted first; and every fact can be made by
  calls. Facts are compared from one side only, by the lengths of their provenance and by finding every entry
  of the first one in the second one. Because nothing is noted twice, this is an equivalence all the same, and
  combining facts respects it.
Main exports: Taint.Made, Taint.Made.noted, Taint.made_self, Taint.made_facts_compare
-/
import TaintFlow.Proofs.Cores
import TaintFlow.Proofs.EqualFrames

namespace TaintFlow

section Sets

variable {α : Type} {cmp : α → α → Ordering} [Std.TransCmp cmp] [Std.LawfulEqCmp cmp]

theorem mem_foldl_insert {start : Std.ExtTreeSet α cmp} {items : List α} {item : α} :
    item ∈ items.foldl Std.ExtTreeSet.insert start ↔ item ∈ start ∨ item ∈ items := by
  induction items generalizing start with
  | nil => simp
  | cons first items inductionHypothesis =>
      rw [List.foldl_cons, inductionHypothesis, Std.ExtTreeSet.mem_insert, Std.LawfulEqCmp.compare_eq_iff_eq,
        List.mem_cons]
      grind

theorem foldl_insert_toList (set : Std.ExtTreeSet α cmp) :
    set.toList.foldl Std.ExtTreeSet.insert ∅ = set := by
  apply Std.ExtTreeSet.ext_mem
  intro item
  rw [mem_foldl_insert, Std.ExtTreeSet.mem_toList]
  simp

end Sets

namespace Taint

/-! ### Facts that are made by calls -/

/-- The calls that make facts, with the sources and the locations that they note, in the order of the calls.
Where two facts are combined, what was noted for the first one comes first. -/
inductive Made : Option Taint → List Source → List Location → Prop where
  | nothing : Made none [] []
  | of (state : State) : Made (some (.of state)) [] []
  | constant (text : String) : Made (some (.constant text)) [] []
  | parametric (indices : List Nat) : Made (some (.parametric indices)) [] []
  | set {taint : Taint} {sources : List Source} {locations : List Location}
      (made : Made (some taint) sources locations) (state baseState : State)
      (literal runtimeClass : Option String) (slot : Option Nat) (allocation : Option Offset) :
      Made (some { taint with state, baseState, literal, runtimeClass, slot, allocation }) sources locations
  | setNote {taint : Taint} {sources : List Source} {locations : List Location}
      (made : Made (some taint) sources locations) (note : String) :
      Made (some { taint with note := some note }) sources locations
  | addTag {taint : Taint} {sources : List Source} {locations : List Location}
      (made : Made (some taint) sources locations) (tag : Tag) :
      Made (some (taint.addTag tag)) sources locations
  | removeTag {taint : Taint} {sources : List Source} {locations : List Location}
      (made : Made (some taint) sources locations) (tag : Tag) :
      Made (some (taint.removeTag tag)) sources locations
  | addStrippedTag {taint : Taint} {sources : List Source} {locations : List Location}
      (made : Made (some taint) sources locations) (tag : Tag) :
      Made (some (taint.addStrippedTag tag)) sources locations
  | addParameter {taint : Taint} {sources : List Source} {locations : List Location}
      (made : Made (some taint) sources locations) (index : Nat) :
      Made (some (taint.addParameter index)) sources locations
  | addSource {taint : Taint} {sources : List Source} {locations : List Location}
      (made : Made (some taint) sources locations) (source : Source) :
      Made (some (taint.addSource source)) (sources ++ [source]) locations
  | addLocation {taint : Taint} {sources : List Source} {locations : List Location}
      (made : Made (some taint) sources locations) (location : Location) :
      Made (some (taint.addLocation location)) sources (locations ++ [location])
  | join {one two : Taint} {sources sources' : List Source} {locations locations' : List Location}
      (first : Made (some one) sources locations) (second : Made (some two) sources' locations') :
      Made (some (one.join two)) (sources ++ sources') (locations ++ locations')
  | concat {one two : Taint} {sources sources' : List Source} {locations locations' : List Location}
      (first : Made (some one) sources locations) (second : Made (some two) sources' locations') :
      Made (some (one.concat two)) (sources ++ sources') (locations ++ locations')
  | combine {one two : Option Taint} {sources sources' : List Source} {locations locations' : List Location}
      (first : Made one sources locations) (second : Made two sources' locations') :
      Made (combine one two) (sources ++ sources') (locations ++ locations')

variable {taint : Taint} {fact : Option Taint} {sources : List Source} {locations : List Location}

section Noting

variable {α κ : Type} [DecidableEq κ] {key : α → κ}

/-- What is noted on two sides is noted in the combination of them. -/
theorem recordAll_noted {one two noted noted' : List α} (first : one = firstBy key noted)
    (second : two = firstBy key noted') : recordAll key one two = firstBy key (noted ++ noted') := by
  rw [first, second, recordAll_firstBy_right, recordAll_firstBy]

/-- For what is not known nothing is listed, also where facts are combined. -/
theorem listed_combine {listed : Taint → List α} (distinct : ∀ taint, ((listed taint).map key).Nodup)
    (joins : ∀ one two : Taint, listed (one.join two) = recordAll key (listed one) (listed two))
    (one two : Option Taint) :
    (combine one two).elim [] listed = recordAll key (one.elim [] listed) (two.elim [] listed) := by
  cases one with
  | none =>
      cases two with
      | none => rfl
      | some two =>
          rw [Option.elim_none, recordAll_nil_left]
          exact (firstBy_eq_self (distinct two)).symm
  | some one =>
      cases two with
      | none => rfl
      | some two => exact joins one two

end Noting

/-- The provenance of a fact is what has been noted for it, each thing once. -/
theorem Made.noted (made : Made fact sources locations) :
    fact.elim [] Taint.sources = firstBy Source.key sources ∧
      fact.elim [] Taint.locations = firstBy id locations := by
  induction made with
  | nothing => exact ⟨rfl, rfl⟩
  | of state => exact ⟨rfl, rfl⟩
  | constant text => exact ⟨rfl, rfl⟩
  | parametric indices => exact ⟨rfl, rfl⟩
  | set _ _ _ _ _ _ _ inductionHypothesis => exact inductionHypothesis
  | setNote _ _ inductionHypothesis => exact inductionHypothesis
  | addTag _ _ inductionHypothesis => exact inductionHypothesis
  | removeTag _ _ inductionHypothesis => exact inductionHypothesis
  | addStrippedTag _ _ inductionHypothesis => exact inductionHypothesis
  | addParameter _ _ inductionHypothesis => exact inductionHypothesis
  | addSource _ source inductionHypothesis =>
      have alone : [source] = firstBy Source.key [source] := rfl
      exact ⟨recordAll_noted inductionHypothesis.1 alone, inductionHypothesis.2⟩
  | addLocation _ location inductionHypothesis =>
      have alone : [location] = firstBy id [location] := rfl
      exact ⟨inductionHypothesis.1, recordAll_noted inductionHypothesis.2 alone⟩
  | join _ _ first second =>
      exact ⟨recordAll_noted first.1 second.1, recordAll_noted first.2 second.2⟩
  | @concat one two _ _ _ _ _ _ first second =>
      have joined := alike_concat one two
      exact ⟨joined.sources.trans (recordAll_noted first.1 second.1),
        joined.locations.trans (recordAll_noted first.2 second.2)⟩
  | combine _ _ first second =>
      rw [listed_combine Taint.sourcesDistinct fun _ _ => rfl,
        listed_combine Taint.locationsDistinct fun _ _ => rfl]
      exact ⟨recordAll_noted first.1 second.1, recordAll_noted first.2 second.2⟩

/-! ### Every fact can be made -/

theorem Made.of_eq {other : Taint} (made : Made (some taint) sources locations) (same : taint = other) :
    Made (some other) sources locations := by
  rw [← same]
  exact made

theorem Made.addTags (made : Made (some taint) sources locations) (tags : List Tag) :
    Made (some { taint with tags := tags.foldl .insert taint.tags }) sources locations := by
  induction tags generalizing taint with
  | nil => exact made
  | cons tag tags inductionHypothesis => exact inductionHypothesis (made.addTag tag)

theorem Made.addStrippedTags (made : Made (some taint) sources locations) (tags : List Tag) :
    Made (some { taint with strippedTags := tags.foldl .insert taint.strippedTags }) sources locations := by
  induction tags generalizing taint with
  | nil => exact made
  | cons tag tags inductionHypothesis => exact inductionHypothesis (made.addStrippedTag tag)

theorem Made.addSources (made : Made (some taint) sources locations) (more : List Source) :
    Made
      (some
        { taint with
          sources := recordAll Source.key taint.sources more
          sourcesDistinct := nodup_keys_recordAll taint.sourcesDistinct })
      (sources ++ more) locations := by
  induction more generalizing taint sources with
  | nil =>
      rw [List.append_nil]
      exact made
  | cons source more inductionHypothesis =>
      rw [List.append_cons]
      exact inductionHypothesis (made.addSource source)

theorem Made.addLocations (made : Made (some taint) sources locations) (more : List Location) :
    Made
      (some
        { taint with
          locations := recordAll id taint.locations more
          locationsDistinct := nodup_keys_recordAll taint.locationsDistinct })
      sources (locations ++ more) := by
  induction more generalizing taint locations with
  | nil =>
      rw [List.append_nil]
      exact made
  | cons location more inductionHypothesis =>
      rw [List.append_cons]
      exact inductionHypothesis (made.addLocation location)

/-- Every fact can be made, by noting just what it lists. -/
theorem made_self (taint : Taint) : Made (some taint) taint.sources taint.locations := by
  have begun := Made.parametric taint.parameters.toList
  have tagged := (begun.addTags taint.tags.toList).addStrippedTags taint.strippedTags.toList
  have noted := (tagged.addSources taint.sources).addLocations taint.locations
  have completed := noted.set taint.state taint.baseState taint.literal taint.runtimeClass taint.slot
    taint.allocation
  have tags := foldl_insert_toList taint.tags
  have strippedTags := foldl_insert_toList taint.strippedTags
  have sources : recordAll Source.key [] taint.sources = taint.sources :=
    recordAll_eq_append taint.sourcesDistinct
  have locations : recordAll id [] taint.locations = taint.locations :=
    recordAll_eq_append taint.locationsDistinct
  have parameters : .ofList taint.parameters.toList = taint.parameters := by
    apply Std.ExtTreeSet.ext_mem
    simp
  cases known : taint.note with
  | none =>
      apply completed.of_eq
      exact Taint.ext rfl tags strippedTags sources locations parameters rfl rfl rfl rfl rfl known.symm
  | some note =>
      apply (completed.setNote note).of_eq
      exact Taint.ext rfl tags strippedTags sources locations parameters rfl rfl rfl rfl rfl known.symm

/-! ### Comparing facts -/

/-- Whatever calls make a fact, its sources and its locations are those that the calls have noted, each one
where it was noted first, so that no two sources are of the same kind and name, and no two locations are the
same; and the calls can make every fact. Saying the same is an equivalence of facts, and facts that say the
same can stand for each other where facts are joined and where texts are put together. -/
theorem made_facts_compare :
    (∀ taint sources locations, Made (some taint) sources locations →
      taint.sources = firstBy Source.key sources ∧ taint.locations = firstBy id locations ∧
        taint.sources.Pairwise (fun one two => one.key ≠ two.key) ∧ taint.locations.Nodup) ∧
      (∀ taint, ∃ sources locations, Made (some taint) sources locations) ∧
      Equivalence (fun one two : Taint => one ≈ two) ∧
      ∀ one two one' two' : Taint, one ≈ one' → two ≈ two' →
        one.join two ≈ one'.join two' ∧ one.concat two ≈ one'.concat two' := by
  refine ⟨?_, ?_, ⟨Equiv.refl, Equiv.symm, Equiv.trans⟩, ?_⟩
  · intro taint sources locations made
    rcases made.noted with ⟨listedSources, listedLocations⟩
    have distinctSources := nodup_keys_firstBy Source.key sources
    have distinctLocations := nodup_keys_firstBy id locations
    rw [← listedSources] at distinctSources
    rw [← listedLocations, List.map_id] at distinctLocations
    exact ⟨listedSources, listedLocations, List.pairwise_map.1 distinctSources, distinctLocations⟩
  · intro taint
    exact ⟨taint.sources, taint.locations, made_self taint⟩
  · intro one two one' two' first second
    exact ⟨first.join second, first.concat second⟩

/-- Where something is listed twice, the comparison from one side is not symmetric. -/
example : SameBy id [1, 1] [1, 2] ∧ ¬ SameBy id [1, 2] [1, 1] := by
  decide

end Taint

/-- A text of which it was noted first that it comes from a field. -/
def fieldNoted : Taint :=
  ((Taint.constant "x").addSource ⟨.field, .safe, some "Page.mark"⟩).addSource
    ⟨.parameter, .unknown, some "Page.name"⟩

/-- The same text, of which this was noted last. -/
def fieldNotedLast : Taint :=
  ((Taint.constant "x").addSource ⟨.parameter, .tainted, some "Page.name"⟩).addSource
    ⟨.field, .safe, some "Page.mark"⟩

/-- The two texts say the same, though neither is the other one, and so does what is put together from them;
what they are joined to lists each source once. -/
theorem fieldNoted_compares :
    fieldNoted ≠ fieldNotedLast ∧ fieldNoted ≈ fieldNotedLast ∧ fieldNotedLast ≈ fieldNoted ∧
      fieldNoted.concat fieldNotedLast ≈ fieldNotedLast.concat fieldNoted ∧
      (fieldNoted.join fieldNotedLast).sources = fieldNoted.sources ∧
      (fieldNoted.join fieldNotedLast).sources.Pairwise fun one two => one.key ≠ two.key := by
  rcases Taint.made_facts_compare with ⟨noted, -, equivalence, respected⟩
  have different : fieldNoted ≠ fieldNotedLast := by
    decide
  have same : fieldNoted ≈ fieldNotedLast := by
    decide
  have back := equivalence.symm same
  have first : Taint.Made (some fieldNoted) _ _ := ((Taint.Made.constant "x").addSource _).addSource _
  have last : Taint.Made (some fieldNotedLast) _ _ := ((Taint.Made.constant "x").addSource _).addSource _
  rcases noted _ _ _ (first.join last) with ⟨listed, -, distinct, -⟩
  refine ⟨different, same, back, (respected _ _ _ _ same back).2, ?_, distinct⟩
  rw [listed]
  decide

end TaintFlow
