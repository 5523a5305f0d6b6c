/-
Module: TaintFlow.Proofs.SharedTable
Purpose: A table of summaries that any number of clients write to, each write as a whole and in any
  interleaving. What the table holds, how large it is and what each client was told follow from the
  order in which the writes were carried out.
Main exports: TableWrite, TableWrite.perform, replay, get?_replay, size_replay, Sharing, Sharing.serve,
  interleave, Sharing.Lawful, interleave_lawful
-/
import Mathlib.Data.List.Dedup
import Mathlib.Data.List.Induction
import Mathlib.Logic.Function.Basic
import TaintFlow.Summary.Table

namespace TaintFlow

/-! ### Writes -/

/-- What a client can do to a table of summaries. -/
inductive TableWrite where
  /-- Store a summary that a human wrote. -/
  | configure (key : String) (summary : Summary)
  /-- Offer a derived summary. -/
  | offer (key : String) (summary : Summary)
deriving DecidableEq

namespace TableWrite

/-- The key that the write is about. -/
def key : TableWrite → String
  | configure key _ | offer key _ => key

/-- Carry out a write. Only an offer is answered. -/
def perform (table : SummaryTable) : TableWrite → SummaryTable × Option Commit
  | configure key summary => (table.put key summary, none)
  | offer key summary =>
      let (after, commit) := table.commit key summary
      (after, some commit)

/-- The summary that a human stored under the key by this write. -/
def configured? (wanted : String) : TableWrite → Option Summary
  | configure key summary => if key = wanted then some summary else none
  | offer _ _ => none

/-- The derived summary that was offered for the key by this write. -/
def offered? (wanted : String) : TableWrite → Option Summary
  | configure _ _ => none
  | offer key summary => if key = wanted then some summary else none

end TableWrite

/-- The summary that a human stored last under a key. -/
def lastConfigured (writes : List TableWrite) (key : String) : Option Summary :=
  writes.reverse.findSome? (·.configured? key)

/-- The derived summary that was offered first for a key. -/
def firstOffered (writes : List TableWrite) (key : String) : Option Summary :=
  writes.findSome? (·.offered? key)

/-- The summary that is due under a key after some writes: what a human stored last, or else what was
offered first. -/
def dueSummary (writes : List TableWrite) (key : String) : Option Summary :=
  (lastConfigured writes key).or (firstOffered writes key)

theorem dueSummary_concat (writes : List TableWrite) (write : TableWrite) (key : String) :
    dueSummary (writes ++ [write]) key =
      (write.configured? key).or ((dueSummary writes key).or (write.offered? key)) := by
  have newest : lastConfigured (writes ++ [write]) key =
      (write.configured? key).or (lastConfigured writes key) := by
    rw [lastConfigured, List.reverse_append, List.findSome?_append]
    simp [lastConfigured]
  have oldest : firstOffered (writes ++ [write]) key =
      (firstOffered writes key).or (write.offered? key) := by
    simp [firstOffered]
  rw [dueSummary, dueSummary, newest, oldest, Option.or_assoc, Option.or_assoc]

/-- Something is due exactly under the keys that have been written to. -/
theorem dueSummary_eq_none_iff {writes : List TableWrite} {key : String} :
    dueSummary writes key = none ↔ ∀ write ∈ writes, write.key ≠ key := by
  have untouched (write : TableWrite) :
      write.configured? key = none ∧ write.offered? key = none ↔ write.key ≠ key := by
    cases write with
    | configure other summary => simp [TableWrite.configured?, TableWrite.offered?, TableWrite.key]
    | offer other summary => simp [TableWrite.configured?, TableWrite.offered?, TableWrite.key]
  simp only [dueSummary, lastConfigured, firstOffered, Option.or_eq_none_iff, List.findSome?_eq_none_iff,
    List.mem_reverse, ← forall₂_and, untouched]

/-! ### Writes one after the other -/

/-- The table after some writes, beginning with the empty one. -/
def replay (writes : List TableWrite) : SummaryTable :=
  writes.foldl (fun table write => (write.perform table).1) .empty

theorem replay_concat (writes : List TableWrite) (write : TableWrite) :
    replay (writes ++ [write]) = (write.perform (replay writes)).1 := by
  simp [replay]

/-- One write puts a configured summary in the place of whatever is there, and an offered one only where
nothing is. -/
theorem get?_perform (table : SummaryTable) (write : TableWrite) (key : String) :
    (write.perform table).1.get? key =
      (write.configured? key).or ((table.get? key).or (write.offered? key)) := by
  cases write with
  | configure other summary =>
      rw [TableWrite.perform, SummaryTable.get?_put]
      by_cases same : other = key
      · simp [TableWrite.configured?, same]
      · simp [TableWrite.configured?, TableWrite.offered?, same]
  | offer other summary =>
      have after : ((TableWrite.offer other summary).perform table).1 = (table.commit other summary).1 := rfl
      rw [after, SummaryTable.get?_commit]
      by_cases same : other = key
      · subst same
        cases table.get? other with
        | none => simp [TableWrite.configured?, TableWrite.offered?]
        | some present => simp [TableWrite.configured?]
      · simp [TableWrite.configured?, TableWrite.offered?, same]

/-- After any writes, the table holds what is due under every key. -/
theorem get?_replay (writes : List TableWrite) (key : String) :
    (replay writes).get? key = dueSummary writes key := by
  induction writes using List.reverseRecOn with
  | nil => exact SummaryTable.get?_empty key
  | append_singleton earlier write inductionHypothesis =>
      rw [replay_concat, get?_perform, inductionHypothesis, dueSummary_concat]

/-- A key of the table is one that has been written to. -/
theorem mem_keys_replay {writes : List TableWrite} {key : String} :
    key ∈ (replay writes).entries.keys ↔ key ∈ writes.map TableWrite.key := by
  have present : key ∈ (replay writes).entries.keys ↔ (replay writes).get? key ≠ none := by
    rw [Std.ExtTreeMap.mem_keys, ← Std.ExtTreeMap.isSome_getElem?_iff_mem, Option.isSome_iff_ne_none]
    rfl
  rw [present, get?_replay, Ne, dueSummary_eq_none_iff, List.mem_map]
  push Not
  exact Iff.rfl

/-- The table has as many entries as there are keys that have been written to. -/
theorem size_replay (writes : List TableWrite) :
    (replay writes).size = (writes.map TableWrite.key).dedup.length := by
  have distinct : (replay writes).entries.keys.Nodup := by
    apply Std.ExtTreeMap.distinct_keys.imp
    rintro key _ different rfl
    exact different Std.ReflCmp.compare_self
  have same : (replay writes).entries.keys.Perm (writes.map TableWrite.key).dedup := by
    rw [List.perm_ext_iff_of_nodup distinct (List.nodup_dedup _)]
    intro key
    rw [mem_keys_replay, List.mem_dedup]
  rw [SummaryTable.size, ← Std.ExtTreeMap.length_keys, same.length_eq]

/-! ### Clients -/

/-- A write that has been carried out for a client, and what the client was told. -/
structure Served (Client : Type) where
  client : Client
  write : TableWrite
  answer : Option Commit

/-- A table that clients share. -/
structure Sharing (Client : Type) where
  table : SummaryTable := .empty
  /-- The writes that each client still has to make, the next one first. -/
  waiting : Client → List TableWrite
  /-- The writes that have been carried out, in their order. -/
  served : List (Served Client) := []

namespace Sharing

variable {Client : Type} [DecidableEq Client] {sharing : Sharing Client}

/-- The writes that have been carried out, whoever made them. -/
def writes (sharing : Sharing Client) : List TableWrite :=
  sharing.served.map Served.write

/-- Carry out the next write of a client, if it has one left. -/
def serve (sharing : Sharing Client) (client : Client) : Sharing Client :=
  match sharing.waiting client with
  | [] => sharing
  | write :: later =>
      let (table, answer) := write.perform sharing.table
      { table
        waiting := Function.update sharing.waiting client later
        served := sharing.served ++ [⟨client, write, answer⟩] }

/-- The writes of a client that have been carried out. -/
def writesOf (sharing : Sharing Client) (client : Client) : List TableWrite :=
  (sharing.served.filter (·.client = client)).map Served.write

/-- What a client is told about an offer fits the writes before it: the summary is inserted exactly if
none of them was about its key, and otherwise the answer says of what kind the summary is that is due
at that moment. -/
structure Answered (earlier : List (Served Client)) (key : String) (answer : Option Commit) : Prop where
  inserted : answer = some .inserted ↔ ∀ before ∈ earlier, before.write.key ≠ key
  kept : (∃ before ∈ earlier, before.write.key = key) →
    ∃ present, dueSummary (earlier.map Served.write) key = some present ∧
      answer = some (if present.configured then .keptConfigured else .keptDerived)

/-- Every offer was answered as the writes before it demand. -/
def Answers (served : List (Served Client)) : Prop :=
  ∀ earlier client key summary answer later,
    served = earlier ++ ⟨client, .offer key summary, answer⟩ :: later → Answered earlier key answer

/-- What can be said of a shared table at every moment, given the programs of the clients. -/
structure Lawful (programs : Client → List TableWrite) (sharing : Sharing Client) : Prop where
  /-- Every client has had the first of its writes carried out, in its own order. -/
  ordered : ∀ client, sharing.writesOf client ++ sharing.waiting client = programs client
  /-- Under each key there is what a human stored last, or else what was offered first. -/
  holds : ∀ key, sharing.table.get? key =
    (lastConfigured sharing.writes key).or (firstOffered sharing.writes key)
  /-- Every offer was answered by what was there before it. -/
  answered : Answers sharing.served
  /-- There are as many entries as keys that have been written to. -/
  size : sharing.table.size = (sharing.writes.map TableWrite.key).dedup.length

/-! ### One write for one client -/

/-- The invariant of a shared table: it is what the writes carried out so far make of an empty one. -/
structure Replayed (programs : Client → List TableWrite) (sharing : Sharing Client) : Prop where
  ordered : ∀ client, sharing.writesOf client ++ sharing.waiting client = programs client
  table : sharing.table = replay sharing.writes
  answered : Answers sharing.served

omit [DecidableEq Client] in
/-- The answer to an offer tells what was in the table. -/
theorem answered_perform {served : List (Served Client)} {table : SummaryTable} {key : String}
    {summary : Summary} (replayed : table = replay (served.map Served.write)) :
    Answered served key ((TableWrite.offer key summary).perform table).2 := by
  have answer : ((TableWrite.offer key summary).perform table).2 =
      some (table.commit key summary).2 := rfl
  have held : table.get? key = dueSummary (served.map Served.write) key := by
    rw [replayed, get?_replay]
  have untouched : (∀ before ∈ served, before.write.key ≠ key) ↔ table.get? key = none := by
    rw [held, dueSummary_eq_none_iff, List.forall_mem_map]
  rw [answer]
  cases found : table.get? key with
  | none =>
      refine ⟨?_, ?_⟩
      · simp [SummaryTable.commit, found, untouched]
      · rintro ⟨before, member, same⟩
        exact absurd same (untouched.2 found before member)
  | some present =>
      refine ⟨?_, ?_⟩
      · rw [untouched, found]
        cases kind : present.configured with
        | true => simp [SummaryTable.commit, found, kind]
        | false => simp [SummaryTable.commit, found, kind]
      · intro _
        exact ⟨present, held.symm.trans found, by simp [SummaryTable.commit, found]⟩

theorem Replayed.serve {programs : Client → List TableWrite} (replayed : sharing.Replayed programs)
    (client : Client) : (sharing.serve client).Replayed programs := by
  unfold Sharing.serve
  split
  next => exact replayed
  next write later next =>
    refine ⟨?_, ?_, ?_⟩
    · intro other
      have before := replayed.ordered other
      by_cases same : client = other
      · subst same
        rw [next] at before
        simpa [writesOf] using before
      · have different : other ≠ client := fun equal => same equal.symm
        simpa [writesOf, same, different] using before
    · have writes : (sharing.served ++ [(⟨client, write, (write.perform sharing.table).2⟩ : Served Client)]).map
          Served.write = sharing.writes ++ [write] := by
        simp [Sharing.writes]
      rw [Sharing.writes, writes, replay_concat, ← replayed.table]
    · intro earlier asker key summary answer following split
      -- The offer is the write that has just been carried out, or one from before.
      rcases List.eq_nil_or_concat following with rfl | ⟨between, last, rfl⟩
      · obtain ⟨rfl, told⟩ := List.append_inj' split rfl
        obtain ⟨rfl, rfl, rfl⟩ := Served.mk.inj (List.singleton_inj.1 told)
        exact answered_perform replayed.table
      · have regrouped : earlier ++ ⟨asker, .offer key summary, answer⟩ :: (between ++ [last]) =
            (earlier ++ ⟨asker, .offer key summary, answer⟩ :: between) ++ [last] := by
          simp
        rw [List.concat_eq_append, regrouped] at split
        exact replayed.answered earlier asker key summary answer between (List.append_inj_left' split rfl)

end Sharing

/-! ### Any interleaving -/

section Interleaving

variable {Client : Type} [DecidableEq Client]

/-- The shared table after the clients have taken turns in the given order. A client whose turn it is has
its next write carried out as a whole. -/
def interleave (programs : Client → List TableWrite) (schedule : List Client) : Sharing Client :=
  schedule.foldl Sharing.serve { waiting := programs }

theorem interleave_replayed (programs : Client → List TableWrite) (schedule : List Client) :
    (interleave programs schedule).Replayed programs := by
  induction schedule using List.reverseRecOn with
  | nil => exact ⟨fun _ => rfl, rfl, by simp [interleave, Sharing.Answers]⟩
  | append_singleton earlier client inductionHypothesis =>
      rw [interleave, List.foldl_append]
      exact inductionHypothesis.serve client

/-- However the writes of any number of clients are interleaved, at every moment the table holds under
each key what was configured last or else offered first, its size is the number of keys that have been
written to, and every offer was answered by what was there before it. -/
theorem interleave_lawful (programs : Client → List TableWrite) (schedule : List Client) :
    (interleave programs schedule).Lawful programs := by
  have replayed := interleave_replayed programs schedule
  refine ⟨replayed.ordered, ?_, replayed.answered, ?_⟩
  · intro key
    rw [replayed.table, get?_replay]
    rfl
  · rw [replayed.table, size_replay]

/-- Two clients race for one key: the second offer finds the first one, and the third one finds what was
configured in between, although that is not marked as written by a human. -/
example : ((interleave (fun first : Bool =>
      if first then [.offer "a" .safe, .configure "a" (.derived .tainted)]
      else [.offer "a" (.derived .null), .offer "a" .safe]) [true, false, true, false]).served.map
        Served.answer) =
    [some .inserted, some .keptDerived, none, some .keptDerived] := by
  decide

end Interleaving

end TaintFlow
