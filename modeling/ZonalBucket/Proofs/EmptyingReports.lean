import ZonalBucket.Proofs.AnsweredEmptying

/-!
# What emptying reports

A listing reports nothing.  What the answer to a batch tells of keys that could not be
deleted is reported behind it, one record for each of them, `ReportsItem`.  In the end
emptying reports how many keys were deleted, or that it was refused, and nothing if it
fails otherwise; `emptyBucket_reports` says so for every run.
-/

namespace ZonalBucket

open ZonalBucket.Action (Adds Heeds Reports passedRecords refusalRecords)

namespace Listing

/-- A listing reports nothing, neither of its pages nor of a failure.  The report of a
refusal is made around it. -/
theorem keysFrom_reports (bucket : String) (token : Option Document) :
    Reports (keysFrom bucket token) fun _ => False := by
  have hpage : ∀ token, (fetchPage bucket token).Reports fun _ => False := fun token =>
    Reports.bind (.invoke _) fun _ => .of_trace_eq fun _ => rfl
  refine keysFrom_adds hpage (fun _ _ ht => ht) (fun _ _ ht => ht) (fun _ _ s t hs ht => ?_) token
  intro record hrecord
  exact (List.mem_append.1 hrecord).elim (hs record) (ht record)

end Listing

namespace Emptying

variable {source : Source} {bucket : String}

section Items

variable {items rest : List Document} {record : Record}

/-- The record of one of these items. -/
def OfItem (source : Source) (items : List Document) (record : Record) : Prop :=
  ∃ entry, .object entry ∈ items ∧ record = failureRecord source entry

/-- A record of one of some items is one of more items. -/
theorem OfItem.mono (h : OfItem source rest record) (hsub : rest ⊆ items) :
    OfItem source items record := by
  obtain ⟨entry, hentry, heq⟩ := h
  exact ⟨entry, hsub hentry, heq⟩

/-- The report of an item is made from its fields.  An item that has no fields ends
the report with a failure, and there is no record of it. -/
theorem reportItem_reports (source : Source) (item : Document) :
    (reportItem source item).Reports (OfItem source [item]) := by
  cases item with
  | object entry =>
    refine Reports.of_tell [failureRecord source entry]
      (fun w => World.noteRecord_eq_tell w _) fun record hrecord => ?_
    exact ⟨entry, List.mem_singleton_self _, List.mem_singleton.1 hrecord⟩
  | _ => exact Reports.of_trace_eq fun _ => rfl

/-- What is reported of items is one record for each of those that come before that. -/
theorem reportItems_reports (source : Source) (items : List Document) :
    (reportItems source items).Reports (OfItem source items) := by
  induction items with
  | nil => exact Reports.of_trace_eq fun _ => rfl
  | cons item rest ih =>
    have hfirst : (reportItem source item).Reports (OfItem source (item :: rest)) :=
      (reportItem_reports source item).weaken fun record h =>
        h.mono (List.cons_subset_cons item (List.nil_subset rest))
    have hrest : (reportItems source rest).Reports (OfItem source (item :: rest)) :=
      ih.weaken fun record h => h.mono (List.subset_cons_self item rest)
    exact hfirst.bind fun _ => hrest.bind fun _ => Reports.of_trace_eq fun _ => rfl

end Items

/-- All records of a trace are those of keys that could not be deleted, as its answers
tell. -/
def ReportsItems (source : Source) (t : Trace) : Prop :=
  ∀ record ∈ t.records, ∃ e ∈ t.exchanges, ∃ answer items,
    e.outcome = .ok answer ∧ itemsOf answer = .ok items ∧ OfItem source items record

/-- The records of two pieces tell of items in the answers of both, since each record
finds its answer in its own piece. -/
theorem ReportsItems.append {s t : Trace} (hs : ReportsItems source s)
    (ht : ReportsItems source t) : ReportsItems source (s.append t) := by
  intro record hrecord
  rcases List.mem_append.1 hrecord with hrecord | hrecord
  · obtain ⟨e, he, htold⟩ := hs record hrecord
    exact ⟨e, List.mem_append_left _ he, htold⟩
  · obtain ⟨e, he, htold⟩ := ht record hrecord
    exact ⟨e, List.mem_append_right _ he, htold⟩

/-- What reports nothing has no other records either, which is how the listing and the
checks of a batch come in. -/
theorem ReportsItems.of_reports {α : Type} {action : Action α}
    (h : action.Reports fun _ => False) : action.Adds fun _ t => ReportsItems source t :=
  Adds.weaken h fun _ _ ht record hrecord => (ht record hrecord).elim

/-- So it is enough to look at the parts of a run.  The items of a batch are reported
right behind its call, never later. -/
theorem ReportsItems.bind {α β : Type} {action : Action α} {next : α → Action β}
    (h : action.Adds fun _ t => ReportsItems source t)
    (hnext : ∀ a, (next a).Adds fun _ t => ReportsItems source t) :
    (action >>= next).Adds fun _ t => ReportsItems source t :=
  Adds.bind_append (fun _ _ hs ht => hs.append ht) h hnext

/-- Behind the call for a batch its items are reported. -/
theorem deleteBatch_reports (source : Source) (bucket : String) (batch : List String) :
    (deleteBatch source bucket batch).Adds fun _ t => ReportsItems source t := by
  have hcall : (Client.invoke (.deleteObjects bucket batch)).Adds fun outcome t =>
      t = { exchanges := [⟨.deleteObjects bucket batch, outcome⟩] } := Adds.invoke fun _ => rfl
  refine Adds.bind hcall (fun _ s hs record hrecord => ?_) fun answer => ?_
  · rw [hs] at hrecord
    cases hrecord
  cases hitems : itemsOf answer with
  | error cause =>
    refine Adds.of_trace_eq (fun _ => rfl) fun _ s hs record hrecord => ?_
    rw [hs] at hrecord
    cases hrecord
  | ok items =>
    refine Adds.weaken (reportItems_reports source items) fun _ t ht s hs record hrecord => ?_
    rw [hs] at hrecord ⊢
    exact ⟨_, List.mem_cons_self, answer, items, rfl, hitems, ht record hrecord⟩

/-- Batch after batch, only the items of answers are reported. -/
theorem deleteBatches_reports (source : Source) (bucket : String) (batches : List (List String)) :
    (deleteBatches source bucket batches).Adds fun _ t => ReportsItems source t := by
  induction batches with
  | nil => exact ReportsItems.of_reports (.of_trace_eq fun _ => rfl)
  | cons batch rest ih =>
    refine ReportsItems.bind (deleteBatch_reports source bucket batch) fun here => ?_
    exact ReportsItems.bind ih fun later => ReportsItems.of_reports (.of_trace_eq fun _ => rfl)

/-- The listing in front of the batches reports nothing, and neither does the check of
the size of a batch. -/
theorem deleteListed_reports (source : Source) (bucket : String) :
    (deleteListed source bucket).Adds fun _ t => ReportsItems source t := by
  refine ReportsItems.bind (ReportsItems.of_reports (Listing.keysFrom_reports bucket none))
    fun keys => ?_
  refine ReportsItems.bind (ReportsItems.of_reports (.of_trace_eq fun _ => rfl)) fun size => ?_
  split
  · exact ReportsItems.of_reports (.of_trace_eq fun _ => rfl)
  · refine ReportsItems.bind (deleteBatches_reports source bucket _) fun failed => ?_
    exact ReportsItems.of_reports (.of_trace_eq fun _ => rfl)

/-- What emptying reports behind the records of its items: how many keys were deleted, or
that it was refused. -/
inductive Closes (source : Source) (bucket : String) : Outcome Int → List Record → Prop
  | done (listed : Nat) (deleted : Int) :
    Closes source bucket (.ok deleted) [conclusion source bucket listed deleted]
  | failed (failure : Failure) :
    Closes source bucket (.error failure)
      (refusalRecords source "Failed to delete objects in bucket" failure)

/-- **What emptying reports,** in every run: the keys that could not be deleted, as the answers
to its calls tell, and behind them how it ended. -/
theorem emptyBucket_reports (source : Source) (bucket : String) :
    (emptyBucket source bucket).Adds fun outcome t => ∃ s closing,
      t = s.append { records := closing } ∧ ReportsItems source s ∧
        Closes source bucket outcome closing := by
  have hpassed : ((deleteListed source bucket).onRefusal
      (Action.failRefused source "Failed to delete objects in bucket")).Adds fun outcome t =>
        ∃ s closing, t = s.append { records := closing } ∧ ReportsItems source s ∧
          closing = passedRecords source "Failed to delete objects in bucket" outcome :=
    Adds.passRefusal (deleteListed_reports source bucket) fun _ s hs => ⟨s, _, rfl, hs, rfl⟩
  refine Adds.bind hpassed (fun failure t ht => ?_) fun counts => ?_
  · obtain ⟨s, closing, rfl, hs, rfl⟩ := ht
    exact ⟨s, _, rfl, hs, .failed failure⟩
  · obtain ⟨listed, failed⟩ := counts
    refine Adds.of_eq_tell (conclude_eq_tell source bucket listed failed) fun t ht => ?_
    obtain ⟨s, closing, rfl, hs, rfl⟩ := ht
    exact ⟨s, _, by rw [passedRecords, Trace.append_empty], hs, .done listed _⟩

/-- **Emptying heeds every call that fails.**  It has no call whose failure is put up
with: a page or a batch that fails is the end of it, with the same failure. -/
theorem emptyBucket_heeds (source : Source) (bucket : String) :
    (emptyBucket source bucket).Heeds :=
  Heeds.closed.emptyBucket (Heeds.keysFrom bucket none) (fun _ => Heeds.invoke _) source

end Emptying

end ZonalBucket
