import ZonalBucket.Proofs.EmptyingReports
import ZonalBucket.Proofs.InspectionOutcomes
import ZonalBucket.Scenario.Head

/-!
# The report of success

A run of the head scenario that found metadata says so in one record, `successText`.  None of
the operations that it is made of reports anything that begins with the same letter, `Quiet`,
so that this record is never mistaken for another one, `Quiet.not_tells`.
-/

namespace ZonalBucket.Scenario.Head

open ZonalBucket.Action (closingRecords infoRecord refusalRecord refusalRecords)

section Texts

variable {records first second : List Record} {record : Record} {text what done : String}

/-- What a run reports that found metadata. -/
def successText : String := "Object metadata retrieved successfully."

/-- One of the records tells of success. -/
def Tells (records : List Record) : Prop := ∃ record ∈ records, record.message = successText

/-- Success is told by a row of records when one of its parts tells it. -/
@[simp] theorem tells_append : Tells (first ++ second) ↔ Tells first ∨ Tells second := by
  simp [Tells, or_and_right, exists_or]

/-- A text that begins with another letter than the report of success. -/
def BeginsOtherwise (text : String) : Prop := text.toList.head?.any (· != 'O') = true

instance : DecidablePred BeginsOtherwise := fun _ => inferInstanceAs (Decidable (_ = true))

/-- What is put behind a text does not change how it begins, provided that the text is
not empty. -/
theorem BeginsOtherwise.append (h : BeginsOtherwise text) (rest : String) :
    BeginsOtherwise (text ++ rest) := by
  rw [BeginsOtherwise] at h ⊢
  rw [String.toList_append, List.head?_append]
  cases hfirst : text.toList.head? with
  | none => simp [hfirst] at h
  | some c => simpa [hfirst] using h

/-- All records begin otherwise than the report of success. -/
def Quiet (records : List Record) : Prop := ∀ record ∈ records, BeginsOtherwise record.message

@[simp] theorem quiet_nil : Quiet [] := by
  simp [Quiet]

@[simp] theorem quiet_cons :
    Quiet (record :: records) ↔ BeginsOtherwise record.message ∧ Quiet records := by
  simp [Quiet]

@[simp] theorem quiet_append : Quiet (first ++ second) ↔ Quiet first ∧ Quiet second := by
  simp [Quiet, or_imp, forall_and]

/-- **Quiet records never tell of success.**  A first letter is enough to see this, so
that nothing has to be known of names and keys inside the messages. -/
theorem Quiet.not_tells (h : Quiet records) : ¬ Tells records := by
  rintro ⟨record, hrecord, htext⟩
  have hother := h record hrecord
  rw [htext] at hother
  revert hother
  decide

/-- The report of a refusal begins with what could not be done, and a failure that is
no refusal is not reported. -/
theorem quiet_refusal (hwhat : BeginsOtherwise what) (source : Source) (failure : Failure) :
    Quiet (refusalRecords source what failure) := by
  cases failure with
  | refused fault =>
    have hmessage : BeginsOtherwise (refusalRecord source what fault).message :=
      (((hwhat.append _).append _).append _).append _
    simpa [refusalRecords] using hmessage
  | _ => exact quiet_nil

/-- What is reported behind a call is quiet, however the call went. -/
theorem quiet_closing {α : Type} (hwhat : BeginsOtherwise what) (hdone : BeginsOtherwise done)
    (source : Source) (outcome : Outcome α) : Quiet (closingRecords source what done outcome) := by
  cases outcome with
  | ok a => simpa [closingRecords, infoRecord] using hdone
  | error failure => exact quiet_refusal hwhat source failure

end Texts

section Operations

variable {key : String} {upload : Upload} {w : World}

/-- The creation of a bucket is quiet, whatever its call comes to. -/
theorem createBucket_quiet (source : Source) (bucket zone : String) (w : World) :
    ∃ records, Quiet records ∧ Provision.createBucket source bucket zone w =
      ((w.outcomeOf (.createBucket bucket zone)).map fun _ => (),
        w.afterCall (.createBucket bucket zone) records) := by
  refine ⟨_, quiet_cons.2 ⟨?_, quiet_closing ?_ ?_ source _⟩,
    Provision.createBucket_apply source bucket zone w⟩
  · exact .append (by decide) _
  · decide
  · exact .append (by decide) _

/-- So is an upload that is not kept from its call. -/
theorem putObject_quiet (source : Source) (bucket : String) {body : List UInt8}
    (hcheck : Provision.checkUpload key upload w.files = .ok body) :
    ∃ records, Quiet records ∧ Provision.putObject source bucket key upload none w =
      ((w.outcomeOf (.putObject bucket key body (upload.contentType none))).map fun _ => (),
        w.afterCall (.putObject bucket key body (upload.contentType none)) records) := by
  obtain ⟨hkey, hbody⟩ := Provision.checkUpload_eq_ok_iff.1 hcheck
  refine ⟨_, quiet_closing ?_ ?_ source _,
    Provision.putObject_apply source bucket none hkey hbody⟩
  · decide
  · exact ((BeginsOtherwise.append (by decide) _).append _).append _

/-- So is a fetch: what it tells of metadata that was found is not the report of success. -/
theorem fetch_quiet (source : Source) (bucket key : String) (w : World) :
    ∃ records, Quiet records ∧ Inspection.fetch source bucket key w =
      (Inspection.fetched bucket key (w.outcomeOf (.headObject bucket key)),
        w.afterCall (.headObject bucket key) records) := by
  have hfound (m : Metadata) : Quiet (Inspection.foundRecords source bucket key m) := by
    simp only [Inspection.foundRecords, quiet_cons, quiet_nil, and_true]
    refine ⟨?_, ?_, ?_, ?_⟩
    · repeat apply BeginsOtherwise.append
      decide
    · exact .append (by decide) _
    · exact .append (by decide) _
    · exact .append (by decide) _
  have hrecords : ∀ ending, Quiet (Inspection.fetchRecords source bucket key ending) := by
    rintro (failure | answer)
    · exact quiet_refusal (by decide) source failure
    · rw [Inspection.fetchRecords]
      split
      · exact hfound _
      · exact quiet_nil
  refine ⟨_, quiet_cons.2 ⟨?_, hrecords _⟩, Inspection.fetch_apply source bucket key w⟩
  exact ((BeginsOtherwise.append (by decide) _).append _).append _

/-- So is emptying, with the keys that could not be deleted and how it ended. -/
theorem emptyBucket_quiet (source : Source) (bucket : String) :
    (Emptying.emptyBucket source bucket).Adds fun _ t => Quiet t.records := by
  refine (Emptying.emptyBucket_reports source bucket).weaken ?_
  rintro outcome t ⟨s, closing, rfl, hitems, hcloses⟩
  refine quiet_append.2 ⟨fun record hrecord => ?_, ?_⟩
  · obtain ⟨e, -, answer, items, -, -, entry, -, rfl⟩ := hitems record hrecord
    repeat apply BeginsOtherwise.append
    decide
  · cases hcloses with
    | done listed deleted =>
      rw [quiet_cons, Emptying.conclusion]
      refine ⟨?_, quiet_nil⟩
      dsimp only
      split
      · exact .append (by decide) _
      · repeat apply BeginsOtherwise.append
        decide
    | failed failure => exact quiet_refusal (by decide) source failure

/-- The deletion of a bucket is quiet, too: of its records none begins like the report
of success. -/
theorem deleteBucket_quiet (source : Source) (bucket : String) (w : World) :
    ∃ records, Quiet records ∧ Inspection.deleteBucket source bucket w =
      ((w.outcomeOf (.deleteBucket bucket)).map fun _ => (),
        w.afterCall (.deleteBucket bucket) records) := by
  refine ⟨_, quiet_cons.2 ⟨?_, quiet_closing ?_ ?_ source _⟩,
    Inspection.deleteBucket_apply source bucket w⟩
  · exact .append (by decide) _
  · decide
  · exact .append (by decide) _

end Operations

end ZonalBucket.Scenario.Head
