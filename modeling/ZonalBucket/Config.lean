import ZonalBucket.Document.Same
import ZonalBucket.Failure
import ZonalBucket.Text.Blank

/-!
# Configuration

Where the buckets live and how they are reached: a region, a zone of that region,
the stem of the bucket names and, unless the usual one serves, an endpoint.

A configuration can also be put together from fields.  Their values are kept as they
are in a `Config.Draft`, which is what shows and compares; `Config.Draft.settle` makes
texts of them.

`Config.load` makes a configuration from the environment.  Zone and name stem are
taken without the blanks around them and may not be blank; a region that is empty
gives way to the next one in line; an empty endpoint is none.
-/

namespace ZonalBucket

/-- A configuration. -/
structure Config where
  region : String
  zone : String
  bucketPrefix : String := "test-bucket"
  endpoint : Option String := none
deriving DecidableEq, Repr

/-- The values of the variables; one that is not set has none. -/
abbrev Environment := Setting → Option String

/-- The environment with the variables of a list; of two values the first counts. -/
def Environment.ofList (settings : List (String × String)) : Environment :=
  fun setting => settings.lookup setting.name

namespace Config

/-- The region when no variable names one. -/
def defaultRegion : String := "us-west-2"

/-- The zone when no variable names one. -/
def defaultZone : String := "usw2-az1"

/-- The name stem when no variable gives one. -/
def defaultBucketPrefix : String := "test-bucket"

/-- A text, or nothing when it is empty. -/
def nonEmpty? : Option String → Option String
  | some s => if s = "" then none else some s
  | none => none

/-- The value of a variable without the blanks around it, which may not be all. -/
def stripped (env : Environment) (setting : Setting) (default : String) : Except Failure String :=
  let value := Text.strip ((env setting).getD default)
  if value = "" then .error (.blankSetting setting) else .ok value

/-- The region that the variables name. -/
def regionOf (env : Environment) : String :=
  match nonEmpty? (env .region) with
  | some region => region
  | none => (nonEmpty? (env .defaultRegion)).getD defaultRegion

/-- The configuration that the environment describes. -/
def load (env : Environment) : Except Failure Config :=
  match stripped env .zone defaultZone with
  | .error e => .error e
  | .ok zone => match stripped env .bucketPrefix defaultBucketPrefix with
    | .error e => .error e
    | .ok stem => .ok {
        region := regionOf env
        zone := zone
        bucketPrefix := stem
        endpoint := nonEmpty? (env .endpoint) }

/-- The names of the fields, of which the first two are needed. -/
def fieldNames : List String := ["region_name", "zone", "bucket_prefix", "endpoint_url"]

/-- The name that stands for the configuration that is being made. -/
def ownName : String := "self"

/-- Why a configuration has no field of a name, if it has none. -/
def refusal? (name : String) : Option Failure :=
  if name = ownName then some (.reservedField name)
  else if name ∈ fieldNames then none
  else some (.unknownField name)

/-- Setting a field of a configuration, which always fails. -/
def assign (field : String) : Failure := .frozenField field

/-- The values given for the fields of a configuration, of whatever kind they are. -/
structure Draft where
  region : Document
  zone : Document
  bucketPrefix : Document := .text defaultBucketPrefix
  endpoint : Document := .null

namespace Draft

/-- The value of a field, or what stands for it when it is not given. -/
def valueOf (fields : Fields) (name : String) (missing : Document) : Document :=
  (fields.lookup name).getD missing

/-- The draft with these fields. -/
def ofFields (fields : Fields) : Except Failure Draft :=
  match fields.findSome? fun field => refusal? field.1 with
  | some failure => .error failure
  | none => match (fieldNames.take 2).filter fun name => (fields.lookup name).isNone with
    | [] => .ok {
        region := valueOf fields "region_name" .null
        zone := valueOf fields "zone" .null
        bucketPrefix := valueOf fields "bucket_prefix" (.text defaultBucketPrefix)
        endpoint := valueOf fields "endpoint_url" .null }
    | missing => .error (.missingFields missing)

/-- A draft as it is shown. -/
def shown (d : Draft) : String :=
  "DirectoryBucketConfig(region_name=" ++ d.region.shownInside ++
    ", zone=" ++ d.zone.shownInside ++
    ", bucket_prefix=" ++ d.bucketPrefix.shownInside ++
    ", endpoint_url=" ++ d.endpoint.shownInside ++ ")"

/-- Whether two drafts have the same values. -/
def same (d e : Draft) : Bool :=
  d.region.same e.region && d.zone.same e.zone && d.bucketPrefix.same e.bucketPrefix &&
    d.endpoint.same e.endpoint

/-- A value as a text, which is empty when the value does not count as given. -/
def wordOf (d : Document) : String := if d.isTruthy then d.shown else ""

/-- The configuration that a draft comes to.  Only the endpoint may be nothing. -/
def settle (d : Draft) : Config where
  region := wordOf d.region
  zone := wordOf d.zone
  bucketPrefix := wordOf d.bucketPrefix
  endpoint := match d.endpoint with
    | .null => none
    | value => some (wordOf value)

end Draft

/-- A configuration as a draft. -/
def toDraft (c : Config) : Draft where
  region := .text c.region
  zone := .text c.zone
  bucketPrefix := .text c.bucketPrefix
  endpoint := match c.endpoint with
    | some s => .text s
    | none => .null

/-- A configuration as it is shown. -/
def shown (c : Config) : String := c.toDraft.shown

/-- The configuration with these fields. -/
def ofFields (fields : Fields) : Except Failure Config := (Draft.ofFields fields).map Draft.settle

/-- A text is its own word; other documents have none and stand for the empty one. -/
theorem wordOf_text (s : String) : Draft.wordOf (.text s) = s := by
  by_cases h : s = ""
  · simp [Draft.wordOf, Document.isTruthy, h]
  · simp [Draft.wordOf, Document.isTruthy, Document.shown, h]

/-- A configuration is what its draft comes to.  Settings that were chosen once pass
the rules for choosing them again without being changed. -/
theorem settle_toDraft (c : Config) : c.toDraft.settle = c := by
  obtain ⟨region, zone, stem, endpoint⟩ := c
  cases endpoint <;> simp [toDraft, Draft.settle, wordOf_text]

/-- Without any variable the defaults count.  None of them is turned away, so that a
program can be run in an environment that says nothing. -/
theorem load_unset :
    load (fun _ => none) = .ok { region := defaultRegion, zone := defaultZone } := by
  have hzone : Text.strip defaultZone = defaultZone := by decide
  have hstem : Text.strip defaultBucketPrefix = defaultBucketPrefix := by decide
  have hzone' : defaultZone ≠ "" := by decide
  have hstem' : defaultBucketPrefix ≠ "" := by decide
  simp only [load, stripped, Option.getD_none, hzone, hstem, if_neg hzone', if_neg hstem']
  rfl

end Config

end ZonalBucket
