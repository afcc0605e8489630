import ZonalBucket.Page
import ZonalBucket.Store

/-!
# Calls to the store

The seven calls that the library makes, each about one bucket.  `Call.perform` is
what the store does with a call: it answers and changes, or it refuses the call,
or a page token makes no sense, and then it stays as it is.
-/

namespace ZonalBucket

/-- A call to the store. -/
inductive Call where
  | createBucket (bucket zone : String)
  | putObject (bucket key : String) (body : List UInt8) (contentType : Option String)
  | headObject (bucket key : String)
  | listObjects (bucket : String) (token : Option Document)
  | deleteObjects (bucket : String) (keys : List String)
  | deleteObject (bucket key : String)
  | deleteBucket (bucket : String)

/-- Where and how a new bucket is to be kept: in one zone, as a directory. -/
def placement (zone : String) : Document :=
  .object [
    ("Location", .object [("Type", .text "AvailabilityZone"), ("Name", .text zone)]),
    ("Bucket", .object [
      ("DataRedundancy", .text "SingleAvailabilityZone"), ("Type", .text "Directory")])]

/-- The points at which an answer can be laid down in advance: the seven calls, the
request for a client, and entering and leaving it. -/
inductive Slot where
  | createBucket
  | putObject
  | headObject
  | listObjects
  | deleteObjects
  | deleteObject
  | deleteBucket
  | client
  | enter
  | exit
deriving DecidableEq, Repr

namespace Call

/-- The bucket that a call is about. -/
def bucket : Call → String
  | createBucket bucket _ => bucket
  | putObject bucket _ _ _ => bucket
  | headObject bucket _ => bucket
  | listObjects bucket _ => bucket
  | deleteObjects bucket _ => bucket
  | deleteObject bucket _ => bucket
  | deleteBucket bucket => bucket

/-- The slot of a call. -/
def slot : Call → Slot
  | createBucket .. => .createBucket
  | putObject .. => .putObject
  | headObject .. => .headObject
  | listObjects .. => .listObjects
  | deleteObjects .. => .deleteObjects
  | deleteObject .. => .deleteObject
  | deleteBucket .. => .deleteBucket

/-- A refusal by the store, as a failure. -/
def orRefused {α : Type} : Except ServiceFault α → Except Failure α
  | .ok a => .ok a
  | .error fault => .error (.refused fault)

/-- What the store does with a call when a page has `pageSize` keys. -/
def perform (pageSize : Int) (store : Store) : Call → Except Failure (Document × Store)
  | createBucket bucket _ =>
    (orRefused (store.create bucket)).map fun next =>
      (.object [("Location", .text ("/" ++ bucket))], next)
  | putObject bucket key body contentType =>
    let object := Object.ofUpload body contentType
    (orRefused (store.put bucket key object)).map fun next =>
      (.object [("ETag", .text object.etag)], next)
  | headObject bucket key =>
    (orRefused (store.head bucket key)).map fun object => (object.toReply, store)
  | listObjects bucket token =>
    (orRefused (store.keys bucket)).bind fun keys =>
      (Failure.ofMalformed
        ((Page.offset keys.length token).bind (Page.reply keys pageSize))).map
        fun answer => (answer, store)
  | deleteObjects bucket keys =>
    (orRefused (store.deleteObjects bucket keys)).map fun next =>
      (.object [("Deleted", .list (keys.map fun key => .object [("Key", .text key)]))], next)
  | deleteObject bucket key =>
    (orRefused (store.deleteObject bucket key)).map fun next => (.object [], next)
  | deleteBucket bucket =>
    (orRefused (store.deleteBucket bucket)).map fun next => (.object [], next)

/-- A listing leaves the store as it is and answers with a page of its keys. -/
theorem perform_listObjects_eq_ok {pageSize : Int} {store next : Store} {bucket : String}
    {token : Option Document} {answer : Document}
    (h : perform pageSize store (listObjects bucket token) = .ok (answer, next)) :
    next = store ∧ ∃ keys offset, store.keys bucket = .ok keys ∧
      Page.offset keys.length token = .ok offset ∧
      Page.reply keys pageSize offset = .ok answer := by
  rw [perform] at h
  cases hkeys : store.keys bucket with
  | error fault => simp [hkeys, orRefused, Except.bind] at h
  | ok keys =>
    cases hoffset : Page.offset keys.length token with
    | error cause =>
      simp [hkeys, hoffset, orRefused, Failure.ofMalformed, Except.bind, Except.map] at h
    | ok offset =>
      cases hreply : Page.reply keys pageSize offset with
      | error cause =>
        simp [hkeys, hoffset, hreply, orRefused, Failure.ofMalformed, Except.bind,
          Except.map] at h
      | ok found =>
        simp only [hkeys, hoffset, hreply, orRefused, Failure.ofMalformed, Except.bind,
          Except.map, Except.ok.injEq, Prod.mk.injEq] at h
        exact ⟨h.2.symm, keys, offset, rfl, hoffset, by rw [hreply, h.1]⟩

/-- What an answer comes from when a call was not refused. -/
theorem map_orRefused_eq_ok {α β : Type} {outcome : Except ServiceFault α} {f : α → β} {b : β}
    (h : (orRefused outcome).map f = .ok b) : ∃ a, outcome = .ok a ∧ f a = b := by
  cases outcome with
  | error fault => simp [orRefused, Except.map] at h
  | ok a => exact ⟨a, rfl, by simpa [orRefused, Except.map] using h⟩

/-- An empty bucket is deleted by its call, whose answer tells nothing; no other
bucket is touched. -/
theorem perform_deleteBucket_of_empty {pageSize : Int} {store : Store} {bucket : String}
    {found : Bucket} (hfound : store.get? bucket = some found) (hempty : found.isEmpty = true) :
    perform pageSize store (deleteBucket bucket) = .ok (.object [], store.erase bucket) := by
  rw [perform, Store.deleteBucket_of_some hfound, if_pos hempty]
  rfl

/-- A call leaves all buckets as they are but the one that it is about. -/
theorem get?_of_perform_eq_ok {pageSize : Int} {store next : Store} {call : Call}
    {answer : Document} (h : perform pageSize store call = .ok (answer, next)) {other : String}
    (hother : other ≠ call.bucket) : next.get? other = store.get? other := by
  cases call with
  | createBucket bucket zone =>
    obtain ⟨created, hcreate, heq⟩ := map_orRefused_eq_ok h
    cases heq
    exact Store.get?_of_create hcreate hother
  | putObject bucket key body contentType =>
    obtain ⟨changed, hput, heq⟩ := map_orRefused_eq_ok h
    cases heq
    exact Store.get?_of_changed hput hother
  | headObject bucket key =>
    obtain ⟨object, -, heq⟩ := map_orRefused_eq_ok h
    cases heq
    rfl
  | listObjects bucket token => rw [(perform_listObjects_eq_ok h).1]
  | deleteObjects bucket keys =>
    obtain ⟨changed, hdelete, heq⟩ := map_orRefused_eq_ok h
    cases heq
    exact Store.get?_of_changed hdelete hother
  | deleteObject bucket key =>
    obtain ⟨changed, hdelete, heq⟩ := map_orRefused_eq_ok h
    cases heq
    exact Store.get?_of_changed hdelete hother
  | deleteBucket bucket =>
    obtain ⟨left, hdelete, heq⟩ := map_orRefused_eq_ok h
    cases heq
    exact Store.get?_of_deleteBucket hdelete hother

end Call

end ZonalBucket
