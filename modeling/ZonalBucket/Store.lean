import ZonalBucket.Catalog
import ZonalBucket.Digest
import ZonalBucket.Failure

/-!
# The store

Buckets by name, and in each bucket objects by key.  An object is its bytes and
its content type; entity tag, length and the moment of its last change follow from
them.  A bucket must be there for all that is done in it, can be created only when
it is not there, and can be deleted only when it is empty; otherwise the store
refuses the call and stays as it is.
-/

namespace ZonalBucket

/-- What is stored under a key. -/
structure Object where
  body : List UInt8
  contentType : String
deriving DecidableEq

namespace Object

/-- The content type of an object that was stored without one. -/
def defaultContentType : String := "binary/octet-stream"

/-- The entity tag: the digest of the bytes, in double quotes. -/
def etag (o : Object) : String := "\"" ++ Digest.hexDigest o.body ++ "\""

/-- The moment at which every object counts as changed: half past noon, universal
time, on the first of May 2024. -/
def lastModified : Timestamp where
  date := ⟨2024, 5, 1, by decide⟩
  clock := ⟨12, 30, 0, 0, by decide⟩
  offset := some Offset.universal

/-- The object with these bytes; an empty content type is none. -/
def ofUpload (body : List UInt8) (contentType : Option String) : Object where
  body := body
  contentType := match contentType with
    | some type => if type = "" then defaultContentType else type
    | none => defaultContentType

/-- The store's answer to a metadata request. -/
def toReply (o : Object) : Document :=
  .object [
    ("ETag", .text o.etag),
    ("ContentType", .text o.contentType),
    ("ContentLength", .int o.body.length),
    ("LastModified", .time lastModified)]

end Object

/-- Objects by key. -/
abbrev Bucket := Catalog Object

/-- Buckets by name. -/
abbrev Store := Catalog Bucket

namespace Store

/-- The refusal of a call that needs a bucket which is not there. -/
def noSuchBucket (operation : String) : ServiceFault :=
  .plain "NoSuchBucket" "The specified bucket does not exist" operation

/-- The refusal to create a bucket that is there. -/
def alreadyOwned : ServiceFault :=
  .plain "BucketAlreadyOwnedByYou"
    "Your previous request to create the named bucket succeeded and you already own it."
    "CreateBucket"

/-- The refusal of metadata of an object that is not there. -/
def noSuchObject : ServiceFault := .plain "404" "Not Found" "HeadObject"

/-- The refusal to delete a bucket that has objects. -/
def notEmpty : ServiceFault :=
  .plain "BucketNotEmpty" "The bucket you tried to delete is not empty" "DeleteBucket"

/-- A bucket that must be there. -/
def bucket (s : Store) (name operation : String) : Except ServiceFault Bucket :=
  match s.get? name with
  | some bucket => .ok bucket
  | none => .error (noSuchBucket operation)

theorem bucket_of_some {s : Store} {name : String} {bucket : Bucket}
    (h : s.get? name = some bucket) (operation : String) :
    s.bucket name operation = .ok bucket := by
  simp only [Store.bucket, h]

/-- A bucket that is not there is refused in the name of the operation that asked for
it. -/
theorem bucket_of_none {s : Store} {name : String} (h : s.get? name = none)
    (operation : String) : s.bucket name operation = .error (noSuchBucket operation) := by
  simp only [Store.bucket, h]

/-- The store with a new, empty bucket. -/
def create (s : Store) (name : String) : Except ServiceFault Store :=
  if s.contains name then .error alreadyOwned else .ok (s.insert name Catalog.empty)

/-- The store with an object under a key. -/
def put (s : Store) (name key : String) (object : Object) : Except ServiceFault Store :=
  (s.bucket name "PutObject").map fun bucket => s.insert name (bucket.insert key object)

/-- The object under a key. -/
def head (s : Store) (name key : String) : Except ServiceFault Object :=
  (s.bucket name "HeadObject").bind fun bucket =>
    match bucket.get? key with
    | some object => .ok object
    | none => .error noSuchObject

/-- The keys of a bucket, in order. -/
def keys (s : Store) (name : String) : Except ServiceFault (List String) :=
  (s.bucket name "ListObjectsV2").map Catalog.names

/-- The keys of a bucket are listed in order. -/
theorem keys_of_some {s : Store} {name : String} {bucket : Bucket}
    (h : s.get? name = some bucket) : s.keys name = .ok bucket.names := by
  rw [keys, bucket_of_some h, Except.map]

/-- The store without the objects under some keys, of which any may be missing. -/
def deleteObjects (s : Store) (name : String) (keys : List String) : Except ServiceFault Store :=
  (s.bucket name "DeleteObjects").map fun bucket => s.insert name (bucket.eraseAll keys)

/-- The store without the object under a key, which may be missing. -/
def deleteObject (s : Store) (name key : String) : Except ServiceFault Store :=
  (s.bucket name "DeleteObject").map fun bucket => s.insert name (bucket.erase key)

/-- The store without a bucket, which must be empty. -/
def deleteBucket (s : Store) (name : String) : Except ServiceFault Store :=
  (s.bucket name "DeleteBucket").bind fun bucket =>
    if bucket.isEmpty then .ok (s.erase name) else .error notEmpty

/-- The object under a key is found, or refused as missing. -/
theorem head_of_some {s : Store} {name : String} {bucket : Bucket}
    (h : s.get? name = some bucket) (key : String) :
    s.head name key = match bucket.get? key with
      | some object => .ok object
      | none => .error noSuchObject := by
  rw [head, bucket_of_some h]
  rfl

/-- Without the bucket its objects are not looked for, and the refusal is another one.
-/
theorem head_of_none {s : Store} {name : String} (h : s.get? name = none) (key : String) :
    s.head name key = .error (noSuchBucket "HeadObject") := by
  rw [head, bucket_of_none h]
  rfl

theorem deleteBucket_of_some {s : Store} {name : String} {bucket : Bucket}
    (h : s.get? name = some bucket) :
    s.deleteBucket name = if bucket.isEmpty then .ok (s.erase name) else .error notEmpty := by
  rw [deleteBucket, bucket_of_some h]
  rfl

theorem deleteBucket_of_none {s : Store} {name : String} (h : s.get? name = none) :
    s.deleteBucket name = .error (noSuchBucket "DeleteBucket") := by
  rw [deleteBucket, bucket_of_none h]
  rfl

/-- Creating a bucket leaves the others as they are, so that a store can be changed
one bucket at a time. -/
theorem get?_of_create {s next : Store} {name other : String} (h : s.create name = .ok next)
    (hother : other ≠ name) : next.get? other = s.get? other := by
  rw [create] at h
  split at h
  · cases h
  · cases h
    exact (Catalog.get?_insert _ _ _ _).trans (if_neg hother)

/-- A change of what a bucket holds leaves the others as they are. -/
theorem get?_of_changed {s next : Store} {name operation other : String} {change : Bucket → Bucket}
    (h : (s.bucket name operation).map (fun bucket => s.insert name (change bucket)) = .ok next)
    (hother : other ≠ name) : next.get? other = s.get? other := by
  cases hbucket : s.bucket name operation with
  | error fault => simp [hbucket, Except.map] at h
  | ok bucket =>
    rw [hbucket] at h
    cases h
    exact (Catalog.get?_insert _ _ _ _).trans (if_neg hother)

/-- Deleting a bucket leaves the others as they are, with all their objects. -/
theorem get?_of_deleteBucket {s next : Store} {name other : String}
    (h : s.deleteBucket name = .ok next) (hother : other ≠ name) :
    next.get? other = s.get? other := by
  cases hbucket : s.bucket name "DeleteBucket" with
  | error fault => simp [deleteBucket, hbucket, Except.bind] at h
  | ok bucket =>
    simp only [deleteBucket, hbucket, Except.bind] at h
    split at h
    · cases h
      exact (Catalog.get?_erase _ _ _).trans (if_neg hother)
    · cases h

/-- The store with objects put directly into a bucket, which need not be there. -/
def seed (s : Store) (name : String) (keys : List String) (object : Object) : Store :=
  s.insert name (keys.foldl (fun bucket key => bucket.insert key object)
    ((s.get? name).getD Catalog.empty))

end Store

end ZonalBucket
