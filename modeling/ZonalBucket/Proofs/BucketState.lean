import ZonalBucket.Call

/-!
# A call sees one bucket only

What the store does with a call depends on the state of the bucket that the call is about,
and on nothing else of the store: `Call.performAt` says what a call comes to when its bucket
is in a state, and in which state it leaves the bucket, and `Call.perform_eq_performAt` that
this is what the store does.

So stores in which a bucket is in the same state cannot be told apart by calls about this
bucket, `Call.perform_alike`.
-/

namespace ZonalBucket.Call

/-- A bucket that must be there. -/
def needed (state : Option Bucket) (operation : String) : Except Failure Bucket :=
  match state with
  | some bucket => .ok bucket
  | none => .error (.refused (Store.noSuchBucket operation))

/-- What a call comes to when its bucket is in a state, and the state in which it leaves
the bucket. -/
def performAt (pageSize : Int) (state : Option Bucket) :
    Call → Except Failure (Document × Option Bucket)
  | createBucket name _ => match state with
    | some _ => .error (.refused Store.alreadyOwned)
    | none => .ok (.object [("Location", .text ("/" ++ name))], some Catalog.empty)
  | putObject _ key body contentType =>
    let object := Object.ofUpload body contentType
    (needed state "PutObject").map fun bucket =>
      (.object [("ETag", .text object.etag)], some (bucket.insert key object))
  | headObject _ key => (needed state "HeadObject").bind fun bucket =>
    match bucket.get? key with
    | some object => .ok (object.toReply, some bucket)
    | none => .error (.refused Store.noSuchObject)
  | listObjects _ token => (needed state "ListObjectsV2").bind fun bucket =>
    (Failure.ofMalformed
      ((Page.offset bucket.names.length token).bind (Page.reply bucket.names pageSize))).map
      fun answer => (answer, some bucket)
  | deleteObjects _ keys => (needed state "DeleteObjects").map fun bucket =>
    (.object [("Deleted", .list (keys.map fun key => .object [("Key", .text key)]))],
      some (bucket.eraseAll keys))
  | deleteObject _ key => (needed state "DeleteObject").map fun bucket =>
    (.object [], some (bucket.erase key))
  | deleteBucket _ => (needed state "DeleteBucket").bind fun bucket =>
    if bucket.isEmpty then .ok (.object [], none) else .error (.refused Store.notEmpty)

variable {pageSize : Int} {s t : Store} {call : Call}

/-- What can be seen of an answer and a store at one bucket. -/
def seenAt (name : String) (answered : Document × Store) : Document × Option Bucket :=
  (answered.1, answered.2.get? name)

/-- A bucket that must be there is looked for in the store. -/
theorem orRefused_bucket (s : Store) (name operation : String) :
    orRefused (s.bucket name operation) = needed (s.get? name) operation := by
  cases hstate : s.get? name with
  | none => rw [Store.bucket_of_none hstate, orRefused, needed]
  | some bucket => rw [Store.bucket_of_some hstate, orRefused, needed]

/-- A change of what a bucket holds, as it is seen at this bucket. -/
theorem seenAt_changed (s : Store) (name operation : String) (change : Bucket → Bucket)
    (answer : Document) :
    ((orRefused ((s.bucket name operation).map fun bucket => s.insert name (change bucket))).map
        fun next => (answer, next)).map (seenAt name) =
      (needed (s.get? name) operation).map fun bucket => (answer, some (change bucket)) := by
  rw [← orRefused_bucket]
  cases s.bucket name operation with
  | error fault => rfl
  | ok bucket =>
    have hfound : (s.insert name (change bucket)).get? name = some (change bucket) := by
      rw [Catalog.get?_insert, if_pos rfl]
    exact congrArg (fun state => Except.ok (answer, state)) hfound

/-- **The store does with a call what the state of its bucket tells.**  Operations on
different buckets have nothing to do with each other for this reason, and a simulation
needs to look at one bucket only. -/
theorem perform_eq_performAt (pageSize : Int) (s : Store) (call : Call) :
    (perform pageSize s call).map (seenAt call.bucket) =
      performAt pageSize (s.get? call.bucket) call := by
  cases call with
  | createBucket name zone =>
    have hcontains : s.contains name = (s.get? name).isSome := rfl
    rw [perform, Store.create, hcontains, bucket]
    cases s.get? name with
    | some found => rfl
    | none =>
      have hfound : (s.insert name Catalog.empty).get? name = some Catalog.empty := by
        rw [Catalog.get?_insert, if_pos rfl]
      exact congrArg (fun state => Except.ok (_, state)) hfound
  | putObject name key body contentType =>
    exact seenAt_changed s name "PutObject" (·.insert key (.ofUpload body contentType)) _
  | headObject name key =>
    rw [perform, performAt, bucket]
    cases hstate : s.get? name with
    | none =>
      rw [Store.head_of_none hstate]
      rfl
    | some found =>
      rw [Store.head_of_some hstate, needed, Except.bind]
      cases found.get? key with
      | none => rfl
      | some object => exact congrArg (fun state => Except.ok (object.toReply, state)) hstate
  | listObjects name token =>
    -- A listing only reads, so that the bucket is in the same state behind it.
    rw [perform, performAt, bucket]
    cases hstate : s.get? name with
    | none =>
      have hkeys : s.keys name = .error (Store.noSuchBucket "ListObjectsV2") := by
        rw [Store.keys, Store.bucket_of_none hstate, Except.map]
      rw [hkeys]
      rfl
    | some found =>
      rw [Store.keys_of_some hstate, orRefused, needed, Except.bind, Except.bind]
      cases Failure.ofMalformed
          ((Page.offset found.names.length token).bind (Page.reply found.names pageSize)) with
      | error failure => rfl
      | ok answer => exact congrArg (fun state => Except.ok (answer, state)) hstate
  | deleteObjects name keys => exact seenAt_changed s name "DeleteObjects" (·.eraseAll keys) _
  | deleteObject name key => exact seenAt_changed s name "DeleteObject" (·.erase key) _
  | deleteBucket name =>
    rw [perform, performAt, bucket]
    cases hstate : s.get? name with
    | none =>
      rw [Store.deleteBucket_of_none hstate]
      rfl
    | some found =>
      rw [Store.deleteBucket_of_some hstate, needed, Except.bind]
      cases found.isEmpty with
      | false => rfl
      | true =>
        have hgone : (s.erase name).get? name = none := by
          rw [Catalog.get?_erase, if_pos rfl]
        exact congrArg (fun state => Except.ok (_, state)) hgone

/-- **Stores in which the bucket of a call is in the same state answer alike,** and leave
the bucket in the same state again. -/
theorem perform_alike (pageSize : Int) (h : s.get? call.bucket = t.get? call.bucket) :
    (∃ failure, perform pageSize s call = .error failure ∧
        perform pageSize t call = .error failure) ∨
      ∃ answer next other, perform pageSize s call = .ok (answer, next) ∧
        perform pageSize t call = .ok (answer, other) ∧
        next.get? call.bucket = other.get? call.bucket := by
  have hs := perform_eq_performAt pageSize s call
  have ht := perform_eq_performAt pageSize t call
  rw [← h] at ht
  have hboth := hs.trans ht.symm
  cases hfirst : perform pageSize s call with
  | error failure =>
    cases hsecond : perform pageSize t call with
    | error other =>
      rw [hfirst, hsecond] at hboth
      cases hboth
      exact .inl ⟨failure, rfl, rfl⟩
    | ok answered =>
      rw [hfirst, hsecond] at hboth
      cases hboth
  | ok answered =>
    cases hsecond : perform pageSize t call with
    | error other =>
      rw [hfirst, hsecond] at hboth
      cases hboth
    | ok other =>
      rw [hfirst, hsecond] at hboth
      simp only [Except.map, seenAt, Except.ok.injEq, Prod.mk.injEq] at hboth
      obtain ⟨hanswer, hstate⟩ := hboth
      refine .inr ⟨answered.1, answered.2, other.2, rfl, ?_, hstate⟩
      rw [hanswer]

end ZonalBucket.Call
