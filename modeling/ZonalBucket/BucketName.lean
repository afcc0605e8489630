import ZonalBucket.Failure

/-!
# Bucket names

The name of a zonal bucket is made of a stem, a part that tells it from other
buckets of the same stem, the zone, and an ending that marks the kind of bucket.
Unless the distinguishing part is given, it is the clock in whole milliseconds.
-/

namespace ZonalBucket.BucketName

/-- The ending that marks a zonal bucket. -/
def ending : String := "--x-s3"

/-- The clock, which counts nanoseconds, in whole milliseconds. -/
def milliseconds (clock : Int) : Int := clock / 1000000

/-- The distinguishing part when none is given. -/
def stamp (clock : Int) : String := toString (milliseconds clock)

/-- A name from its parts. -/
def ofParts (stem middle zone : String) : String :=
  stem ++ "-" ++ middle ++ "--" ++ zone ++ ending

/-- The name of a bucket; neither the stem nor the zone may be empty. -/
def make (stem zone : String) (middle : Option String) (clock : Int) : Except Failure String :=
  if stem = "" then .error (.emptyArgument .namePrefix)
  else if zone = "" then .error (.emptyArgument .zone)
  else .ok (ofParts stem (middle.getD (stamp clock)) zone)

end ZonalBucket.BucketName
