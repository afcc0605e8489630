/-!
# Routes

The paths that are answered: the root, a bucket, and the metadata of an object in a
bucket.  The name of a bucket is not empty and has no slash.  A key may be anything
but a text with a line break; it may hold slashes, even the words of the path
itself, since the bucket ends at the first slash and the key before the last word.

`Route.ofPath?` reads a path and `Route.path` writes it.  One line break behind the
path of the root or of an object does not count; behind a bucket it belongs to the
name.
-/

namespace ZonalBucket.Http

/-- What a path asks for. -/
inductive Route where
  | greeting
  | bucket (name : String)
  | metadata (bucket key : String)
deriving DecidableEq, Repr

/-- A request method that a route can have. -/
inductive Method where
  | get
  | delete
deriving DecidableEq, Repr

/-- The name of a method. -/
def Method.name : Method → String
  | get => "GET"
  | delete => "DELETE"

namespace Route

/-- What the path of a bucket begins with. -/
def bucketsPart : List Char := "/directory-buckets/".toList

/-- What stands between bucket and key. -/
def objectsPart : List Char := "/objects/".toList

/-- What stands behind the key. -/
def metadataPart : List Char := "/metadata".toList

/-- The method of a route. -/
def method : Route → Method
  | greeting => .get
  | bucket _ => .delete
  | metadata _ _ => .get

/-- The characters of the path of a route. -/
def chars : Route → List Char
  | greeting => ['/']
  | bucket name => bucketsPart ++ name.toList
  | metadata name key =>
    bucketsPart ++ (name.toList ++ (objectsPart ++ (key.toList ++ metadataPart)))

/-- The path of a route. -/
def path (route : Route) : String := String.ofList route.chars

/-- What is left of a row behind its beginning. -/
def after? (beginning cs : List Char) : Option (List Char) :=
  if beginning.isPrefixOf cs then some (cs.drop beginning.length) else none

/-- What is left of a row in front of its end. -/
def before? (ending cs : List Char) : Option (List Char) :=
  if ending.isSuffixOf cs then some (cs.take (cs.length - ending.length)) else none

/-- A row without the line break at its end, if there is one. -/
def dropBreak (cs : List Char) : List Char := (before? ['\n'] cs).getD cs

/-- Reads the key of an object and what stands behind it. -/
def keyOf? (cs : List Char) : Option String :=
  (before? metadataPart (dropBreak cs)).bind fun key =>
    if '\n' ∈ key then none else some (String.ofList key)

/-- Reads what follows the beginning of the path of a bucket. -/
def inBucket? (cs : List Char) : Option Route :=
  let name := cs.takeWhile (· != '/')
  let rest := cs.dropWhile (· != '/')
  if name = [] then none
  else if rest = [] then some (bucket (String.ofList name))
  else ((after? objectsPart rest).bind keyOf?).map fun key => metadata (String.ofList name) key

/-- Reads a path. -/
def ofChars? (cs : List Char) : Option Route :=
  if dropBreak cs = ['/'] then some greeting else (after? bucketsPart cs).bind inBucket?

/-- The route of a path. -/
def ofPath? (path : String) : Option Route := ofChars? path.toList

end Route

end ZonalBucket.Http
