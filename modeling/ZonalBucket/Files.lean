import ZonalBucket.Failure

/-!
# Local files

The files that can be uploaded live in a tree of folders, of which one is the working
folder.  A path is first brought into its normal form: repeated slashes and parts that
are a single dot fall away, and so does a slash at the end, while two dots stay and two
slashes at the beginning are not one.  It is then followed part by part, from the
working folder or from the root on, where two dots lead back to the folder above.

Following a path fails at a part that is missing, that is no folder though there are
parts behind it, or that is longer than a file name may be, whichever comes first on
the way.  A path that is too long as a whole is not followed at all.

Writing a file makes the folders on the way to it, and so does making a folder.  The
folders that were made before a failure stay.
-/

namespace ZonalBucket

/-- Cuts a row at every character that equals the mark. -/
def splitAt (mark : Char) : List Char → List (List Char)
  | [] => [[]]
  | c :: cs =>
    if c = mark then [] :: splitAt mark cs
    else match splitAt mark cs with
      | [] => [[c]]
      | first :: rest => (c :: first) :: rest

/-- A path in normal form: the slashes that it begins with, and its parts. -/
structure FilePath where
  root : String
  parts : List String
deriving DecidableEq, Repr

namespace FilePath

/-- The slashes that a path keeps at its beginning. -/
def rootOf (cs : List Char) : String :=
  match (cs.takeWhile (· == '/')).length with
  | 0 => ""
  | 2 => "//"
  | _ => "/"

/-- The normal form of a path. -/
def ofString (s : String) : FilePath where
  root := rootOf s.toList
  parts := ((splitAt '/' s.toList).filter fun part =>
    part ≠ [] ∧ part ≠ ['.']).map String.ofList

/-- The text of a path. -/
def text (p : FilePath) : String :=
  if p.root = "" ∧ p.parts = [] then "." else p.root ++ "/".intercalate p.parts

/-- The folder that a path stands in, by its text alone. -/
def parent (p : FilePath) : FilePath := { p with parts := p.parts.dropLast }

end FilePath

/-- What can stand under a name: a file, or a folder with what it holds. -/
inductive FileNode where
  | file (bytes : List UInt8)
  | folder (entries : List (String × FileNode))

/-- The way to a node: what was passed from the root on, the last first, by name. -/
abbrev Trail := List (String × FileNode)

/-- All folders and files, as the folder at the root. -/
structure Files where
  root : FileNode

namespace FileNode

/-- What a folder holds under a name. -/
def child? (node : FileNode) (name : String) : Option FileNode :=
  match node with
  | file _ => none
  | folder entries => entries.lookup name

/-- A folder with a node under a name in front of what stood there. -/
def withChild (node : FileNode) (name : String) (child : FileNode) : FileNode :=
  match node with
  | file bytes => file bytes
  | folder entries => folder ((name, child) :: entries.filter fun old => old.1 ≠ name)

/-- A folder with a node at a place below it. -/
def insert (node : FileNode) : List String → FileNode → FileNode
  | [], new => new
  | name :: rest, new =>
    node.withChild name (((node.child? name).getD (folder [])).insert rest new)

end FileNode

namespace Files

/-- The longest name that a file may have, in bytes. -/
def longestName : Nat := 255

/-- The longest path that can be followed, in bytes. -/
def longestPath : Nat := 4095

/-- Whether a name is longer than that of a file may be. -/
def isLongName (name : String) : Bool := longestName < name.utf8ByteSize

/-- The names that lead from the root to the working folder.  No path can spell the last. -/
def workingPlace : List String := ["tmp", "/"]

/-- The files that there are at the beginning: none, in an empty working folder. -/
def empty : Files where
  root := (FileNode.folder []).insert workingPlace (.folder [])

/-- The node at the end of a trail. -/
def nodeAt (files : Files) : Trail → FileNode
  | [] => files.root
  | (_, node) :: _ => node

/-- The trail to a place, as far as there are nodes. -/
def trailTo (files : Files) (place : List String) : Trail :=
  place.foldl (fun trail name => match (files.nodeAt trail).child? name with
    | some node => (name, node) :: trail
    | none => trail) []

/-- The names on a trail, from the root on. -/
def placeOf (trail : Trail) : List String := (trail.map (·.1)).reverse

/-- Where a path starts from. -/
def start (files : Files) (path : FilePath) : Trail :=
  if path.root = "" then files.trailTo workingPlace else []

/-- The trail to the folder that a row of parts leads to. -/
def follow (files : Files) (trail : Trail) : List String → Except FileFault Trail
  | [] => match files.nodeAt trail with
    | .file _ => .error .noFolder
    | .folder _ => .ok trail
  | part :: rest => match files.nodeAt trail with
    | .file _ => .error .noFolder
    | .folder entries =>
      if isLongName part then .error .longName
      else if part = ".." then follow files trail.tail rest
      else match entries.lookup part with
        | none => .error .missing
        | some node => follow files ((part, node) :: trail) rest

/-- The place that a path leads to, and what stands there.  The folder that it is in must
be there. -/
def resolve (files : Files) (path : FilePath) :
    Except FileFault (List String × Option FileNode) :=
  if longestPath < path.text.utf8ByteSize then .error .longName
  else match path.parts.getLast? with
    | none =>
      let trail := files.start path
      .ok (placeOf trail, some (files.nodeAt trail))
    | some name => match follow files (files.start path) path.parts.dropLast with
      | .error fault => .error fault
      | .ok trail =>
        if isLongName name then .error .longName
        else if name = ".." then .ok (placeOf trail.tail, some (files.nodeAt trail.tail))
        else .ok (placeOf trail ++ [name], (files.nodeAt trail).child? name)

/-- What stands at a path. -/
def find (files : Files) (path : FilePath) : Except FileFault FileNode :=
  match files.resolve path with
  | .error fault => .error fault
  | .ok (_, some node) => .ok node
  | .ok (_, none) => .error .missing

/-- Whether a path has a character that cannot be handed over. -/
def hasNull (path : FilePath) : Bool := path.parts.any fun part => part.toList.contains '\x00'

/-- The bytes of the regular file at a path. -/
def read (files : Files) (path : String) : Except Failure (List UInt8) :=
  let normal := FilePath.ofString path
  if hasNull normal then .error (.noFile normal.text)
  else match files.find normal with
    | .ok (.file bytes) => .ok bytes
    | .error .longName => .error (.obstructed .longName normal.text)
    | _ => .error (.noFile normal.text)

/-- The files with a node at a place in front of what stood there. -/
def put (files : Files) (place : List String) (node : FileNode) : Files :=
  ⟨files.root.insert place node⟩

/-- The files with a new folder at a path. -/
def addFolder (files : Files) (path : FilePath) : Except FileFault Files :=
  if hasNull path then .error .nullCharacter
  else match files.resolve path with
    | .error fault => .error fault
    | .ok (_, some _) => .error .taken
    | .ok (place, none) => .ok (files.put place (.folder []))

/-- The files with a file at a path. -/
def addFile (files : Files) (path : FilePath) (bytes : List UInt8) : Except FileFault Files :=
  if hasNull path then .error .nullCharacter
  else match files.resolve path with
    | .error fault => .error fault
    | .ok (_, some (.folder _)) => .error .isFolder
    | .ok (place, _) => .ok (files.put place (.file bytes))

/-- What adding a folder at a path comes to: it is no failure that there is one. -/
def settle (files : Files) (path : FilePath) :
    Except FileFault Files → Except Failure Unit × Files
  | .ok next => (.ok (), next)
  | .error fault => match files.find path with
    | .ok (.folder _) => (.ok (), files)
    | _ => (.error (.obstructed fault path.text), files)

/-- Makes a folder whose parts are given from the last one on, and the folders on the way
to it as far as they are missing. -/
def makeFolders (files : Files) (root : String) : List String → Except Failure Unit × Files
  | [] => (.ok (), files)
  | name :: before =>
    let path : FilePath := ⟨root, (name :: before).reverse⟩
    match files.addFolder path with
    | .error .missing => match makeFolders files root before with
      | (.ok (), files) => files.settle path (files.addFolder path)
      | failed => failed
    | outcome => files.settle path outcome

/-- Makes a folder at a path in normal form. -/
def makeFolderAt (files : Files) (path : FilePath) : Except Failure Unit × Files :=
  files.makeFolders path.root path.parts.reverse

/-- Makes a folder at a path, and all folders on the way. -/
def makeFolder (files : Files) (path : String) : Except Failure Unit × Files :=
  files.makeFolderAt (FilePath.ofString path)

/-- Writes a file at a path, and makes all folders on the way. -/
def write (files : Files) (path : String) (bytes : List UInt8) : Except Failure Unit × Files :=
  let normal := FilePath.ofString path
  match files.makeFolderAt normal.parent with
  | (.error failure, files) => (.error failure, files)
  | (.ok (), files) => match files.addFile normal bytes with
    | .ok next => (.ok (), next)
    | .error fault => (.error (.obstructed fault normal.text), files)

end Files

end ZonalBucket
