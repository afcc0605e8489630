import ZonalBucket.Lookup
import ZonalBucket.MediaType.Table

/-!
# The media type of a file

The media type is guessed from the name of the file alone.  An extension counts
from the last dot of the last part of the path, unless only dots stand before it.
An extension that stands for an archive and its compression is written out first,
and the mark of a compression is passed over; what is left is looked up in lower
case.

A name may begin with a scheme, which ends at the first colon before any slash;
then only the rest counts.  The scheme `data` announces the media type itself.
-/

namespace ZonalBucket.MediaType

/-- Splits a text before its first colon, if something but no slash stands before
it. -/
def splitScheme (cs : List Char) : Option (List Char) × List Char :=
  let scheme := cs.takeWhile fun c => c != ':' && c != '/'
  match cs.dropWhile fun c => c != ':' && c != '/' with
  | ':' :: rest => if scheme = [] then (none, cs) else (some scheme, rest)
  | _ => (none, cs)

/-- The last part of a path, and what stands before it with its slash. -/
def splitLast (cs : List Char) : List Char × List Char :=
  let last := (cs.reverse.takeWhile (· != '/')).reverse
  (cs.take (cs.length - last.length), last)

/-- Splits off the extension, which begins with a dot. -/
def splitExtension (cs : List Char) : List Char × List Char :=
  let (folder, name) := splitLast cs
  let extension := (name.reverse.takeWhile (· != '.')).reverse
  if extension.length = name.length then (cs, [])
  else
    let stem := name.take (name.length - extension.length - 1)
    if stem.all (· == '.') then (cs, []) else (folder ++ stem, '.' :: extension)

/-- A character in lower case.  Of the characters outside ASCII only the Kelvin sign
has an ASCII lower case. -/
def lower (c : Char) : Char := if c.toNat = 0x212A then 'k' else c.toLower

/-- The extensions that stand for two. -/
def written : List (String × String) := [
  (".svgz", ".svg.gz"),
  (".tgz", ".tar.gz"),
  (".taz", ".tar.gz"),
  (".tz", ".tar.gz"),
  (".tbz2", ".tar.bz2"),
  (".txz", ".tar.xz")]

/-- The marks of a compression. -/
def compressions : List String := [".gz", ".Z", ".bz2", ".xz", ".br"]

/-- The extension that tells the media type. -/
def extensionOf (cs : List Char) : List Char :=
  let (stem, extension) := splitExtension cs
  let (stem, extension) := match written.lookup (String.ofList (extension.map lower)) with
    | some full => splitExtension (stem ++ full.toList)
    | none => (stem, extension)
  if String.ofList extension ∈ compressions then (splitExtension stem).2 else extension

/-- The media type that the text after the scheme `data` announces. -/
def announced (cs : List Char) : Option String :=
  if ',' ∈ cs then
    let header := cs.takeWhile (· != ',')
    let type := header.takeWhile (· != ';')
    if '=' ∈ type ∨ '/' ∉ type then some "text/plain" else some (String.ofList type)
  else none

/-- The media type that the name of a file suggests. -/
def guess (path : String) : Option String :=
  match splitScheme path.toList with
  | (some scheme, rest) =>
    if scheme.map lower = "data".toList then announced rest
    else byExtension.lookup (String.ofList ((extensionOf rest).map lower))
  | (none, rest) => byExtension.lookup (String.ofList ((extensionOf rest).map lower))

end ZonalBucket.MediaType
