import ZonalBucket.Http.Route

/-!
# Written paths are read back

The path that `Route.path` writes for a route is read as that route, `Route.ofPath?_path`.
The name of a bucket ends at the first slash, and so it may have none; a key ends before
the last word of the path, and so it may hold anything but a line break, which no path
may have there.  The other way round, whatever is read from a path is about a proper name
and key, `Route.proper_of_ofPath?`.

`Route.path_bucket` and `Route.path_metadata` show the paths in words.
-/

namespace ZonalBucket.Http.Route

/-- What a route may be about: the name of a bucket is neither empty nor has it a slash,
and a key has no line break. -/
def Proper : Route → Prop
  | greeting => True
  | bucket name => name ≠ "" ∧ '/' ∉ name.toList
  | metadata name key => (name ≠ "" ∧ '/' ∉ name.toList) ∧ '\n' ∉ key.toList

section Parts

/-- Behind a beginning that is there, the rest is found. -/
theorem after?_append (beginning rest : List Char) :
    after? beginning (beginning ++ rest) = some rest := by
  have hbegins : beginning.isPrefixOf (beginning ++ rest) = true :=
    List.isPrefixOf_iff_prefix.2 (List.prefix_append _ _)
  rw [after?, if_pos hbegins, List.drop_left]

theorem before?_append (front ending : List Char) :
    before? ending (front ++ ending) = some front := by
  have hends : ending.isSuffixOf (front ++ ending) = true :=
    List.isSuffixOf_iff_suffix.2 (List.suffix_append _ _)
  rw [before?, if_pos hends, List.length_append, Nat.add_sub_cancel, List.take_left]

/-- Only a row that ends in a line break loses it. -/
theorem dropBreak_of_getLast? {cs : List Char} (h : cs.getLast? ≠ some '\n') :
    dropBreak cs = cs := by
  have hends : ¬['\n'].isSuffixOf cs = true := by
    intro hsuffix
    obtain ⟨front, rfl⟩ := List.isSuffixOf_iff_suffix.1 hsuffix
    exact h List.getLast?_concat
  rw [dropBreak, before?, if_neg hends, Option.getD_none]

/-- A name without a slash is taken up to the slash behind it. -/
theorem takeWhile_of_noSlash {name : List Char} (h : '/' ∉ name) (rest : List Char) :
    (name ++ rest).takeWhile (· != '/') = name ++ rest.takeWhile (· != '/') := by
  refine List.takeWhile_append_of_pos fun c hc => ?_
  have hne : c ≠ '/' := fun heq => h (heq ▸ hc)
  simpa using hne

/-- What is left behind such a name is what is left behind its first slash, if there
is one. -/
theorem dropWhile_of_noSlash {name : List Char} (h : '/' ∉ name) (rest : List Char) :
    (name ++ rest).dropWhile (· != '/') = rest.dropWhile (· != '/') := by
  refine List.dropWhile_append_of_pos fun c hc => ?_
  have hne : c ≠ '/' := fun heq => h (heq ▸ hc)
  simpa using hne

end Parts

/-- A key is read back from what stands behind the words in front of it. -/
theorem keyOf?_append {key : String} (h : '\n' ∉ key.toList) :
    keyOf? (key.toList ++ metadataPart) = some key := by
  have hlast : (key.toList ++ metadataPart).getLast? ≠ some '\n' := by
    have hword : metadataPart.getLast? = some 'a' := by decide
    rw [List.getLast?_append, hword, Option.some_or]
    decide
  rw [keyOf?, dropBreak_of_getLast? hlast, before?_append, Option.bind_some, if_neg h,
    String.ofList_toList]

/-- A name with nothing behind it is that of a bucket. -/
theorem inBucket?_bucket {name : String} (hname : name ≠ "") (hslash : '/' ∉ name.toList) :
    inBucket? name.toList = some (bucket name) := by
  have hnil : name.toList ≠ [] := fun h => hname (String.toList_inj.1 h)
  have htake := takeWhile_of_noSlash hslash []
  have hdrop := dropWhile_of_noSlash hslash []
  simp only [List.append_nil, List.takeWhile_nil, List.dropWhile_nil] at htake hdrop
  simp only [inBucket?, htake, hdrop, if_neg hnil, if_true, String.ofList_toList]

/-- The words behind the name of a bucket begin with a slash, which ends the name. -/
theorem inBucket?_objects {name key : String} {rest : List Char} (hname : name ≠ "")
    (hslash : '/' ∉ name.toList) (hkey : keyOf? rest = some key) :
    inBucket? (name.toList ++ (objectsPart ++ rest)) = some (metadata name key) := by
  have hnil : name.toList ≠ [] := fun h => hname (String.toList_inj.1 h)
  have hobjects : objectsPart = '/' :: "objects/".toList := by decide
  have htake : (name.toList ++ (objectsPart ++ rest)).takeWhile (· != '/') = name.toList := by
    rw [takeWhile_of_noSlash hslash, hobjects, List.cons_append, List.takeWhile_cons_of_neg
      (by decide), List.append_nil]
  have hdrop : (name.toList ++ (objectsPart ++ rest)).dropWhile (· != '/') =
      objectsPart ++ rest := by
    rw [dropWhile_of_noSlash hslash, hobjects, List.cons_append, List.dropWhile_cons_of_neg
      (by decide)]
  have hrest : objectsPart ++ rest ≠ [] := by
    rw [hobjects]
    exact List.cons_ne_nil _ _
  simp only [inBucket?, htake, hdrop, if_neg hnil, if_neg hrest, after?_append,
    Option.bind_some, hkey, Option.map_some, String.ofList_toList]

/-- No path of a bucket is that of the root. -/
theorem dropBreak_buckets_ne (rest : List Char) : dropBreak (bucketsPart ++ rest) ≠ ['/'] := by
  intro h
  have hlength : (bucketsPart ++ rest).length ≤ (dropBreak (bucketsPart ++ rest)).length + 1 := by
    rw [dropBreak, before?]
    split
    · simp only [Option.getD_some, List.length_take, List.length_singleton]
      omega
    · simp
  rw [h, List.length_append] at hlength
  have hbuckets : bucketsPart.length = 19 := by decide
  simp only [List.length_singleton] at hlength
  omega

/-- Behind the beginning of the path of a bucket its name is read. -/
theorem ofChars?_buckets (rest : List Char) :
    ofChars? (bucketsPart ++ rest) = inBucket? rest := by
  rw [ofChars?, if_neg (dropBreak_buckets_ne rest), after?_append, Option.bind_some]

/-- **A written path is read back.**  A route is proper when its bucket is a name and
its key has no line break, and it is then the only one that its path can be read as. -/
theorem ofPath?_path {route : Route} (h : route.Proper) : ofPath? route.path = some route := by
  rw [ofPath?, path, String.toList_ofList]
  cases route with
  | greeting => decide
  | bucket name =>
    obtain ⟨hname, hslash⟩ := h
    rw [chars, ofChars?_buckets]
    exact inBucket?_bucket hname hslash
  | metadata name key =>
    obtain ⟨⟨hname, hslash⟩, hbreak⟩ := h
    rw [chars, ofChars?_buckets]
    exact inBucket?_objects hname hslash (keyOf?_append hbreak)

section Read

/-- A key that was read has no line break, since the path is turned away otherwise. -/
theorem noBreak_of_keyOf? {cs : List Char} {key : String} (h : keyOf? cs = some key) :
    '\n' ∉ key.toList := by
  obtain ⟨front, -, hkey⟩ := Option.bind_eq_some_iff.1 h
  split at hkey
  · cases hkey
  · rename_i hbreak
    cases hkey
    rwa [String.toList_ofList]

/-- What is read behind the beginning of the path of a bucket is proper: the name ends
before the first slash, and it is not empty. -/
theorem proper_of_inBucket? {cs : List Char} {route : Route} (h : inBucket? cs = some route) :
    route.Proper := by
  have hslash : '/' ∉ (String.ofList (cs.takeWhile (· != '/'))).toList := by
    rw [String.toList_ofList]
    intro hmem
    have hkept := List.all_eq_true.1 (List.all_takeWhile (l := cs)) _ hmem
    simp at hkept
  simp only [inBucket?] at h
  split at h
  · cases h
  rename_i hnil
  have hname : String.ofList (cs.takeWhile (· != '/')) ≠ "" := fun hempty =>
    hnil (by simpa using congrArg String.toList hempty)
  split at h
  · cases h
    exact ⟨hname, hslash⟩
  · obtain ⟨key, hkey, rfl⟩ := Option.map_eq_some_iff.1 h
    obtain ⟨rest, -, hrest⟩ := Option.bind_eq_some_iff.1 hkey
    exact ⟨⟨hname, hslash⟩, noBreak_of_keyOf? hrest⟩

/-- Whatever is read from a path is a proper route. -/
theorem proper_of_ofPath? {path : String} {route : Route} (h : ofPath? path = some route) :
    route.Proper := by
  rw [ofPath?, ofChars?] at h
  split at h
  · cases h
    trivial
  · obtain ⟨rest, -, hrest⟩ := Option.bind_eq_some_iff.1 h
    exact proper_of_inBucket? hrest

end Read

section Words

/-- The beginning of the paths of buckets, in words. -/
theorem ofList_bucketsPart : String.ofList bucketsPart = "/directory-buckets/" :=
  String.ofList_toList

theorem ofList_objectsPart : String.ofList objectsPart = "/objects/" := String.ofList_toList

theorem ofList_metadataPart : String.ofList metadataPart = "/metadata" := String.ofList_toList

/-- **The path of a bucket** in words.  The name is not escaped, so that only one
without a slash is read back. -/
theorem path_bucket (name : String) : (bucket name).path = s!"/directory-buckets/{name}" := by
  rw [path, chars, String.ofList_append, ofList_bucketsPart, String.ofList_toList]
  rfl

/-- **The path of the metadata of an object** in words.  Neither name nor key is
escaped; a slash in the key is part of the key. -/
theorem path_metadata (name key : String) :
    (metadata name key).path = s!"/directory-buckets/{name}/objects/{key}/metadata" := by
  simp only [path, chars, String.ofList_append, ofList_bucketsPart, ofList_objectsPart,
    ofList_metadataPart, String.ofList_toList, ← String.append_assoc]
  rfl

end Words

end ZonalBucket.Http.Route
