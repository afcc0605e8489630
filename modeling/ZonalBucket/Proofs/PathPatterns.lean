import ZonalBucket.Proofs.WrittenPaths

/-!
# Patterns of paths

Which paths the routes accept can be told without reading them: a pattern is a row of
words and of parts that vary, and `Fits` says which pieces of a path may stand for those.
A path may fit a pattern in several ways, since nothing is said about how long a piece is.

For the metadata route there is at most one way, `fits_metadata_iff`, although a key may
hold the words of the pattern: the first slash ends the bucket, and the last word of the
path ends the key.  The reader finds it, `ofChars?_eq_metadata_iff`.  So bucket and key are
written without ambiguity, `metadata_paths_unambiguous`.
-/

namespace ZonalBucket.Http.Route

/-- A part of a pattern. -/
inductive PatternPart where
  /-- These characters. -/
  | word (cs : List Char)
  /-- One character or more, none of them a slash. -/
  | name
  /-- Any number of characters, none of them a line break. -/
  | key

/-- The characters fit the pattern from end to end, and these pieces stand for the parts
that vary.  One line break may follow behind the last part. -/
inductive Fits : List PatternPart → List Char → List String → Prop
  | stop : Fits [] [] []
  | lineBreak : Fits [] ['\n'] []
  | word (begun : List Char) {parts : List PatternPart} {cs : List Char} {pieces : List String}
      (left : Fits parts cs pieces) : Fits (.word begun :: parts) (begun ++ cs) pieces
  | name (piece : String) {parts : List PatternPart} {cs : List Char} {pieces : List String}
      (hname : piece ≠ "") (hslash : '/' ∉ piece.toList) (left : Fits parts cs pieces) :
      Fits (.name :: parts) (piece.toList ++ cs) (piece :: pieces)
  | key (piece : String) {parts : List PatternPart} {cs : List Char} {pieces : List String}
      (hbreak : '\n' ∉ piece.toList) (left : Fits parts cs pieces) :
      Fits (.key :: parts) (piece.toList ++ cs) (piece :: pieces)

/-- The pattern of the metadata of an object. -/
def metadataPattern : List PatternPart :=
  [.word "/directory-buckets/".toList, .name, .word "/objects/".toList, .key,
    .word "/metadata".toList]

/-- The pattern of a bucket. -/
def bucketPattern : List PatternPart := [.word "/directory-buckets/".toList, .name]

section Parts

variable {beginning ending front rest cs tail : List Char} {name key : String}

/-- What is left behind a beginning, as an equation between rows.  Both directions are
needed: to read a path, and to know what a path was that has been read. -/
theorem after?_eq_some_iff : after? beginning cs = some rest ↔ cs = beginning ++ rest := by
  constructor
  · intro h
    rw [after?] at h
    split at h
    · rename_i hbegins
      obtain ⟨left, rfl⟩ := List.isPrefixOf_iff_prefix.1 hbegins
      rw [List.drop_left] at h
      rw [Option.some.inj h]
    · cases h
  · rintro rfl
    exact after?_append beginning rest

/-- What is left in front of an ending, likewise. -/
theorem before?_eq_some_iff : before? ending cs = some front ↔ cs = front ++ ending := by
  constructor
  · intro h
    rw [before?] at h
    split at h
    · rename_i hends
      obtain ⟨left, rfl⟩ := List.isSuffixOf_iff_suffix.1 hends
      rw [List.length_append, Nat.add_sub_cancel, List.take_left] at h
      rw [Option.some.inj h]
    · cases h
  · rintro rfl
    exact before?_append front ending

/-- One line break at the end is dropped, and it may be behind another one. -/
theorem dropBreak_append_break (cs : List Char) : dropBreak (cs ++ ['\n']) = cs := by
  rw [dropBreak, before?_append, Option.getD_some]

/-- At most one line break is dropped.  What is dropped is a tail of the row, so that
the row can be put together again. -/
theorem exists_eq_dropBreak_append (cs : List Char) :
    ∃ tail, (tail = [] ∨ tail = ['\n']) ∧ cs = dropBreak cs ++ tail := by
  by_cases hends : ∃ front, cs = front ++ ['\n']
  · obtain ⟨front, rfl⟩ := hends
    exact ⟨['\n'], .inr rfl, by rw [dropBreak_append_break]⟩
  · have hnone : before? ['\n'] cs = none := by
      cases h : before? ['\n'] cs with
      | none => rfl
      | some front => exact absurd ⟨front, before?_eq_some_iff.1 h⟩ hends
    exact ⟨[], .inl rfl, by rw [dropBreak, hnone, Option.getD_none, List.append_nil]⟩

/-- The last word of the path ends the key, whatever the key holds. -/
theorem keyOf?_eq_some_iff : keyOf? cs = some key ↔ '\n' ∉ key.toList ∧
    ∃ tail, (tail = [] ∨ tail = ['\n']) ∧ cs = key.toList ++ (metadataPart ++ tail) := by
  constructor
  · intro h
    have hbreak := noBreak_of_keyOf? h
    obtain ⟨front, hfront, hkey⟩ := Option.bind_eq_some_iff.1 h
    split at hkey
    · cases hkey
    · cases hkey
      obtain ⟨tail, htail, hcs⟩ := exists_eq_dropBreak_append cs
      rw [before?_eq_some_iff.1 hfront, List.append_assoc] at hcs
      exact ⟨hbreak, tail, htail, by rwa [String.toList_ofList]⟩
  · rintro ⟨hbreak, tail, rfl | rfl, rfl⟩
    · rw [List.append_nil]
      exact keyOf?_append hbreak
    · rw [← List.append_assoc, keyOf?, dropBreak_append_break, before?_append, Option.bind_some,
        if_neg hbreak, String.ofList_toList]

/-- The first slash ends the name of the bucket.  Behind it the key may hold slashes,
and even the words of the path of an object. -/
theorem inBucket?_eq_metadata_iff : inBucket? cs = some (metadata name key) ↔
    (name ≠ "" ∧ '/' ∉ name.toList) ∧
      ∃ rest, cs = name.toList ++ (objectsPart ++ rest) ∧ keyOf? rest = some key := by
  constructor
  · intro h
    have hproper : (metadata name key).Proper := proper_of_inBucket? h
    simp only [inBucket?] at h
    split at h
    · cases h
    · split at h
      · cases h
      · obtain ⟨found, hfound, heq⟩ := Option.map_eq_some_iff.1 h
        obtain ⟨rest, hrest, hkey⟩ := Option.bind_eq_some_iff.1 hfound
        cases heq
        refine ⟨hproper.1, rest, ?_, hkey⟩
        rw [String.toList_ofList, ← after?_eq_some_iff.1 hrest, List.takeWhile_append_dropWhile]
  · rintro ⟨⟨hname, hslash⟩, rest, rfl, hkey⟩
    exact inBucket?_objects hname hslash hkey

/-- Where no slash follows, all is the name of a bucket. -/
theorem inBucket?_eq_bucket_iff : inBucket? cs = some (bucket name) ↔
    (name ≠ "" ∧ '/' ∉ name.toList) ∧ cs = name.toList := by
  constructor
  · intro h
    have hproper : (Route.bucket name).Proper := proper_of_inBucket? h
    simp only [inBucket?] at h
    split at h
    · cases h
    · split at h
      · rename_i hrest
        cases h
        refine ⟨hproper, ?_⟩
        rw [String.toList_ofList]
        conv => lhs; rw [← List.takeWhile_append_dropWhile (p := (· != '/')) (l := cs), hrest,
          List.append_nil]
      · obtain ⟨found, -, heq⟩ := Option.map_eq_some_iff.1 h
        cases heq
  · rintro ⟨⟨hname, hslash⟩, rfl⟩
    exact inBucket?_bucket hname hslash

/-- Every path that is not that of the root begins like that of a bucket. -/
theorem ofChars?_eq_some_iff {route : Route} (h : route ≠ greeting) :
    ofChars? cs = some route ↔ ∃ rest, cs = bucketsPart ++ rest ∧ inBucket? rest = some route := by
  constructor
  · intro hread
    rw [ofChars?] at hread
    split at hread
    · exact absurd (Option.some.inj hread).symm h
    · obtain ⟨rest, hrest, hroute⟩ := Option.bind_eq_some_iff.1 hread
      exact ⟨rest, after?_eq_some_iff.1 hrest, hroute⟩
  · rintro ⟨rest, rfl, hroute⟩
    rw [ofChars?_buckets, hroute]

/-- A path is read as that of metadata when it is the written one, up to a line break. -/
theorem ofChars?_eq_metadata_iff : ofChars? cs = some (metadata name key) ↔
    (metadata name key).Proper ∧
      ∃ tail, (tail = [] ∨ tail = ['\n']) ∧ cs = (metadata name key).chars ++ tail := by
  rw [ofChars?_eq_some_iff (by simp)]
  constructor
  · rintro ⟨rest, rfl, hroute⟩
    obtain ⟨hname, behind, rfl, hkey⟩ := inBucket?_eq_metadata_iff.1 hroute
    obtain ⟨hbreak, tail, htail, rfl⟩ := keyOf?_eq_some_iff.1 hkey
    exact ⟨⟨hname, hbreak⟩, tail, htail, by simp only [chars, List.append_assoc]⟩
  · rintro ⟨⟨hname, hbreak⟩, tail, htail, rfl⟩
    refine ⟨name.toList ++ (objectsPart ++ (key.toList ++ (metadataPart ++ tail))),
      by simp only [chars, List.append_assoc], ?_⟩
    have hkey : keyOf? (key.toList ++ (metadataPart ++ tail)) = some key :=
      keyOf?_eq_some_iff.2 ⟨hbreak, tail, htail, rfl⟩
    exact inBucket?_eq_metadata_iff.2 ⟨hname, _, rfl, hkey⟩

/-- A path is read as that of a bucket when it is the written one. -/
theorem ofChars?_eq_bucket_iff : ofChars? cs = some (bucket name) ↔
    (bucket name).Proper ∧ cs = (bucket name).chars := by
  rw [ofChars?_eq_some_iff (by simp)]
  constructor
  · rintro ⟨rest, rfl, hroute⟩
    obtain ⟨hname, rfl⟩ := inBucket?_eq_bucket_iff.1 hroute
    exact ⟨hname, rfl⟩
  · rintro ⟨hname, rfl⟩
    exact ⟨name.toList, rfl, inBucket?_eq_bucket_iff.2 ⟨hname, rfl⟩⟩

end Parts

section Patterns

variable {parts : List PatternPart} {begun cs : List Char} {pieces : List String}

/-- Behind the whole pattern there may be one line break and nothing else. -/
theorem fits_nil_iff : Fits [] cs pieces ↔ (cs = [] ∨ cs = ['\n']) ∧ pieces = [] := by
  constructor
  · intro h
    cases h with
    | stop => exact ⟨.inl rfl, rfl⟩
    | lineBreak => exact ⟨.inr rfl, rfl⟩
  · rintro ⟨rfl | rfl, rfl⟩
    · exact .stop
    · exact .lineBreak

/-- A word of the pattern stands at the beginning of the row. -/
theorem fits_word_iff :
    Fits (.word begun :: parts) cs pieces ↔ ∃ rest, cs = begun ++ rest ∧ Fits parts rest pieces := by
  constructor
  · intro h
    cases h with
    | word _ left => exact ⟨_, rfl, left⟩
  · rintro ⟨rest, rfl, left⟩
    exact .word begun left

/-- Some beginning without a slash stands for a name.  How long it is the pattern does
not say, so that it has to be found out from what follows. -/
theorem fits_name_iff : Fits (.name :: parts) cs pieces ↔
    ∃ name rest more, (name ≠ "" ∧ '/' ∉ name.toList) ∧ cs = name.toList ++ rest ∧
      pieces = name :: more ∧ Fits parts rest more := by
  constructor
  · intro h
    cases h with
    | name piece hname hslash left => exact ⟨piece, _, _, ⟨hname, hslash⟩, rfl, rfl, left⟩
  · rintro ⟨name, rest, more, ⟨hname, hslash⟩, rfl, rfl, left⟩
    exact .name name hname hslash left

/-- Any beginning without a line break stands for a key, even one that holds words of
the pattern. -/
theorem fits_key_iff : Fits (.key :: parts) cs pieces ↔
    ∃ key rest more, '\n' ∉ key.toList ∧ cs = key.toList ++ rest ∧
      pieces = key :: more ∧ Fits parts rest more := by
  constructor
  · intro h
    cases h with
    | key piece hbreak left => exact ⟨piece, _, _, hbreak, rfl, rfl, left⟩
  · rintro ⟨key, rest, more, hbreak, rfl, rfl, left⟩
    exact .key key hbreak left

/-- A pattern of five parts as one equation.  All that could make it ambiguous is in
this equation, since it says where each part stands. -/
theorem fits_metadataParts_iff {first second third : List Char} :
    Fits [.word first, .name, .word second, .key, .word third] cs pieces ↔
      ∃ name key tail, pieces = [name, key] ∧ (metadata name key).Proper ∧
        (tail = [] ∨ tail = ['\n']) ∧
        cs = first ++ (name.toList ++ (second ++ (key.toList ++ (third ++ tail)))) := by
  constructor
  · intro h
    obtain ⟨_, rfl, hbuckets⟩ := fits_word_iff.1 h
    obtain ⟨name, _, _, hname, rfl, rfl, hbehind⟩ := fits_name_iff.1 hbuckets
    obtain ⟨_, rfl, hobjects⟩ := fits_word_iff.1 hbehind
    obtain ⟨key, _, _, hbreak, rfl, rfl, hword⟩ := fits_key_iff.1 hobjects
    obtain ⟨tail, rfl, hend⟩ := fits_word_iff.1 hword
    obtain ⟨htail, rfl⟩ := fits_nil_iff.1 hend
    exact ⟨name, key, tail, rfl, ⟨hname, hbreak⟩, htail, rfl⟩
  · rintro ⟨name, key, tail, rfl, ⟨⟨hname, hslash⟩, hbreak⟩, htail, rfl⟩
    have hend : Fits [] tail [] := fits_nil_iff.2 ⟨htail, rfl⟩
    exact .word first (.name name hname hslash (.word second (.key key hbreak
      (.word third hend))))

theorem fits_bucketParts_iff {first : List Char} : Fits [.word first, .name] cs pieces ↔
    ∃ name tail, pieces = [name] ∧ (bucket name).Proper ∧ (tail = [] ∨ tail = ['\n']) ∧
      cs = first ++ (name.toList ++ tail) := by
  constructor
  · intro h
    obtain ⟨_, rfl, hbuckets⟩ := fits_word_iff.1 h
    obtain ⟨name, tail, _, hname, rfl, rfl, hend⟩ := fits_name_iff.1 hbuckets
    obtain ⟨htail, rfl⟩ := fits_nil_iff.1 hend
    exact ⟨name, tail, rfl, hname, htail, rfl⟩
  · rintro ⟨name, tail, rfl, ⟨hname, hslash⟩, htail, rfl⟩
    exact .word first (.name name hname hslash (fits_nil_iff.2 ⟨htail, rfl⟩))

/-- **The pattern of metadata fits in one way at most,** and that is the one that is read. -/
theorem fits_metadata_iff : Fits metadataPattern cs pieces ↔
    ∃ name key, pieces = [name, key] ∧ ofChars? cs = some (metadata name key) := by
  have hparts : metadataPattern =
      [.word bucketsPart, .name, .word objectsPart, .key, .word metadataPart] := rfl
  rw [hparts, fits_metadataParts_iff]
  simp only [ofChars?_eq_metadata_iff, chars, List.append_assoc]
  constructor
  · rintro ⟨name, key, tail, hpieces, hproper, htail, hcs⟩
    exact ⟨name, key, hpieces, hproper, tail, htail, hcs⟩
  · rintro ⟨name, key, hpieces, hproper, tail, htail, hcs⟩
    exact ⟨name, key, tail, hpieces, hproper, htail, hcs⟩

/-- The pattern of a bucket fits the paths that are read as those of a bucket.  It may fit
in two ways, as a line break at the end may be part of the name. -/
theorem exists_fits_bucket_iff :
    (∃ pieces, Fits bucketPattern cs pieces) ↔ ∃ name, ofChars? cs = some (bucket name) := by
  have hparts : bucketPattern = [.word bucketsPart, .name] := rfl
  simp only [hparts, fits_bucketParts_iff, ofChars?_eq_bucket_iff, chars]
  constructor
  · rintro ⟨pieces, name, tail, -, ⟨hname, hslash⟩, htail, hcs⟩
    -- the reader takes the line break that the pattern leaves for a part of the name
    have hwhole : (name ++ String.ofList tail).toList = name.toList ++ tail := by
      rw [String.toList_append, String.toList_ofList]
    refine ⟨name ++ String.ofList tail, ⟨?_, ?_⟩, by rw [hwhole, hcs]⟩
    · intro hempty
      have hnil : name.toList ++ tail = [] := by rw [← hwhole, hempty, String.toList_empty]
      exact hname (String.toList_eq_nil_iff.1 (List.append_eq_nil_iff.1 hnil).1)
    · rw [hwhole, List.mem_append]
      rintro (hin | hin)
      · exact hslash hin
      · rcases htail with rfl | rfl <;> simp at hin
  · rintro ⟨name, hproper, hcs⟩
    exact ⟨[name], name, [], rfl, hproper, .inl rfl, by rw [hcs, List.append_nil]⟩

end Patterns

/-- The path of the metadata of an object. -/
def metadataPath (bucket key : String) : String :=
  s!"/directory-buckets/{bucket}/objects/{key}/metadata"

/-- A proper pair is read back from its path.  To be proper means that the name is not
empty and has no slash, and that the key has no line break. -/
theorem ofPath?_metadataPath {bucket key : String} (h : (metadata bucket key).Proper) :
    ofPath? (metadataPath bucket key) = some (metadata bucket key) := by
  have hpath : (metadata bucket key).path = metadataPath bucket key := path_metadata bucket key
  rw [← hpath]
  exact ofPath?_path h

/-- A path without line breaks is written from the pair that is read from it. -/
theorem eq_metadataPath_of_ofPath? {path bucket key : String} (hbreak : '\n' ∉ path.toList)
    (h : ofPath? path = some (metadata bucket key)) : path = metadataPath bucket key := by
  obtain ⟨-, tail, htail, hpath⟩ := ofChars?_eq_metadata_iff.1 h
  have hnone : tail = [] := by
    rcases htail with rfl | rfl
    · rfl
    · rw [hpath] at hbreak
      simp at hbreak
  rw [hnone, List.append_nil] at hpath
  calc path = (metadata bucket key).path := by rw [Route.path, ← hpath, String.ofList_toList]
    _ = metadataPath bucket key := path_metadata bucket key

/-- **Paths of metadata are unambiguous.**  The metadata route accepts the paths that fit its
pattern, with the pieces that stand for bucket and key.  A bucket and a key are read back
from their path, in no other way, and no other pair has that path; and a path without line
breaks is the path of the pair that is read from it.  No path fits the patterns of both
routes. -/
theorem metadata_paths_unambiguous (path : String) :
    (∀ pieces, Fits metadataPattern path.toList pieces ↔
      ∃ bucket key, pieces = [bucket, key] ∧ ofPath? path = some (metadata bucket key)) ∧
    (∀ bucket key, bucket ≠ "" → '/' ∉ bucket.toList → '\n' ∉ key.toList →
      path = metadataPath bucket key →
      ofPath? path = some (metadata bucket key) ∧
      (∀ pieces, Fits metadataPattern path.toList pieces ↔ pieces = [bucket, key]) ∧
      ∀ other name, other ≠ "" → '/' ∉ other.toList → '\n' ∉ name.toList →
        path = metadataPath other name → other = bucket ∧ name = key) ∧
    (∀ bucket key, '\n' ∉ path.toList → ofPath? path = some (metadata bucket key) →
      path = metadataPath bucket key) ∧
    ((∃ pieces, Fits bucketPattern path.toList pieces) ↔
      ∃ name, ofPath? path = some (bucket name)) ∧
    ¬((∃ pieces, Fits metadataPattern path.toList pieces) ∧
      ∃ pieces, Fits bucketPattern path.toList pieces) := by
  have hread : ∀ {bucket key}, bucket ≠ "" → '/' ∉ bucket.toList → '\n' ∉ key.toList →
      path = metadataPath bucket key → ofPath? path = some (metadata bucket key) := by
    intro bucket key hname hslash hbreak hpath
    rw [hpath]
    exact ofPath?_metadataPath ⟨⟨hname, hslash⟩, hbreak⟩
  refine ⟨fun pieces => fits_metadata_iff, ?_, ?_, exists_fits_bucket_iff, ?_⟩
  · intro bucket key hname hslash hbreak hpath
    have hmine := hread hname hslash hbreak hpath
    refine ⟨hmine, fun pieces => ?_, ?_⟩
    · rw [fits_metadata_iff]
      constructor
      · rintro ⟨other, name, rfl, hother⟩
        cases hmine.symm.trans hother
        rfl
      · intro hpieces
        exact ⟨bucket, key, hpieces, hmine⟩
    · intro other name hname' hslash' hbreak' hpath'
      cases hmine.symm.trans (hread hname' hslash' hbreak' hpath')
      exact ⟨rfl, rfl⟩
  · intro bucket key hbreak h
    exact eq_metadataPath_of_ofPath? hbreak h
  -- A path is read as one route at most, whichever pattern it is read along.
  · rintro ⟨⟨pieces, hmetadata⟩, hbucket⟩
    obtain ⟨name, key, -, hroute⟩ := fits_metadata_iff.1 hmetadata
    obtain ⟨other, hother⟩ := exists_fits_bucket_iff.1 hbucket
    cases hroute.symm.trans hother

/-- The words of the pattern may not overlap. -/
example : ofPath? "/directory-buckets/b/objects/metadata" = none := by decide

/-- The key holds words of the pattern, and it begins and ends with a slash. -/
theorem metadata_paths_unambiguous_nested :
    let path := "/directory-buckets/b/objects//objects//metadata//metadata"
    ofPath? path = some (metadata "b" "/objects//metadata/") ∧
      (∀ pieces, Fits metadataPattern path.toList pieces ↔ pieces = ["b", "/objects//metadata/"]) ∧
      (∀ other name, other ≠ "" → '/' ∉ other.toList → '\n' ∉ name.toList →
        path = metadataPath other name → other = "b" ∧ name = "/objects//metadata/") ∧
      path = metadataPath "b" "/objects//metadata/" := by
  intro path
  obtain ⟨-, hwritten, hread, -⟩ := metadata_paths_unambiguous path
  obtain ⟨hroute, hpieces, hpair⟩ :=
    hwritten "b" "/objects//metadata/" (by decide) (by decide) (by decide) rfl
  exact ⟨hroute, hpieces, hpair, hread _ _ (by decide) hroute⟩

end ZonalBucket.Http.Route
