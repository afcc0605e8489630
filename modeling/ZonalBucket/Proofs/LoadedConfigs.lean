import ZonalBucket.Scenario.Basic

/-!
# Loaded configurations

A configuration is loaded unless the zone or the name stem is set to nothing but blanks,
and then the variable is told, the zone first.  Zone and stem are what their values have
between the blanks around them, `Text.StripsTo`; the region is the first that is not empty,
`Config.RegionFrom`; the endpoint is there when it is not empty.

A loaded configuration is settled: written back to the variables, `Config.toEnvironment`, it
is loaded again, and with it buckets can always be named, `Config.load_settled`.
-/

namespace ZonalBucket

namespace Text

section Trim

variable {drop : Char → Bool} {cs : List Char}

/-- The row neither begins nor ends with a character of the class. -/
structure Bare (drop : Char → Bool) (cs : List Char) : Prop where
  first : ∀ c, cs.head? = some c → drop c = false
  last : ∀ c, cs.getLast? = some c → drop c = false

/-- Nothing is removed in front of a character that is to stay, nor from an empty row.
-/
theorem dropWhile_of_first (h : ∀ c, cs.head? = some c → drop c = false) :
    cs.dropWhile drop = cs := by
  cases cs with
  | nil => rfl
  | cons c rest => exact List.dropWhile_cons_of_neg (by simp [h c rfl])

/-- Where removing stops, it was stopped by a character that stays. -/
theorem first_of_dropWhile {c : Char} (h : (cs.dropWhile drop).head? = some c) :
    drop c = false := by
  have hhead := List.head?_dropWhile_not drop cs
  rw [h] at hhead
  exact hhead

/-- What is left in front, with what is removed behind it. -/
theorem trim_append (drop : Char → Bool) (cs : List Char) :
    trim drop cs ++ ((cs.dropWhile drop).reverse.takeWhile drop).reverse = cs.dropWhile drop := by
  rw [trim, ← List.reverse_append, List.takeWhile_append_dropWhile, List.reverse_reverse]

/-- Only characters of the class are removed, at the two ends. -/
theorem exists_trim (drop : Char → Bool) (cs : List Char) :
    ∃ front back, (∀ c ∈ front, drop c = true) ∧ (∀ c ∈ back, drop c = true) ∧
      cs = front ++ (trim drop cs ++ back) := by
  have htaken : ∀ row : List Char, ∀ c ∈ row.takeWhile drop, drop c = true := by
    intro row c hc
    exact List.all_eq_true.1 List.all_takeWhile c hc
  refine ⟨cs.takeWhile drop, ((cs.dropWhile drop).reverse.takeWhile drop).reverse,
    htaken cs, ?_, ?_⟩
  · intro c hc
    exact htaken _ c (List.mem_reverse.1 hc)
  · rw [trim_append, List.takeWhile_append_dropWhile]

/-- Nothing more can be removed, neither in front nor behind.  Inside of the row there
may still be what is to be dropped. -/
theorem bare_trim (drop : Char → Bool) (cs : List Char) : Bare drop (trim drop cs) where
  first c h := by
    have hhead : (cs.dropWhile drop).head? = some c := by
      rw [← trim_append, List.head?_append, h, Option.some_or]
    exact first_of_dropWhile hhead
  last c h := by
    rw [trim, List.getLast?_reverse] at h
    exact first_of_dropWhile h

/-- A row that is bare already is not touched, so that trimming twice is trimming
once. -/
theorem trim_of_bare (h : Bare drop cs) : trim drop cs = cs := by
  have hback : cs.reverse.dropWhile drop = cs.reverse :=
    dropWhile_of_first fun c hc => h.last c (by rwa [List.head?_reverse] at hc)
  rw [trim, dropWhile_of_first h.first, hback, List.reverse_reverse]

/-- Nothing is left of a row of characters of the class only. -/
theorem trim_eq_nil_iff : trim drop cs = [] ↔ ∀ c ∈ cs, drop c = true := by
  obtain ⟨front, back, hfront, hback, hcs⟩ := exists_trim drop cs
  constructor
  · intro h c hc
    rw [hcs, h, List.nil_append, List.mem_append] at hc
    exact hc.elim (hfront c) (hback c)
  · intro h
    cases htrim : trim drop cs with
    | nil => rfl
    | cons c rest =>
      have hkept : drop c = false := (bare_trim drop cs).first c (by rw [htrim]; rfl)
      have hmem : c ∈ cs := by
        rw [hcs, htrim]
        simp
      rw [h c hmem] at hkept
      cases hkept

end Trim

/-- The text has no character that is no blank. -/
def Blank (s : String) : Prop := ∀ c ∈ s.toList, isBlank c = true

/-- What a text has between the blanks around it. -/
structure StripsTo (value inner : String) : Prop where
  nonempty : inner ≠ ""
  bare : Bare isBlank inner.toList
  around : ∃ front back, Blank front ∧ Blank back ∧ value = front ++ inner ++ back

section Strip

variable {value inner : String}

/-- Only a blank text is stripped to nothing.  The empty text counts as blank. -/
theorem strip_eq_empty_iff : strip value = "" ↔ Blank value := by
  rw [strip, ← String.toList_inj, String.toList_ofList, String.toList_empty]
  exact trim_eq_nil_iff

/-- Unless it is blank, a text is stripped to what it has between the blanks. -/
theorem stripsTo_strip (h : ¬Blank value) : StripsTo value (strip value) where
  nonempty hempty := h (strip_eq_empty_iff.1 hempty)
  bare := by
    rw [strip, String.toList_ofList]
    exact bare_trim isBlank value.toList
  around := by
    obtain ⟨front, back, hfront, hback, hvalue⟩ := exists_trim isBlank value.toList
    refine ⟨String.ofList front, String.ofList back, ?_, ?_, ?_⟩
    · rwa [Blank, String.toList_ofList]
    · rwa [Blank, String.toList_ofList]
    · rw [strip, ← String.ofList_append, ← String.ofList_append, List.append_assoc, ← hvalue,
        String.ofList_toList]

/-- A text that was stripped before is not stripped again.  Written back to the
variables, the settings are read as they are. -/
theorem strip_of_bare (h : Bare isBlank inner.toList) : strip inner = inner := by
  rw [strip, trim_of_bare h, String.ofList_toList]

end Strip

end Text

namespace Config

variable {env : Environment} {setting : Setting} {default : String} {config : Config}

/-- The variable is set, to nothing but blanks. -/
def BlankAt (env : Environment) (setting : Setting) : Prop :=
  ∃ value, env setting = some value ∧ Text.Blank value

/-- The variable tells nothing: it is not set, or it is set to nothing. -/
def EmptyAt (env : Environment) (setting : Setting) : Prop :=
  env setting = none ∨ env setting = some ""

/-- The region is the first in line that is not empty. -/
inductive RegionFrom (env : Environment) : String → Prop
  | first {region : String} (h : env .region = some region) (hne : region ≠ "") :
    RegionFrom env region
  | second {region : String} (hfirst : EmptyAt env .region)
    (h : env .defaultRegion = some region) (hne : region ≠ "") : RegionFrom env region
  | default (hfirst : EmptyAt env .region) (hsecond : EmptyAt env .defaultRegion) :
    RegionFrom env "us-west-2"

/-- The variables that describe a configuration; the second region does not count. -/
def toEnvironment (config : Config) (second : Option String) : Environment
  | .region => some config.region
  | .defaultRegion => second
  | .zone => some config.zone
  | .bucketPrefix => some config.bucketPrefix
  | .endpoint => config.endpoint

/-- A default that is not blank never makes a value blank. -/
theorem blank_getD_iff (h : ¬Text.Blank default) :
    Text.Blank ((env setting).getD default) ↔ BlankAt env setting := by
  cases hvalue : env setting with
  | none => simp [BlankAt, hvalue, h]
  | some value => simp [BlankAt, hvalue]

/-- The zone that is taken when none is set is no blank, so that it is never turned
away. -/
theorem not_blank_defaultZone : ¬Text.Blank defaultZone := by
  rw [← Text.strip_eq_empty_iff]
  decide

theorem not_blank_defaultBucketPrefix : ¬Text.Blank defaultBucketPrefix := by
  rw [← Text.strip_eq_empty_iff]
  decide

/-- A variable that is set to blanks is told by its name.  One that is not set is
replaced first, and its replacement counts. -/
theorem stripped_of_blank (h : Text.Blank ((env setting).getD default)) :
    stripped env setting default = .error (.blankSetting setting) := by
  simp only [stripped, if_pos (Text.strip_eq_empty_iff.2 h)]

/-- Any other value is taken without the blanks around it. -/
theorem stripped_of_not_blank (h : ¬Text.Blank ((env setting).getD default)) :
    stripped env setting default = .ok (Text.strip ((env setting).getD default)) := by
  simp only [stripped, if_neg (mt Text.strip_eq_empty_iff.1 h)]

/-- A variable that tells nothing gives nothing, whether it is not set or set to
nothing. -/
theorem nonEmpty?_of_empty (h : EmptyAt env setting) : nonEmpty? (env setting) = none := by
  rcases h with h | h
  · rw [h, nonEmpty?]
  · rw [h, nonEmpty?, if_pos rfl]

theorem nonEmpty?_of_ne {value : String} (hne : value ≠ "") :
    nonEmpty? (some value) = some value := by
  rw [nonEmpty?, if_neg hne]

/-- What counts is what is given, unless it is the empty text. -/
theorem nonEmpty?_eq_some_iff {given : Option String} {value : String} :
    nonEmpty? given = some value ↔ given = some value ∧ value ≠ "" := by
  cases given with
  | none => simp [nonEmpty?]
  | some old =>
    by_cases hold : old = ""
    · simp only [nonEmpty?, if_pos hold, Option.some.injEq, reduceCtorEq, false_iff]
      rintro ⟨rfl, hne⟩
      exact hne hold
    · simp only [nonEmpty?, if_neg hold, Option.some.injEq]
      constructor
      · rintro rfl
        exact ⟨rfl, hold⟩
      · exact fun h => h.1

/-- A variable tells either nothing or something.  There is no third case, as blanks
are something here. -/
theorem emptyAt_or (env : Environment) (setting : Setting) :
    EmptyAt env setting ∨ ∃ value, env setting = some value ∧ value ≠ "" := by
  cases hvalue : env setting with
  | none => exact .inl (.inl hvalue)
  | some value =>
    by_cases hempty : value = ""
    · exact .inl (.inr (by rw [hvalue, hempty]))
    · exact .inr ⟨value, rfl, hempty⟩

/-- The region that is loaded is the first of three that tells something: its own
variable, the general one, or the default. -/
theorem regionFrom_regionOf (env : Environment) : RegionFrom env (regionOf env) := by
  rcases emptyAt_or env .region with hfirst | ⟨region, hregion, hne⟩
  · rw [regionOf, nonEmpty?_of_empty hfirst]
    rcases emptyAt_or env .defaultRegion with hsecond | ⟨region, hregion, hne⟩
    · rw [nonEmpty?_of_empty hsecond]
      exact .default hfirst hsecond
    · rw [hregion, nonEmpty?_of_ne hne]
      exact .second hfirst hregion hne
  · rw [regionOf, hregion, nonEmpty?_of_ne hne]
    exact .first hregion hne

/-- A region is never empty, since the default is not. -/
theorem RegionFrom.ne_empty {region : String} (h : RegionFrom env region) : region ≠ "" := by
  cases h with
  | first _ hne => exact hne
  | second _ _ hne => exact hne
  | default => decide

/-- A configuration is loaded when neither the zone nor the stem is blank. -/
theorem load_of_not_blank (hzone : ¬BlankAt env .zone) (hstem : ¬BlankAt env .bucketPrefix) :
    load env = .ok {
      region := regionOf env
      zone := Text.strip ((env .zone).getD defaultZone)
      bucketPrefix := Text.strip ((env .bucketPrefix).getD defaultBucketPrefix)
      endpoint := nonEmpty? (env .endpoint) } := by
  rw [← blank_getD_iff not_blank_defaultZone] at hzone
  rw [← blank_getD_iff not_blank_defaultBucketPrefix] at hstem
  rw [load, stripped_of_not_blank hzone, stripped_of_not_blank hstem]

/-- The zone is looked at first, so that its fault is told even when the stem is blank
as well. -/
theorem load_of_blank_zone (h : BlankAt env .zone) :
    load env = .error (.blankSetting .zone) := by
  rw [load, stripped_of_blank ((blank_getD_iff not_blank_defaultZone).2 h)]

/-- The stem is only looked at when the zone is in order. -/
theorem load_of_blank_bucketPrefix (hzone : ¬BlankAt env .zone)
    (h : BlankAt env .bucketPrefix) : load env = .error (.blankSetting .bucketPrefix) := by
  rw [← blank_getD_iff not_blank_defaultZone] at hzone
  rw [load, stripped_of_not_blank hzone,
    stripped_of_blank ((blank_getD_iff not_blank_defaultBucketPrefix).2 h)]

/-- What is known about a loaded configuration. -/
structure LoadedFrom (env : Environment) (config : Config) : Prop where
  zone : Text.StripsTo ((env .zone).getD "usw2-az1") config.zone
  bucketPrefix : Text.StripsTo ((env .bucketPrefix).getD "test-bucket") config.bucketPrefix
  region : RegionFrom env config.region
  endpoint : ∀ url, config.endpoint = some url ↔ env .endpoint = some url ∧ url ≠ ""

/-- What was loaded is told by the variables as the rules say, one rule for each of
the four settings. -/
theorem loadedFrom_of_load (h : load env = .ok config) : LoadedFrom env config := by
  have hzone : ¬BlankAt env .zone := by
    intro hblank
    rw [load_of_blank_zone hblank] at h
    cases h
  have hstem : ¬BlankAt env .bucketPrefix := by
    intro hblank
    rw [load_of_blank_bucketPrefix hzone hblank] at h
    cases h
  rw [load_of_not_blank hzone hstem] at h
  cases h
  rw [← blank_getD_iff not_blank_defaultZone] at hzone
  rw [← blank_getD_iff not_blank_defaultBucketPrefix] at hstem
  exact {
    zone := Text.stripsTo_strip hzone
    bucketPrefix := Text.stripsTo_strip hstem
    region := regionFrom_regionOf env
    endpoint := fun url => nonEmpty?_eq_some_iff }

/-- **A loaded configuration is settled:** its variables describe it.  They can be
written into an environment from which the same configuration is loaded, and the
general variable for the region has no say in it. -/
theorem load_toEnvironment (h : LoadedFrom env config) (second : Option String) :
    load (config.toEnvironment second) = .ok config := by
  have hkept : ∀ {value inner default : String}, Text.StripsTo value inner →
      Text.strip ((some inner).getD default) = inner :=
    fun hstrips => Text.strip_of_bare hstrips.bare
  have hblank : ∀ {value inner : String}, Text.StripsTo value inner → ¬Text.Blank inner := by
    intro value inner hstrips
    rw [← Text.strip_eq_empty_iff, Text.strip_of_bare hstrips.bare]
    exact hstrips.nonempty
  have hzone : ¬BlankAt (config.toEnvironment second) .zone := by
    rintro ⟨_, hvalue, hempty⟩
    cases hvalue
    exact hblank h.zone hempty
  have hstem : ¬BlankAt (config.toEnvironment second) .bucketPrefix := by
    rintro ⟨_, hvalue, hempty⟩
    cases hvalue
    exact hblank h.bucketPrefix hempty
  have hregion : regionOf (config.toEnvironment second) = config.region := by
    rw [regionOf, toEnvironment, nonEmpty?_of_ne h.region.ne_empty]
  have hendpoint : nonEmpty? config.endpoint = config.endpoint := by
    cases hurl : config.endpoint with
    | none => rfl
    | some url => exact nonEmpty?_of_ne ((h.endpoint url).1 hurl).2
  rw [load_of_not_blank hzone hstem, hregion]
  simp only [toEnvironment, hkept h.zone, hkept h.bucketPrefix, hendpoint]

/-- A configuration that was loaded has a zone and a stem for names. -/
theorem ne_empty_of_load (h : load env = .ok config) :
    config.zone ≠ "" ∧ config.bucketPrefix ≠ "" :=
  ⟨(loadedFrom_of_load h).zone.nonempty, (loadedFrom_of_load h).bucketPrefix.nonempty⟩

end Config

/-- With a loaded configuration a bucket can be named.  The zone and the stem that
could be turned away have been turned away in loading. -/
theorem BucketName.make_of_load {env : Environment} {config : Config}
    (h : Config.load env = .ok config) (middle : Option String) (clock : Int) :
    make config.bucketPrefix config.zone middle clock =
      .ok (ofParts config.bucketPrefix (middle.getD (stamp clock)) config.zone) := by
  obtain ⟨hzone, hstem⟩ := Config.ne_empty_of_load h
  rw [make, if_neg hstem, if_neg hzone]

/-- With such a configuration there is always a bucket to work on. -/
theorem Scenario.bucketFor_of_load {env : Environment} {config : Config}
    (h : Config.load env = .ok config) (asked : Option String) (w : World) :
    ∃ bucket, (bucketFor config asked w).1 = .ok bucket := by
  rw [bucketFor]
  cases Config.nonEmpty? asked with
  | some bucket => exact ⟨bucket, rfl⟩
  | none => exact ⟨_, BucketName.make_of_load h none w.clock⟩

/-- **Loading accepts the usable environments, and settles them.**  It fails when the zone or
the stem is set to nothing but blanks, and tells the zone when both are.  Otherwise zone and
stem are what their values have between blanks, the region is the first in line that is not
empty, and an endpoint is not empty.  The variables of a loaded configuration describe it,
whatever the second region is; and with it a bucket can be named, for both scenarios. -/
theorem Config.load_settled (env : Environment) :
    (∀ failure, load env = .error failure ↔
      (BlankAt env .zone ∧ failure = .blankSetting .zone) ∨
      (¬BlankAt env .zone ∧ BlankAt env .bucketPrefix ∧
        failure = .blankSetting .bucketPrefix)) ∧
    ∀ config, load env = .ok config →
      LoadedFrom env config ∧ config.region ≠ "" ∧
      (∀ second, load (config.toEnvironment second) = .ok config) ∧
      (∀ middle clock, ∃ name,
        BucketName.make config.bucketPrefix config.zone middle clock = .ok name) ∧
      ∀ asked w, ∃ bucket, (Scenario.bucketFor config asked w).1 = .ok bucket := by
  refine ⟨fun failure => ?_, fun config h => ?_⟩
  · by_cases hzone : BlankAt env .zone
    · rw [load_of_blank_zone hzone]
      simp [hzone, eq_comm]
    · by_cases hstem : BlankAt env .bucketPrefix
      · rw [load_of_blank_bucketPrefix hzone hstem]
        simp [hzone, hstem, eq_comm]
      · rw [load_of_not_blank hzone hstem]
        simp [hzone, hstem]
  · have hloaded := loadedFrom_of_load h
    exact ⟨hloaded, hloaded.region.ne_empty, load_toEnvironment hloaded,
      fun middle clock => ⟨_, BucketName.make_of_load h middle clock⟩,
      Scenario.bucketFor_of_load h⟩

/-- The first region is empty, and there are blanks of three kinds around the zone. -/
theorem Config.load_settled_spaces :
    let env : Environment := fun
      | .region => some ""
      | .defaultRegion => some "eu-west-1"
      | .zone => some "\u00a0 euw1-az2\x1c"
      | .bucketPrefix => none
      | .endpoint => some ""
    let config : Config := { region := "eu-west-1", zone := "euw1-az2" }
    load env = .ok config ∧ LoadedFrom env config ∧
      load (config.toEnvironment (some "us-east-1")) = .ok config := by
  intro env config
  have hload : load env = .ok config := by
    have hzone : Text.strip "\u00a0 euw1-az2\x1c" = "euw1-az2" := by decide
    have hstem : Text.strip defaultBucketPrefix = "test-bucket" := by decide
    have hzone' : "euw1-az2" ≠ "" := by decide
    have hstem' : "test-bucket" ≠ "" := by decide
    simp only [load, stripped, env, Option.getD_some, Option.getD_none, hzone, hstem,
      if_neg hzone', if_neg hstem']
    rfl
  obtain ⟨-, hsettled⟩ := load_settled env
  obtain ⟨hloaded, -, hagain, -⟩ := hsettled config hload
  exact ⟨hload, hloaded, hagain (some "us-east-1")⟩

end ZonalBucket
