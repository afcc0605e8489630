import ZonalBucket.Lookup

/-!
# Catalogs

Values filed under names, in the order of the names by code point.  No name occurs
twice, and the order is part of the type; so a catalog is the finite map that its
look-ups show, and two catalogs with the same look-ups are equal, `Catalog.ext_get?`.

There is one equation for each operation: what a look-up finds after filing a value,
`get?_insert`, after taking one out, `get?_erase`, and after taking out many,
`get?_eraseAll`.  All other laws follow from these.
-/

namespace ZonalBucket

/-- Values by name, in the order of the names. -/
structure Catalog (α : Type) where
  entries : List (String × α)
  sorted : entries.Pairwise fun a b => a.1 < b.1
deriving DecidableEq

namespace Catalog

variable {α : Type}

/-- Files a value in a list in order, in place of an older one of that name. -/
def insertEntry (name : String) (value : α) : List (String × α) → List (String × α)
  | [] => [(name, value)]
  | entry :: rest =>
    if name < entry.1 then (name, value) :: entry :: rest
    else if name = entry.1 then (name, value) :: rest
    else entry :: insertEntry name value rest

/-- Inserting brings in one entry and no other.  Entries that were there may go, when
they have the same name. -/
theorem mem_insertEntry {name : String} {value : α} {entry : String × α}
    {entries : List (String × α)} (h : entry ∈ insertEntry name value entries) :
    entry = (name, value) ∨ entry ∈ entries := by
  induction entries with
  | nil => simpa [insertEntry] using h
  | cons first rest ih =>
    rw [insertEntry] at h
    grind

/-- Inserting keeps the entries in strict order, which is what makes a catalog of
them.  No name can occur twice in such a row. -/
theorem sorted_insertEntry (name : String) (value : α) {entries : List (String × α)}
    (h : entries.Pairwise fun a b => a.1 < b.1) :
    (insertEntry name value entries).Pairwise fun a b => a.1 < b.1 := by
  induction entries with
  | nil => simp [insertEntry]
  | cons first rest ih =>
    obtain ⟨hfirst, hrest⟩ := List.pairwise_cons.1 h
    rw [insertEntry]
    split
    · rename_i hlt
      refine List.pairwise_cons.2 ⟨fun e he => ?_, h⟩
      rcases List.mem_cons.1 he with rfl | he
      · exact hlt
      · exact Std.lt_trans hlt (hfirst e he)
    · split
      · rename_i heq
        exact List.pairwise_cons.2 ⟨fun e he => heq ▸ hfirst e he, hrest⟩
      · rename_i hlt hne
        refine List.pairwise_cons.2 ⟨fun e he => ?_, ih hrest⟩
        rcases mem_insertEntry he with rfl | he
        · exact Std.lt_of_le_of_ne (Std.not_lt.1 hlt) (Ne.symm hne)
        · exact hfirst e he

/-- The empty catalog. -/
def empty : Catalog α := ⟨[], .nil⟩

/-- The value under a name. -/
def get? (c : Catalog α) (name : String) : Option α := c.entries.lookup name

/-- Whether there is a value under a name. -/
def contains (c : Catalog α) (name : String) : Bool := (c.get? name).isSome

/-- The catalog with a value filed under a name. -/
def insert (c : Catalog α) (name : String) (value : α) : Catalog α :=
  ⟨insertEntry name value c.entries, sorted_insertEntry name value c.sorted⟩

/-- The catalog without the value under a name. -/
def erase (c : Catalog α) (name : String) : Catalog α :=
  ⟨c.entries.filter fun entry => entry.1 ≠ name, c.sorted.filter _⟩

/-- The catalog without the values under the names of a list. -/
def eraseAll (c : Catalog α) (names : List String) : Catalog α := names.foldl erase c

/-- The names, in order. -/
def names (c : Catalog α) : List String := c.entries.map (·.1)

/-- Whether there is nothing in the catalog. -/
def isEmpty (c : Catalog α) : Bool := c.entries.isEmpty

/-- After inserting, a look-up finds the new value under its name, and under all other
names what it found before. -/
theorem lookup_insertEntry (name other : String) (value : α) (entries : List (String × α)) :
    (insertEntry name value entries).lookup other =
      if other = name then some value else entries.lookup other := by
  induction entries with
  | nil => rw [insertEntry, lookup_cons_if]
  | cons first rest ih =>
    rw [insertEntry]
    split
    · rw [lookup_cons_if]
    · split
      · rename_i heq
        rw [lookup_cons_if, lookup_cons_if]
        simp only [heq]
        split <;> rfl
      · rename_i hne
        rw [lookup_cons_if, ih, lookup_cons_if]
        grind

/-- After removing a name, a look-up finds nothing there, and elsewhere what it found
before. -/
theorem lookup_filter_ne (name other : String) (entries : List (String × α)) :
    (entries.filter fun entry => entry.1 ≠ name).lookup other =
      if other = name then none else entries.lookup other := by
  induction entries with
  | nil => simp
  | cons first rest ih =>
    by_cases hf : first.1 = name
    · rw [List.filter_cons_of_neg (by simpa using hf), ih, lookup_cons_if]
      grind
    · rw [List.filter_cons_of_pos (by simpa using hf), lookup_cons_if, ih, lookup_cons_if]
      grind

/-- In a list in order, nothing is found under a name that lies before all names. -/
theorem lookup_eq_none_of_lt {name : String} {entries : List (String × α)}
    (h : ∀ entry ∈ entries, name < entry.1) : entries.lookup name = none := by
  cases hl : entries.lookup name with
  | none => rfl
  | some value => exact absurd (h _ (mem_of_lookup hl)) (Std.lt_irrefl (a := name))

/-- **A row in order is known from its look-ups.**  So catalogs that tell the same
about every name are equal, however they came about. -/
theorem eq_of_lookup_eq {xs ys : List (String × α)}
    (hx : xs.Pairwise fun a b => a.1 < b.1) (hy : ys.Pairwise fun a b => a.1 < b.1)
    (h : ∀ name, xs.lookup name = ys.lookup name) : xs = ys := by
  induction xs generalizing ys with
  | nil =>
    cases ys with
    | nil => rfl
    | cons y ys => simpa [lookup_cons_if] using h y.1
  | cons x xs ih =>
    cases ys with
    | nil => simpa [lookup_cons_if] using h x.1
    | cons y ys =>
      obtain ⟨hx1, hx2⟩ := List.pairwise_cons.1 hx
      obtain ⟨hy1, hy2⟩ := List.pairwise_cons.1 hy
      -- If the first names differed, each would stand behind the other one.
      have hname : x.1 = y.1 := by
        have h1 := h x.1
        have h2 := h y.1
        simp only [lookup_cons_if, if_true] at h1 h2
        by_cases heq : x.1 = y.1
        · exact heq
        · rw [if_neg heq] at h1
          rw [if_neg (Ne.symm heq)] at h2
          exact absurd (Std.lt_trans (hx1 _ (mem_of_lookup h2)) (hy1 _ (mem_of_lookup h1.symm)))
            (Std.lt_irrefl (a := x.1))
      have hvalue : x.2 = y.2 := by
        have h1 := h x.1
        simpa [lookup_cons_if, hname] using h1
      have htail : xs = ys := by
        refine ih hx2 hy2 fun name => ?_
        have h1 := h name
        simp only [lookup_cons_if, ← hname] at h1
        by_cases heq : name = x.1
        · rw [heq, lookup_eq_none_of_lt hx1, lookup_eq_none_of_lt (hname ▸ hy1)]
        · simpa [heq] using h1
      rw [htail]
      obtain ⟨_, _⟩ := x
      obtain ⟨_, _⟩ := y
      simp_all

/-- Two catalogs with the same look-ups are the same.  This is what makes a catalog a
partial map with an order of its own, in which nothing is left of the order of filing.
-/
theorem ext_get? {c d : Catalog α} (h : ∀ name, c.get? name = d.get? name) : c = d := by
  obtain ⟨xs, hx⟩ := c
  obtain ⟨ys, hy⟩ := d
  have : xs = ys := eq_of_lookup_eq hx hy h
  subst this
  rfl

/-- Nothing is found in the empty catalog. -/
@[simp] theorem get?_empty (name : String) : (empty : Catalog α).get? name = none := rfl

/-- After filing, the value is found under its name and all others as before. -/
theorem get?_insert (c : Catalog α) (name other : String) (value : α) :
    (c.insert name value).get? other = if other = name then some value else c.get? other :=
  lookup_insertEntry name other value c.entries

/-- After taking out, nothing is found under the name and all others as before. -/
theorem get?_erase (c : Catalog α) (name other : String) :
    (c.erase name).get? other = if other = name then none else c.get? other :=
  lookup_filter_ne name other c.entries

/-- After taking out a list of names, nothing is found under any of them. -/
theorem get?_eraseAll (c : Catalog α) (names : List String) (other : String) :
    (c.eraseAll names).get? other = if other ∈ names then none else c.get? other := by
  induction names generalizing c with
  | nil => simp [eraseAll]
  | cons name names ih =>
    have hstep : c.eraseAll (name :: names) = (c.erase name).eraseAll names := rfl
    rw [hstep, ih, get?_erase]
    grind

/-- Of two values filed under one name the second stays. -/
theorem insert_insert (c : Catalog α) (name : String) (first second : α) :
    (c.insert name first).insert name second = c.insert name second := by
  refine ext_get? fun other => ?_
  simp only [get?_insert]
  split <;> rfl

/-- Filing again what is there changes nothing, so that a bucket may be put back as it
was found. -/
theorem insert_of_get? {c : Catalog α} {name : String} {value : α}
    (h : c.get? name = some value) : c.insert name value = c := by
  refine ext_get? fun other => ?_
  rw [get?_insert]
  split
  · rename_i heq
    rw [heq, h]
  · rfl

/-- Taking out what is not there changes nothing, so that deleting an object twice is
deleting it once. -/
theorem erase_of_get? {c : Catalog α} {name : String} (h : c.get? name = none) :
    c.erase name = c := by
  refine ext_get? fun other => ?_
  rw [get?_erase]
  split
  · rename_i heq
    rw [heq, h]
  · rfl

/-- It does not matter what was filed under a name that is taken out. -/
theorem erase_insert (c : Catalog α) (name : String) (value : α) :
    (c.insert name value).erase name = c.erase name := by
  refine ext_get? fun other => ?_
  simp only [get?_erase, get?_insert]
  split <;> rfl

/-- Names may be removed in two goes, as batches of keys are. -/
theorem eraseAll_append (c : Catalog α) (names others : List String) :
    c.eraseAll (names ++ others) = (c.eraseAll names).eraseAll others := by
  simp [eraseAll, List.foldl_append]

/-- The names are those under which something is found.  A listing of all names
therefore misses none of the entries. -/
theorem mem_names {c : Catalog α} {name : String} : name ∈ c.names ↔ (c.get? name).isSome := by
  simp only [names, get?]
  induction c.entries with
  | nil => simp
  | cons entry rest ih =>
    rw [lookup_cons_if]
    grind

/-- No name occurs twice, and all are in order.  It is the order of the pages of a
listing. -/
theorem pairwise_names (c : Catalog α) : c.names.Pairwise (· < ·) :=
  List.pairwise_map.2 c.sorted

/-- Nothing is left when all names are taken out.  This is where emptying a bucket
comes to its end. -/
theorem eraseAll_names (c : Catalog α) : c.eraseAll c.names = empty := by
  refine ext_get? fun other => ?_
  rw [get?_eraseAll, get?_empty]
  by_cases h : other ∈ c.names
  · rw [if_pos h]
  · rw [if_neg h]
    simpa [mem_names] using h

/-- What is left when names are taken out are the other names. -/
theorem names_eraseAll (c : Catalog α) (names : List String) :
    (c.eraseAll names).names = c.names.filter (· ∉ names) := by
  induction names generalizing c with
  | nil =>
    have hall : c.names.filter (· ∉ []) = c.names := List.filter_eq_self.2 (by simp)
    exact hall.symm
  | cons name names ih =>
    have herase : (c.erase name).names = c.names.filter (· ≠ name) := by
      rw [Catalog.names, Catalog.names, List.filter_map]
      rfl
    have hstep : c.eraseAll (name :: names) = (c.erase name).eraseAll names := rfl
    rw [hstep, ih, herase, List.filter_filter]
    refine List.filter_congr fun other _ => ?_
    simp [Bool.and_comm]

/-- Under the names that are left, the same is found as before. -/
theorem get?_eraseAll_of_mem {c : Catalog α} {names : List String} {name : String}
    (h : name ∈ (c.eraseAll names).names) : (c.eraseAll names).get? name = c.get? name := by
  rw [names_eraseAll] at h
  rw [get?_eraseAll, if_neg (by simpa using (List.mem_filter.1 h).2)]

/-- A catalog is empty when it has no names.  The check of a deletion asks the first,
and a listing can only show the second. -/
theorem isEmpty_iff {c : Catalog α} : c.isEmpty = true ↔ c.names = [] := by
  simp [isEmpty, names]

/-- No name is listed twice.  Each key of a bucket is therefore deleted by one batch
only. -/
theorem nodup_names (c : Catalog α) : c.names.Nodup := by
  refine c.pairwise_names.imp ?_
  intro first second hlt heq
  rw [heq] at hlt
  exact Std.lt_irrefl hlt

/-- When the first names are taken out, those behind them are left. -/
theorem names_eraseAll_take (c : Catalog α) (count : Nat) :
    (c.eraseAll (c.names.take count)).names = c.names.drop count := by
  have hnodup : (c.names.take count ++ c.names.drop count).Nodup := by
    rw [List.take_append_drop]
    exact c.nodup_names
  have hapart := (List.nodup_append.1 hnodup).2.2
  have hfirst : (c.names.take count).filter (· ∉ c.names.take count) = [] :=
    List.filter_eq_nil_iff.2 fun name hname => by simpa using hname
  have hothers : (c.names.drop count).filter (· ∉ c.names.take count) = c.names.drop count :=
    List.filter_eq_self.2 fun name hname => by
      simpa using fun hin => hapart name hin name hname rfl
  calc (c.eraseAll (c.names.take count)).names
      = c.names.filter (· ∉ c.names.take count) := names_eraseAll c _
    _ = (c.names.take count ++ c.names.drop count).filter (· ∉ c.names.take count) := by
        rw [List.take_append_drop]
    _ = c.names.drop count := by
        rw [List.filter_append, hfirst, hothers, List.nil_append]

end Catalog

end ZonalBucket
