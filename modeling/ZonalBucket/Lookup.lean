/-!
# Looking up names

Two facts about looking up a name in a list of named values: a look-up goes entry
by entry, and what it finds is in the list.
-/

namespace ZonalBucket

variable {α : Type}

/-- Looking up a name entry by entry, as a choice between the first entry and the
rest.  The equation of the library asks in terms of Booleans, which is less handy in
proofs by cases. -/
theorem lookup_cons_if (name : String) (entry : String × α) (rest : List (String × α)) :
    (entry :: rest).lookup name = if name = entry.1 then some entry.2 else rest.lookup name := by
  obtain ⟨first, value⟩ := entry
  by_cases h : name = first
  · simp [h]
  · have hb : (name == first) = false := by simpa using h
    simp [List.lookup_cons, h, hb]

/-- What a look-up finds stands in the row, under the name that was looked for. -/
theorem mem_of_lookup {name : String} {value : α} {entries : List (String × α)}
    (h : entries.lookup name = some value) : (name, value) ∈ entries := by
  induction entries with
  | nil => simp at h
  | cons first rest ih =>
    rw [lookup_cons_if] at h
    split at h
    · rename_i heq
      obtain ⟨other, old⟩ := first
      simp_all
    · exact List.mem_cons_of_mem _ (ih h)

end ZonalBucket
