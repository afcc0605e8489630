/-!
# Chunks

A row cut into pieces of one size.  No piece is empty or longer than that size,
`length_of_mem_chunks`, every piece but the last is full, `length_of_mem_dropLast_chunks`,
and together they make up the row again, `flatten_chunks`; the first ones make up its first
part, `flatten_take_chunks`.
-/

namespace ZonalBucket

variable {α : Type}

/-- A row cut into rows of `size`, of which the last one may be shorter.  A size of
zero gives none. -/
def chunks (size : Nat) (xs : List α) : List (List α) :=
  if 0 < size ∧ xs ≠ [] then xs.take size :: chunks size (xs.drop size) else []
termination_by xs.length
decreasing_by
  rename_i h
  have := List.length_pos_iff.2 h.2
  simp only [List.length_drop]
  omega

@[simp] theorem chunks_nil (size : Nat) : chunks size ([] : List α) = [] := by
  rw [chunks]
  simp

/-- One step of the cutting, which takes off a full piece or all that is left.  This
is the equation for inductions along the pieces. -/
theorem chunks_of_ne_nil {size : Nat} {xs : List α} (hs : 0 < size) (hx : xs ≠ []) :
    chunks size xs = xs.take size :: chunks size (xs.drop size) := by
  rw [chunks]
  simp [hs, hx]

/-- The pieces make up the row, in its order and without anything left out.  So
whatever is done piece by piece is done to each item once. -/
theorem flatten_chunks {size : Nat} (hs : 0 < size) (xs : List α) :
    (chunks size xs).flatten = xs := by
  fun_induction chunks size xs with
  | case1 xs h ih => simp [ih]
  | case2 xs h =>
    have : xs = [] := by simpa [hs] using h
    simp [this]

/-- The first pieces make up the first part of the row. -/
theorem flatten_take_chunks {size : Nat} (hs : 0 < size) (count : Nat) (xs : List α) :
    ((chunks size xs).take count).flatten = xs.take (count * size) := by
  induction count generalizing xs with
  | zero => rw [Nat.zero_mul, List.take_zero, List.take_zero, List.flatten_nil]
  | succ count ih =>
    by_cases hx : xs = []
    · rw [hx, chunks_nil, List.take_nil, List.take_nil, List.flatten_nil]
    · rw [chunks_of_ne_nil hs hx, List.take_succ_cons, List.flatten_cons, ih, Nat.succ_mul,
        Nat.add_comm, List.take_add]

/-- No piece is empty, and none is longer than the size. -/
theorem length_of_mem_chunks {size : Nat} {xs piece : List α} (h : piece ∈ chunks size xs) :
    0 < piece.length ∧ piece.length ≤ size := by
  fun_induction chunks size xs with
  | case1 xs hx ih =>
    rcases List.mem_cons.1 h with rfl | h
    · have := List.length_pos_iff.2 hx.2
      simp only [List.length_take]
      omega
    · exact ih h
  | case2 xs hx => simp at h

/-- Every piece but the last is full.  The last one has what is left, which is
something, as no piece is empty. -/
theorem length_of_mem_dropLast_chunks {size : Nat} {xs piece : List α}
    (h : piece ∈ (chunks size xs).dropLast) : piece.length = size := by
  fun_induction chunks size xs with
  | case1 xs hx ih =>
    -- With a piece behind it, the first one was cut from a row longer than the size.
    by_cases hrest : xs.drop size = []
    · simp [hrest] at h
    · rw [List.dropLast_cons_of_ne_nil (by simp [chunks_of_ne_nil hx.1 hrest])] at h
      rcases List.mem_cons.1 h with rfl | h
      · have hlength : size < xs.length := by simpa using hrest
        simp only [List.length_take]
        omega
      · exact ih h
  | case2 xs hx => simp at h

/-- How many pieces of a size it takes to hold so many items: the quotient, rounded up. -/
def piecesFor (size count : Nat) : Nat := (count + size - 1) / size

theorem piecesFor_zero {size : Nat} (hs : 0 < size) : piecesFor size 0 = 0 :=
  Nat.div_eq_of_lt (by omega)

/-- One piece holds all that is not more than its size. -/
theorem piecesFor_of_le {size count : Nat} (hpos : 0 < count) (hle : count ≤ size) :
    piecesFor size count = 1 :=
  Nat.div_eq_of_lt_le (by omega) (by omega)

/-- Of more items than the size, one piece is taken away first. -/
theorem piecesFor_of_lt {size count : Nat} (hs : 0 < size) (hlt : size < count) :
    piecesFor size count = piecesFor size (count - size) + 1 := by
  rw [piecesFor, piecesFor, ← Nat.add_div_right _ hs]
  congr 1
  omega

/-- There are as many pieces as it takes to hold the row. -/
theorem length_chunks {size : Nat} (hs : 0 < size) (xs : List α) :
    (chunks size xs).length = piecesFor size xs.length := by
  fun_induction chunks size xs with
  | case1 xs hx ih =>
    have hpos := List.length_pos_iff.2 hx.2
    rw [List.length_cons, ih, List.length_drop]
    by_cases hlt : size < xs.length
    · rw [piecesFor_of_lt hs hlt]
    · have hdone : xs.length - size = 0 := by omega
      rw [hdone, piecesFor_zero hs, piecesFor_of_le hpos (by omega)]
  | case2 xs hx =>
    have hnil : xs = [] := by simpa [hs] using hx
    rw [hnil, List.length_nil, List.length_nil, piecesFor_zero hs]

/-- Behind pieces that do not hold the whole row there is one more. -/
theorem lt_length_chunks {size count : Nat} (hs : 0 < size) {xs : List α}
    (h : count * size < xs.length) : count < (chunks size xs).length := by
  rw [length_chunks hs]
  refine (Nat.le_div_iff_mul_le hs).2 ?_
  rw [Nat.succ_mul]
  omega

end ZonalBucket
