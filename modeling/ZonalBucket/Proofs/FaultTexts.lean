import ZonalBucket.Fault
import ZonalBucket.Page

/-!
# Codes and messages are never empty

A value that counts as given shows as a text that is not empty, `Document.shown_ne_empty`.
So neither the code nor the message by which a refusal is reported is empty, whatever the
store gave for them.
-/

namespace ZonalBucket

/-- A text stays longer than nothing when more is put behind it. -/
theorem Text.append_ne_empty {s : String} (h : s ≠ "") (t : String) : s ++ t ≠ "" := by
  intro hempty
  have hlist : s.toList ++ t.toList = [] := by
    rw [← String.toList_append, hempty]
    rfl
  exact h (String.toList_inj.1 (List.append_eq_nil_iff.1 hlist).1)

namespace Decimal

/-- Digits with a point are not empty.  A zero is put in front of the point where
there would be nothing. -/
theorem positional_ne_nil (digits : List Char) (point : Int) : positional digits point ≠ [] := by
  simp only [positional]
  split
  · simp
  · split <;> simp

/-- Digits with an exponent are not empty, as the exponent is written in any case. -/
theorem scientific_ne_nil (digits : List Char) (point : Int) : scientific digits point ≠ [] := by
  simp [scientific]

/-- A number is written with a digit at least, in either form. -/
theorem chars_ne_nil (digits : Nat) (exponent : Int) : chars digits exponent ≠ [] := by
  simp only [chars]
  split
  · simp
  · split
    · exact positional_ne_nil _ _
    · exact scientific_ne_nil _ _

theorem binaryChars_ne_nil (x : Binary) : binaryChars x ≠ [] := by
  rw [binaryChars]
  split
  · exact chars_ne_nil 0 0
  · obtain ⟨digits, exponent⟩ := shortest x
    exact chars_ne_nil digits exponent

/-- The text of a number is not empty, in whichever of the two ways it is written. -/
theorem text_ne_empty (x : Decimal) : x.text ≠ "" := by
  have hbody : (x.toBinary?.map binaryChars).getD ['i', 'n', 'f'] ≠ [] := by
    cases x.toBinary? with
    | none => simp
    | some size => exact binaryChars_ne_nil size
  intro h
  have hlist := congrArg String.toList h
  simp only [text, String.toList_ofList] at hlist
  split at hlist
  · cases hlist
  · exact hbody hlist

end Decimal

/-- A value that counts as given shows as something.  A number, a list and an object
show as something even when they do not count; it is the empty text that has to be
kept out. -/
theorem Document.shown_ne_empty {d : Document} (h : d.isTruthy = true) : d.shown ≠ "" := by
  cases d with
  | null => simp [isTruthy] at h
  | bool b =>
    obtain rfl : b = true := h
    decide
  | int n => exact Page.toString_ne_empty n
  | float x => exact x.text_ne_empty
  | text s =>
    have hgiven : s ≠ "" := by simpa [isTruthy] using h
    exact hgiven
  | time t =>
    intro hempty
    have hlist := congrArg String.toList hempty
    simp [shown, Timestamp.text, Timestamp.textChars] at hlist
  | list items =>
    have hopen : "[" ≠ "" := by decide
    exact Text.append_ne_empty (Text.append_ne_empty hopen _) _
  | object fields =>
    have hopen : "\x7b" ≠ "" := by decide
    exact Text.append_ne_empty (Text.append_ne_empty hopen _) _

/-- What stands for a value is not empty, whether it was given or not. -/
theorem givenOr_ne_empty {missing : String} (h : missing ≠ "") (d? : Option Document) :
    givenOr missing d? ≠ "" := by
  cases d? with
  | none => exact h
  | some d =>
    rw [givenOr]
    split
    · rename_i hgiven
      exact d.shown_ne_empty hgiven
    · exact h

namespace ServiceFault

/-- The message of a refusal has words of its own. -/
theorem text_ne_empty (f : ServiceFault) : f.text ≠ "" := by
  have hwords : toString "An error occurred (" ≠ "" := by decide
  unfold text
  iterate 5 refine Text.append_ne_empty ?_ _
  exact hwords

/-- The code by which a refusal is reported is not empty. -/
theorem detail_code_ne_empty (f : ServiceFault) : f.detail.code ≠ "" :=
  givenOr_ne_empty (by decide) f.code

/-- The message by which a refusal is reported is not empty. -/
theorem detail_message_ne_empty (f : ServiceFault) : f.detail.message ≠ "" :=
  givenOr_ne_empty f.text_ne_empty f.message

end ServiceFault

end ZonalBucket
