import Mathlib
import ZonalBucket.BucketName

/-!
# Bucket names tell their parts

A name is a stem, a hyphen, the clock in milliseconds, two hyphens, a zone and an ending.
The stem and the zone may have hyphens too, so that the name does not show at first sight
where one part stops.  But two hyphens behind each other stand nowhere in the zone, and the
character in front of the right two is a digit; and there is no hyphen among the digits.  So
the name determines its parts, `ofParts_inj`.

Both steps are cases of `append_inj_of_overlap`: a row is cut at one place only if no cut
leaves room for another one further on.
-/

namespace ZonalBucket.BucketName

section Cuts

variable {mark : Char} {front front' back back' gap : List Char}

/-- Two cuts of a row are the same if neither can lie behind the other. -/
theorem append_inj_of_overlap (h : front ++ back = front' ++ back')
    (hright : ∀ gap, front' = front ++ gap → back = gap ++ back' → gap = [])
    (hleft : ∀ gap, front = front' ++ gap → back' = gap ++ back → gap = []) :
    front = front' ∧ back = back' := by
  rcases List.append_eq_append_iff.1 h with ⟨gap, hfront, hback⟩ | ⟨gap, hfront, hback⟩
  · have hnone := hright gap hfront hback
    subst hnone
    exact ⟨by rw [hfront, List.append_nil], hback⟩
  · have hnone := hleft gap hfront hback
    subst hnone
    exact ⟨by rw [hfront, List.append_nil], hback.symm⟩

/-- Behind the last mark of a row there is no other. -/
theorem eq_nil_of_mark (hback : mark ∉ back) (h : mark :: back = gap ++ mark :: back') :
    gap = [] := by
  cases gap with
  | nil => rfl
  | cons c gap =>
    rw [List.cons_append, List.cons.injEq] at h
    rw [h.2] at hback
    simp at hback

/-- Behind two marks that follow something else there are no other two, unless they stand
in what is left. -/
theorem eq_nil_of_twoMarks (hback : ¬[mark, mark] <:+: back)
    (hfront : (front ++ gap).getLast? ≠ some mark)
    (h : mark :: mark :: back = gap ++ mark :: mark :: back') : gap = [] := by
  cases gap with
  | nil => rfl
  | cons c gap =>
    rw [List.cons_append, List.cons.injEq] at h
    obtain ⟨rfl, h⟩ := h
    cases gap with
    | nil => exact absurd List.getLast?_concat hfront
    | cons d gap =>
      rw [List.cons_append, List.cons.injEq] at h
      refine absurd ⟨gap, back', ?_⟩ hback
      rw [h.2, List.append_assoc]
      rfl

/-- The last mark cuts a row at one place.  It is enough that there is no mark behind
it; in front of it there may be any number of them. -/
theorem append_mark_inj (hback : mark ∉ back) (hback' : mark ∉ back')
    (h : front ++ mark :: back = front' ++ mark :: back') : front = front' ∧ back = back' := by
  have hcut := append_inj_of_overlap h (fun gap _ hgap => eq_nil_of_mark hback hgap)
    (fun gap _ hgap => eq_nil_of_mark hback' hgap)
  exact ⟨hcut.1, List.tail_eq_of_cons_eq hcut.2⟩

/-- The last two marks behind something else cut a row at one place. -/
theorem append_twoMarks_inj (hback : ¬[mark, mark] <:+: back) (hback' : ¬[mark, mark] <:+: back')
    (hfront : front.getLast? ≠ some mark) (hfront' : front'.getLast? ≠ some mark)
    (h : front ++ mark :: mark :: back = front' ++ mark :: mark :: back') :
    front = front' ∧ back = back' := by
  have hcut := append_inj_of_overlap h
    (fun gap hfronts hgap => eq_nil_of_twoMarks hback (hfronts ▸ hfront') hgap)
    (fun gap hfronts hgap => eq_nil_of_twoMarks hback' (hfronts ▸ hfront) hgap)
  exact ⟨hcut.1, List.tail_eq_of_cons_eq (List.tail_eq_of_cons_eq hcut.2)⟩

end Cuts

/-- No hyphen of a text follows another one. -/
def HyphensApart (s : String) : Prop := ¬['-', '-'] <:+: s.toList

instance (s : String) : Decidable (HyphensApart s) :=
  inferInstanceAs (Decidable (¬['-', '-'] <:+: s.toList))

section Parts

variable {stem stem' middle middle' zone zone' : String}

/-- The characters of a name, in the brackets in which it is taken apart: first the
ending goes, then the zone behind two hyphens, then the middle part. -/
theorem toList_ofParts (stem middle zone : String) :
    (ofParts stem middle zone).toList =
      ((stem.toList ++ '-' :: middle.toList) ++ '-' :: '-' :: zone.toList) ++ ending.toList := by
  have hone : "-".toList = ['-'] := rfl
  have htwo : "--".toList = ['-', '-'] := rfl
  simp only [ofParts, String.toList_append, hone, htwo, List.append_assoc, List.cons_append,
    List.nil_append]

/-- In front of the two hyphens stands the last character of the middle part. -/
theorem getLast?_stem_middle (hmiddle : middle ≠ "") (hhyphen : '-' ∉ middle.toList) :
    (stem.toList ++ '-' :: middle.toList).getLast? ≠ some '-' := by
  intro h
  have hnil : middle.toList ≠ [] := fun hnil => hmiddle (String.toList_eq_nil_iff.1 hnil)
  rw [List.getLast?_append, List.getLast?_cons, List.getLast?_eq_some_getLast hnil,
    Option.getD_some, Option.some_or] at h
  exact hhyphen (Option.some.inj h ▸ List.getLast_mem hnil)

/-- **A name determines its parts.**  The ending is always the same, the zone is the
last part in which two hyphens do not meet, and the middle part has no hyphen at all. -/
theorem ofParts_inj (hmiddle : middle ≠ "") (hmiddle' : middle' ≠ "")
    (hhyphen : '-' ∉ middle.toList) (hhyphen' : '-' ∉ middle'.toList)
    (hzone : HyphensApart zone) (hzone' : HyphensApart zone')
    (h : ofParts stem middle zone = ofParts stem' middle' zone') :
    stem = stem' ∧ middle = middle' ∧ zone = zone' := by
  have hchars := congrArg String.toList h
  rw [toList_ofParts, toList_ofParts] at hchars
  have hbody := List.append_cancel_right hchars
  -- first the two hyphens, which have none right in front of them and no other two behind,
  -- then the single one, behind which there is no other
  obtain ⟨hfront, hzones⟩ := append_twoMarks_inj hzone hzone'
    (getLast?_stem_middle hmiddle hhyphen) (getLast?_stem_middle hmiddle' hhyphen') hbody
  obtain ⟨hstems, hmiddles⟩ := append_mark_inj hhyphen hhyphen' hfront
  exact ⟨String.toList_inj.1 hstems, String.toList_inj.1 hmiddles, String.toList_inj.1 hzones⟩

end Parts

section Stamps

/-- A clock that is not before its beginning is written in whole milliseconds, rounded
down. -/
theorem stamp_of_nat (clock : Nat) : stamp clock = Nat.repr (clock / 1000000) := rfl

/-- A hyphen is no digit.  So the last hyphen in front of the stamp is the one that
divides it from the stem. -/
theorem noHyphen_repr (n : Nat) : '-' ∉ (Nat.repr n).toList := by
  intro h
  rw [Nat.toList_repr] at h
  have hdigit : '-'.isDigit = true := Nat.isDigit_of_mem_toDigits (by decide) (by decide) h
  revert hdigit
  decide

end Stamps

/-- With a stem and a zone a name is made at any time, and its middle part is the
stamp. -/
theorem make_of_clock {stem zone : String} (hstem : stem ≠ "") (hzone : zone ≠ "") (clock : Nat) :
    make stem zone none clock = .ok (ofParts stem (Nat.repr (clock / 1000000)) zone) := by
  rw [make, if_neg hstem, if_neg hzone, Option.getD_none, stamp_of_nat]

/-- **Generated names tell their parts and never collide.**  A name is made of the stem, the
clock in whole milliseconds and the zone, in this form.  Two calls that make the same name
have the same stem, the same zone and clocks in the same millisecond; and of one stem and
zone the names differ exactly when the milliseconds do. -/
theorem make_determines_parts {stem zone : String} (hstem : stem ≠ "") (hzone : zone ≠ "")
    (hhyphens : HyphensApart zone) (clock : Nat) :
    make stem zone none clock =
      .ok (stem ++ "-" ++ toString (clock / 1000000) ++ "--" ++ zone ++ "--x-s3") ∧
    (∀ stem' zone' (clock' : Nat), stem' ≠ "" → zone' ≠ "" → HyphensApart zone' →
      make stem' zone' none clock' = make stem zone none clock →
      stem' = stem ∧ zone' = zone ∧ clock' / 1000000 = clock / 1000000) ∧
    ∀ clock' : Nat, make stem zone none clock' = make stem zone none clock ↔
      clock' / 1000000 = clock / 1000000 := by
  refine ⟨make_of_clock hstem hzone clock, ?_, fun clock' => ⟨fun h => ?_, fun h => ?_⟩⟩
  · intro stem' zone' clock' hstem' hzone' hhyphens' h
    rw [make_of_clock hstem' hzone', make_of_clock hstem hzone, Except.ok.injEq] at h
    obtain ⟨hstems, hstamps, hzones⟩ := ofParts_inj Nat.repr_ne_empty Nat.repr_ne_empty
      (noHyphen_repr _) (noHyphen_repr _) hhyphens' hhyphens h
    exact ⟨hstems, hzones, Nat.repr_inj.1 hstamps⟩
  · rw [make_of_clock hstem hzone, make_of_clock hstem hzone, Except.ok.injEq] at h
    obtain ⟨-, hstamps, -⟩ := ofParts_inj Nat.repr_ne_empty Nat.repr_ne_empty
      (noHyphen_repr _) (noHyphen_repr _) hhyphens hhyphens h
    exact Nat.repr_inj.1 hstamps
  · rw [make_of_clock hstem hzone, make_of_clock hstem hzone, h]

/-- The stem of one name goes on where that of the other ends, and the zone begins and ends
with a hyphen. -/
theorem make_determines_parts_hyphens :
    HyphensApart "-z-" ∧
    make "a-1--b" "-z-" none (1714566600123456789 : Nat) = .ok "a-1--b-1714566600123---z---x-s3" ∧
    (make "a" "-z-" none (1714566600123456789 : Nat) ≠
      make "a-1--b" "-z-" none (1714566600123456789 : Nat)) ∧
    make "a-1--b" "-z-" none (1714566600123999999 : Nat) =
      make "a-1--b" "-z-" none (1714566600123456789 : Nat) := by
  have hzone : HyphensApart "-z-" := by decide
  have hstem : "a-1--b" ≠ "" := by decide
  obtain ⟨hname, hparts, hclocks⟩ :=
    make_determines_parts hstem (by decide) hzone 1714566600123456789
  refine ⟨hzone, hname, fun h => ?_, (hclocks 1714566600123999999).2 rfl⟩
  have hstems := (hparts "a" "-z-" 1714566600123456789 (by decide) (by decide) hzone h).1
  revert hstems
  decide

end ZonalBucket.BucketName
