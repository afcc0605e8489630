import ZonalBucket.Timestamp.Printer
import ZonalBucket.Timestamp.Reader

/-!
# Written time stamps are read back

The form of a time stamp in a document is one of the many that a field may hold, and what
is read from it is the time stamp itself, `Timestamp.read_iso`.  Each part is read back with
whatever follows it: digits of a fixed number, the day, the time of day, the offset.  Only
what follows a time of day may not go on like one, `EndsClock`.

The form has no room for the seconds of an offset.  So offsets must be of whole minutes,
and those that are read from a field all are, `Timestamp.wholeMinutes_of_read`.
-/

namespace ZonalBucket

open Decimal (tenTo)
open Text (asciiDigit? ofDigits asciiDigit?_of_isDigit)

section Digits

variable {cs rest : List Char} {width n : Nat}

/-- A row of digits is read digit by digit, and reading cannot fail. -/
theorem mapM_asciiDigit? (h : ∀ c ∈ cs, c.isDigit = true) :
    cs.mapM asciiDigit? = some (cs.map (·.toNat - 48)) := by
  induction cs with
  | nil => rfl
  | cons c cs ih =>
    have hfirst := asciiDigit?_of_isDigit (h c (by simp))
    have hrest := ih fun d hd => h d (by simp [hd])
    simp only [List.mapM_cons, hfirst, hrest, Option.pure_def, Option.bind_eq_bind,
      Option.bind_some, List.map_cons]

/-- None of the digits is passed over either, when all others are. -/
theorem filterMap_asciiDigit? (h : ∀ c ∈ cs, c.isDigit = true) :
    cs.filterMap asciiDigit? = cs.map (·.toNat - 48) := by
  induction cs with
  | nil => rfl
  | cons c cs ih =>
    have hfirst := asciiDigit?_of_isDigit (h c (by simp))
    rw [List.filterMap_cons_some hfirst, ih fun d hd => h d (by simp [hd]), List.map_cons]

/-- A last digit is put behind a number. -/
theorem ofDigits_concat (digits : List Nat) (last : Nat) :
    ofDigits (digits ++ [last]) = 10 * ofDigits digits + last := by
  simp [ofDigits]

/-- A number below ten is written with a digit.  Above nine there would be letters. -/
theorem isDigit_digitChar : ∀ {n : Nat}, n < 10 → (Nat.digitChar n).isDigit = true := by
  decide

/-- So many digits are written as are asked for, whatever the number is. -/
theorem length_paddedDigits (width n : Nat) : (paddedDigits width n).length = width := by
  induction width generalizing n with
  | zero => rfl
  | succ width ih => simp [paddedDigits, ih]

/-- Nothing but digits is written. -/
theorem isDigit_of_mem_paddedDigits {c : Char} (h : c ∈ paddedDigits width n) :
    c.isDigit = true := by
  induction width generalizing n with
  | zero => simp [paddedDigits] at h
  | succ width ih =>
    rw [paddedDigits, List.mem_append, List.mem_singleton] at h
    rcases h with h | rfl
    · exact ih h
    · exact isDigit_digitChar (by omega)

/-- The digits that are written are the last ones of the number. -/
theorem ofDigits_paddedDigits (width n : Nat) :
    ofDigits ((paddedDigits width n).map (·.toNat - 48)) = n % tenTo width := by
  induction width generalizing n with
  | zero => simp [paddedDigits, ofDigits, tenTo, Nat.mod_one]
  | succ width ih =>
    have hlast : (Nat.digitChar (n % 10)).toNat - 48 = n % 10 := by
      rw [Nat.toNat_digitChar_of_lt_ten (by omega)]
      omega
    -- the last digit is split off, and the others are those of a tenth of the number
    have hten : tenTo (width + 1) = 10 * tenTo width := Nat.pow_succ'
    have hsplit : n % tenTo (width + 1) = n % 10 + 10 * (n / 10 % tenTo width) := by
      rw [hten, Nat.mod_mul]
    rw [paddedDigits, List.map_append, List.map_singleton, hlast, ofDigits_concat, ih, hsplit]
    omega

/-- A number of so many digits is read back from them. -/
theorem takeDigits?_paddedDigits (h : n < tenTo width) (rest : List Char) :
    takeDigits? width (paddedDigits width n ++ rest) = some (n, rest) := by
  have hlength := length_paddedDigits width n
  have htake : (paddedDigits width n ++ rest).take width = paddedDigits width n :=
    List.take_left' hlength
  have hdrop : (paddedDigits width n ++ rest).drop width = rest := List.drop_left' hlength
  have hdigits : (paddedDigits width n).mapM asciiDigit? =
      some ((paddedDigits width n).map (·.toNat - 48)) :=
    mapM_asciiDigit? fun c hc => isDigit_of_mem_paddedDigits hc
  rw [takeDigits?, htake, hdrop, hdigits, Option.bind_some, List.length_map, if_pos hlength,
    ofDigits_paddedDigits, Nat.mod_eq_of_lt h]

/-- Digits end where something else begins.  So a fixed number of them can be taken
off in front of anything that is no digit. -/
theorem span_paddedDigits (width n : Nat) (h : ∀ c, rest.head? = some c → c.isDigit = false) :
    (paddedDigits width n ++ rest).takeWhile Char.isDigit = paddedDigits width n ∧
      (paddedDigits width n ++ rest).dropWhile Char.isDigit = rest := by
  have hdigits : ∀ c ∈ paddedDigits width n, c.isDigit = true :=
    fun c hc => isDigit_of_mem_paddedDigits hc
  rw [List.takeWhile_append_of_pos hdigits, List.dropWhile_append_of_pos hdigits]
  cases rest with
  | nil => simp
  | cons c rest =>
    have hc : ¬c.isDigit = true := by simp [h c rfl]
    rw [List.takeWhile_cons_of_neg hc, List.dropWhile_cons_of_neg hc]
    simp

end Digits

section Day

/-- No month has more than 31 days, so that two digits are enough for a day. -/
theorem daysIn_le (year month : Nat) : daysIn year month ≤ 31 := by
  unfold daysIn
  split
  · split <;> decide
  · split <;> decide

theorem Date.of?_self (d : Date) : Date.of? d.year d.month d.day = some d := by
  rw [Date.of?, dif_pos d.valid]

/-- A mark that stands where it is expected is taken away. -/
theorem expect?_cons (mark : Char) (rest : List Char) : expect? mark (mark :: rest) = some rest := by
  rw [expect?, if_pos rfl]

/-- **A written day is read back,** whatever follows it.  Its parts have a fixed
number of digits, which are enough for all that a date may be. -/
theorem splitDay?_chars (d : Date) (rest : List Char) :
    splitDay? (d.chars ++ rest) = some ((d.year, d.month, d.day), rest) := by
  obtain ⟨⟨hyear, hyear'⟩, ⟨hmonth, hmonth'⟩, hday, hday'⟩ := d.valid
  have hmost := daysIn_le d.year d.month
  have hvalid : 1 ≤ d.month ∧ d.month ≤ 12 ∧ 1 ≤ d.day ∧ d.day ≤ daysIn d.year d.month :=
    ⟨hmonth, hmonth', hday, hday'⟩
  have hyears : d.year < tenTo 4 := Nat.lt_of_le_of_lt hyear' (by decide)
  have hmonths : d.month < tenTo 2 := Nat.lt_of_le_of_lt hmonth' (by decide)
  have hdays : d.day < tenTo 2 := Nat.lt_of_le_of_lt (Nat.le_trans hday' hmost) (by decide)
  simp only [splitDay?, Date.chars, List.append_assoc, List.cons_append,
    takeDigits?_paddedDigits hyears, takeDigits?_paddedDigits hmonths,
    takeDigits?_paddedDigits hdays, expect?_cons, Option.bind_eq_bind, Option.bind_some,
    if_pos hvalid]

end Day

/-- What may follow a time of day: neither a digit nor the mark of a fraction. -/
def EndsClock (rest : List Char) : Prop :=
  ∀ c, rest.head? = some c → c.isDigit = false ∧ isFractionMark c = false

section Time

variable {micro : Nat} {rest : List Char}

/-- Where no fraction begins, there is none. -/
theorem splitFraction?_of_ends (h : EndsClock rest) : splitFraction? rest = some (0, rest) := by
  cases rest with
  | nil => rfl
  | cons c rest =>
    have hmark : ¬isFractionMark c = true := by simp [(h c rfl).2]
    rw [splitFraction?, if_neg hmark]

/-- Six digits are all that counts.  Fewer are filled up, and more are cut off; with
six there is nothing to do. -/
theorem fractionMicros_of_length {digits : List Nat} (h : digits.length = 6) :
    fractionMicros digits = ofDigits digits := by
  rw [fractionMicros, ← h, List.take_left]

/-- A written fraction is read back.  It has six digits or is left out, and it must
not be followed by more digits. -/
theorem splitFraction?_microChars (hmicro : micro < 1000000) (hrest : EndsClock rest) :
    splitFraction? (microChars micro ++ rest) = some (micro, rest) := by
  by_cases hzero : micro = 0
  · subst hzero
    exact splitFraction?_of_ends hrest
  · obtain ⟨htake, hdrop⟩ := span_paddedDigits 6 micro fun c hc => (hrest c hc).1
    have hdigits : (paddedDigits 6 micro).filterMap asciiDigit? =
        (paddedDigits 6 micro).map (·.toNat - 48) :=
      filterMap_asciiDigit? fun c hc => isDigit_of_mem_paddedDigits hc
    have hlength : ((paddedDigits 6 micro).map (·.toNat - 48)).length = 6 := by
      rw [List.length_map, length_paddedDigits]
    have hsome : (paddedDigits 6 micro).map (·.toNat - 48) ≠ [] :=
      List.ne_nil_of_length_pos (by omega)
    have hvalue : ofDigits ((paddedDigits 6 micro).map (·.toNat - 48)) = micro := by
      rw [ofDigits_paddedDigits]
      exact Nat.mod_eq_of_lt hmicro
    have hpoint : isFractionMark '.' = true := by decide
    simp only [microChars, if_neg hzero, List.cons_append, splitFraction?, hpoint, if_true,
      htake, hdrop, hdigits, if_neg hsome, fractionMicros_of_length hlength, hvalue]

theorem Clock.of?_self (c : Clock) : Clock.of? c.hour c.minute c.second c.micro = some c := by
  rw [Clock.of?, dif_pos c.valid]

/-- **A written time of day is read back,** unless what follows it goes on like one.
An offset never does, and neither does the end of the text. -/
theorem Clock.split?_chars (c : Clock) (hrest : EndsClock rest) :
    Clock.split? (c.chars ++ rest) = some (c, rest) := by
  obtain ⟨hhour, hminute, hsecond, hmicro⟩ := c.valid
  have hhours : c.hour < tenTo 2 := Nat.lt_of_lt_of_le hhour (by decide)
  have hminutes : c.minute < tenTo 2 := Nat.lt_of_lt_of_le hminute (by decide)
  have hseconds : c.second < tenTo 2 := Nat.lt_of_lt_of_le hsecond (by decide)
  simp only [Clock.split?, Clock.chars, List.append_assoc, List.cons_append,
    takeDigits?_paddedDigits hhours, takeDigits?_paddedDigits hminutes, expect?_cons,
    splitSeconds?, takeDigits?_paddedDigits hseconds, splitFraction?_microChars hmicro hrest,
    Option.bind_eq_bind, Option.bind_some, Option.pure_def, Clock.of?_self]

end Time

/-- An offset of whole minutes. -/
def Offset.WholeMinutes (o : Offset) : Prop := 60000000 ∣ o.micros

/-- A time stamp without an offset, or with one of whole minutes. -/
def Timestamp.WholeMinutes (t : Timestamp) : Prop := ∀ o, t.offset = some o → o.WholeMinutes

section Offsets

variable {minutes : Nat}

theorem Offset.of?_self (o : Offset) : Offset.of? o.micros = some o := by
  rw [Offset.of?, dif_pos o.valid]

/-- Hours and minutes are read back as the number of microseconds that they are, for
anything less than a day. -/
theorem hoursMinutes?_hourChars (h : minutes < 1440) :
    hoursMinutes? (hourChars minutes) = some ((minutes : Int) * 60000000) := by
  have hsixty : minutes % 60 < 60 := by omega
  have hday : minutes / 60 < 24 := by omega
  have hhours : minutes / 60 < tenTo 2 := Nat.lt_of_lt_of_le hday (by decide)
  have hrest : minutes % 60 < tenTo 2 := Nat.lt_of_lt_of_le hsixty (by decide)
  have hread := takeDigits?_paddedDigits hrest []
  rw [List.append_nil] at hread
  have hsum : (((minutes / 60 : Nat) : Int) * 60 + (minutes % 60 : Nat)) * 60000000 =
      (minutes : Int) * 60000000 := by omega
  simp only [hoursMinutes?, hourChars, takeDigits?_paddedDigits hhours, hread,
    Option.bind_eq_bind, Option.bind_some, hsixty, true_and, if_true, hsum]

/-- Whole minutes are not rounded.  An offset is stored in microseconds but written in
seconds, which is without loss here. -/
theorem Offset.nearestSeconds_of_minutes {o : Offset} {k : Int} (h : o.micros = 60000000 * k) :
    o.nearestSeconds = 60 * k := by
  simp only [nearestSeconds]
  split <;> omega

/-- Behind a plus the time is ahead. -/
theorem Offset.read?_plus (rest : List Char) :
    Offset.read? ('+' :: rest) = (hoursMinutes? rest).bind fun m => (Offset.of? m).map some := by
  simp only [Offset.read?]

theorem Offset.read?_minus (rest : List Char) :
    Offset.read? ('-' :: rest) =
      (hoursMinutes? rest).bind fun m => (Offset.of? (-m)).map some := by
  simp only [Offset.read?]

/-- An offset of minutes is written with its sign in front, unless there are none;
that one is written by its letter. -/
theorem Offset.isoChars_of_minutes {o : Offset} {k : Int} (h : o.micros = 60000000 * k)
    (hsome : k ≠ 0) : o.isoChars = (if k < 0 then '-' else '+') :: hourChars k.natAbs := by
  have hseconds := nearestSeconds_of_minutes h
  have hminutes : o.nearestSeconds.natAbs / 60 = k.natAbs := by omega
  have hnone : ¬o.nearestSeconds = 0 := by omega
  have hsign : o.nearestSeconds < 0 ↔ k < 0 := by omega
  rw [isoChars]
  simp only [if_neg hnone, signChar, hsign, hminutes]

/-- **An offset of whole minutes is read back.**  The written form has hours and
minutes only, so that an offset with seconds would come back as another one. -/
theorem Offset.read?_isoChars {o : Offset} (h : o.WholeMinutes) :
    Offset.read? o.isoChars = some (some o) := by
  obtain ⟨k, hk⟩ := h
  have hvalid := o.valid
  have hbound : k.natAbs < 1440 := by omega
  rcases Int.lt_trichotomy k 0 with hneg | hzero | hpos
  · have hback : -((k.natAbs : Int) * 60000000) = o.micros := by omega
    rw [isoChars_of_minutes hk (by omega), if_pos hneg, read?_minus,
      hoursMinutes?_hourChars hbound, Option.bind_some, hback, of?_self, Option.map_some]
  · have hmicros : o.micros = 0 := by omega
    have huniversal : o = Offset.universal := by
      cases o
      cases hmicros
      rfl
    rw [huniversal]
    rfl
  · have hback : (k.natAbs : Int) * 60000000 = o.micros := by omega
    rw [isoChars_of_minutes hk (by omega), if_neg (by omega), read?_plus,
      hoursMinutes?_hourChars hbound, Option.bind_some, hback, of?_self, Option.map_some]

/-- The written offset of a time stamp, which may be nothing. -/
theorem read?_offsetChars {offset : Option Offset} (h : ∀ o, offset = some o → o.WholeMinutes) :
    Offset.read? ((offset.map Offset.isoChars).getD []) = some offset := by
  cases offset with
  | none => rfl
  | some o => exact Offset.read?_isoChars (h o rfl)

/-- A written offset begins with a sign or with the mark of universal time, and not
like the rest of a time of day.  So the reader of the time of day stops in front of
it. -/
theorem endsClock_offsetChars (offset : Option Offset) :
    EndsClock ((offset.map Offset.isoChars).getD []) := by
  intro c hc
  cases offset with
  | none => cases hc
  | some o =>
    simp only [Option.map_some, Option.getD_some, Offset.isoChars] at hc
    split at hc
    · cases hc
      decide
    · rw [List.head?_cons, Option.some.injEq] at hc
      subst hc
      unfold signChar
      split <;> decide

end Offsets

section Whole

variable {t : Timestamp}

/-- A written date is no count, as it goes on behind its year. -/
theorem Timestamp.ofNumeral_isoChars (t : Timestamp) :
    ofNumeral t.isoChars = .error .unreadable := by
  have hchars : ∃ rest, t.isoChars = paddedDigits 4 t.date.year ++ '-' :: rest := by
    simp only [isoChars, Date.chars, List.append_assoc, List.cons_append]
    exact ⟨_, rfl⟩
  obtain ⟨rest, hrest⟩ := hchars
  have hstop : ∀ c, ('-' :: rest).head? = some c → c.isDigit = false := by
    intro c hc
    cases hc
    decide
  obtain ⟨-, hdrop⟩ := span_paddedDigits 4 t.date.year hstop
  have hunsigned : ofUnsigned false t.isoChars = .error .unreadable := by
    rw [hrest, ofUnsigned, hdrop]
    rfl
  have hfirst : ∀ c more, t.isoChars = c :: more → c.isDigit = true := by
    intro c more hc
    have hlength := length_paddedDigits 4 t.date.year
    cases hyear : paddedDigits 4 t.date.year with
    | nil => simp [hyear] at hlength
    | cons d digits =>
      rw [hrest, hyear, List.cons_append, List.cons.injEq] at hc
      have hmem : d ∈ paddedDigits 4 t.date.year := by simp [hyear]
      exact hc.1 ▸ isDigit_of_mem_paddedDigits hmem
  rw [ofNumeral.eq_def]
  split
  · rename_i hc
    exact absurd (hfirst _ _ hc) (by decide)
  · rename_i hc
    exact absurd (hfirst _ _ hc) (by decide)
  · exact hunsigned

/-- **A written time stamp is read back,** if its offset is one of whole minutes.  The
reader tries numbers first, and a written date is none. -/
theorem Timestamp.read_iso (h : t.WholeMinutes) : read t.iso = .ok t := by
  have hday := splitDay?_chars t.date
    ('T' :: (t.clock.chars ++ (t.offset.map Offset.isoChars).getD []))
  have hclock := Clock.split?_chars t.clock (endsClock_offsetChars t.offset)
  have htime : readTime? ('T' :: (t.clock.chars ++ (t.offset.map Offset.isoChars).getD [])) =
      some (t.clock, t.offset) := by
    have hmark : isDateMark 'T' = true := by decide
    simp only [readTime?, hmark, if_true, hclock, read?_offsetChars h, Option.bind_eq_bind,
      Option.bind_some, Option.pure_def]
  have hcalendar : ofCalendar t.isoChars = .ok t := by
    rw [isoChars, ofCalendar, hday]
    simp only [htime, Date.of?_self, dated]
  rw [read, iso, String.toList_ofList, readChars, ofNumeral_isoChars]
  exact hcalendar

end Whole

section Read

variable {t : Timestamp}

/-- For a time stamp with an offset, this one has to be of whole minutes. -/
theorem Timestamp.wholeMinutes_of_offset {o : Offset} (h : t.offset = some o)
    (ho : o.WholeMinutes) : t.WholeMinutes := by
  intro other hother
  rw [h] at hother
  cases hother
  exact ho

/-- Putting a time stamp together keeps the offset. -/
theorem Timestamp.dated_eq_ok {date : Option Date} {clock : Clock} {offset : Option Offset}
    (h : dated date clock offset = .ok t) : t.offset = offset := by
  cases date with
  | none => cases h
  | some date =>
    cases h
    rfl

/-- Moments are given in universal time, whose offset is none and so of whole minutes.
-/
theorem Timestamp.wholeMinutes_of_micros {micros : Int} (h : ofMicros micros = .ok t) :
    t.WholeMinutes := by
  rw [ofMicros] at h
  split at h
  · exact wholeMinutes_of_offset (dated_eq_ok h) ⟨0, rfl⟩
  · cases h

/-- Hours and minutes make whole minutes; there is no way to write seconds. -/
theorem wholeMinutes_of_hoursMinutes? {cs : List Char} {micros : Int}
    (h : hoursMinutes? cs = some micros) : 60000000 ∣ micros := by
  simp only [hoursMinutes?, Option.bind_eq_bind] at h
  obtain ⟨⟨hours, behind⟩, -, h⟩ := Option.bind_eq_some_iff.1 h
  obtain ⟨⟨minutes, left⟩, -, h⟩ := Option.bind_eq_some_iff.1 h
  split at h
  · cases h
    exact Int.dvd_mul_left _ _
  · cases h

/-- An offset is what it is made of. -/
theorem Offset.micros_of_of? {micros : Int} {o : Offset} (h : Offset.of? micros = some o) :
    o.micros = micros := by
  rw [Offset.of?] at h
  split at h
  · cases h
    rfl
  · cases h

/-- Hours and minutes are an offset of whole minutes, to either side. -/
theorem Offset.wholeMinutes_of_signed {sign : Int → Int}
    (hsign : ∀ n, 60000000 ∣ n → 60000000 ∣ sign n) {cs : List Char} {o : Offset}
    (h : ((hoursMinutes? cs).bind fun n => (Offset.of? (sign n)).map some) = some (some o)) :
    o.WholeMinutes := by
  obtain ⟨n, hn, hof⟩ := Option.bind_eq_some_iff.1 h
  obtain ⟨found, hfound, heq⟩ := Option.map_eq_some_iff.1 hof
  cases heq
  rw [Offset.WholeMinutes, micros_of_of? hfound]
  exact hsign n (wholeMinutes_of_hoursMinutes? hn)

/-- An offset is read in hours and minutes.  There is no place for seconds in what the
reader takes. -/
theorem Offset.wholeMinutes_of_read? {cs : List Char} {o : Offset}
    (h : Offset.read? cs = some (some o)) : o.WholeMinutes := by
  have hnegated : ∀ n : Int, 60000000 ∣ n → 60000000 ∣ -n := fun n hn => Int.dvd_neg.2 hn
  rw [Offset.read?.eq_def] at h
  split at h
  · cases h
  · cases h
    exact ⟨0, rfl⟩
  · cases h
    exact ⟨0, rfl⟩
  · exact wholeMinutes_of_signed (fun n hn => hn) h
  · exact wholeMinutes_of_signed hnegated h
  · exact wholeMinutes_of_signed hnegated h
  · cases h

namespace Timestamp

/-- A time stamp that is counted from the beginning of 1970 is in universal time,
whose offset is of whole minutes. -/
theorem wholeMinutes_of_count {n : Int} (h : ofCount n = .ok t) : t.WholeMinutes :=
  wholeMinutes_of_micros h

theorem wholeMinutes_of_binary {x : Binary} (h : ofBinary x = .ok t) : t.WholeMinutes :=
  wholeMinutes_of_micros h

theorem wholeMinutes_of_pointed {negative : Bool} {whole rest : List Char}
    (h : ofPointed negative whole rest = .ok t) : t.WholeMinutes := by
  simp only [ofPointed] at h
  split at h
  · cases h
  · split at h
    · cases h
    · split at h
      · cases h
      · exact wholeMinutes_of_binary h

/-- A count that is written without a sign gives such a time stamp, with a point in it
or without one. -/
theorem wholeMinutes_of_unsigned {negative : Bool} {cs : List Char}
    (h : ofUnsigned negative cs = .ok t) : t.WholeMinutes := by
  simp only [ofUnsigned] at h
  split at h
  · split at h
    · cases h
    · exact wholeMinutes_of_count h
  · exact wholeMinutes_of_pointed h
  · cases h

theorem wholeMinutes_of_numeral {cs : List Char} (h : ofNumeral cs = .ok t) :
    t.WholeMinutes := by
  rw [ofNumeral.eq_def] at h
  split at h <;> exact wholeMinutes_of_unsigned h

/-- What is read behind a date can have an offset, of whole minutes. -/
theorem offset_of_readTime? {cs : List Char} {clock : Clock} {offset : Option Offset}
    (h : readTime? cs = some (clock, offset)) : ∀ o, offset = some o → o.WholeMinutes := by
  intro o ho
  subst ho
  cases cs with
  | nil => cases h
  | cons mark rest =>
    simp only [readTime?, Option.bind_eq_bind] at h
    split at h
    · obtain ⟨⟨time, behind⟩, -, h⟩ := Option.bind_eq_some_iff.1 h
      obtain ⟨found, hfound, h⟩ := Option.bind_eq_some_iff.1 h
      cases h
      exact Offset.wholeMinutes_of_read? hfound
    · cases h

/-- So can a time stamp that is read from a date and a time of day. -/
theorem wholeMinutes_of_calendar {cs : List Char} (h : ofCalendar cs = .ok t) :
    t.WholeMinutes := by
  rw [ofCalendar] at h
  split at h
  · cases h
  · split at h
    · cases h
    · rename_i clock offset htime
      rw [WholeMinutes, dated_eq_ok h]
      exact offset_of_readTime? htime

/-- **Whatever is read from a text has an offset of whole minutes,** if it has one.
There is one case for each form that the reader takes. -/
theorem wholeMinutes_of_read {s : String} (h : read s = .ok t) : t.WholeMinutes := by
  rw [read, readChars] at h
  split at h
  · exact wholeMinutes_of_calendar h
  · exact wholeMinutes_of_numeral h

end Timestamp

end Read

end ZonalBucket
