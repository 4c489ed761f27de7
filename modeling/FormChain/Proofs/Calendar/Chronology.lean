import FormChain.Condition.Comparison
import FormChain.Proofs.Calendar.DayCount
import FormChain.Proofs.Calendar.Readings
import Mathlib.Data.List.Lex

/-!
# The order of moments

A day with a time of day (`FormChain.Calendar.Civil`) may be written in many ways: with dashes or
slashes, with a letter or blanks before the time, without seconds or without a time where these are
zero, and as a timestamp with what clocks show elsewhere (`FormChain.Calendar.Civil.Shows`). All of
these are read as one moment (`FormChain.Calendar.Civil.Spelled.read?`), and moments are ordered as
the calendar orders days and the clock orders times (`FormChain.Calendar.Civil.millis_lt_iff`). So
operators on times do not depend on how the texts are written
(`FormChain.Value.toMoment?_chronological`).
-/

namespace FormChain

namespace Calendar

/-! ### Days with a time -/

/-- A time of day that is given to the second, in a day without a leap second. -/
structure IsWhole (t : TimeOfDay) : Prop where
  /-- The hour exists. -/
  hour : t.hour < 24
  /-- The minute exists. -/
  minute : t.minute < 60
  /-- The second exists. -/
  second : t.second < 60
  /-- There is nothing beyond the second. -/
  milli : t.milli = 0

/-- The numbers of a day and a time. -/
def numbersOf (d : Date) (t : TimeOfDay) : Numbers :=
  ⟨d.year, d.month, d.day, t.hour, t.minute, t.second, 0⟩

/-- **A day with a time of day**, in the years that are written with four digits or fewer. -/
structure Civil where
  /-- The day. -/
  date : Date
  /-- The time. -/
  time : TimeOfDay
  /-- There is such a day. -/
  isValid : date.isValid = true
  /-- The year has a number from 1 to 9999. -/
  inYears : 1 ≤ date.year ∧ date.year ≤ 9999
  /-- There is such a time. -/
  isWhole : IsWhole time

namespace Civil

/-- The year, the month, the day, the hour, the minute and the second. Of two days with a time the
later one has the greater numbers, compared from the first one on. -/
def fields (c : Civil) : List Int :=
  [c.date.year, c.date.month, c.date.day, c.time.hour, c.time.minute, c.time.second]

/-- The moment of a day with a time. -/
def moment (c : Civil) : Moment :=
  .ofDayTime c.date.dayNumber c.time

/-- **What clocks show that many minutes ahead of universal time**: on the same day, on the next one
or on the one before. -/
structure Shows (c : Civil) (offset : Int) (d : Date) (t : TimeOfDay) : Prop where
  /-- The day is one of the calendar. -/
  isValid : d.isValid = true
  /-- The time is one of the day. -/
  isWhole : IsWhole t
  /-- The seconds are the same. -/
  second : t.second = c.time.second
  /-- The minutes are so many more, counted over the end of a day. -/
  minutes :
    (d = c.date ∧ (t.hour * 60 + t.minute : Int) = c.time.hour * 60 + c.time.minute + offset) ∨
    (d = c.date.next ∧
      (t.hour * 60 + t.minute : Int) + 1440 = c.time.hour * 60 + c.time.minute + offset) ∨
    (d.next = c.date ∧
      (t.hour * 60 + t.minute : Int) = c.time.hour * 60 + c.time.minute + offset + 1440)

/-- **The texts that express a day with a time**: those in a layout that has parts for all that is
not zero, and timestamps with what clocks show somewhere. -/
inductive Spelled (c : Civil) : List Char → Prop where
  /-- A text in universal time. -/
  | plain {l : Layout} {cs : List Char} : l ∈ dateTimeLayouts ++ dateLayouts →
    copied (numbersOf c.date c.time) {} l = numbersOf c.date c.time →
    Writes (numbersOf c.date c.time) l cs → Spelled c cs
  /-- A text that tells how far it is from universal time. -/
  | stamped {offset : Int} {d : Date} {t : TimeOfDay} {cs : List Char} : c.Shows offset d t →
    WritesTimestamp (numbersOf d t) offset cs → Spelled c cs

end Civil

/-- The texts that express a time of day without a date. -/
def ClockSpelled (t : TimeOfDay) (cs : List Char) : Prop :=
  ∃ l ∈ timeLayouts, copied (numbersOf ⟨0, 0, 0⟩ t) {} l = numbersOf ⟨0, 0, 0⟩ t ∧
    Writes (numbersOf ⟨0, 0, 0⟩ t) l cs

/-- A text with blanks around it. -/
def InBlanks (spelled : List Char → Prop) (s : String) : Prop :=
  ∃ front cs behind, s.toList = front ++ cs ++ behind ∧ (∀ c ∈ front, isBlank c = true) ∧
    (∀ c ∈ behind, isBlank c = true) ∧ spelled cs

section Civil

variable {c c' : Civil} {d : Date} {t : TimeOfDay} {s s' : String} {cs : List Char}

theorem IsWhole.millis_lt (ht : IsWhole t) : t.millis < 86400000 := by
  obtain ⟨hhour, hminute, hsecond, hmilli⟩ := ht
  rw [TimeOfDay.millis]
  omega

theorem time?_numbersOf (ht : IsWhole t) : (numbersOf d t).time? = some t := by
  obtain ⟨hour, minute, second, milli⟩ := t
  obtain ⟨hhour, hminute, hsecond, rfl⟩ := ht
  have hleap : second ≠ 60 := Nat.ne_of_lt hsecond
  have hkept : min second 59 = second := Nat.min_eq_left (Nat.le_of_lt_succ hsecond)
  have hsecond : second ≤ 60 := Nat.le_of_lt hsecond
  rw [Numbers.time?, if_pos (by simp [numbersOf, hhour, hminute, hsecond])]
  simp [numbersOf, hleap, hkept]

theorem date?_numbersOf (hd : d.isValid = true) (hyear : 0 ≤ d.year ∧ d.year ≤ 10000) :
    (numbersOf d t).date? = some d := by
  have hrange : isYearInRange d.year = true := by
    simp only [isYearInRange, Bool.and_eq_true, decide_eq_true_eq]
    omega
  exact if_pos (Bool.and_eq_true_iff.mpr ⟨hrange, hd⟩)

theorem moment?_numbersOf (hd : d.isValid = true) (hyear : 0 ≤ d.year ∧ d.year ≤ 10000)
    (ht : IsWhole t) : (numbersOf d t).moment? = some (.ofDayTime d.dayNumber t) := by
  rw [Numbers.moment?, date?_numbersOf hd hyear, time?_numbersOf ht]
  rfl

/-- The clocks show a day of the same year or of a year beside it. -/
theorem Civil.Shows.year {offset : Int} (h : c.Shows offset d t) :
    0 ≤ d.year ∧ d.year ≤ 10000 := by
  have hyears := c.inYears
  rcases h.minutes with ⟨rfl, -⟩ | ⟨rfl, -⟩ | ⟨hnext, -⟩
  · omega
  · rcases Date.year_next c.date with hyear | hyear <;> omega
  · rw [← hnext] at hyears
    rcases Date.year_next d with hyear | hyear <;> omega

/-- **Clocks that are ahead show a later time**, by as much as they are ahead. -/
theorem Civil.Shows.millis {offset : Int} (h : c.Shows offset d t) :
    (Moment.ofDayTime d.dayNumber t).millis - offset * 60000 = c.moment.millis := by
  have hsecond := h.second
  have hmilli := h.isWhole.milli
  have hmilli' := c.isWhole.milli
  simp only [moment, Moment.ofDayTime, Moment.millisPerDay, TimeOfDay.millis, Int.ofNat_eq_natCast]
  -- where the minutes go over the end of a day, the number of the day makes up for it
  rcases h.minutes with ⟨rfl, hminutes⟩ | ⟨rfl, hminutes⟩ | ⟨hnext, hminutes⟩
  · omega
  · rw [(Date.next_spec c.isValid).2]
    omega
  · rw [← hnext, (Date.next_spec h.isValid).2]
    omega

/-- **The later day with a time has the greater number of milliseconds.** -/
theorem Civil.millis_lt (h : c.fields < c'.fields) : c.moment.millis < c'.moment.millis := by
  have hend := c.isWhole.millis_lt
  -- no time is so late that it makes up for a day
  have hlater (hday : c.date.dayNumber < c'.date.dayNumber) :
      c.moment.millis < c'.moment.millis := by
    simp only [moment, Moment.ofDayTime, Moment.millisPerDay, Int.ofNat_eq_natCast]
    omega
  simp only [fields, List.cons_lt_cons_iff] at h
  rcases h with hyear | ⟨hyear, hmonth | ⟨hmonth, hday | ⟨hday, htime⟩⟩⟩
  · exact hlater (Date.dayNumber_lt c.isValid c'.isValid (.inl hyear))
  · exact hlater (Date.dayNumber_lt c.isValid c'.isValid (.inr ⟨hyear, .inl (by omega)⟩))
  · exact hlater (Date.dayNumber_lt c.isValid c'.isValid (.inr ⟨hyear, .inr (by omega)⟩))
  · have hsame : c.date.dayNumber = c'.date.dayNumber := by
      rw [Date.dayNumber, Date.dayNumber, hyear, Int.ofNat.inj hmonth, Int.ofNat.inj hday]
    have htime : c.time.millis < c'.time.millis := by
      have hminute := c.isWhole.minute
      have hsecond := c.isWhole.second
      have hmilli := c.isWhole.milli
      simp only [List.lt_irrefl, and_false, or_false] at htime
      simp only [TimeOfDay.millis]
      omega
    simp only [moment, Moment.ofDayTime, hsame, Int.ofNat_eq_natCast]
    omega

/-- **The order of the moments is the order of the calendar and the clock.** -/
theorem Civil.millis_lt_iff : c.moment.millis < c'.moment.millis ↔ c.fields < c'.fields := by
  refine ⟨fun h => ?_, millis_lt⟩
  rcases lt_trichotomy c.fields c'.fields with hlt | heq | hgt
  · exact hlt
  · have hsame : c.moment = c'.moment := by
      simp only [fields, List.cons.injEq, Int.natCast_inj, and_true] at heq
      obtain ⟨hyear, hmonth, hday, hhour, hminute, hsecond⟩ := heq
      rw [moment, moment, Date.dayNumber, Date.dayNumber, Moment.ofDayTime, Moment.ofDayTime,
        TimeOfDay.millis, TimeOfDay.millis, hyear, hmonth, hday, hhour, hminute, hsecond,
        c.isWhole.milli, c'.isWhole.milli]
    exact absurd h (hsame ▸ Int.lt_irrefl _)
  · exact absurd (millis_lt hgt) (Int.not_lt.mpr (Int.le_of_lt h))

/-- A date alone is of midnight. -/
theorem midnight_of_copied {l : Layout} (hl : l ∈ dateLayouts)
    (h : copied (numbersOf d t) {} l = numbersOf d t) (ht : IsWhole t) : t = ⟨0, 0, 0, 0⟩ := by
  obtain ⟨hour, minute, second, milli⟩ := t
  obtain rfl : milli = 0 := ht.milli
  simp only [dateLayouts, List.mem_cons, List.not_mem_nil, or_false] at hl
  rcases hl with rfl | rfl <;> cases h <;> rfl

/-- **A text that expresses a day with a time is read as that moment**, whenever it is read. -/
theorem Civil.Spelled.read? (h : c.Spelled cs) (now : Moment) :
    Moment.read? now (String.ofList cs) = some c.moment := by
  have hyears : 0 ≤ c.date.year ∧ c.date.year ≤ 10000 := by
    have := c.inYears
    omega
  cases h with
  | @plain l _ hl hcopied hwrites =>
    have hall : l ∈ allLayouts := List.mem_append_left _ hl
    rw [read?_eq (kind_of_layout hall hwrites) (int64?_of_writes hall hwrites),
      timestamp?_of_layout hall hwrites, dateTime?_of_writes hall hwrites hcopied,
      date?_of_writes hall hwrites hcopied]
    -- what is no date with a time is a date alone, and that it expresses the time means midnight
    by_cases htimed : l ∈ dateTimeLayouts
    · rw [if_pos htimed, moment?_numbersOf c.isValid hyears c.isWhole]
      rfl
    · have hdate : l ∈ dateLayouts := (List.mem_append.mp hl).resolve_left htimed
      have hmidnight := midnight_of_copied hdate hcopied c.isWhole
      rw [if_neg htimed, if_pos hdate, date?_numbersOf c.isValid hyears, moment, hmidnight]
      rfl
  | @stamped offset d t _ hshows hwrites =>
    obtain ⟨hkind, hdash⟩ := hwrites.begins
    rw [read?_eq hkind (int64?_eq_none hkind hdash (by decide)), timestamp?_of_writes hwrites rfl,
      moment?_numbersOf hshows.isValid hshows.year hshows.isWhole, Option.map_some, hshows.millis]
    rfl

/-- A text that expresses a day with a time neither begins nor ends with a blank. -/
theorem Civil.Spelled.ends (h : c.Spelled cs) :
    kind cs = .digit ∧ ∀ c, cs.getLast? = some c → isBlank c = false := by
  cases h with
  | plain hl _ hwrites =>
    have hall := List.mem_append_left timeLayouts hl
    exact ⟨kind_of_layout hall hwrites, isBlank_getLast_of_writes hall hwrites⟩
  | stamped _ hwrites => exact ⟨hwrites.begins.1, hwrites.ends⟩

/-- **A text that expresses a time of day is read as that time on the day of `now`.** -/
theorem ClockSpelled.read? (h : ClockSpelled t cs) (ht : IsWhole t) (now : Moment) :
    Moment.read? now (String.ofList cs) = some (.ofDayTime now.dayNumber t) := by
  obtain ⟨l, hl, hcopied, hwrites⟩ := h
  have hall : l ∈ allLayouts := List.mem_append_right _ hl
  have hother : ∀ l ∈ timeLayouts, l ∉ dateTimeLayouts ∧ l ∉ dateLayouts := by decide
  rw [read?_eq (kind_of_layout hall hwrites) (int64?_of_writes hall hwrites),
    timestamp?_of_layout hall hwrites, dateTime?_of_writes hall hwrites hcopied,
    if_neg (hother l hl).1, date?_of_writes hall hwrites hcopied, if_neg (hother l hl).2,
    timeToday?_of_writes hl hwrites hcopied, time?_numbersOf ht]
  rfl

theorem ClockSpelled.ends (h : ClockSpelled t cs) :
    kind cs = .digit ∧ ∀ c, cs.getLast? = some c → isBlank c = false := by
  obtain ⟨l, hl, -, hwrites⟩ := h
  have hall : l ∈ allLayouts := List.mem_append_right _ hl
  exact ⟨kind_of_layout hall hwrites, isBlank_getLast_of_writes hall hwrites⟩

/-- **Blanks around a text do not count.** -/
theorem InBlanks.toMoment? {spelled : List Char → Prop} {found : Option Moment} {now : Moment}
    (h : InBlanks spelled s)
    (hends : ∀ cs, spelled cs → kind cs = .digit ∧ ∀ c, cs.getLast? = some c → isBlank c = false)
    (hread : ∀ cs, spelled cs → Moment.read? now (String.ofList cs) = found) :
    Value.toMoment? now (.text s) = found := by
  obtain ⟨front, cs, behind, hs, hfront, hbehind, hcs⟩ := h
  obtain ⟨hkind, hlast⟩ := hends cs hcs
  have hhead := isBlank_head_of_kind (hkind ▸ nofun : kind cs ≠ .blank)
  rw [Value.toMoment?, trimmed, hs, Text.trim_between hhead hlast hfront hbehind, hread cs hcs]

end Civil

end Calendar

open Calendar

/-- **Texts that express days with times are moments in the order of the calendar**: each is read as
its moment, in whatever layout, at whatever time and with whatever blanks around it; the later one
has the greater number of milliseconds; and the operators on times order such texts so. A time
without a date is a time on the day it is read. -/
theorem Value.toMoment?_chronological :
    (∀ (c : Civil) (s : String), InBlanks c.Spelled s →
      ∀ now, toMoment? now (.text s) = some c.moment) ∧
    (∀ c c' : Civil, c.moment.millis < c'.moment.millis ↔ c.fields < c'.fields) ∧
    (∀ (c c' : Civil) (s s' : String), InBlanks c.Spelled s → InBlanks c'.Spelled s' → ∀ now,
      (Operator.holds now (.text s) (.text s') .timeBefore = true ↔ c.fields < c'.fields) ∧
      (Operator.holds now (.text s) (.text s') .timeAfter = true ↔ c'.fields < c.fields)) ∧
    ∀ (t : TimeOfDay) (s : String), IsWhole t → InBlanks (ClockSpelled t) s →
      ∀ now : Moment, now.date.isValid = true ∧
        toMoment? now (.text s) = some (.ofDayTime now.date.dayNumber t) := by
  have hread (c : Civil) (s : String) (hs : InBlanks c.Spelled s) (now : Moment) :
      toMoment? now (.text s) = some c.moment :=
    hs.toMoment? (fun _ h => h.ends) fun _ h => h.read? now
  refine ⟨hread, fun _ _ => Civil.millis_lt_iff, fun c c' s s' hs hs' now => ?_,
    fun t s ht hs now => ?_⟩
  · simp only [Operator.holds_timeBefore, Operator.holds_timeAfter, Operator.momentsRelated,
      Operator.related, hread c s hs now, hread c' s' hs' now, decide_eq_true_eq, gt_iff_lt]
    exact ⟨Civil.millis_lt_iff, Civil.millis_lt_iff⟩
  · rw [Moment.date, Date.dayNumber_ofDayNumber]
    exact ⟨Date.isValid_ofDayNumber _,
      hs.toMoment? (fun _ h => h.ends) fun _ h => h.read? ht now⟩

/-- Half past eleven on the evening of a leap day. -/
def Calendar.leapEvening : Civil :=
  ⟨⟨2024, 2, 29⟩, ⟨23, 30, 0, 0⟩, by decide, by decide, ⟨by decide, by decide, by decide, rfl⟩⟩

/-- The midnight after it. -/
def Calendar.marchBegins : Civil :=
  ⟨⟨2024, 3, 1⟩, ⟨0, 0, 0, 0⟩, by decide, by decide, ⟨by decide, by decide, by decide, rfl⟩⟩

/-- The evening as clocks show it that are an hour ahead is the evening written with slashes, and
before the midnight that is written as a date. -/
theorem Value.toMoment?_leapEvening :
    toMoment? ⟨0⟩ (.text "2024-03-01T00:30:00+01:00") = some leapEvening.moment ∧
    toMoment? ⟨0⟩ (.text " 2024/2/29  23:30\n") = some leapEvening.moment ∧
    Operator.holds ⟨0⟩ (.text " 2024/2/29  23:30\n") (.text "2024-03-01") .timeBefore = true ∧
    toMoment? ⟨-1⟩ (.text "09:05") = some (.ofDayTime (-1) ⟨9, 5, 0, 0⟩) := by
  obtain ⟨hread, -, hholds, hclock⟩ := Value.toMoment?_chronological
  have hstamped : InBlanks leapEvening.Spelled "2024-03-01T00:30:00+01:00" := by
    have hshows : leapEvening.Shows 60 ⟨2024, 3, 1⟩ ⟨0, 30, 0, 0⟩ :=
      ⟨by decide, ⟨by decide, by decide, by decide, rfl⟩, rfl, .inr (.inl ⟨by decide, by decide⟩)⟩
    have numeral {v : Nat} {ds : List Char} (hds : ds.all Decimal.isDigit = true)
        (hv : ds.length = 2 ∧ Decimal.value ds = v) : IsNumeral 2 v ds :=
      ⟨hv.1, List.all_eq_true.mp hds, hv.2⟩
    have hzone : WritesZone 60 ('+' :: ['0', '1'] ++ ':' :: ['0', '0']) :=
      .ahead (by decide : 1 ≤ 23) (by decide : 0 ≤ 59) (numeral rfl ⟨rfl, rfl⟩)
        (numeral rfl ⟨rfl, rfl⟩)
    have hwrites : WritesTimestamp (numbersOf ⟨2024, 3, 1⟩ ⟨0, 30, 0, 0⟩) 60
        (['2', '0', '2', '4'] ++ '-' :: ['0', '3'] ++ '-' :: ['0', '1'] ++ 'T' :: ['0', '0'] ++
          ':' :: ['3', '0'] ++ ':' :: ['0', '0'] ++ ('+' :: ['0', '1'] ++ ':' :: ['0', '0'])) :=
      .parts rfl ⟨rfl, List.all_eq_true.mp rfl, rfl⟩ (numeral rfl ⟨rfl, rfl⟩)
        (numeral rfl ⟨rfl, rfl⟩) (by decide) (numeral rfl ⟨rfl, rfl⟩) (numeral rfl ⟨rfl, rfl⟩)
        (numeral rfl ⟨rfl, rfl⟩) hzone
    exact ⟨[], _, [], rfl, nofun, nofun, .stamped hshows hwrites⟩
  have hslashed : InBlanks leapEvening.Spelled " 2024/2/29  23:30\n" := by
    have hwrites : Writes (numbersOf leapEvening.date leapEvening.time)
        (dateParts '/' ++ .gap :: clockParts)
        (['2', '0', '2', '4'] ++ (['/'] ++ (['2'] ++ (['/'] ++ (['2', '9'] ++ ([' ', ' '] ++
          (['2', '3'] ++ ([':'] ++ (['3', '0'] ++ []))))))))) :=
      .cons (.digits rfl (by decide) rfl) <| .cons (.mark _) <|
      .cons (.digits rfl (by decide) rfl) <| .cons (.mark _) <|
      .cons (.digits rfl (by decide) rfl) <|
      .cons (.gap (by decide) (List.all_eq_true.mp rfl)) <|
      .cons (.digits rfl (by decide) rfl) <| .cons (.mark _) <|
      .cons (.digits rfl (by decide) rfl) .nil
    exact ⟨[' '], _, ['\n'], rfl, List.all_eq_true.mp rfl, List.all_eq_true.mp rfl,
      .plain (by decide) rfl hwrites⟩
  have hdate : InBlanks marchBegins.Spelled "2024-03-01" := by
    have hwrites : Writes (numbersOf marchBegins.date marchBegins.time) (dateParts '-')
        (['2', '0', '2', '4'] ++ (['-'] ++ (['0', '3'] ++ (['-'] ++ (['0', '1'] ++ []))))) :=
      .cons (.digits rfl (by decide) rfl) <| .cons (.mark _) <|
      .cons (.digits rfl (by decide) rfl) <| .cons (.mark _) <|
      .cons (.digits rfl (by decide) rfl) .nil
    exact ⟨[], _, [], rfl, nofun, nofun, .plain (by decide) rfl hwrites⟩
  have htime : InBlanks (ClockSpelled ⟨9, 5, 0, 0⟩) "09:05" := by
    have hwrites : Writes (numbersOf ⟨0, 0, 0⟩ ⟨9, 5, 0, 0⟩) clockParts
        (['0', '9'] ++ ([':'] ++ (['0', '5'] ++ []))) :=
      .cons (.digits rfl (by decide) rfl) <| .cons (.mark _) <|
      .cons (.digits rfl (by decide) rfl) .nil
    exact ⟨[], _, [], rfl, nofun, nofun, clockParts, by decide, rfl, hwrites⟩
  have hbefore : leapEvening.fields < marchBegins.fields := by decide
  exact ⟨hread _ _ hstamped _, hread _ _ hslashed _,
    (hholds _ _ _ _ hslashed hdate _).1.mpr hbefore,
    (hclock _ _ ⟨by decide, by decide, by decide, rfl⟩ htime _).2⟩

end FormChain
