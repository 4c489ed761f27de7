import FormChain.Proofs.Calendar.Layouts
import FormChain.Proofs.Calendar.Timestamps

/-!
# Which reading a text is given

A text is tried as a count of milliseconds, as a timestamp, as a date with a time, as a date and as
a time of day, and the first reading that there is counts (`FormChain.Moment.read?`). A text in one
of the layouts is no count and no timestamp (`FormChain.Calendar.int64?_of_writes`,
`FormChain.Calendar.timestamp?_of_layout`), and what the layouts make of each other is a table
(`FormChain.Calendar.dateTime_table`, `FormChain.Calendar.date_table`): no layout of another kind
reads it, and if several of the same kind do, they read the same. So the text is read as it was
written (`FormChain.Calendar.dateTime?_of_writes`, `FormChain.Calendar.date?_of_writes`,
`FormChain.Calendar.timeToday?_of_writes`).
-/

namespace FormChain

namespace Calendar

open Decimal (isBlank_of_isDigit isDigit value)

/-! ### The table of layouts -/

/-- The layouts of dates and times, of dates and of times. -/
def allLayouts : List Layout :=
  dateTimeLayouts ++ dateLayouts ++ timeLayouts

/-- A layout without its fraction. -/
def unfractioned (l : Layout) : Layout :=
  l.filter (· ≠ .fraction)

/-- What a date, or a date with a time, makes of a text in one of the layouts is told by the
layouts. -/
theorem meets_told : ∀ l ∈ allLayouts, ∀ r ∈ dateTimeLayouts ++ dateLayouts,
    (meets? r (unfractioned l)).isSome = true := by
  decide

theorem meets_told_times : ∀ l ∈ timeLayouts, ∀ r ∈ timeLayouts,
    (meets? r (unfractioned l)).isSome = true := by
  decide

theorem dateTime_table : ∀ l ∈ allLayouts,
    dateTimeLayouts.any (fun r => meets? r (unfractioned l) = some true) =
      decide (l ∈ dateTimeLayouts) := by
  decide

theorem date_table : ∀ l ∈ allLayouts,
    dateLayouts.any (fun r => meets? r (unfractioned l) = some true) =
      decide (l ∈ dateLayouts) := by
  decide

theorem time_table : ∀ l ∈ timeLayouts,
    timeLayouts.any (fun r => meets? r (unfractioned l) = some true) = true := by
  decide

/-- No layout has a letter or a sign for a distance from universal time. -/
theorem marks_table : ∀ l ∈ allLayouts, l.count (.mark '-') < 3 ∧
    zoneMarks.all (fun c => l.count (.mark c) = 0) = true := by
  decide

/-- Every layout begins and ends with a number, and has a mark. -/
theorem shape_table : ∀ l ∈ allLayouts, kindWritten (unfractioned l) = .digit ∧
    (unfractioned l).getLast?.any (0 < ·.width) = true ∧
    0 < l.count (.mark '-') + l.count (.mark '/') + l.count (.mark ':') := by
  decide

/-! ### Texts of layouts -/

section Texts

variable {n : Numbers} {l l' : Layout} {cs front behind : List Char} {c : Char}

theorem unfractioned_free (l : Layout) : Part.fraction ∉ unfractioned l := by
  simp [unfractioned]

theorem kind_of_layout (hl : l ∈ allLayouts) (h : Writes n l cs) : kind cs = .digit :=
  (kind_of_writes (writes_without_fraction h) (unfractioned_free l)).trans (shape_table l hl).1

/-- A text that begins with a digit, but is no number, is no count of milliseconds. -/
theorem int64?_eq_none (hkind : kind cs = .digit) (hc : c ∈ cs) (hdigit : isDigit c = false) :
    Decimal.int64? (String.ofList cs) = none := by
  -- without a sign in front, all characters would have to be digits
  have hnatural : Decimal.natural? cs = none := by
    refine if_neg fun hall => ?_
    have hmem := List.all_eq_true.mp (Bool.and_eq_true_iff.mp hall).2 c hc
    rw [hdigit] at hmem
    cases hmem
  have hsign : Decimal.withSign? cs = none := by
    cases cs with
    | nil => cases hkind
    | cons d rest =>
      rw [Decimal.withSign?]
      · rw [hnatural]
        rfl
      · rintro ds heq
        obtain ⟨rfl, -⟩ := List.cons.inj heq
        change Kind.other '-' = .digit at hkind
        cases hkind
      · rintro ds heq
        obtain ⟨rfl, -⟩ := List.cons.inj heq
        change Kind.other '+' = .digit at hkind
        cases hkind
  rw [Decimal.int64?, String.toList_ofList, Decimal.signed?, hsign]
  rfl

theorem int64?_of_writes (hl : l ∈ allLayouts) (h : Writes n l cs) :
    Decimal.int64? (String.ofList cs) = none := by
  have hmark := (shape_table l hl).2.2
  rw [← count_of_writes h (by decide) (by decide), ← count_of_writes h (by decide) (by decide),
    ← count_of_writes h (by decide) (by decide)] at hmark
  have hkind := kind_of_layout hl h
  have hsome : 0 < cs.count '-' ∨ 0 < cs.count '/' ∨ 0 < cs.count ':' := by omega
  rcases hsome with hpos | hpos | hpos <;>
    exact int64?_eq_none hkind (List.count_pos_iff.mp hpos) (by decide)

/-- A text in a layout is no timestamp. -/
theorem timestamp?_of_layout (hl : l ∈ allLayouts) (h : Writes n l cs) : timestamp? cs = none := by
  obtain ⟨hdash, hother⟩ := marks_table l hl
  cases ht : timestamp? cs with
  | none => rfl
  | some t =>
    -- a distance from universal time is missing: a dash would be the third one of the text
    rcases exists_zone_of_timestamp? ht with hcount | ⟨c, hc, hmem⟩
    · rw [count_of_writes h (by decide) (by decide)] at hcount
      omega
    · have hplain : zoneMarks.all (fun c => !isDigit c && !isBlank c) = true := by decide
      obtain ⟨hdigit, hblank⟩ : isDigit c = false ∧ isBlank c = false := by
        simpa using List.all_eq_true.mp hplain c hc
      have hnone : l.count (.mark c) = 0 := of_decide_eq_true (List.all_eq_true.mp hother c hc)
      have hpos := List.count_pos_iff.mpr hmem
      rw [count_of_writes h hdigit hblank, hnone] at hpos
      cases hpos

/-- The end of a text is written in the end of its layout. -/
theorem exists_of_writes_append (h : Writes n (l ++ l') cs) :
    ∃ front behind, cs = front ++ behind ∧ Writes n l' behind := by
  induction l generalizing cs with
  | nil => exact ⟨[], cs, rfl, h⟩
  | cons p l ih =>
    cases h with
    | cons hp hl =>
      obtain ⟨front, behind, rfl, hbehind⟩ := ih hl
      exact ⟨_ ++ front, behind, (List.append_assoc ..).symm, hbehind⟩

/-- A text in a layout ends with a digit. -/
theorem isBlank_getLast_of_writes (hl : l ∈ allLayouts) (h : Writes n l cs) :
    ∀ c, cs.getLast? = some c → isBlank c = false := by
  obtain ⟨p, hp, hwidth⟩ := Option.any_eq_true .. |>.mp (shape_table l hl).2.1
  obtain ⟨init, hinit⟩ := List.getLast?_eq_some_iff.mp hp
  -- a fraction would be last in its layout, but nothing is written for it
  have hwrites := writes_without_fraction h
  rw [← unfractioned, hinit] at hwrites
  obtain ⟨front, behind, rfl, hbehind⟩ := exists_of_writes_append hwrites
  cases hbehind with
  | cons hpiece hnil =>
  cases hnil
  have hpos : 0 < p.width := of_decide_eq_true hwidth
  cases hpiece with
  | mark | gap | fraction => exact absurd hpos (Nat.lt_irrefl 0)
  | @number _ ds _ hne _ hds =>
    intro c hc
    rw [List.append_nil, List.getLast?_append, List.getLast?_eq_some_getLast hne] at hc
    cases hc
    exact isBlank_of_isDigit (hds _ (List.getLast_mem hne))

end Texts

/-! ### Reading by layouts -/

section Moments

variable {n : Numbers} {l : Layout} {cs : List Char} {now : Moment}

/-- What a text is read as that begins with a digit but is no count of milliseconds. -/
theorem read?_eq (hkind : kind cs = .digit) (hcount : Decimal.int64? (String.ofList cs) = none) :
    Moment.read? now (String.ofList cs) =
      (((timestamp? cs).or (dateTime? cs)).or (date? cs)).or (timeToday? now cs) := by
  have hne : (String.ofList cs).isEmpty = false := by
    cases cs with
    | nil => cases hkind
    | cons c rest => simp
  rw [Moment.read?, hne, hcount, String.toList_ofList]
  rfl

/-- What trying several layouts comes to, if the text was written in one of all layouts. -/
theorem findSome?_of_writes {α : Type} {layouts : List Layout} (h : Writes n l cs)
    (hn : copied n {} l = n)
    (htold : ∀ r ∈ layouts, (meets? r (unfractioned l)).isSome = true)
    (make : Numbers → Option α) :
    layouts.findSome? (fun r => (readAll? r cs).bind make) =
      if layouts.any (fun r => meets? r (unfractioned l) = some true) then make n else none := by
  have hread := findSome?_of_meets (writes_without_fraction h) (unfractioned_free l) htold make
  rwa [copied_without_fraction, hn] at hread

theorem dateTime?_of_writes (hl : l ∈ allLayouts) (h : Writes n l cs) (hn : copied n {} l = n) :
    dateTime? cs = if l ∈ dateTimeLayouts then n.moment? else none := by
  have hread := findSome?_of_writes h hn
    (fun r hr => meets_told l hl r (List.mem_append_left _ hr)) Numbers.moment?
  rw [dateTime_table l hl] at hread
  exact hread.trans (by simp only [decide_eq_true_eq])

theorem date?_of_writes (hl : l ∈ allLayouts) (h : Writes n l cs) (hn : copied n {} l = n) :
    date? cs = if l ∈ dateLayouts then
      n.date?.map fun d => .ofDayTime d.dayNumber ⟨0, 0, 0, 0⟩ else none := by
  have hread := findSome?_of_writes h hn
    (fun r hr => meets_told l hl r (List.mem_append_right _ hr))
    fun n => n.date?.map fun d => Moment.ofDayTime d.dayNumber ⟨0, 0, 0, 0⟩
  rw [date_table l hl] at hread
  simp only [date?, Option.map_bind]
  exact hread.trans (by simp only [decide_eq_true_eq])

theorem timeToday?_of_writes (hl : l ∈ timeLayouts) (h : Writes n l cs) (hn : copied n {} l = n) :
    timeToday? now cs = n.time?.map fun t => .ofDayTime now.dayNumber t := by
  have hread := findSome?_of_writes h hn (meets_told_times l hl)
    fun n => n.time?.map fun t => Moment.ofDayTime now.dayNumber t
  rw [time_table l hl] at hread
  simp only [timeToday?, Option.map_bind]
  exact hread

end Moments

end Calendar

end FormChain
