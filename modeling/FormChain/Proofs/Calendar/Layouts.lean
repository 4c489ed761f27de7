import FormChain.Calendar.Layout
import FormChain.Proofs.Decimal.Digits
import FormChain.Proofs.Text.Cutting

/-!
# One layout against another

A text is tried with one layout after another, and the first one that reads it counts. What may be
written in a layout is said by `FormChain.Calendar.Writes`: numbers in as many digits as they may
have or fewer, marks, and blanks in the gaps.

Whether another layout reads such a text can in most cases be told from the two layouts, part by
part, by what the text begins with (`FormChain.Calendar.Part.step`): a mark is not read where
another one or a number is written, and no number where there is a mark. Numbers are read as they
were written, since no digit follows them (`FormChain.Calendar.Part.read?_number`). Going through
both layouts at once gives `FormChain.Calendar.meets?`, which tells what the reading comes to
(`FormChain.Calendar.meets_readParts`). It computes, so what all layouts make of each other is a
table.
-/

namespace FormChain

namespace Calendar

open Decimal (isBlank_of_isDigit isDigit value)

/-! ### Writing in a layout -/

/-- How many digits the number of a part may have; a part without a number has none. -/
def Part.width : Part → Nat
  | .year => 4
  | .month | .day | .hour | .minute | .second => 2
  | .fraction | .mark _ | .gap => 0

/-- The number that a part stands for. -/
def Part.numberIn (n : Numbers) : Part → Int
  | .year => n.year
  | .month => n.month
  | .day => n.day
  | .hour => n.hour
  | .minute => n.minute
  | .second => n.second
  | .fraction | .mark _ | .gap => 0

/-- The number that a part stands for, put among others. -/
def Part.copied (n given : Numbers) : Part → Numbers
  | .year => { given with year := n.year }
  | .month => { given with month := n.month }
  | .day => { given with day := n.day }
  | .hour => { given with hour := n.hour }
  | .minute => { given with minute := n.minute }
  | .second => { given with second := n.second }
  | .fraction | .mark _ | .gap => given

/-- The numbers that the parts of a layout stand for, put among others. -/
def copied (n given : Numbers) (l : Layout) : Numbers :=
  l.foldl (fun given p => p.copied n given) given

/-- **What may be written for a part of a layout**: a number in as many digits as it may have or
fewer, a character itself, blanks for a gap, and nothing for a fraction. -/
inductive Part.Writes (n : Numbers) : Part → List Char → Prop where
  /-- A number. -/
  | number {p : Part} {ds : List Char} : p.numberIn n = value ds → ds ≠ [] →
    ds.length ≤ p.width → (∀ c ∈ ds, isDigit c = true) → Writes n p ds
  /-- A character. -/
  | mark (c : Char) : Writes n (.mark c) [c]
  /-- Blanks. -/
  | gap {blanks : List Char} : blanks ≠ [] → (∀ c ∈ blanks, isBlank c = true) →
    Writes n .gap blanks
  /-- No fraction. -/
  | fraction : Writes n .fraction []

/-- **What may be written in a layout**: its parts, one behind another. -/
inductive Writes (n : Numbers) : Layout → List Char → Prop where
  /-- Nothing. -/
  | nil : Writes n [] []
  /-- A part, and what is behind it. -/
  | cons {p : Part} {l : Layout} {piece cs : List Char} :
    p.Writes n piece → Writes n l cs → Writes n (p :: l) (piece ++ cs)

theorem Part.Writes.digits {n : Numbers} {p : Part} {ds : List Char} (h : p.numberIn n = value ds)
    (hlength : 0 < ds.length ∧ ds.length ≤ p.width) (hds : ds.all isDigit = true) : p.Writes n ds :=
  .number h (List.ne_nil_of_length_pos hlength.1) hlength.2 (List.all_eq_true.mp hds)

/-! ### Reading numbers -/

section Digits

variable {c : Char} {n given : Numbers} {p : Part} {cs ds rest : List Char} {width : Nat}

/-- No digit comes first in what is looked at, if none comes first at all. -/
theorem isDigit_head_take (h : ∀ c ∈ cs.head?, isDigit c = false) :
    ∀ c ∈ (cs.take width).head?, isDigit c = false := by
  intro c hc
  rw [List.head?_take] at hc
  split at hc
  · cases hc
  · exact h c hc

theorem number?_append (hne : ds ≠ []) (hlength : ds.length ≤ width)
    (hds : ∀ c ∈ ds, isDigit c = true) (hrest : ∀ c ∈ rest.head?, isDigit c = false) :
    number? width (ds ++ rest) = some (value ds, rest) := by
  have htake : ((ds ++ rest).take width).takeWhile isDigit = ds := by
    rw [List.take_append, List.take_of_length_le hlength]
    exact Text.takeWhile_append hds (isDigit_head_take hrest)
  rw [number?, htake]
  simp [hne]

theorem number?_of_not_isDigit (h : ∀ c ∈ cs.head?, isDigit c = false) :
    number? width cs = none := by
  have htake : (cs.take width).takeWhile isDigit = [] :=
    @Text.takeWhile_append _ _ [] _ nofun (isDigit_head_take h)
  rw [number?, htake]
  rfl

/-- A year that has no sign is a number of four digits. -/
theorem year?_eq (h : ∀ c ∈ cs.head?, c ≠ '-' ∧ c ≠ '+') :
    year? cs = (number? 4 cs).map fun (n, behind) => (Int.ofNat n, behind) := by
  cases cs with
  | nil => rfl
  | cons c rest =>
    rw [year?]
    · rintro more heq
      exact (h c rfl).1 (List.cons.inj heq).1
    · rintro more heq
      exact (h c rfl).2 (List.cons.inj heq).1

/-- **A number is read as it was written**, if no digit follows. -/
theorem Part.read?_number (hn : p.numberIn n = value ds) (hne : ds ≠ [])
    (hlength : ds.length ≤ p.width) (hds : ∀ c ∈ ds, isDigit c = true)
    (hrest : ∀ c ∈ rest.head?, isDigit c = false) :
    p.read? given (ds ++ rest) = some (p.copied n given, rest) := by
  have hnumber := number?_append hne hlength hds hrest
  have hpos : 0 < p.width := Nat.lt_of_lt_of_le (List.length_pos_iff.mpr hne) hlength
  obtain ⟨d, more, rfl⟩ := List.exists_cons_of_ne_nil hne
  have hd := hds d List.mem_cons_self
  have htrim : Text.trimStart (d :: more ++ rest) = d :: more ++ rest :=
    List.dropWhile_cons_of_neg (by simp [isBlank_of_isDigit hd])
  cases p with
  | year =>
    have hsign : ∀ c ∈ (d :: more ++ rest).head?, c ≠ '-' ∧ c ≠ '+' := by
      intro c hc
      obtain rfl := Option.some.inj hc
      constructor <;> rintro rfl <;> exact absurd hd (by decide)
    have hyear : n.year = value (d :: more) := hn
    change number? 4 _ = _ at hnumber
    rw [Part.read?, htrim, year?_eq hsign, hnumber, Part.copied, hyear]
    rfl
  | fraction | mark | gap => exact absurd hpos (Nat.lt_irrefl 0)
  | month | day | hour | minute | second =>
    change number? 2 _ = _ at hnumber
    rw [Part.read?, htrim, hnumber, Part.copied, Int.ofNat.inj hn]
    rfl

end Digits

/-! ### What a text begins with -/

/-- What a text begins with. -/
inductive Kind where
  /-- The text is empty. -/
  | nothing
  /-- A blank. -/
  | blank
  /-- A digit. -/
  | digit
  /-- Another character. -/
  | other (c : Char)
  deriving DecidableEq

/-- What a text begins with. -/
def kind : List Char → Kind
  | [] => .nothing
  | c :: _ => if isBlank c then .blank else if isDigit c then .digit else .other c

/-- What every text begins with that is written in a layout without a fraction. -/
def kindWritten : Layout → Kind
  | [] => .nothing
  | .mark c :: _ => kind [c]
  | .gap :: _ => .blank
  | _ :: _ => .digit

section Kinds

variable {n given : Numbers} {l w : Layout} {p q : Part} {cs ds rest : List Char} {c : Char}

theorem kind_append_digits (hne : ds ≠ []) (hds : ∀ c ∈ ds, isDigit c = true) :
    kind (ds ++ rest) = .digit := by
  obtain ⟨d, more, rfl⟩ := List.exists_cons_of_ne_nil hne
  have hd := hds d List.mem_cons_self
  rw [List.cons_append, kind, isBlank_of_isDigit hd, hd]
  rfl

theorem kind_eq_nothing (h : kind cs = .nothing) : cs = [] := by
  cases cs with
  | nil => rfl
  | cons c rest =>
    rw [kind] at h
    split at h
    · cases h
    · split at h <;> cases h

theorem kind_eq_other (h : kind cs = .other c) :
    ∃ rest, cs = c :: rest ∧ isBlank c = false ∧ isDigit c = false := by
  cases cs with
  | nil => cases h
  | cons d rest =>
    rw [kind] at h
    split at h
    · cases h
    · split at h
      · cases h
      · cases h
        exact ⟨rest, rfl, Bool.eq_false_iff.mpr ‹_›, Bool.eq_false_iff.mpr ‹_›⟩

theorem isDigit_head_of_kind (h : kind cs ≠ .digit) : ∀ c ∈ cs.head?, isDigit c = false := by
  rintro c hc
  obtain ⟨rest, rfl⟩ := List.head?_eq_some_iff.mp hc
  rw [kind] at h
  by_contra hdigit
  have hdigit := Bool.of_not_eq_false hdigit
  rw [isBlank_of_isDigit hdigit, hdigit] at h
  exact h rfl

theorem isBlank_head_of_kind (h : kind cs ≠ .blank) : ∀ c ∈ cs.head?, isBlank c = false := by
  rintro c hc
  obtain ⟨rest, rfl⟩ := List.head?_eq_some_iff.mp hc
  rw [kind] at h
  by_contra hblank
  rw [Bool.of_not_eq_false hblank] at h
  exact h rfl

theorem kindWritten_of_width (h : 0 < p.width) : kindWritten (p :: l) = .digit := by
  cases p with
  | fraction | mark | gap => exact absurd h (Nat.lt_irrefl 0)
  | _ => rfl

/-- Every text that is written in a layout begins as the layout says. -/
theorem kind_of_writes (h : Writes n w cs) (hfree : Part.fraction ∉ w) :
    kind cs = kindWritten w := by
  cases h with
  | nil => rfl
  | cons hp _ =>
    cases hp with
    | mark c => rfl
    | fraction => exact absurd List.mem_cons_self hfree
    | gap hne hblanks =>
      obtain ⟨b, more, rfl⟩ := List.exists_cons_of_ne_nil hne
      exact if_pos (hblanks b List.mem_cons_self)
    | number _ hne hlength hds =>
      have hpos := Nat.lt_of_lt_of_le (List.length_pos_iff.mpr hne) hlength
      rw [kind_append_digits hne hds, kindWritten_of_width hpos]

/-- A number is not read where none stands. -/
theorem Part.read?_of_kind (hp : 0 < p.width)
    (h : kind cs = .nothing ∨ ∃ c, kind cs = .other c ∧ c ≠ '-' ∧ c ≠ '+') :
    p.read? given cs = none := by
  have hdigit : kind cs ≠ .digit := by
    rcases h with h | ⟨c, h, -⟩ <;> rw [h] <;> exact nofun
  have hblank : kind cs ≠ .blank := by
    rcases h with h | ⟨c, h, -⟩ <;> rw [h] <;> exact nofun
  have htrim : Text.trimStart cs = cs := Text.trimStart_eq_self (isBlank_head_of_kind hblank)
  have hnumber {width : Nat} : number? width cs = none :=
    number?_of_not_isDigit (isDigit_head_of_kind hdigit)
  cases p with
  | year =>
    have hsign : ∀ c ∈ cs.head?, c ≠ '-' ∧ c ≠ '+' := by
      rcases h with h | ⟨c, h, hne⟩
      · rw [kind_eq_nothing h]
        exact nofun
      · obtain ⟨rest, rfl, -⟩ := kind_eq_other h
        intro d hd
        obtain rfl := Option.some.inj hd
        exact hne
    rw [Part.read?, htrim, year?_eq hsign, hnumber]
    rfl
  | fraction | mark | gap => exact absurd hp (Nat.lt_irrefl 0)
  | month | day | hour | minute | second =>
    rw [Part.read?, htrim, hnumber]
    rfl

end Kinds

/-! ### One layout against another -/

/-- **What becomes of a text** when a part is read at its start. -/
inductive Step where
  /-- Nothing is read. -/
  | fails
  /-- The part of the other layout is read, and this is left of that layout. -/
  | goesOn (w : Layout)
  /-- The number of another part is read, and this is left of the other layout. -/
  | strays (w : Layout)
  /-- This depends on the text. -/
  | depends

/-- Reading a character where a text begins that is written in a layout. -/
def stepOfMark (c : Char) (w : Layout) : Step :=
  match w with
  | .mark d :: w => if c = d then .goesOn w else .fails
  | w => if kind [c] = kindWritten w then .depends else .fails

/-- Reading a gap. -/
def stepOfGap (w : Layout) : Step :=
  match w with
  | .gap :: w => if kindWritten w = .blank then .depends else .goesOn w
  | w => if kindWritten w = .blank then .depends else .goesOn w

/-- Reading a fraction. -/
def stepOfFraction (w : Layout) : Step :=
  if kindWritten w = .other '.' then .depends else .goesOn w

/-- Reading the number of a part. -/
def stepOfNumber (p : Part) (w : Layout) : Step :=
  match w with
  | [] => .fails
  | q :: rest =>
    if 0 < q.width then
      if q.width ≤ p.width ∧ kindWritten rest ≠ .digit then
        if p = q then .goesOn rest else .strays rest
      else .depends
    else
      match kindWritten w with
      | .other c => if c = '-' ∨ c = '+' then .depends else .fails
      | _ => .depends

/-- **What becomes of a text** that is written in a layout when a part is read at its start. -/
def Part.step : Part → Layout → Step
  | .mark c => stepOfMark c
  | .gap => stepOfGap
  | .fraction => stepOfFraction
  | p => stepOfNumber p

/-- What a step tells of the reading of a part. -/
def Step.Tells (n given : Numbers) (w : Layout) (read : Option (Numbers × List Char)) : Step → Prop
  | .fails => read = none
  | .goesOn w' => ∃ given' cs, read = some (given', cs) ∧ Writes n w' cs ∧ w' <:+ w ∧
    copied n given' w' = copied n given w
  | .strays w' => ∃ given' cs, read = some (given', cs) ∧ Writes n w' cs ∧ w' <:+ w
  | .depends => True

section Steps

variable {n given : Numbers} {w : Layout} {p : Part} {cs : List Char} {c : Char}

theorem read?_mark_of_kind (h : kind [c] ≠ kind cs) : (Part.mark c).read? given cs = none := by
  cases cs with
  | nil => rfl
  | cons d rest =>
    have hne : c ≠ d := by
      rintro rfl
      exact h rfl
    exact if_neg hne

theorem tells_mark_mark (hl : Writes n w cs) (c d : Char) :
    (stepOfMark c (.mark d :: w)).Tells n given (.mark d :: w)
      ((Part.mark c).read? given (d :: cs)) := by
  have hread : (Part.mark c).read? given (d :: cs) = if c = d then some (given, cs) else none := rfl
  have hstep : stepOfMark c (.mark d :: w) = if c = d then .goesOn w else .fails := rfl
  rw [hread, hstep]
  split
  case isTrue => exact ⟨given, cs, rfl, hl, List.suffix_cons .., rfl⟩
  case isFalse => rfl

/-- Reading a character. -/
theorem tells_mark (h : Writes n w cs) (hfree : Part.fraction ∉ w) (c : Char) :
    (stepOfMark c w).Tells n given w ((Part.mark c).read? given cs) := by
  have hkind := kind_of_writes h hfree
  have hother (hstep : stepOfMark c w = if kind [c] = kindWritten w then .depends else .fails) :
      (stepOfMark c w).Tells n given w ((Part.mark c).read? given cs) := by
    rw [hstep]
    split
    case isTrue => trivial
    case isFalse hne => exact read?_mark_of_kind (hkind ▸ hne)
  cases h with
  | nil => exact hother rfl
  | @cons p l piece behind hp hl =>
    cases hp with
    | mark d => exact tells_mark_mark hl c d
    | gap | fraction => exact hother rfl
    | number _ hne hlength =>
      cases p with
      | mark => exact absurd (List.length_eq_zero_iff.mp (Nat.le_zero.mp hlength)) hne
      | _ => exact hother rfl

/-- Reading a gap. -/
theorem tells_gap (h : Writes n w cs) (hfree : Part.fraction ∉ w) :
    (stepOfGap w).Tells n given w (Part.gap.read? given cs) := by
  have hkind := kind_of_writes h hfree
  have hother (hstep : stepOfGap w = if kindWritten w = .blank then .depends else .goesOn w) :
      (stepOfGap w).Tells n given w (Part.gap.read? given cs) := by
    rw [hstep]
    split
    case isTrue => trivial
    case isFalse hne =>
      rw [← hkind] at hne
      refine ⟨given, cs, ?_, h, List.suffix_rfl, rfl⟩
      rw [Part.read?, Text.trimStart_eq_self (isBlank_head_of_kind hne)]
  cases h with
  | nil => exact hother rfl
  | @cons p l piece behind hp hl =>
    cases hp with
    | gap hne hblanks =>
      rw [stepOfGap]
      split
      case isTrue => trivial
      case isFalse hne =>
        have hrest := kind_of_writes hl (List.not_mem_of_not_mem_cons hfree)
        have hbehind : Text.trimStart (piece ++ behind) = behind := by
          rw [Text.trimStart, List.dropWhile_append_of_pos hblanks]
          exact Text.trimStart_eq_self (isBlank_head_of_kind (hrest ▸ hne))
        exact ⟨given, behind, by rw [Part.read?, hbehind], hl, List.suffix_cons .., rfl⟩
    | mark | fraction => exact hother rfl
    | number _ hne hlength =>
      cases p with
      | gap => exact absurd (List.length_eq_zero_iff.mp (Nat.le_zero.mp hlength)) hne
      | _ => exact hother rfl

/-- Reading a fraction, where there is none. -/
theorem tells_fraction (h : Writes n w cs) (hfree : Part.fraction ∉ w) :
    (stepOfFraction w).Tells n given w (Part.fraction.read? given cs) := by
  have hkind := kind_of_writes h hfree
  rw [stepOfFraction]
  split
  case isTrue => trivial
  case isFalse hne =>
    rw [← hkind] at hne
    refine ⟨given, cs, ?_, h, List.suffix_rfl, rfl⟩
    rw [Part.read?]
    rintro rest rfl
    exact hne rfl

/-- Any number can be the one of a part. -/
theorem exists_numberIn (hp : 0 < p.width) (v : Nat) : ∃ n, p.numberIn n = v := by
  cases p with
  | year => exact ⟨{ year := v }, rfl⟩
  | month => exact ⟨{ month := v }, rfl⟩
  | day => exact ⟨{ day := v }, rfl⟩
  | hour => exact ⟨{ hour := v }, rfl⟩
  | minute => exact ⟨{ minute := v }, rfl⟩
  | second => exact ⟨{ second := v }, rfl⟩
  | fraction | mark | gap => exact absurd hp (Nat.lt_irrefl 0)

/-- Reading a number. -/
theorem tells_number (h : Writes n w cs) (hfree : Part.fraction ∉ w) (hp : 0 < p.width) :
    (stepOfNumber p w).Tells n given w (p.read? given cs) := by
  have hkind := kind_of_writes h hfree
  cases h with
  | nil => exact Part.read?_of_kind hp (.inl rfl)
  | @cons q l piece behind hq hl =>
    rw [stepOfNumber]
    split
    case isTrue hpos =>
      split
      case isFalse => trivial
      case isTrue hfits =>
        have hrest := kind_of_writes hl (List.not_mem_of_not_mem_cons hfree)
        have hbehind := isDigit_head_of_kind (hrest ▸ hfits.2)
        cases hq with
        | mark | gap | fraction => exact absurd hpos (Nat.lt_irrefl 0)
        | number hn hne hlength hds =>
          have hwidth := Nat.le_trans hlength hfits.1
          split
          case isTrue heq =>
            subst heq
            exact ⟨_, behind, Part.read?_number hn hne hwidth hds hbehind, hl, List.suffix_cons ..,
              rfl⟩
          case isFalse =>
            -- the number is read for another part: it is the one of other numbers `n'`
            obtain ⟨n', hn'⟩ := exists_numberIn hp (value piece)
            exact ⟨_, behind, Part.read?_number hn' hne hwidth hds hbehind, hl, List.suffix_cons ..⟩
    case isFalse hzero =>
      split
      case h_1 c hc =>
        split
        case isTrue => trivial
        case isFalse hsign =>
          exact Part.read?_of_kind hp (.inr ⟨c, hkind.trans hc, not_or.mp hsign⟩)
      case h_2 => trivial

/-- **What a step tells is so.** -/
theorem tells_step (h : Writes n w cs) (hfree : Part.fraction ∉ w) (given : Numbers) (p : Part) :
    (p.step w).Tells n given w (p.read? given cs) := by
  cases p with
  | mark c => exact tells_mark h hfree c
  | gap => exact tells_gap h hfree
  | fraction => exact tells_fraction h hfree
  | _ => exact tells_number h hfree (by decide)

/-- **What a layout makes of a text that is written in another one**: it reads the text, or it
does not, or that depends on the text. -/
def meets? : Layout → Layout → Option Bool
  | [], w => some w.isEmpty
  | p :: r, w =>
    match p.step w with
    | .fails => some false
    | .goesOn w => meets? r w
    | .strays w => (meets? r w).filter (! ·)
    | .depends => none

/-- What is found by one layout in a text that is written in another one. -/
def Meets (n given : Numbers) (w : Layout) (found : Option (Numbers × List Char)) :
    Option Bool → Prop
  | some true => found = some (copied n given w, [])
  | some false => ∀ read ∈ found, read.2 ≠ []
  | none => True

/-- **What `meets?` tells is so.** -/
theorem meets_readParts (h : Writes n w cs) (hfree : Part.fraction ∉ w) (r : Layout)
    (given : Numbers) : Meets n given w (readParts? r given cs) (meets? r w) := by
  induction r generalizing w cs given with
  | nil =>
    cases h with
    | nil => rfl
    | cons hp hl =>
      -- the layout is over, but the text is not, since something is written for every part
      intro read hread hempty
      cases hread
      cases hp with
      | mark => cases hempty
      | fraction => exact hfree List.mem_cons_self
      | number _ hne | gap hne => exact hne (List.append_eq_nil_iff.mp hempty).1
  | cons p r ih =>
    have hread : readParts? (p :: r) given cs =
      (p.read? given cs).bind fun read => readParts? r read.1 read.2 := rfl
    have hstep := tells_step h hfree given p
    rw [hread, meets?]
    cases hkind : p.step w with
    | depends => trivial
    | fails =>
      rw [hkind] at hstep
      change p.read? given cs = none at hstep
      rw [hstep]
      exact nofun
    | goesOn w' =>
      rw [hkind] at hstep
      obtain ⟨given', behind, hp, hw', hsuffix, hcopied⟩ := hstep
      have hrest := ih hw' (fun hmem => hfree (hsuffix.mem hmem)) given'
      rw [hp]
      change Meets n given w (readParts? r given' behind) (meets? r w')
      cases hmeets : meets? r w' with
      | none => trivial
      | some reads =>
        rw [hmeets] at hrest
        cases reads with
        | false => exact hrest
        | true => exact hrest.trans (by rw [hcopied])
    | strays w' =>
      rw [hkind] at hstep
      obtain ⟨given', behind, hp, hw', hsuffix⟩ := hstep
      have hrest := ih hw' (fun hmem => hfree (hsuffix.mem hmem)) given'
      rw [hp]
      change Meets n given w (readParts? r given' behind) ((meets? r w').filter (! ·))
      cases hmeets : meets? r w' with
      | none => trivial
      | some reads =>
        rw [hmeets] at hrest
        -- numbers that went astray are only known not to be the text's if reading fails later
        cases reads with
        | false => exact hrest
        | true => trivial

/-- **What reading the whole text comes to.** -/
theorem readAll?_of_meets {r : Layout} {reads : Bool} (h : Writes n w cs)
    (hfree : Part.fraction ∉ w) (hr : meets? r w = some reads) :
    readAll? r cs = if reads then some (copied n {} w) else none := by
  have hmeets := meets_readParts h hfree r {}
  have hread : readAll? r cs = (readParts? r {} cs).bind fun read =>
      if read.2.isEmpty then some read.1 else none := rfl
  rw [hr] at hmeets
  rw [hread]
  cases reads with
  | true =>
    change readParts? r {} cs = _ at hmeets
    rw [hmeets]
    rfl
  | false =>
    cases hfound : readParts? r {} cs with
    | none => rfl
    | some found =>
      have hne : found.2 ≠ [] := hmeets found hfound
      exact if_neg (by simpa using hne)

/-- **What trying several layouts comes to**: what the text was written for, if one of them reads
it. -/
theorem findSome?_of_meets {α : Type} (h : Writes n w cs) (hfree : Part.fraction ∉ w)
    {layouts : List Layout} (htold : ∀ r ∈ layouts, (meets? r w).isSome = true)
    (make : Numbers → Option α) :
    layouts.findSome? (fun r => (readAll? r cs).bind make) =
      if layouts.any (fun r => meets? r w = some true) then make (copied n {} w) else none := by
  induction layouts with
  | nil => rfl
  | cons r rest ih =>
    obtain ⟨hr, hrest⟩ := List.forall_mem_cons.mp htold
    obtain ⟨reads, hreads⟩ := Option.isSome_iff_exists.mp hr
    rw [List.findSome?_cons, readAll?_of_meets h hfree hreads, ih hrest, List.any_cons, hreads]
    cases reads with
    | false => rfl
    | true =>
      change (match make (copied n {} w) with
        | some b => some b
        | none => _) = make (copied n {} w)
      cases make (copied n {} w) with
      | some => rfl
      | none => exact ite_self none

end Steps

/-! ### Fractions and marks -/

section Marks

variable {n given : Numbers} {l : Layout} {cs : List Char} {c : Char}

/-- Nothing is written for a fraction, so a layout may be taken without it. -/
theorem writes_without_fraction (h : Writes n l cs) : Writes n (l.filter (· ≠ .fraction)) cs := by
  induction h with
  | nil => exact .nil
  | @cons p l piece cs hp _ ih =>
    by_cases hfraction : p = .fraction
    · subst hfraction
      cases hp with
      | fraction => exact ih
      | number _ hne hlength =>
        exact absurd (List.length_eq_zero_iff.mp (Nat.le_zero.mp hlength)) hne
    · rw [List.filter_cons_of_pos (by simpa using hfraction)]
      exact .cons hp ih

theorem copied_without_fraction : copied n given (l.filter (· ≠ .fraction)) = copied n given l := by
  induction l generalizing given with
  | nil => rfl
  | cons p l ih =>
    by_cases hfraction : p = .fraction
    · subst hfraction
      exact ih
    · rw [List.filter_cons_of_pos (by simpa using hfraction)]
      exact ih

/-- **A character stands in a text as often as in its layout**, if it is neither a digit nor a
blank. -/
theorem count_of_writes (h : Writes n l cs) (hdigit : isDigit c = false)
    (hblank : isBlank c = false) : cs.count c = l.count (.mark c) := by
  induction h with
  | nil => rfl
  | @cons p l piece cs hp _ ih =>
    have hother (hp : p ≠ .mark c) (hpiece : c ∉ piece) :
        (piece ++ cs).count c = (p :: l).count (.mark c) := by
      rw [List.count_append, List.count_eq_zero.mpr hpiece, List.count_cons_of_ne hp, ih,
        Nat.zero_add]
    cases hp with
    | mark d =>
      by_cases hd : d = c
      · subst hd
        rw [List.singleton_append, List.count_cons_self, List.count_cons_self, ih]
      · exact hother (by simpa using hd) (by simpa using Ne.symm hd)
    | fraction => exact hother nofun List.not_mem_nil
    | gap _ hblanks =>
      refine hother nofun fun hmem => ?_
      rw [hblanks c hmem] at hblank
      cases hblank
    | number _ hne hlength hds =>
      refine hother (fun heq => ?_) fun hmem => ?_
      · subst heq
        exact hne (List.length_eq_zero_iff.mp (Nat.le_zero.mp hlength))
      · rw [hds c hmem] at hdigit
        cases hdigit

end Marks

end Calendar

end FormChain
