import FormChain.Proofs.Calendar.Layouts

/-!
# Timestamps

A timestamp has all its numbers with all their digits, and tells how far it is from universal time
(`FormChain.Calendar.WritesTimestamp`). It is read as it was written, and the distance is taken off
(`FormChain.Calendar.timestamp?_of_writes`). A text that tells no such distance is no timestamp:
there would have to be a letter or a sign for it (`FormChain.Calendar.exists_zone_of_timestamp?`).
-/

namespace FormChain

namespace Calendar

open Decimal (isBlank_of_isDigit isDigit value)

/-! ### Writing timestamps -/

/-- **A number in exactly so many digits.** -/
structure IsNumeral (width v : Nat) (ds : List Char) : Prop where
  /-- There are so many digits. -/
  length : ds.length = width
  /-- They are digits. -/
  digits : ∀ c ∈ ds, isDigit c = true
  /-- They stand for the number. -/
  value : value ds = v

/-- **A distance from universal time**, in minutes: a letter for none, or a sign and less than a
day. -/
inductive WritesZone : Int → List Char → Prop where
  /-- Universal time. -/
  | universal {c : Char} : c ∈ ['Z', 'z'] → WritesZone 0 [c]
  /-- Ahead of universal time. -/
  | ahead {h m : Nat} {hs ms : List Char} : h ≤ 23 → m ≤ 59 → IsNumeral 2 h hs → IsNumeral 2 m ms →
    WritesZone (h * 60 + m : Nat) ('+' :: hs ++ ':' :: ms)
  /-- Behind universal time. -/
  | behind {sign : Char} {h m : Nat} {hs ms : List Char} : sign ∈ ['-', '\u2212'] → h ≤ 23 →
    m ≤ 59 → IsNumeral 2 h hs → IsNumeral 2 m ms →
    WritesZone (-(h * 60 + m : Nat)) (sign :: hs ++ ':' :: ms)

/-- The letters and the signs of a distance from universal time, other than the dash, which dates
have too. -/
def zoneMarks : List Char := ['Z', 'z', '+', '\u2212']

/-- **A timestamp**: all numbers with all their digits, and a distance from universal time. -/
inductive WritesTimestamp (n : Numbers) (offset : Int) : List Char → Prop where
  /-- The parts in their order. -/
  | parts {year : Nat} {sep : Char} {ys ms ds hs mins ss zone : List Char} :
    n.year = year → IsNumeral 4 year ys → IsNumeral 2 n.month ms → IsNumeral 2 n.day ds →
    sep ∈ ['T', 't', ' '] → IsNumeral 2 n.hour hs → IsNumeral 2 n.minute mins →
    IsNumeral 2 n.second ss → WritesZone offset zone →
    WritesTimestamp n offset
      (ys ++ '-' :: ms ++ '-' :: ds ++ sep :: hs ++ ':' :: mins ++ ':' :: ss ++ zone)

/-! ### Reading timestamps -/

section Reading

variable {v : Nat} {c : Char} {n : Numbers} {offset : Int} {cs ds rest choices zone : List Char}

theorem IsNumeral.twoDigits? (h : IsNumeral 2 v ds) (rest : List Char) :
    twoDigits? (ds ++ rest) = some (v, rest) := by
  obtain ⟨a, b, rfl⟩ : ∃ a b, ds = [a, b] := by
    have hlength := h.length
    match ds, hlength with
    | [a, b], _ => exact ⟨a, b, rfl⟩
  have ha := h.digits a (by simp)
  have hb := h.digits b (by simp)
  change (if isDigit a && isDigit b then some (Decimal.value [a, b], rest) else none) = _
  rw [ha, hb, h.value]
  rfl

theorem IsNumeral.fourDigits? (h : IsNumeral 4 v ds) (rest : List Char) :
    fourDigits? (ds ++ rest) = some (v, rest) := by
  obtain ⟨a, b, c, d, rfl⟩ : ∃ a b c d, ds = [a, b, c, d] := by
    have hlength := h.length
    match ds, hlength with
    | [a, b, c, d], _ => exact ⟨a, b, c, d, rfl⟩
  have hhigh : IsNumeral 2 (Decimal.value [a, b]) [a, b] :=
    ⟨rfl, fun x hx => h.digits x (List.mem_append_left [c, d] hx), rfl⟩
  have hlow : IsNumeral 2 (Decimal.value [c, d]) [c, d] :=
    ⟨rfl, fun x hx => h.digits x (List.mem_append_right [a, b] hx), rfl⟩
  have hvalue : Decimal.value [a, b] * 100 + Decimal.value [c, d] = v := by
    rw [← h.value]
    simp only [Decimal.value, Decimal.valueFrom, List.foldl_cons, List.foldl_nil]
    omega
  calc Calendar.fourDigits? ([a, b] ++ ([c, d] ++ rest))
      = (Calendar.twoDigits? ([c, d] ++ rest)).bind fun low =>
          some (Decimal.value [a, b] * 100 + low.1, low.2) := by
        rw [Calendar.fourDigits?, hhigh.twoDigits?]
        rfl
    _ = some (v, rest) := by rw [hlow.twoDigits?, ← hvalue]; rfl

theorem oneOf?_cons (h : c ∈ choices) (rest : List Char) :
    oneOf? choices (c :: rest) = some (c, rest) :=
  if_pos (List.contains_iff_mem.mpr h)

theorem oneOf?_cons_of_not_mem (h : c ∉ choices) (rest : List Char) :
    oneOf? choices (c :: rest) = none :=
  if_neg (by simpa using h)

theorem offset?_of_sign {sign : Char} {h m : Nat} {hs ms : List Char}
    (hsign : sign ∈ ['+', '-', '\u2212']) (hh : h ≤ 23) (hm : m ≤ 59) (hhs : IsNumeral 2 h hs)
    (hms : IsNumeral 2 m ms) : offset? (sign :: hs ++ ':' :: ms) =
      some (if sign = '+' then ((h * 60 + m : Nat) : Int) else -(h * 60 + m : Nat), []) := by
  have hletter : sign ∉ ['Z', 'z'] := by
    simp only [List.mem_cons, List.not_mem_nil, or_false] at hsign
    rcases hsign with rfl | rfl | rfl <;> decide
  have hminutes := hms.twoDigits? []
  rw [List.append_nil] at hminutes
  have hcolon : ':' ∈ [':'] := List.mem_singleton_self _
  rw [List.cons_append, offset?, oneOf?_cons_of_not_mem hletter]
  simp only [oneOf?_cons hsign, hhs.twoDigits?, oneOf?_cons hcolon, hminutes,
    Option.bind_eq_bind, Option.bind_some]
  rw [if_pos (by simp [hh, hm])]
  rfl

theorem WritesZone.offset? (h : WritesZone offset zone) : offset? zone = some (offset, []) := by
  cases h with
  | universal hc => rw [Calendar.offset?, oneOf?_cons hc]
  | ahead hh hm hhs hms => exact offset?_of_sign (by decide) hh hm hhs hms
  | behind hsign hh hm hhs hms =>
    rw [offset?_of_sign (List.mem_cons_of_mem _ hsign) hh hm hhs hms, if_neg]
    rintro rfl
    revert hsign
    decide

theorem bind_of_eq_some {α β : Type} {x : Option α} {f : α → Option β} {a : α} (h : x = some a) :
    (x >>= f) = f a :=
  h ▸ rfl

/-- **A timestamp is read as it was written.** -/
theorem timestamp?_of_writes (h : WritesTimestamp n offset cs) (hnano : n.nano = 0) :
    timestamp? cs = n.moment?.map fun t => ⟨t.millis - offset * 60000⟩ := by
  cases h with
  | @parts year sep ys ms ds hs mins ss zone hyear hys hms hds hsep hhs hmins hss hzone =>
  have hdash : '-' ∈ ['-'] := List.mem_singleton_self _
  have hcolon : ':' ∈ [':'] := List.mem_singleton_self _
  have hn : (⟨Int.ofNat year, n.month, n.day, n.hour, n.minute, n.second, 0⟩ : Numbers) = n := by
    rw [← hnano, Int.ofNat_eq_natCast, ← hyear]
  have hpoint : ∀ rest, zone ≠ '.' :: rest := by
    rintro rest rfl
    cases hzone with
    | universal hc => revert hc; decide
    | behind hsign => revert hsign; decide
  simp only [List.append_assoc, List.cons_append]
  refine (bind_of_eq_some (hys.fourDigits? _)).trans ?_
  refine (bind_of_eq_some (oneOf?_cons hdash _)).trans ?_
  refine (bind_of_eq_some (hms.twoDigits? _)).trans ?_
  refine (bind_of_eq_some (oneOf?_cons hdash _)).trans ?_
  refine (bind_of_eq_some (hds.twoDigits? _)).trans ?_
  refine (bind_of_eq_some (oneOf?_cons hsep _)).trans ?_
  refine (bind_of_eq_some (hhs.twoDigits? _)).trans ?_
  refine (bind_of_eq_some (oneOf?_cons hcolon _)).trans ?_
  refine (bind_of_eq_some (hmins.twoDigits? _)).trans ?_
  refine (bind_of_eq_some (oneOf?_cons hcolon _)).trans ?_
  refine (bind_of_eq_some (hss.twoDigits? _)).trans ?_
  -- what is left begins with no point, so it is the distance from universal time
  dsimp only
  split
  case h_1 rest => exact absurd rfl (hpoint rest)
  case h_2 =>
    refine (bind_of_eq_some rfl).trans ?_
    refine (bind_of_eq_some hzone.offset?).trans ?_
    simp only [hn, List.isEmpty_nil, if_true]
    cases n.moment? <;> rfl

/-- A timestamp begins with a digit and has a dash. -/
theorem WritesTimestamp.begins (h : WritesTimestamp n offset cs) : kind cs = .digit ∧ '-' ∈ cs := by
  cases h with
  | @parts year sep ys _ _ _ _ _ _ _ hys =>
  have hne : ys ≠ [] := List.ne_nil_of_length_eq_add_one hys.length
  simp only [List.append_assoc]
  exact ⟨kind_append_digits hne hys.digits, by simp⟩

/-- A distance from universal time ends with a letter or a digit. -/
theorem WritesZone.ends (h : WritesZone offset zone) :
    ∃ c, zone.getLast? = some c ∧ isBlank c = false := by
  have hdigit {m : Nat} {ms : List Char} (hms : IsNumeral 2 m ms) (front : List Char) :
      ∃ c, (front ++ ':' :: ms).getLast? = some c ∧ isBlank c = false := by
    have hne : ms ≠ [] := List.ne_nil_of_length_eq_add_one hms.length
    refine ⟨ms.getLast hne, ?_, isBlank_of_isDigit (hms.digits _ (List.getLast_mem hne))⟩
    rw [List.getLast?_append, List.getLast?_cons_of_ne_nil hne, List.getLast?_eq_some_getLast hne]
    rfl
  cases h with
  | @universal c hc =>
    refine ⟨c, rfl, ?_⟩
    simp only [List.mem_cons, List.not_mem_nil, or_false] at hc
    rcases hc with rfl | rfl <;> decide
  | ahead _ _ _ hms => exact hdigit hms _
  | behind _ _ _ _ hms => exact hdigit hms _

/-- A timestamp does not end with a blank. -/
theorem WritesTimestamp.ends (h : WritesTimestamp n offset cs) :
    ∀ c, cs.getLast? = some c → isBlank c = false := by
  cases h with
  | parts _ _ _ _ _ _ _ _ hzone =>
  obtain ⟨c, hlast, hc⟩ := hzone.ends
  intro d hd
  rw [List.getLast?_append, hlast] at hd
  cases hd
  exact hc

theorem eq_cons_of_oneOf? (h : oneOf? choices cs = some (c, rest)) :
    cs = c :: rest ∧ c ∈ choices := by
  cases cs with
  | nil => cases h
  | cons d more =>
    rw [oneOf?] at h
    split at h
    case isTrue hmem =>
      cases h
      exact ⟨rfl, List.contains_iff_mem.mp hmem⟩
    case isFalse => cases h

theorem suffix_of_twoDigits? (h : twoDigits? cs = some (v, rest)) : rest <:+ cs := by
  match cs with
  | [] | [_] => cases h
  | a :: b :: more =>
    rw [twoDigits?] at h
    split at h
    case isTrue =>
      cases h
      exact ⟨[a, b], rfl⟩
    case isFalse => cases h

theorem suffix_of_fourDigits? (h : fourDigits? cs = some (v, rest)) : rest <:+ cs := by
  obtain ⟨⟨high, cs₁⟩, hhigh, h⟩ := Option.bind_eq_some_iff.mp h
  obtain ⟨⟨low, cs₂⟩, hlow, h⟩ := Option.bind_eq_some_iff.mp h
  cases h
  exact (suffix_of_twoDigits? hlow).trans (suffix_of_twoDigits? hhigh)

theorem suffix_of_nanos? (h : nanos? cs = some (v, rest)) : rest <:+ cs := by
  rw [nanos?] at h
  split at h
  case isTrue => cases h
  case isFalse =>
    cases h
    exact List.drop_suffix ..

/-- A distance from universal time begins with a letter or a sign. -/
theorem exists_mem_of_offset? (h : offset? cs = some (offset, rest)) :
    '-' ∈ cs ∨ ∃ c ∈ zoneMarks, c ∈ cs := by
  rw [offset?] at h
  split at h
  case h_1 c behind hletter =>
    obtain ⟨rfl, hc⟩ := eq_cons_of_oneOf? hletter
    exact .inr ⟨c, List.mem_append_left ['+', '\u2212'] hc, List.mem_cons_self⟩
  case h_2 =>
    obtain ⟨⟨sign, behind⟩, hsign, -⟩ := Option.bind_eq_some_iff.mp h
    obtain ⟨rfl, hmem⟩ := eq_cons_of_oneOf? hsign
    simp only [List.mem_cons, List.not_mem_nil, or_false] at hmem
    rcases hmem with rfl | rfl | rfl
    · exact .inr ⟨'+', by decide, List.mem_cons_self⟩
    · exact .inl List.mem_cons_self
    · exact .inr ⟨'\u2212', by decide, List.mem_cons_self⟩

/-- **A timestamp tells how far it is from universal time**, with a letter or with a sign; and if
this sign is a dash, there are two more in the date. -/
theorem exists_zone_of_timestamp? {t : Moment} (h : timestamp? cs = some t) :
    3 ≤ cs.count '-' ∨ ∃ c ∈ zoneMarks, c ∈ cs := by
  rw [timestamp?] at h
  obtain ⟨⟨year, cs₁⟩, hyear, h⟩ := Option.bind_eq_some_iff.mp h
  obtain ⟨⟨_, cs₂⟩, hdash, h⟩ := Option.bind_eq_some_iff.mp h
  obtain ⟨⟨month, cs₃⟩, hmonth, h⟩ := Option.bind_eq_some_iff.mp h
  obtain ⟨⟨_, cs₄⟩, hdash', h⟩ := Option.bind_eq_some_iff.mp h
  obtain ⟨⟨day, cs₅⟩, hday, h⟩ := Option.bind_eq_some_iff.mp h
  obtain ⟨⟨_, cs₆⟩, hsep, h⟩ := Option.bind_eq_some_iff.mp h
  obtain ⟨⟨hour, cs₇⟩, hhour, h⟩ := Option.bind_eq_some_iff.mp h
  obtain ⟨⟨_, cs₈⟩, hcolon, h⟩ := Option.bind_eq_some_iff.mp h
  obtain ⟨⟨minute, cs₉⟩, hminute, h⟩ := Option.bind_eq_some_iff.mp h
  obtain ⟨⟨_, cs₁₀⟩, hcolon', h⟩ := Option.bind_eq_some_iff.mp h
  obtain ⟨⟨second, cs₁₁⟩, hsecond, h⟩ := Option.bind_eq_some_iff.mp h
  obtain ⟨zone, offset, behind, hoffset, hzone⟩ : ∃ zone offset behind,
      offset? zone = some (offset, behind) ∧ zone <:+ cs₁₁ := by
    dsimp only at h
    split at h
    case h_1 fraction =>
      obtain ⟨⟨nano, zone⟩, hnano, h⟩ := Option.bind_eq_some_iff.mp h
      obtain ⟨⟨offset, behind⟩, hoffset, -⟩ := Option.bind_eq_some_iff.mp h
      exact ⟨zone, offset, behind, hoffset, (suffix_of_nanos? hnano).trans (List.suffix_cons ..)⟩
    case h_2 =>
      obtain ⟨_, hnone, h⟩ := Option.bind_eq_some_iff.mp h
      cases hnone
      obtain ⟨⟨offset, behind⟩, hoffset, -⟩ := Option.bind_eq_some_iff.mp h
      exact ⟨cs₁₁, offset, behind, hoffset, List.suffix_rfl⟩
  obtain ⟨rfl, hfirst⟩ := eq_cons_of_oneOf? hdash
  obtain ⟨rfl, hsecond'⟩ := eq_cons_of_oneOf? hdash'
  obtain rfl := List.mem_singleton.mp hfirst
  obtain rfl := List.mem_singleton.mp hsecond'
  obtain ⟨rfl, -⟩ := eq_cons_of_oneOf? hsep
  obtain ⟨rfl, -⟩ := eq_cons_of_oneOf? hcolon
  obtain ⟨rfl, -⟩ := eq_cons_of_oneOf? hcolon'
  have htime : zone <:+ cs₄ :=
    hzone.trans <| (suffix_of_twoDigits? hsecond).trans <| (List.suffix_cons ..).trans <|
      (suffix_of_twoDigits? hminute).trans <| (List.suffix_cons ..).trans <|
      (suffix_of_twoDigits? hhour).trans <| (List.suffix_cons ..).trans (suffix_of_twoDigits? hday)
  have hdate := suffix_of_fourDigits? hyear
  have hmonth := suffix_of_twoDigits? hmonth
  have hcount := hdate.sublist.count_le '-'
  have hcount' := hmonth.sublist.count_le '-'
  have hcount'' := htime.sublist.count_le '-'
  simp only [List.count_cons_self] at hcount hcount'
  -- the zone is behind the date, so a dash in it adds to the two of the date
  rcases exists_mem_of_offset? hoffset with hdash | ⟨c, hc, hmem⟩
  · have hpos := List.count_pos_iff.mpr hdash
    exact .inl (by omega)
  · refine .inr ⟨c, hc, hdate.mem (List.mem_cons_of_mem _ (hmonth.mem (List.mem_cons_of_mem _ ?_)))⟩
    exact htime.mem hmem

end Reading

end Calendar

end FormChain
