import FormChain.Proofs.Decimal.Digits
import FormChain.Proofs.Vault.Naming

/-!
# Numbers in paths

A number is put into a path as it is written, in front of its last point, and the vault brings the
result to its plain form. What becomes of the segments can be told from the two sides of the point:
those above and below the one with the point stay as they are, and in that one the number stands in
front of the point, with a blank before it if there is something else
(`FormChain.NotePath.exists_segments_numbered`).

So a path that a vault takes can be numbered by whatever number, and the number is in the name of
the file, and the file in the same folder, exactly if the point is in the name and not at its start
(`FormChain.NotePath.exists_numbered`). Otherwise it is a folder that gets the number, as a
backslash parts segments but is not looked for when a number is put in; or the name begins with the
number, as a blank at the start of a segment does not count.
-/

namespace FormChain

/-! ### Parts without a point -/

namespace VaultPath

variable {p : List Char} {ps : List (List Char)}

/-- A text without points has none in its parts. -/
theorem point_not_mem_parts {cs : List Char} (h : '.' ∉ cs) (hp : p ∈ parts cs) : '.' ∉ p := by
  intro hmem
  obtain ⟨c, hc, hslashed⟩ := List.mem_map.mp (Text.mem_of_mem_pieces hp hmem).1
  rw [slashed] at hslashed
  split at hslashed
  · cases hslashed
  · exact h (hslashed ▸ hc)

/-- Parts without a point make no segments exactly if they are blank. -/
theorem counting_eq_nil_iff (h : ∀ p ∈ ps, '.' ∉ p) :
    counting ps = [] ↔ ∀ p ∈ ps, ∀ c ∈ p, isBlank c = true := by
  have hidle {p : List Char} (hp : p ∈ ps) : isIdle (Text.trim p) = true ↔ Text.trim p = [] := by
    have hne : Text.trim p ≠ ['.'] := fun heq =>
      h p hp (Text.mem_of_mem_trim (heq ▸ List.mem_singleton_self _))
    simp [isIdle, hne]
  rw [counting, List.map_eq_nil_iff, List.filter_eq_nil_iff]
  simp only [List.forall_mem_map, Bool.not_eq_true, Bool.not_eq_false']
  exact forall₂_congr fun p hp => (hidle hp).trans Text.trim_eq_nil_iff

end VaultPath

/-! ### Numbers in front of a point -/

namespace NotePath

open Decimal (isDigit isBlank_of_isDigit isDigit_of_mem_toString toString_ne_nil)

variable {path : String} {stem extension name : List Char} {n : Nat}

/-- A number as it stands in a name. -/
def number (n : Nat) : List Char :=
  ' ' :: (toString n).toList

theorem numberedName_of_point (h : '.' ∉ extension) :
    numberedName n (stem ++ '.' :: extension) = stem ++ number n ++ '.' :: extension := by
  rw [numberedName, Text.cutLast?_eq_some_iff.mpr ⟨rfl, h⟩]
  rfl

/-- The characters of a name with a number are those of the name and the number. -/
theorem mem_of_mem_numberedName {c : Char} (h : c ∈ numberedName n name) :
    c ∈ name ∨ c ∈ number n := by
  rw [numberedName] at h
  split at h
  · next stem extension hcut =>
    rw [(Text.cutLast?_eq_some_iff.mp hcut).1]
    rcases List.mem_append.mp h with h | h
    · exact (List.mem_append.mp h).imp_left (List.mem_append_left _)
    · exact Or.inl (List.mem_append_right _ h)
  · exact List.mem_append.mp h

/-- **A path is numbered in front of its last point**, if no slash comes behind that. -/
theorem numbered_of_point (h : path.toList = stem ++ '.' :: extension) (hpoint : '.' ∉ extension)
    (hslash : '/' ∉ extension) :
    (numbered path n).toList = stem ++ number n ++ '.' :: extension := by
  rw [numbered, String.toList_ofList]
  cases hcut : Text.cutLast? '/' path.toList with
  | none => exact (congrArg (numberedName n) h).trans (numberedName_of_point hpoint)
  | some parts =>
    obtain ⟨folder, name⟩ := parts
    obtain ⟨hpath, -⟩ := Text.cutLast?_eq_some_iff.mp hcut
    have hbehind : '/' ∉ '.' :: extension := by simpa using hslash
    rw [h] at hpath
    rcases List.append_eq_append_iff.mp hpath with ⟨more, -, hmore⟩ | ⟨more, rfl, hmore⟩
    · exact absurd (hmore ▸ List.mem_append_right more List.mem_cons_self) hbehind
    · cases more with
      | nil => cases hmore
      | cons c more =>
        obtain ⟨rfl, hname⟩ := List.cons.inj hmore
        rw [hname]
        exact (congrArg (folder ++ '/' :: ·) (numberedName_of_point hpoint)).trans (by simp)

/-- A path with an extension has a point, and no slash behind it. -/
theorem exists_point_withExtension (path : String) :
    ∃ stem extension, (withExtension path).toList = stem ++ '.' :: extension ∧
      '.' ∉ extension ∧ '/' ∉ extension := by
  rw [withExtension]
  split
  case isTrue hpoint =>
    obtain ⟨front, hpath, hname⟩ :
        ∃ front, path.toList = front ++ lastName path.toList ∧ '/' ∉ lastName path.toList := by
      obtain ⟨hname, heq | ⟨folder, hpath⟩⟩ := exists_lastName path.toList
      · exact ⟨[], heq.symm, hname⟩
      · exact ⟨folder ++ ['/'], by rw [List.append_assoc]; exact hpath, hname⟩
    cases hcut : Text.cutLast? '.' (lastName path.toList) with
    | none => exact absurd (List.contains_iff_mem.mp hpoint) (Text.cutLast?_eq_none_iff.mp hcut)
    | some parts =>
      obtain ⟨hlast, hextension⟩ := Text.cutLast?_eq_some_iff.mp hcut
      refine ⟨front ++ parts.1, parts.2, ?_, hextension, fun hmem => hname ?_⟩
      · rw [List.append_assoc, ← hlast, ← hpath]
      · rw [hlast]
        exact List.mem_append_right _ (.tail _ hmem)
  case isFalse =>
    exact ⟨path.toList, ['m', 'd'], String.toList_ofList, by decide, by decide⟩

/-! ### The segment with the point -/

/-- A number does not part segments. -/
theorem separators_not_mem_number (n : Nat) : '/' ∉ number n ∧ '\\' ∉ number n := by
  have hdigit {c : Char} (hc : c ∈ number n) : c = ' ' ∨ isDigit c = true :=
    (List.mem_cons.mp hc).imp_right isDigit_of_mem_toString
  exact ⟨fun h => absurd (hdigit h) (by decide), fun h => absurd (hdigit h) (by decide)⟩

/-- A point counts exactly if there is something around it. -/
theorem isIdle_point_iff {front back : List Char} :
    VaultPath.isIdle (front ++ '.' :: back) = true ↔ front = [] ∧ back = [] := by
  simp [VaultPath.isIdle, List.append_eq_singleton_iff]

/-- What is in front of a point in a segment, without blanks, when a number has been put there. -/
def numberedFront (n : Nat) (front : List Char) : List Char :=
  if front = [] then (toString n).toList else front ++ number n

theorem trimStart_append_number :
    Text.trimStart (stem ++ number n) = numberedFront n (Text.trimStart stem) := by
  have hdigits : Text.trimStart (number n) = (toString n).toList := by
    refine (List.dropWhile_cons_of_pos (by decide)).trans (Text.trimStart_eq_self fun c hc => ?_)
    exact isBlank_of_isDigit (isDigit_of_mem_toString (List.mem_of_mem_head? hc))
  rw [Text.trimStart, List.dropWhile_append, ← Text.trimStart, ← Text.trimStart, hdigits,
    numberedFront]
  simp only [List.isEmpty_iff]

/-- A segment with a number counts, and does not lead up. -/
theorem counts_numberedFront (n : Nat) (front back : List Char) :
    VaultPath.isIdle (numberedFront n front ++ '.' :: back) = false ∧
      VaultPath.leadsUp (numberedFront n front ++ '.' :: back) = false := by
  -- there is a digit in it, which is no point
  obtain ⟨d, hd⟩ := List.exists_mem_of_ne_nil _ (@toString_ne_nil n)
  have hmem : d ∈ numberedFront n front ++ '.' :: back := by
    refine List.mem_append_left _ ?_
    rw [numberedFront]
    split
    · exact hd
    · exact List.mem_append_right _ (.tail _ hd)
  have hne : d ≠ '.' := by
    rintro rfl
    exact absurd (isDigit_of_mem_toString hd) (by decide)
  simp only [VaultPath.isIdle, VaultPath.leadsUp, Bool.or_eq_false_iff, List.isEmpty_eq_false_iff,
    decide_eq_false_iff_not]
  refine ⟨⟨List.ne_nil_of_mem hmem, fun h => ?_⟩, fun h => ?_⟩
  all_goals
    rw [h] at hmem
    simp [hne] at hmem

/-- A name is numbered by itself. -/
theorem lastName_numbered : lastName (numbered path n).toList =
    numberedName n (lastName path.toList) := by
  have hslash {name : List Char} (h : '/' ∉ name) : '/' ∉ numberedName n name := by
    intro hmem
    rcases mem_of_mem_numberedName hmem with hmem | hmem
    · exact h hmem
    · exact (separators_not_mem_number n).1 hmem
  obtain ⟨hname, heq | ⟨folder, hpath⟩⟩ := exists_lastName path.toList
  · rw [heq] at hname ⊢
    rw [numbered, String.toList_ofList, Text.cutLast?_eq_none_iff.mpr hname]
    exact lastName_of_not_mem (hslash hname)
  · rw [numbered, String.toList_ofList, Text.cutLast?_eq_some_iff.mpr ⟨hpath, hname⟩]
    exact lastName_of_slash rfl (hslash hname)

/-- A point in a name is still there in the file of the path with a number, unless a backslash
parts the name. -/
theorem point_mem_lastName_of_numbered {file : String}
    (h : VaultPath.normalize? (numbered path n) = .ok file) (hpoint : '.' ∈ lastName path.toList)
    (hbackslash : '\\' ∉ lastName path.toList) : '.' ∈ lastName file.toList := by
  cases hcut : Text.cutLast? '.' (lastName path.toList) with
  | none => exact absurd hpoint (Text.cutLast?_eq_none_iff.mp hcut)
  | some parts =>
    obtain ⟨hname, hextension⟩ := Text.cutLast?_eq_some_iff.mp hcut
    have hnumbered : lastName (numbered path n).toList =
        parts.1 ++ number n ++ '.' :: parts.2 := by
      rw [lastName_numbered, hname, numberedName_of_point hextension]
    have htrim : Text.trim (lastName (numbered path n).toList) =
        numberedFront n (Text.trimStart parts.1) ++ '.' :: Text.trimEnd parts.2 := by
      rw [hnumbered, Text.trim_append_cons (by decide), trimStart_append_number]
    have hbackslash' : '\\' ∉ lastName (numbered path n).toList := by
      rw [lastName_numbered]
      intro hmem
      rcases mem_of_mem_numberedName hmem with hmem | hmem
      · exact hbackslash hmem
      · exact (separators_not_mem_number n).2 hmem
    rw [lastName_of_normalize? h hbackslash' (htrim ▸ (counts_numberedFront n _ _).1), htrim]
    exact List.mem_append_right _ List.mem_cons_self

section Parts

variable {u e : List Char} {ps qs : List (List Char)}

/-- Whatever stands in front of the point in its part, the other parts are the same. -/
theorem parts_around_point (hstem : VaultPath.parts stem = ps ++ [u])
    (hextension : VaultPath.parts extension = e :: qs) {middle : List Char} (hslash : '/' ∉ middle)
    (hbackslash : '\\' ∉ middle) :
    VaultPath.parts (stem ++ middle ++ '.' :: extension) =
      ps ++ [u ++ middle ++ '.' :: e] ++ qs := by
  have hmiddle : VaultPath.parts (middle ++ ['.']) = [] ++ [middle ++ ['.']] :=
    (VaultPath.parts_of_backslash (by simpa using hbackslash)).trans
      (Text.pieces_of_not_mem (by simpa using hslash))
  have hbehind := VaultPath.parts_append hmiddle hextension
  simpa using VaultPath.parts_append hstem hbehind

end Parts

/-- **Whether the last point of a path is in the name of its file**, not at the start of it: there
is something in front of the point in its part, and the parts behind are blank. -/
def pointInName (path : String) : Bool :=
  match Text.cutLast? '.' path.toList with
  | none => false
  | some (stem, extension) =>
    !((VaultPath.parts stem).getLastD []).all isBlank &&
      ((VaultPath.parts extension).drop 1).all (·.all isBlank)

/-- **Where a number comes to stand**, when a path is numbered that a vault takes. The segment with
the point has something in front of it and something behind; if it has neither, it does not count.
With a number it always counts, and the others stay as they are. -/
theorem exists_segments_numbered {segs : List String} (hsegs : VaultPath.segments? path = .ok segs)
    (hpath : path.toList = stem ++ '.' :: extension) (hpoint : '.' ∉ extension)
    (hslash : '/' ∉ extension) :
    ∃ above below front back,
      segs = above ++
        (if front = [] ∧ back = [] then [] else [String.ofList (front ++ '.' :: back)]) ++ below ∧
      (∀ n, VaultPath.segments? (numbered path n) =
        .ok (above ++ [String.ofList (numberedFront n front ++ '.' :: back)] ++ below)) ∧
      (pointInName path = true ↔ front ≠ [] ∧ below = []) ∧ '.' ∉ back := by
  obtain ⟨ps, u, hstem⟩ := (List.eq_nil_or_concat (VaultPath.parts stem)).resolve_left
    (VaultPath.parts_ne_nil stem)
  obtain ⟨e, qs, hextension⟩ := List.exists_cons_of_ne_nil (VaultPath.parts_ne_nil extension)
  rw [List.concat_eq_append] at hstem
  have htrim (front : List Char) : Text.trim (front ++ '.' :: e) =
      Text.trimStart front ++ '.' :: Text.trimEnd e := Text.trim_append_cons (by decide)
  obtain ⟨hup, hne, hsegs⟩ := VaultPath.segments?_eq_ok_iff.mp hsegs
  have hpath' := parts_around_point hstem hextension List.not_mem_nil List.not_mem_nil
  rw [List.append_nil, List.append_nil, ← hpath] at hpath'
  rw [hpath'] at hup hsegs
  refine ⟨VaultPath.counting ps, VaultPath.counting qs, Text.trimStart u, Text.trimEnd e,
    ?_, fun n => ?_, ?_, ?_⟩
  · rw [hsegs, VaultPath.counting_append, VaultPath.counting_append, VaultPath.counting_singleton,
      htrim]
    simp only [isIdle_point_iff]
  · obtain ⟨hslash', hbackslash'⟩ := separators_not_mem_number n
    rw [VaultPath.segments?_eq_ok_iff, numbered_of_point hpath hpoint hslash,
      parts_around_point hstem hextension hslash' hbackslash']
    have htrim' := htrim (u ++ number n)
    rw [trimStart_append_number] at htrim'
    obtain ⟨hidle, hleads⟩ := counts_numberedFront n (Text.trimStart u) (Text.trimEnd e)
    refine ⟨fun p hp => ?_, by simp, ?_⟩
    · simp only [List.mem_append, List.mem_singleton] at hp hup
      rcases hp with (hp | rfl) | hp
      · exact hup p (.inl (.inl hp))
      · rwa [htrim']
      · exact hup p (.inr hp)
    · rw [VaultPath.counting_append, VaultPath.counting_append, VaultPath.counting_singleton,
        htrim', hidle]
      rfl
  · have hblank : Text.trimStart u = [] ↔ u.all isBlank = true :=
      List.dropWhile_eq_nil_iff.trans List.all_eq_true.symm
    have hbelow : VaultPath.counting qs = [] ↔ qs.all (·.all isBlank) = true := by
      rw [VaultPath.counting_eq_nil_iff fun p hp =>
        VaultPath.point_not_mem_parts hpoint (hextension ▸ .tail e hp)]
      simp only [List.all_eq_true]
    simp only [pointInName, Text.cutLast?_eq_some_iff.mpr ⟨hpath, hpoint⟩, hstem, hextension,
      List.getLastD_concat, List.drop_one, List.tail_cons, Bool.and_eq_true, Bool.not_eq_true',
      hbelow, ne_eq, Text.trimStart_eq_nil_iff, Bool.not_eq_true]
  · exact fun hmem => VaultPath.point_not_mem_parts hpoint (hextension ▸ List.mem_cons_self)
      (Text.trimEnd_isPrefix.mem hmem)

/-- **A name and the same with a number**: behind a blank, the number stands in front of the last
point, or at the end if there is none. -/
inductive PutsNumber (n : Nat) : (name numbered : List Char) → Prop
  /-- There is a point. -/
  | atPoint {stem extension : List Char} (h : '.' ∉ extension) :
    PutsNumber n (stem ++ '.' :: extension) (stem ++ ' ' :: (toString n).toList ++ '.' :: extension)
  /-- There is none. -/
  | atEnd {name : List Char} (h : '.' ∉ name) :
    PutsNumber n name (name ++ ' ' :: (toString n).toList)

/-- With a number, a name gets longer by it. -/
theorem PutsNumber.length_eq {name' : List Char} (h : PutsNumber n name name') :
    name'.length = name.length + (toString n).toList.length + 1 := by
  cases h with
  | atPoint h =>
    simp only [List.length_append, List.length_cons]
    omega
  | atEnd h => rw [List.length_append, List.length_cons, Nat.add_assoc]

/-- **A file beside another, under its name with a number**: both are in the same folder. -/
def IsNumbered (target new : String) (n : Nat) : Prop :=
  ∃ folder name name', VaultPath.segmentsOf target = folder ++ [name] ∧
    VaultPath.segmentsOf new = folder ++ [name'] ∧ PutsNumber n name.toList name'.toList

/-- **Every number makes a path** of one that the vault takes. Its file is beside that of the path,
under its name with the number, exactly if the last point of the path is in the name. -/
theorem exists_numbered {target : String}
    (h : VaultPath.normalize? (withExtension path) = .ok target) (n : Nat) :
    ∃ new, VaultPath.normalize? (numbered (withExtension path) n) = .ok new ∧
      (IsNumbered target new n ↔ pointInName (withExtension path) = true) := by
  obtain ⟨stem, extension, hpath, hpoint, hslash⟩ := exists_point_withExtension path
  obtain ⟨segs, hsegs, rfl⟩ := VaultPath.normalize?_eq_ok_iff.mp h
  obtain ⟨above, below, front, back, rfl, hnumbered, hin, hback⟩ :=
    exists_segments_numbered hsegs hpath hpoint hslash
  refine ⟨_, by rw [VaultPath.normalize?, hnumbered n]; rfl, ?_⟩
  have hplain {segs : List String} {path : String} (h : VaultPath.segments? path = .ok segs) :
      VaultPath.segmentsOf (VaultPath.ofSegments segs) = segs := by
    obtain ⟨hne, hnames⟩ := VaultPath.isName_of_segments? h
    exact VaultPath.segmentsOf_ofSegments hne fun s hs => (hnames s hs).slash
  rw [IsNumbered, hplain hsegs, hplain (hnumbered n), hin]
  constructor
  · rintro ⟨folder, name, name', hname, hnew, hputs⟩
    have hlength := hputs.length_eq
    have hbelow : below = [] := by
      rcases List.eq_nil_or_concat below with hnil | ⟨below, last, rfl⟩
      · exact hnil
      -- otherwise both have the same name
      · rw [List.concat_eq_append, ← List.append_assoc] at hname hnew
        obtain ⟨-, rfl⟩ := List.append_singleton_inj.mp hname
        obtain ⟨-, rfl⟩ := List.append_singleton_inj.mp hnew
        omega
    subst hbelow
    refine ⟨fun hfront => ?_, rfl⟩
    subst hfront
    rw [List.append_nil] at hname hnew
    obtain ⟨rfl, rfl⟩ := List.append_singleton_inj.mp hnew
    by_cases hempty : back = []
    -- there is a segment more, or the blank in front of the number is missing
    · simp [hempty] at hname
    · rw [if_neg fun h => hempty h.2] at hname
      obtain ⟨-, rfl⟩ := List.append_singleton_inj.mp hname
      simp only [String.toList_ofList, numberedFront, if_true, List.nil_append, List.length_append,
        List.length_cons] at hlength
      omega
  · rintro ⟨hfront, rfl⟩
    refine ⟨above, String.ofList (front ++ '.' :: back), _, ?_, List.append_nil _, ?_⟩
    · rw [if_neg fun h => hfront h.1, List.append_nil]
    · rw [String.toList_ofList, String.toList_ofList, numberedFront, if_neg hfront]
      exact .atPoint hback

end NotePath

end FormChain
