import FormChain.Vault.Path
import FormChain.Proofs.Text.Cutting

/-!
# Paths and their segments

A path in plain form is as good as the list of its segments: cutting it gives the segments back
(`FormChain.VaultPath.segmentsOf_ofSegments`), and so different segments make different paths
(`FormChain.VaultPath.ofSegments_inj`). A vault takes a path by its parts, between slashes and
backslashes, and leaves out those that do not count (`FormChain.VaultPath.segments?_eq_ok_iff`). The
segments of whatever path a vault takes are names
(`FormChain.VaultPath.isName_of_segments?`), and the plain form of a path has the same segments
as the path itself (`FormChain.VaultPath.segments?_ofSegments`).

Below a folder, paths stand in the same order as their ends
(`FormChain.VaultPath.lt_of_ofSegments_append_lt`).
-/

namespace FormChain

namespace VaultPath

/-! ### Parts -/

section Parts

variable {path : String} {segs : List String} {p cs front behind : List Char}
  {ps qs : List (List Char)}

/-- The parts of a path between its slashes and backslashes, with the blanks at their ends. -/
def parts (path : List Char) : List (List Char) :=
  Text.pieces '/' (path.map slashed)

/-- Where there is no backslash, the slashes are those that there are. -/
theorem parts_of_backslash (h : '\\' ∉ cs) : parts cs = Text.pieces '/' cs := by
  have hslashed : cs.map slashed = cs :=
    (List.map_congr_left fun c hc => if_neg fun heq : c = '\\' => h (heq ▸ hc)).trans
      (List.map_id _)
  rw [parts, hslashed]

/-- There is no backslash in a part, and no slash. -/
theorem separators_of_mem_parts {c : Char} (hp : p ∈ parts cs) (hc : c ∈ p) :
    c ≠ '\\' ∧ c ≠ '/' := by
  obtain ⟨hmem, hne⟩ := Text.mem_of_mem_pieces hp hc
  obtain ⟨d, -, rfl⟩ := List.mem_map.mp hmem
  refine ⟨?_, hne⟩
  unfold slashed
  split
  · decide
  · assumption

/-- Where two texts meet, the last part of the one goes on with the first of the other. -/
theorem parts_append {cs' u v : List Char} (h : parts cs = ps ++ [u])
    (h' : parts cs' = v :: qs) : parts (cs ++ cs') = ps ++ (u ++ v) :: qs := by
  rw [parts, List.map_append]
  exact Text.pieces_append_append h h'

/-- There is a part. -/
theorem parts_ne_nil (cs : List Char) : parts cs ≠ [] := by
  obtain ⟨q, qs, hqs, -⟩ := Text.exists_pieces_cons '/' '/' (cs.map slashed)
  rw [parts, hqs]
  exact List.cons_ne_nil q qs

/-- There is a last part. -/
theorem exists_parts_concat (cs : List Char) : ∃ ps u, parts cs = ps ++ [u] := by
  obtain ⟨ps, u, hps⟩ := (List.eq_nil_or_concat (parts cs)).resolve_left (parts_ne_nil cs)
  exact ⟨ps, u, hps.trans List.concat_eq_append⟩

/-- A slash parts a path. -/
theorem parts_slash {cs' : List Char} : parts (cs ++ '/' :: cs') = parts cs ++ parts cs' := by
  have hslash : slashed '/' = '/' := rfl
  rw [parts, List.map_append, List.map_cons, hslash, Text.pieces_separator]
  rfl

/-- Blanks make no parts. -/
theorem parts_of_blank (h : ∀ c ∈ behind, isBlank c = true) : parts behind = [behind] := by
  rw [parts_of_backslash (Text.not_mem_of_blank h (by decide))]
  exact Text.pieces_of_not_mem (Text.not_mem_of_blank h (by decide))

/-- The segments that parts make, where idle ones do not count. -/
def counting (ps : List (List Char)) : List String :=
  ((ps.map Text.trim).filter (!isIdle ·)).map String.ofList

theorem counting_append : counting (ps ++ qs) = counting ps ++ counting qs := by
  simp [counting]

theorem counting_singleton : counting [p] =
    if isIdle (Text.trim p) then [] else [String.ofList (Text.trim p)] := by
  by_cases hidle : isIdle (Text.trim p) = true <;> simp [counting, hidle]

/-- **Blanks and slashes in front of a path do not count.** -/
theorem counting_parts_front (h : ∀ c ∈ front, isBlank c = true ∨ c = '/') :
    counting (parts (front ++ cs)) = counting (parts cs) := by
  induction front with
  | nil => rfl
  | cons c front ih =>
    obtain ⟨hc, hfront⟩ := List.forall_mem_cons.mp h
    rw [← ih hfront, List.cons_append]
    rcases hc with hc | rfl
    · have hslash : slashed c = c := if_neg fun heq => by rw [heq] at hc; exact absurd hc (by decide)
      have hne : c ≠ '/' := fun heq => by rw [heq] at hc; exact absurd hc (by decide)
      obtain ⟨v, vs, hv, hcons⟩ := Text.exists_pieces_cons '/' c ((front ++ cs).map slashed)
      rw [if_neg hne] at hcons
      rw [parts, parts, List.map_cons, hslash, hcons, hv, counting, counting, List.map_cons,
        List.map_cons, Text.trim_cons_of_blank hc]
    · have hparts := @parts_slash [] (front ++ cs)
      rw [List.nil_append] at hparts
      rw [hparts, counting_append]
      rfl

/-- **Blanks behind a path do not count.** -/
theorem counting_parts_behind (h : ∀ c ∈ behind, isBlank c = true) :
    counting (parts (cs ++ behind)) = counting (parts cs) := by
  obtain ⟨ps, u, hps⟩ := exists_parts_concat cs
  rw [parts_append hps (parts_of_blank h), hps, counting_append, counting_append,
    counting_singleton, counting_singleton, Text.trim_append h]

/-- **The segments of a path** are those that its parts make, if none leads up. -/
theorem segments?_eq_ok_iff : segments? path = .ok segs ↔
    (∀ p ∈ parts path.toList, leadsUp (Text.trim p) = false) ∧ segs ≠ [] ∧
      segs = counting (parts path.toList) := by
  have hraw : rawSegments path = (parts path.toList).map Text.trim := rfl
  simp only [segments?, hraw]
  split
  case isTrue hno =>
    refine iff_of_false (by simp) ?_
    rintro ⟨hup, hne, rfl⟩
    rcases Bool.or_eq_true_iff.mp hno with h | h
    · obtain ⟨_, hmem, hleads⟩ := List.any_eq_true.mp h
      obtain ⟨p, hp, rfl⟩ := List.mem_map.mp hmem
      rw [hup p hp] at hleads
      cases hleads
    · exact hne (congrArg (List.map String.ofList) (List.isEmpty_iff.mp h))
  case isFalse hok =>
    rw [Bool.or_eq_true, not_or, List.isEmpty_iff, Bool.not_eq_true, List.any_eq_false] at hok
    constructor
    · intro h
      obtain rfl := Except.ok.inj h
      exact ⟨fun p hp => by simpa using hok.1 _ (List.mem_map_of_mem hp), by simpa using hok.2, rfl⟩
    · rintro ⟨-, -, rfl⟩
      rfl

/-- **The segments of a path** are those that its parts make, if there are any and none leads
up. -/
theorem segments?_eq_ok_iff_counting : segments? path = .ok segs ↔
    segs = counting (parts path.toList) ∧ segs ≠ [] ∧ ".." ∉ segs := by
  rw [segments?_eq_ok_iff, ← and_assoc, and_comm, and_congr_right]
  rintro rfl
  rw [and_comm, and_congr_right]
  rintro -
  have hup {p : List Char} : leadsUp p = true ↔ String.ofList p = ".." := by
    rw [leadsUp, decide_eq_true_iff]
    exact ⟨fun h => by rw [h], fun h => String.ofList_injective h⟩
  simp only [counting, List.mem_map, List.mem_filter, Bool.not_eq_true', not_exists, not_and]
  constructor
  · rintro h _ ⟨⟨p, hp, rfl⟩, -⟩ heq
    exact absurd (hup.mpr heq) (by rw [h p hp]; decide)
  · intro h p hp
    refine Bool.eq_false_iff.mpr fun hleads => h _ ⟨⟨p, hp, rfl⟩, ?_⟩ (hup.mp hleads)
    rw [leadsUp, decide_eq_true_iff] at hleads
    rw [hleads]
    decide

/-- **A vault takes a path** for the segments that count, unless two points are among them or there
are none. -/
theorem segments?_eq (path : String) :
    segments? path = if ".." ∈ counting (parts path.toList) ∨ counting (parts path.toList) = []
      then .error (.invalidPath path) else .ok (counting (parts path.toList)) := by
  split
  case isTrue hbad =>
    have hnot (segs : List String) : segments? path ≠ .ok segs := fun h => by
      obtain ⟨rfl, hne, hup⟩ := segments?_eq_ok_iff_counting.mp h
      exact hbad.elim hup hne
    unfold segments? at hnot ⊢
    exact if_pos (of_not_not fun hok => hnot _ (if_neg hok))
  case isFalse hgood =>
    rw [not_or] at hgood
    exact segments?_eq_ok_iff_counting.mpr ⟨rfl, hgood.2, hgood.1⟩

end Parts

/-! ### Names -/

/-- **A name of an entry**: a segment that counts, as paths in plain form have them. -/
structure IsName (s : String) : Prop where
  /-- There is something to it. -/
  ne_empty : s ≠ ""
  /-- It has no slash. -/
  slash : '/' ∉ s.toList
  /-- It has no backslash. -/
  backslash : '\\' ∉ s.toList
  /-- It has no blanks at its ends. -/
  trimmed : Text.trim s.toList = s.toList
  /-- It is not one that stands for the same folder. -/
  ne_same : s ≠ "."
  /-- It is not one that leads up. -/
  ne_up : s ≠ ".."

section Segments

variable {path other file : String} {p q segs : List String}

/-- **A vault takes paths with names for segments**, one at least. -/
theorem isName_of_segments? (h : segments? path = .ok segs) :
    segs ≠ [] ∧ ∀ s ∈ segs, IsName s := by
  obtain ⟨hup, hne, rfl⟩ := segments?_eq_ok_iff.mp h
  refine ⟨hne, fun s hs => ?_⟩
  obtain ⟨cs, hcs, rfl⟩ := List.mem_map.mp hs
  obtain ⟨hraw, hidle⟩ := List.mem_filter.mp hcs
  obtain ⟨part, hpart, rfl⟩ := List.mem_map.mp hraw
  have hup := hup part hpart
  have hchar {c : Char} (hc : c ∈ Text.trim part) : c ≠ '\\' ∧ c ≠ '/' :=
    separators_of_mem_parts hpart (Text.mem_of_mem_trim hc)
  simp only [isIdle, leadsUp, Bool.not_or, Bool.and_eq_true, Bool.not_eq_true',
    List.isEmpty_eq_false_iff, decide_eq_false_iff_not] at hidle hup
  refine ⟨?_, ?_, ?_, ?_, ?_, ?_⟩
  · exact fun heq => hidle.1 (String.ofList_injective heq)
  · rw [String.toList_ofList]
    exact fun hmem => (hchar hmem).2 rfl
  · rw [String.toList_ofList]
    exact fun hmem => (hchar hmem).1 rfl
  · rw [String.toList_ofList, Text.trim_trim]
  · exact fun heq => hidle.2 (String.ofList_injective heq)
  · exact fun heq => hup (String.ofList_injective heq)

theorem toList_ofSegments :
    (ofSegments segs).toList = Text.joinPieces '/' (segs.map String.toList) := by
  induction segs with
  | nil => rfl
  | cons s rest ih =>
    cases rest with
    | nil => simp [ofSegments, Text.joined, Text.joinPieces]
    | cons s' rest =>
      rw [ofSegments, Text.joined, String.intercalate_cons_cons, String.toList_append,
        String.toList_append, ← Text.joined, ← ofSegments, ih, List.append_assoc]
      rfl

/-- **The segments of a path in plain form** are those that it was made of. -/
theorem segmentsOf_ofSegments (hne : segs ≠ []) (h : ∀ s ∈ segs, '/' ∉ s.toList) :
    segmentsOf (ofSegments segs) = segs := by
  rw [segmentsOf, toList_ofSegments, Text.pieces_joinPieces (by simpa using hne)
    (by simpa using h), List.map_map]
  exact List.map_id'' (fun s => String.ofList_toList) segs

/-- Its segments make the path. -/
theorem ofSegments_segmentsOf : ofSegments (segmentsOf path) = path := by
  rw [← String.toList_inj, toList_ofSegments, segmentsOf, List.map_map]
  have hid : String.toList ∘ String.ofList = id := funext fun _ => String.toList_ofList
  rw [hid, List.map_id, Text.joinPieces_pieces]

/-- **Different segments make different paths.** -/
theorem ofSegments_inj (hp : p ≠ []) (hq : q ≠ []) (hps : ∀ s ∈ p, '/' ∉ s.toList)
    (hqs : ∀ s ∈ q, '/' ∉ s.toList) (h : ofSegments p = ofSegments q) : p = q := by
  rw [← segmentsOf_ofSegments hp hps, h, segmentsOf_ofSegments hq hqs]

/-- A plain form is made of segments. -/
theorem normalize?_eq_ok_iff : normalize? path = .ok file ↔
    ∃ segs, segments? path = .ok segs ∧ ofSegments segs = file := by
  rw [normalize?]
  cases segments? path <;> simp [Except.map]

/-- **Two paths have the same plain form** if their parts make the same segments. -/
theorem normalize?_eq_ok_iff_of (h : normalize? path = .ok file) :
    normalize? other = .ok file ↔
      counting (parts other.toList) = counting (parts path.toList) := by
  obtain ⟨segs, hsegs, rfl⟩ := normalize?_eq_ok_iff.mp h
  obtain ⟨rfl, hne, hup⟩ := segments?_eq_ok_iff_counting.mp hsegs
  rw [normalize?_eq_ok_iff]
  constructor
  · rintro ⟨segs', hsegs', hplain⟩
    obtain ⟨rfl, hne', -⟩ := segments?_eq_ok_iff_counting.mp hsegs'
    exact ofSegments_inj hne' hne (fun s hs => ((isName_of_segments? hsegs').2 s hs).slash)
      (fun s hs => ((isName_of_segments? hsegs).2 s hs).slash) hplain
  · intro hsame
    exact ⟨_, segments?_eq_ok_iff_counting.mpr ⟨hsame.symm, hne, hup⟩, rfl⟩

/-- A slash parts a path into its segments. -/
theorem segmentsOf_slash {s t : String} :
    segmentsOf (s ++ "/" ++ t) = segmentsOf s ++ segmentsOf t := by
  have htext : (s ++ "/" ++ t).toList = s.toList ++ '/' :: t.toList := by
    rw [String.toList_append, String.toList_append, List.append_assoc]
    rfl
  rw [segmentsOf, htext, Text.pieces_separator, List.map_append]
  rfl

theorem segmentsOf_ne_nil : segmentsOf path ≠ [] := by
  obtain ⟨p, ps, hps, -⟩ := Text.exists_pieces_cons '/' '/' path.toList
  rw [segmentsOf, hps]
  exact List.cons_ne_nil _ _

theorem slash_of_mem_segmentsOf {s : String} (h : s ∈ segmentsOf path) : '/' ∉ s.toList := by
  obtain ⟨piece, hpiece, rfl⟩ := List.mem_map.mp h
  rw [String.toList_ofList]
  exact fun hmem => (Text.mem_of_mem_pieces hpiece hmem).2 rfl

/-- **A path in plain form stays as it is.** -/
theorem segments?_ofSegments (hne : segs ≠ []) (h : ∀ s ∈ segs, IsName s) :
    segments? (ofSegments segs) = .ok segs := by
  have hbackslash : '\\' ∉ (ofSegments segs).toList := by
    rw [toList_ofSegments]
    refine Text.not_mem_joinPieces (by decide) fun p hp => ?_
    obtain ⟨s, hs, rfl⟩ := List.mem_map.mp hp
    exact (h s hs).backslash
  have hparts : parts (ofSegments segs).toList = segs.map String.toList := by
    rw [parts_of_backslash hbackslash, toList_ofSegments, Text.pieces_joinPieces
      (by simpa using hne) (by simpa using fun s hs => (h s hs).slash)]
  have htrim : (segs.map String.toList).map Text.trim = segs.map String.toList := by
    rw [List.map_map]
    exact List.map_congr_left fun s hs => (h s hs).trimmed
  have hkept : (segs.map String.toList).filter (!isIdle ·) = segs.map String.toList := by
    refine List.filter_eq_self.mpr fun cs hcs => ?_
    obtain ⟨s, hs, rfl⟩ := List.mem_map.mp hcs
    have hempty : s.toList ≠ [] := fun heq => (h s hs).ne_empty (String.toList_inj.mp heq)
    have hsame : s.toList ≠ ['.'] := fun heq => (h s hs).ne_same (String.toList_inj.mp heq)
    simp [isIdle, hempty, hsame]
  rw [segments?_eq_ok_iff, hparts]
  refine ⟨fun p hp => ?_, hne, ?_⟩
  · obtain ⟨s, hs, rfl⟩ := List.mem_map.mp hp
    have hup : s.toList ≠ ['.', '.'] := fun heq => (h s hs).ne_up (String.toList_inj.mp heq)
    simp [leadsUp, (h s hs).trimmed, hup]
  · rw [counting, htrim, hkept, List.map_map]
    exact (List.map_id'' (fun s => String.ofList_toList) segs).symm

/-- **The plain form of a path is its own.** -/
theorem normalize?_of_normalize? (h : normalize? path = .ok file) : normalize? file = .ok file := by
  obtain ⟨segs, hsegs, rfl⟩ := normalize?_eq_ok_iff.mp h
  obtain ⟨hne, hname⟩ := isName_of_segments? hsegs
  exact normalize?_eq_ok_iff.mpr ⟨segs, segments?_ofSegments hne hname, rfl⟩

/-- A path without a plain form is refused for itself. -/
theorem normalize?_eq_error {e : VaultError} (h : normalize? path = .error e) :
    e = .invalidPath path := by
  rw [normalize?, segments?_eq] at h
  split at h
  · exact (Except.error.inj h).symm
  · cases h

/-! ### Paths below a folder -/

/-- What comes before the last segment has all the beginnings but the whole. -/
theorem prefix_dropLast_iff (hne : p ≠ []) : q <+: p.dropLast ↔ q <+: p ∧ q ≠ p := by
  obtain ⟨init, last, rfl⟩ := (List.eq_nil_or_concat p).resolve_left hne
  rw [List.concat_eq_append, List.dropLast_concat, List.prefix_concat_iff]
  refine ⟨fun h => ⟨.inr h, ?_⟩, fun ⟨h, hproper⟩ => h.resolve_left hproper⟩
  rintro rfl
  have hlength := h.length_le
  rw [List.length_append, List.length_singleton] at hlength
  omega

/-- Below a folder, paths stand in the same order as their ends. -/
theorem lt_of_ofSegments_append_lt {root : List String} (hp : p ≠ []) (hq : q ≠ [])
    (h : ofSegments (root ++ p) < ofSegments (root ++ q)) : ofSegments p < ofSegments q := by
  by_cases hroot : root = []
  · rwa [hroot] at h
  · simp only [ofSegments, Text.joined] at h ⊢
    rw [String.intercalate_append_of_ne_nil hroot hp,
      String.intercalate_append_of_ne_nil hroot hq] at h
    -- otherwise what stands in front, which is the same, would put them the other way round
    have hnot : ¬ "/".intercalate q ≤ "/".intercalate p := by
      intro hle
      by_cases heq : "/".intercalate q = "/".intercalate p
      · exact String.lt_irrefl _ (heq ▸ h)
      · have hlt := Std.lt_of_le_of_ne hle heq
        rw [String.lt_iff] at hlt
        refine String.lt_asymm h (String.lt_iff.mpr ?_)
        simp only [String.toList_append]
        exact List.append_left_lt hlt
    exact Std.not_le.mp hnot

/-- **The folders that a path lies in** are those of its beginnings. -/
theorem mem_foldersBelow {place : List String} : path ∈ foldersBelow place segs ↔
    ∃ p q, p ≠ [] ∧ q ≠ [] ∧ segs = p ++ q ∧ path = ofSegments (place ++ p) := by
  induction segs generalizing place with
  | nil => simp +contextual [foldersBelow]
  | cons s rest ih =>
    cases rest with
    | nil =>
      refine iff_of_false List.not_mem_nil ?_
      rintro ⟨p, q, hp, hq, heq, -⟩
      have hlength := congrArg List.length heq
      have hp := List.length_pos_iff.mpr hp
      have hq := List.length_pos_iff.mpr hq
      rw [List.length_append, List.length_singleton] at hlength
      omega
    | cons s' rest =>
      simp only [foldersBelow, List.mem_cons, ih]
      constructor
      · rintro (rfl | ⟨p, q, hp, hq, heq, rfl⟩)
        · exact ⟨[s], s' :: rest, by simp, by simp, rfl, rfl⟩
        · exact ⟨s :: p, q, by simp, hq, by rw [heq]; rfl, by simp⟩
      · rintro ⟨_ | ⟨s'', p⟩, q, hp, hq, heq, rfl⟩
        · exact absurd rfl hp
        · obtain ⟨rfl, htail⟩ := List.cons.inj heq
          by_cases hnil : p = []
          · exact Or.inl (by rw [hnil])
          · exact Or.inr ⟨p, q, hnil, hq, htail, by simp⟩

end Segments

end VaultPath

end FormChain
