import FormChain.Proofs.Vault.Paths
import FormChain.Vault.Naming

/-!
# Names that are read again

The path of a note gets the usual extension where there is no point in its name, that is, behind
its last slash (`FormChain.NotePath.point_mem_lastName_withExtension`). A vault does not look at
the path as it is written, but at its plain form, in which backslashes are slashes and single
points do not count. So the name of the file need not be the one that was looked at: it is, if
there is no backslash in that and it is no point alone
(`FormChain.NotePath.lastName_of_normalize?`).

This matters where a path is read again. That of a file stays as it is exactly if there is a point
in the name of the file (`FormChain.NotePath.normalize?_withExtension_plain`). The name that a file
was created under leads to it as well if blanks at its end do not come to stand in front of the
extension (`FormChain.NotePath.normalize?_withExtension_name`).
-/

namespace FormChain

/-! ### The usual extension -/

namespace VaultPath

variable {cs u : List Char} {ps : List (List Char)}

/-- **With the usual extension**, the last part counts, whatever it is. -/
theorem counting_parts_extension (h : parts cs = ps ++ [u]) :
    counting (parts (cs ++ NotePath.noteExtension)) =
      counting ps ++ [String.ofList (Text.trimStart u ++ NotePath.noteExtension)] := by
  have hextension : parts NotePath.noteExtension = [NotePath.noteExtension] := by decide
  have htrim : Text.trim (u ++ NotePath.noteExtension) =
      Text.trimStart u ++ NotePath.noteExtension := Text.trim_append_cons (by decide)
  have hidle : isIdle (Text.trimStart u ++ NotePath.noteExtension) = false := by
    rw [isIdle, Bool.or_eq_false_iff, decide_eq_false_iff_not]
    refine ⟨by simp [NotePath.noteExtension], fun heq => ?_⟩
    have hlength := congrArg List.length heq
    simp [NotePath.noteExtension] at hlength
  rw [parts_append h hextension, counting_append, counting_singleton, htrim, hidle]
  rfl

/-- With the usual extension, a path makes other segments. -/
theorem counting_parts_extension_ne :
    counting (parts (cs ++ NotePath.noteExtension)) ≠ counting (parts cs) := by
  obtain ⟨ps, u, hps⟩ := exists_parts_concat cs
  rw [counting_parts_extension hps, hps, counting_append, counting_singleton]
  intro hsame
  have hlast := List.append_cancel_left hsame
  split at hlast
  · cases hlast
  · have htrim := congrArg List.length
      (String.ofList_injective (List.singleton_inj.mp hlast))
    have hprefix := (@Text.trimEnd_isPrefix (Text.trimStart u)).length_le
    rw [Text.trim] at htrim
    simp only [List.length_append, NotePath.noteExtension, List.length_cons] at htrim
    omega

end VaultPath

namespace NotePath

open VaultPath (parts counting normalize?)

variable {path file : String} {cs more front behind t : List Char} {n : Nat}

/-! ### The name of a file -/

/-- **A path ends with its last name**, behind its last slash if it has one. -/
theorem exists_lastName (cs : List Char) : '/' ∉ lastName cs ∧
    (lastName cs = cs ∨ ∃ folder, cs = folder ++ '/' :: lastName cs) := by
  rw [lastName]
  split
  · next folder name hcut =>
    obtain ⟨hcs, hname⟩ := Text.cutLast?_eq_some_iff.mp hcut
    exact ⟨hname, Or.inr ⟨folder, hcs⟩⟩
  · next hcut => exact ⟨Text.cutLast?_eq_none_iff.mp hcut, Or.inl rfl⟩

theorem lastName_of_slash {name : List Char} (hcs : cs = front ++ '/' :: name)
    (h : '/' ∉ name) : lastName cs = name := by
  rw [lastName, Text.cutLast?_eq_some_iff.mpr ⟨hcs, h⟩]

theorem lastName_of_not_mem (h : '/' ∉ cs) : lastName cs = cs := by
  rw [lastName, Text.cutLast?_eq_none_iff.mpr h]

/-- What comes behind a path without a slash belongs to its name. -/
theorem lastName_append (h : '/' ∉ more) : lastName (cs ++ more) = lastName cs ++ more := by
  obtain ⟨hname, heq | ⟨folder, hcs⟩⟩ := exists_lastName cs
  · rw [heq] at hname ⊢
    exact lastName_of_not_mem fun hmem => (List.mem_append.mp hmem).elim hname h
  · have hmore : cs ++ more = folder ++ '/' :: (lastName cs ++ more) := by
      rw [← List.cons_append, ← List.append_assoc, ← hcs]
    exact lastName_of_slash hmore fun hmem => (List.mem_append.mp hmem).elim hname h

/-- What stands in front of a path makes no point in its name, if it has none. -/
theorem point_mem_lastName_append (h : '.' ∉ front) :
    '.' ∈ lastName (front ++ cs) ↔ '.' ∈ lastName cs := by
  obtain ⟨hname, heq | ⟨folder, hcs⟩⟩ := exists_lastName cs
  · rw [heq] at hname
    rw [lastName_append hname, lastName_of_not_mem hname, List.mem_append]
    refine or_iff_right fun hmem => h ?_
    obtain ⟨-, heq' | ⟨folder, hfront⟩⟩ := exists_lastName front
    · rwa [heq'] at hmem
    · rw [hfront]
      exact List.mem_append_right _ (.tail _ hmem)
  · have hfront : front ++ cs = front ++ folder ++ '/' :: lastName cs := by
      rw [List.append_assoc, ← hcs]
    rw [lastName_of_slash hfront hname]

/-- With an extension, there is a point in the name. -/
theorem point_mem_lastName_withExtension (path : String) :
    '.' ∈ lastName (withExtension path).toList := by
  rw [withExtension]
  split
  case isTrue hpoint => exact List.contains_iff_mem.mp hpoint
  case isFalse =>
    rw [String.toList_ofList, lastName_append (by decide)]
    exact List.mem_append_right _ (by decide)

/-- The name of a path in plain form is its last segment. -/
theorem lastName_ofSegments {above : List String} {s : String} (h : '/' ∉ s.toList) :
    lastName (VaultPath.ofSegments (above ++ [s])).toList = s.toList := by
  by_cases habove : above = []
  · rw [habove]
    exact lastName_of_not_mem h
  · have hjoined : VaultPath.ofSegments (above ++ [s]) =
        VaultPath.ofSegments above ++ "/" ++ s := by
      rw [VaultPath.ofSegments, Text.joined,
        String.intercalate_append_of_ne_nil habove (List.cons_ne_nil _ _)]
      rfl
    have hlist : (VaultPath.ofSegments (above ++ [s])).toList =
        (VaultPath.ofSegments above).toList ++ '/' :: s.toList := by
      rw [hjoined, String.toList_append, String.toList_append, List.append_assoc]
      rfl
    exact lastName_of_slash hlist h

/-- Where there is no backslash in the name, it is the last part. -/
theorem exists_parts_lastName (h : '\\' ∉ lastName cs) :
    ∃ ps, parts cs = ps ++ [lastName cs] := by
  obtain ⟨hname, heq | ⟨folder, hcs⟩⟩ := exists_lastName cs
  · rw [heq] at hname h ⊢
    exact ⟨[], (VaultPath.parts_of_backslash h).trans (Text.pieces_of_not_mem hname)⟩
  · refine ⟨parts folder, ?_⟩
    rw [← Text.pieces_of_not_mem hname, ← VaultPath.parts_of_backslash h, ← VaultPath.parts_slash,
      ← hcs]

/-- **The name of a file is that of its path**, without blanks at its ends, if it counts and has
no backslash in it. -/
theorem lastName_of_normalize? (h : normalize? path = .ok file)
    (hbackslash : '\\' ∉ lastName path.toList)
    (hcounts : VaultPath.isIdle (Text.trim (lastName path.toList)) = false) :
    lastName file.toList = Text.trim (lastName path.toList) := by
  obtain ⟨segs, hsegs, rfl⟩ := VaultPath.normalize?_eq_ok_iff.mp h
  obtain ⟨hne, hnames⟩ := VaultPath.isName_of_segments? hsegs
  obtain ⟨rfl, -⟩ := VaultPath.segments?_eq_ok_iff_counting.mp hsegs
  obtain ⟨ps, hps⟩ := exists_parts_lastName hbackslash
  rw [hps, VaultPath.counting_append, VaultPath.counting_singleton, hcounts] at hnames ⊢
  have hslash := (hnames _ (List.mem_append_right _ (.head _))).slash
  exact (lastName_ofSegments hslash).trans String.toList_ofList

/-- A point in the name is still there in the file, unless it stands alone or a backslash parts
the name. -/
theorem point_mem_lastName_of_normalize? (h : normalize? path = .ok file)
    (hpoint : '.' ∈ lastName path.toList) (hbackslash : '\\' ∉ lastName path.toList)
    (halone : Text.trim (lastName path.toList) ≠ ['.']) : '.' ∈ lastName file.toList := by
  have hmem := Text.mem_trim_of_not_blank hpoint (by decide)
  have hcounts : VaultPath.isIdle (Text.trim (lastName path.toList)) = false := by
    simp [VaultPath.isIdle, List.ne_nil_of_mem hmem, halone]
  rwa [lastName_of_normalize? h hbackslash hcounts]

/-! ### Extensions that are added twice -/

/-- **The path of a file is read back** exactly if there is a point in its name: otherwise it gets
an extension that the file does not have. -/
theorem normalize?_withExtension_plain (h : normalize? path = .ok file) :
    normalize? (withExtension file) = .ok file ↔ '.' ∈ lastName file.toList := by
  obtain ⟨segs, hsegs, rfl⟩ := VaultPath.normalize?_eq_ok_iff.mp h
  obtain ⟨hne, hnames⟩ := VaultPath.isName_of_segments? hsegs
  have hplain : normalize? (VaultPath.ofSegments segs) = .ok (VaultPath.ofSegments segs) :=
    VaultPath.normalize?_eq_ok_iff.mpr ⟨segs, VaultPath.segments?_ofSegments hne hnames, rfl⟩
  by_cases hpoint : '.' ∈ lastName (VaultPath.ofSegments segs).toList
  · rw [withExtension, if_pos (List.contains_iff_mem.mpr hpoint)]
    exact iff_of_true hplain hpoint
  · refine iff_of_false (fun hsame => hpoint ?_) hpoint
    rw [withExtension, if_neg (by simpa using hpoint),
      VaultPath.normalize?_eq_ok_iff_of hplain, String.toList_ofList] at hsame
    exact absurd hsame VaultPath.counting_parts_extension_ne

/-- What a name is in no folder: blanks around it do not count, and slashes in front of it. -/
theorem exists_inFolder {folder name : String} (hname : isBlankText name = false)
    (hfolder : Text.strip '/' (Text.trim folder.toList) = []) :
    ∃ front behind, name.toList = front ++ (inFolder folder name).toList ++ behind ∧
      (∀ c ∈ front, isBlank c = true ∨ c = '/') ∧ (∀ c ∈ behind, isBlank c = true) ∧
      Text.trimEnd name.toList = front ++ (inFolder folder name).toList := by
  obtain ⟨front, behind, hparts, hfront, hbehind⟩ := Text.exists_append_trim name.toList
  have hslashes : (Text.trim name.toList).takeWhile (· == '/') ++ (inFolder folder name).toList =
      Text.trim name.toList := by
    rw [inFolder, hfolder, String.toList_ofList]
    exact List.takeWhile_append_dropWhile
  have hwhole : front ++ (Text.trim name.toList).takeWhile (· == '/') ++
      (inFolder folder name).toList = front ++ Text.trim name.toList := by
    rw [List.append_assoc, hslashes]
  refine ⟨front ++ (Text.trim name.toList).takeWhile (· == '/'), behind, ?_, ?_, hbehind, ?_⟩
  · rw [hwhole, ← hparts]
  · intro c hc
    rcases List.mem_append.mp hc with hc | hc
    · exact Or.inl (hfront c hc)
    · exact Or.inr (by simpa using List.mem_takeWhile_imp hc)
  · have hne : Text.trim name.toList ≠ [] := by
      rw [ne_eq, Text.trim_eq_nil_iff]
      intro hblank
      rw [isBlankText, List.all_eq_true.mpr hblank] at hname
      cases hname
    rw [hwhole]
    calc Text.trimEnd name.toList
        = Text.trimEnd (front ++ Text.trim name.toList ++ behind) := congrArg Text.trimEnd hparts
      _ = Text.trimEnd (front ++ Text.trim name.toList) := Text.trimEnd_append hbehind
      _ = front ++ Text.trim name.toList := Text.trimEnd_eq_self fun c hc => by
          rw [List.getLast?_append, List.getLast?_eq_some_getLast hne, Option.some_or,
            ← List.getLast?_eq_some_getLast hne] at hc
          exact Text.isBlank_getLast_trimEnd _ c hc

/-- **A name is read back** as its file is named, in no folder, if it has an extension or no
blanks behind it, or if its last part is blank. Otherwise, the blanks are part of the name when
the extension is put behind them. -/
theorem normalize?_withExtension_name {folder name : String} (hname : isBlankText name = false)
    (hfolder : Text.strip '/' (Text.trim folder.toList) = [])
    (h : normalize? (withExtension (inFolder folder name)) = .ok file) :
    normalize? (withExtension name) = .ok file ↔
      '.' ∈ lastName name.toList ∨ Text.trimEnd name.toList = name.toList ∨
        ((parts name.toList).getLastD []).all isBlank = true := by
  obtain ⟨front, behind, hparts, hfront, hbehind, hend⟩ := exists_inFolder hname hfolder
  generalize inFolder folder name = inner at *
  have hpoint : '.' ∈ lastName name.toList ↔ '.' ∈ lastName inner.toList := by
    have hblank {c : Char} := Text.not_mem_of_blank (c := c) hbehind
    have hpoint : '.' ∉ front := fun hmem => absurd (hfront _ hmem) (by decide)
    rw [hparts, lastName_append (hblank (by decide)), List.mem_append,
      or_iff_left (hblank (by decide)), point_mem_lastName_append hpoint]
  rw [VaultPath.normalize?_eq_ok_iff_of h, withExtension, withExtension]
  by_cases hname : '.' ∈ lastName name.toList
  · -- blanks and slashes around do not count
    rw [if_pos (List.contains_iff_mem.mpr hname),
      if_pos (List.contains_iff_mem.mpr (hpoint.mp hname)), hparts,
      VaultPath.counting_parts_behind hbehind, VaultPath.counting_parts_front hfront]
    exact iff_of_true rfl (Or.inl (hparts ▸ hname))
  · have hinner : counting (parts (inner.toList ++ noteExtension)) =
        counting (parts (Text.trimEnd name.toList ++ noteExtension)) := by
      rw [hend, List.append_assoc, VaultPath.counting_parts_front hfront]
    rw [if_neg (by simpa using hname), if_neg (by simpa using hpoint.not.mp hname),
      String.toList_ofList, String.toList_ofList, hinner, or_iff_right hname]
    rw [← hend] at hparts
    obtain ⟨ps, u, hps⟩ := VaultPath.exists_parts_concat (Text.trimEnd name.toList)
    have hname' : parts name.toList = ps ++ [u ++ behind] := by
      rw [hparts]
      exact VaultPath.parts_append hps (VaultPath.parts_of_blank hbehind)
    rw [VaultPath.counting_parts_extension hname', VaultPath.counting_parts_extension hps,
      List.append_cancel_left_eq, List.singleton_inj, String.ofList_inj, List.append_cancel_right_eq,
      hname', List.getLastD_concat, Text.trimStart_append hbehind, List.all_append,
      List.all_eq_true.mpr hbehind, Bool.and_true]
    have hnone : Text.trimEnd name.toList = name.toList ↔ behind = [] := by
      refine ⟨fun heq => ?_, ?_⟩
      · rw [heq] at hparts
        exact List.self_eq_append_right.mp hparts
      · rintro rfl
        rw [List.append_nil] at hparts
        exact hparts.symm
    rw [← Text.trimStart_eq_nil_iff, hnone]
    split
    · next hempty => simp [hempty]
    · next hempty => simp [hempty]

end NotePath
end FormChain
