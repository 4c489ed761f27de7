import FormChain.CommandLine.Host
import FormChain.Vault.Disk
import FormChain.Proofs.Vault.Paths

/-!
# No path leads out of a vault

A path is cut at its slashes and backslashes, in one way only (`FormChain.VaultPath.CutAt`), and the
blanks at the ends of its pieces go. What is left of a piece may be what no piece was before, two
points for one, so a vault looks at it only then (`FormChain.VaultPath.segments?_eq`).

Whoever follows a path from a folder goes up at two points, stays at a single one, and goes down at
a name (`FormChain.VaultPath.ledTo`). The segments of a path that a vault takes are names, so all
the way stays below the folder of the vault, and ends where the vault looks
(`FormChain.VaultPath.normalize?_confined`). This is so for a disk whose paths are rows of names,
and for a machine whose paths are texts that are put one behind another.
-/

namespace FormChain

namespace VaultPath

/-! ### Pieces of a path -/

/-- A separator of segments. -/
def IsSeparator (c : Char) : Prop :=
  c = '/' ∨ c = '\\'

/-- **A path is cut at its separators** into the pieces between them. -/
inductive CutAt : List Char → List (List Char) → Prop where
  /-- There is no separator, or none any more. -/
  | last {p : List Char} (hp : ∀ c ∈ p, ¬ IsSeparator c) : CutAt p [p]
  /-- There is a first one. -/
  | next {p cs : List Char} {c : Char} {ps : List (List Char)} (hp : ∀ c ∈ p, ¬ IsSeparator c)
    (hc : IsSeparator c) (hrest : CutAt cs ps) : CutAt (p ++ c :: cs) (p :: ps)

/-- What counts of a piece: all but the blanks at its ends. -/
def segmentOf (piece : List Char) : String :=
  String.ofList (Text.trim piece)

section Pieces

variable {c : Char} {p cs : List Char} {ps : List (List Char)}

theorem slashed_of_isSeparator (hc : IsSeparator c) : slashed c = '/' := by
  rcases hc with rfl | rfl <;> rfl

theorem parts_of_forall_not (hp : ∀ c ∈ p, ¬ IsSeparator c) : parts p = [p] := by
  rw [parts_of_backslash fun hmem => hp _ hmem (.inr rfl)]
  exact Text.pieces_of_not_mem fun hmem => hp _ hmem (.inl rfl)

/-- The pieces of a path are its parts, so they are the only ones. -/
theorem CutAt.parts_eq (h : CutAt cs ps) : parts cs = ps := by
  induction h with
  | last hp => exact parts_of_forall_not hp
  | @next p cs c ps hp hc hrest ih =>
    have hcons : parts (c :: cs) = [] :: parts cs := by
      rw [parts, List.map_cons, slashed_of_isSeparator hc, Text.pieces, if_pos rfl, parts]
    have hfront : parts p = [] ++ [p] := parts_of_forall_not hp
    rw [parts_append hfront hcons, List.append_nil, List.nil_append, ih]

/-- A path can be cut. -/
theorem exists_cutAt (cs : List Char) : ∃ ps, CutAt cs ps := by
  induction cs with
  | nil => exact ⟨[[]], .last fun _ hc => absurd hc List.not_mem_nil⟩
  | cons c cs ih =>
    obtain ⟨ps, hps⟩ := ih
    by_cases hc : IsSeparator c
    · have hnil : ∀ d ∈ ([] : List Char), ¬ IsSeparator d := fun _ hd => absurd hd List.not_mem_nil
      exact ⟨[] :: ps, .next hnil hc hps⟩
    · cases hps with
      | last hp => exact ⟨[c :: cs], .last (List.forall_mem_cons.mpr ⟨hc, hp⟩)⟩
      | next hp hd hrest => exact ⟨_, .next (List.forall_mem_cons.mpr ⟨hc, hp⟩) hd hrest⟩

/-- **A path is cut in one way only.** -/
theorem cutAt_iff : CutAt cs ps ↔ ps = parts cs := by
  constructor
  · exact fun h => h.parts_eq.symm
  · rintro rfl
    obtain ⟨ps, hps⟩ := exists_cutAt cs
    rwa [hps.parts_eq]

/-- The segments that count are neither empty nor a single point. -/
theorem counting_eq_filter :
    counting ps = (ps.map segmentOf).filter fun s => s ≠ "" ∧ s ≠ "." := by
  have hidle (cs : List Char) :
      isIdle cs = true ↔ String.ofList cs = "" ∨ String.ofList cs = "." := by
    have hsame : String.ofList cs = "." ↔ cs = ['.'] := @String.ofList_inj _ ['.']
    rw [isIdle, Bool.or_eq_true, List.isEmpty_iff, decide_eq_true_iff, String.ofList_eq_empty_iff,
      hsame]
  have hmap : ps.map segmentOf = (ps.map Text.trim).map String.ofList := by
    rw [List.map_map]
    rfl
  rw [counting, hmap, List.filter_map (p := fun s => decide (s ≠ "" ∧ s ≠ "."))]
  refine congrArg (List.map String.ofList) (List.filter_congr fun cs _ => Bool.eq_iff_iff.mpr ?_)
  rw [Function.comp_apply, decide_eq_true_iff, ← not_or, ← hidle, Bool.not_eq_true,
    Bool.not_eq_true']

/-- Two points count, and nothing counts if all segments are idle. -/
theorem counting_bad_iff : ".." ∈ counting ps ∨ counting ps = [] ↔
    ".." ∈ ps.map segmentOf ∨ ∀ s ∈ ps.map segmentOf, s = "" ∨ s = "." := by
  rw [counting_eq_filter, List.mem_filter, List.filter_eq_nil_iff]
  refine or_congr (and_iff_left (by decide)) (forall₂_congr fun s _ => ?_)
  rw [decide_eq_true_iff, not_and_or, not_not, not_not]

end Pieces

/-! ### Following a path -/

section Following

variable {folder names : List String} {name root s t : String}

/-- Where one name leads to from a folder. -/
def stepTo (folder : List String) (name : String) : List String :=
  if name = ".." then folder.dropLast
  else if name = "" ∨ name = "." then folder
  else folder ++ [name]

/-- **Where names lead to** from a folder, one after another. -/
def ledTo (folder names : List String) : List String :=
  names.foldl stepTo folder

/-- **Names stay in a folder** if no beginning of the way leads out of it. -/
def StaysIn (folder names : List String) : Prop :=
  ∀ way, way <+: names → folder <+: ledTo folder way

/-- Names of entries lead down. -/
theorem ledTo_of_isName (h : ∀ s ∈ names, IsName s) : ledTo folder names = folder ++ names := by
  induction names generalizing folder with
  | nil => exact (List.append_nil folder).symm
  | cons s rest ih =>
    obtain ⟨hs, hrest⟩ := List.forall_mem_cons.mp h
    have hidle : ¬ (s = "" ∨ s = ".") := fun hor => hor.elim hs.ne_empty hs.ne_same
    have hdown : stepTo folder s = folder ++ [s] := by
      rw [stepTo, if_neg hs.ne_up, if_neg hidle]
    rw [ledTo, List.foldl_cons, hdown, ← ledTo, ih hrest, List.append_assoc]
    rfl

/-- **Names of entries stay in a folder.** -/
theorem staysIn_of_isName (h : ∀ s ∈ names, IsName s) : StaysIn folder names := by
  intro way hway
  rw [ledTo_of_isName fun s hs => h s (hway.mem hs)]
  exact List.prefix_append folder way

/-- A path of a machine with a name put behind it. A name that starts at the top of the machine
takes the place of the path. -/
def putBehind (path name : String) : String :=
  if name.toList.head? = some '/' then name
  else if path = "" ∨ path.toList.getLast? = some '/' then path ++ name
  else path ++ "/" ++ name

/-- The names in a path of a machine. -/
def machineNames (path : String) : List String :=
  (segmentsOf path).filter (· ≠ "")

theorem machineNames_empty : machineNames "" = [] := rfl

/-- A slash parts the names. -/
theorem machineNames_slash : machineNames (s ++ "/" ++ t) = machineNames s ++ machineNames t := by
  rw [machineNames, segmentsOf_slash, List.filter_append]
  rfl

theorem machineNames_ofSegments (hne : names ≠ []) (h : ∀ s ∈ names, IsName s) :
    machineNames (ofSegments names) = names := by
  rw [machineNames, segmentsOf_ofSegments hne fun s hs => (h s hs).slash]
  exact List.filter_eq_self.mpr fun s hs => decide_eq_true (h s hs).ne_empty

/-- **A name of an entry** adds itself to a path, which stays as it is in front. -/
theorem machineNames_putBehind (hname : IsName name) :
    machineNames (putBehind root name) = machineNames root ++ [name] ∧
      root.toList <+: (putBehind root name).toList := by
  have hself : machineNames name = [name] := by
    have hone := @machineNames_ofSegments [name] (List.cons_ne_nil name [])
      (List.forall_mem_singleton.mpr hname)
    rwa [ofSegments, Text.joined, String.intercalate_singleton] at hone
  have htop : name.toList.head? ≠ some '/' := fun hhead =>
    hname.slash (List.mem_of_head? hhead)
  rw [putBehind, if_neg htop]
  split
  case isTrue hend =>
    refine ⟨?_, by rw [String.toList_append]; exact List.prefix_append _ _⟩
    rcases hend with rfl | hlast
    · rw [String.empty_append, hself, machineNames_empty, List.nil_append]
    · -- the slash at the end of the path is the one in front of the name
      obtain ⟨front, hfront⟩ := List.getLast?_eq_some_iff.mp hlast
      have hroot : root = String.ofList front ++ "/" := by
        rw [← String.toList_inj, String.toList_append, String.toList_ofList, hfront]
        rfl
      have hempty := @machineNames_slash (String.ofList front) ""
      rw [String.append_empty, machineNames_empty, List.append_nil] at hempty
      rw [hroot, machineNames_slash, hself, hempty]
  case isFalse =>
    refine ⟨by rw [machineNames_slash, hself], ?_⟩
    rw [String.append_assoc, String.toList_append]
    exact List.prefix_append _ _

/-- **Names of entries** put behind a path, one after another, add themselves to it. -/
theorem machineNames_foldl_putBehind (h : ∀ s ∈ names, IsName s) :
    machineNames (names.foldl putBehind root) = machineNames root ++ names ∧
      root.toList <+: (names.foldl putBehind root).toList := by
  induction names generalizing root with
  | nil => exact ⟨(List.append_nil _).symm, List.prefix_refl _⟩
  | cons s rest ih =>
    obtain ⟨hs, hrest⟩ := List.forall_mem_cons.mp h
    obtain ⟨hnames, hfront⟩ := @machineNames_putBehind s root hs
    obtain ⟨hnames', hfront'⟩ := @ih (putBehind root s) hrest
    refine ⟨?_, hfront.trans hfront'⟩
    rw [List.foldl_cons, hnames', hnames, List.append_assoc]
    rfl

end Following

/-! ### The way of a path -/

open CommandLine (Host)

section Way

variable {path : String} {segs : List String}

/-- **A path that is refused** has no plain form, and leads nowhere. -/
theorem resolve_of_refused {e : VaultError} (h : segments? path = .error e) :
    normalize? path = .error e ∧ (∀ v : DiskVault, v.resolve path = .error e) ∧
      ∀ host : Host, host.resolve path = .error e := by
  have hplain : normalize? path = .error e := by rw [normalize?, h]; rfl
  refine ⟨hplain, fun v => ?_, fun host => ?_⟩
  · rw [DiskVault.resolve, h]
    rfl
  · rw [Host.resolve, hplain]
    rfl

/-- **A path that is taken** has its plain form, and leads to its segments below the folder of a
vault. -/
theorem resolve_of_taken (h : segments? path = .ok segs) :
    normalize? path = .ok (ofSegments segs) ∧
      (∀ v : DiskVault, v.resolve path = .ok (ofSegments segs, v.root ++ segs)) ∧
      ∀ host : Host,
        host.resolve path = .ok (ofSegments segs, host.root ++ "/" ++ ofSegments segs) ∧
        machineNames (host.root ++ "/" ++ ofSegments segs) = machineNames host.root ++ segs := by
  have hplain : normalize? path = .ok (ofSegments segs) := by rw [normalize?, h]; rfl
  obtain ⟨hne, hname⟩ := isName_of_segments? h
  refine ⟨hplain, fun v => ?_, fun host => ⟨?_, ?_⟩⟩
  · rw [DiskVault.resolve, h]
    rfl
  · rw [Host.resolve, hplain]
    rfl
  · rw [machineNames_slash, machineNames_ofSegments hne hname]

end Way

/-- **No path leads out of a vault.** A path is cut at its separators, and is refused if two points
are left of a piece or no piece counts; nothing is looked for then. Otherwise the pieces that count
are names, and make a plain form that is its own. Below its own folder, a vault looks for the path
under these names and no others, so it never leaves the folder on the way. -/
theorem normalize?_confined (path : String) :
    ∃ pieces, (∀ ps, CutAt path.toList ps ↔ ps = pieces) ∧
      let segments := pieces.map segmentOf
      let kept := segments.filter fun s => s ≠ "" ∧ s ≠ "."
      (normalize? path = .error (.invalidPath path) ↔
        ".." ∈ segments ∨ ∀ s ∈ segments, s = "" ∨ s = ".") ∧
      (∀ e, normalize? path = .error e → e = .invalidPath path ∧
        (∀ v : DiskVault, v.resolve path = .error e) ∧
        ∀ host : Host, host.resolve path = .error e) ∧
      ∀ plain, normalize? path = .ok plain →
        plain = "/".intercalate kept ∧ kept ≠ [] ∧ (∀ s ∈ kept, IsName s) ∧
        normalize? plain = .ok plain ∧
        (∀ folder, StaysIn folder kept ∧ ledTo folder kept = folder ++ kept) ∧
        (∀ v : DiskVault, v.resolve path = .ok (plain, v.root ++ kept)) ∧
        (∀ host : Host, host.resolve path = .ok (plain, host.root ++ "/" ++ plain) ∧
          machineNames (host.root ++ "/" ++ plain) = machineNames host.root ++ kept) ∧
        ∀ root, machineNames ((segmentsOf plain).foldl putBehind root) = machineNames root ++ kept ∧
          root.toList <+: ((segmentsOf plain).foldl putBehind root).toList := by
  refine ⟨parts path.toList, fun ps => cutAt_iff, ?_⟩
  intro segments kept
  have hkept : counting (parts path.toList) = kept := counting_eq_filter
  have hbad : ".." ∈ kept ∨ kept = [] ↔ ".." ∈ segments ∨ ∀ s ∈ segments, s = "" ∨ s = "." :=
    hkept ▸ counting_bad_iff
  have hsegments := segments?_eq path
  rw [hkept] at hsegments
  rw [← hbad]
  by_cases h : ".." ∈ kept ∨ kept = []
  · rw [if_pos h] at hsegments
    obtain ⟨hplain, hdisk, hhost⟩ := resolve_of_refused hsegments
    refine ⟨iff_of_true hplain h, fun e he => ?_, fun plain hok => ?_⟩
    · obtain rfl := Except.error.inj (hplain.symm.trans he)
      exact ⟨rfl, hdisk, hhost⟩
    · rw [hplain] at hok
      cases hok
  · rw [if_neg h] at hsegments
    obtain ⟨hplain, hdisk, hhost⟩ := resolve_of_taken hsegments
    obtain ⟨hne, hname⟩ := isName_of_segments? hsegments
    refine ⟨iff_of_false (by simp [hplain]) h, fun e he => ?_, fun plain hok => ?_⟩
    · rw [hplain] at he
      cases he
    · obtain rfl := Except.ok.inj (hplain.symm.trans hok)
      have hcut : segmentsOf (ofSegments kept) = kept :=
        segmentsOf_ofSegments hne fun s hs => (hname s hs).slash
      refine ⟨rfl, hne, hname, normalize?_of_normalize? hplain,
        fun folder => ⟨staysIn_of_isName hname, ledTo_of_isName hname⟩, hdisk, hhost,
        fun root => ?_⟩
      rw [hcut]
      exact machineNames_foldl_putBehind hname

end VaultPath

end FormChain
