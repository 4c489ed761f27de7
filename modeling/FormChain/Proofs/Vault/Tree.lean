import FormChain.Proofs.Form.Fields
import FormChain.Proofs.Vault.Paths
import FormChain.Vault.Disk
import Mathlib.Data.List.Induction

/-!
# Disks as trees

A disk keeps its entries under their paths, one beside another. It is a tree if every entry
lies in a folder that is an entry too (`FormChain.Disk.IsTree`). On a tree it does not matter
that a look at a path walks down to it from the top: what is found is the entry under this path
(`FormChain.Disk.look_eq_ok_iff`), and an obstacle is met only where a file stands on the way
(`FormChain.Disk.look_eq_notAFolder_iff`).

Whatever a vault does to its disk leaves it a tree (`FormChain.Disk.IsTree.put`,
`FormChain.Disk.makeFolders_of_clear`). The entries below a folder are listed in the order of
their paths (`FormChain.Disk.sorted_listed`).
-/

namespace FormChain

namespace Disk

open VaultPath

/-- **A name that a disk takes.** -/
structure Takes (d : Disk) (s : String) : Prop where
  /-- It has no slash. -/
  slash : '/' ∉ s.toList
  /-- It has no zero character. -/
  zero : Char.ofNat 0 ∉ s.toList
  /-- It is not too long. -/
  size : Utf8.size s.toList ≤ d.maxNameSize

/-- The entry under a path, whatever is on the way to it. -/
def entryAt (d : Disk) (p : List String) : Option DiskEntry :=
  d.entries.get? (ofSegments p)

/-- **Every entry lies in a folder**: a disk is a tree. -/
structure IsTree (d : Disk) : Prop where
  /-- The entries are in order. -/
  sorted : d.entries.Sorted
  /-- An entry that does not lie at the top lies in a folder. -/
  parent : ∀ {p : List String}, p ≠ [] → (∀ t ∈ p, '/' ∉ t.toList) → d.entryAt p ≠ none →
    p.dropLast = [] ∨ d.entryAt p.dropLast = some .folder

/-- A disk without entries. -/
theorem isTree_of_nil : ({} : Disk).IsTree where
  sorted := Keyed.sorted_nil
  parent _ _ hentry := absurd rfl hentry

variable {d : Disk} {p q : List String} {s : String} {e : DiskEntry}

/-! ### Looking -/

section Looking

theorem Takes.slash_of_forall (h : ∀ t ∈ p, d.Takes t) : ∀ t ∈ p, '/' ∉ t.toList :=
  fun t ht => (h t ht).slash

theorem lookIn_eq (h : d.Takes s) : d.lookIn p s = match d.entryAt (p ++ [s]) with
    | some e => .ok e
    | none => .error .missing := by
  rw [lookIn, if_neg (Nat.not_lt.mpr h.size)]
  rfl

/-- One step more. -/
theorem walk_concat {place : List String} {here : DiskEntry} :
    d.walk place here (p ++ [s]) = match d.walk place here p with
      | .ok .folder => d.lookIn (place ++ p) s
      | .ok (.file _) => .error .notAFolder
      | .error o => .error o := by
  induction p generalizing place here with
  | nil =>
    cases here with
    | file => rfl
    | folder =>
      simp only [List.nil_append, walk, List.append_nil]
      cases d.lookIn place s <;> rfl
  | cons name rest ih =>
    cases here with
    | file => rfl
    | folder =>
      simp only [List.cons_append, walk]
      cases d.lookIn place name with
      | error o => rfl
      | ok e => exact (@ih (place ++ [name]) e).trans (by rw [List.append_assoc]; rfl)

theorem look_eq_walk (h : ∀ t ∈ p, d.Takes t) : d.look p = d.walk [] .folder p := by
  have hzero : ¬ hasZero p = true := by
    simpa [hasZero] using fun t ht => (h t ht).zero
  rw [look, if_neg hzero]

/-- **A look at an entry of a folder.** -/
theorem look_concat (h : ∀ t ∈ p ++ [s], d.Takes t) :
    d.look (p ++ [s]) = match d.look p with
      | .ok .folder =>
        match d.entryAt (p ++ [s]) with
        | some e => .ok e
        | none => .error .missing
      | .ok (.file _) => .error .notAFolder
      | .error o => .error o := by
  obtain ⟨hp, hs⟩ := List.forall_mem_append.mp h
  rw [look_eq_walk h, walk_concat, look_eq_walk hp, List.nil_append,
    lookIn_eq (hs s List.mem_cons_self)]

/-- A look at a path finds something, or nothing, or there is a file on the way. -/
theorem look_cases (h : ∀ t ∈ p, d.Takes t) :
    (∃ e, d.look p = .ok e) ∨ d.look p = .error .missing ∨ d.look p = .error .notAFolder := by
  induction p using List.reverseRecOn with
  | nil => exact .inl ⟨.folder, rfl⟩
  | append_singleton p s ih =>
    rw [look_concat h]
    rcases ih (List.forall_mem_append.mp h).1 with ⟨_ | _, hp⟩ | hp | hp
    · rw [hp]
      exact .inr (.inr rfl)
    · rw [hp]
      cases d.entryAt (p ++ [s]) with
      | none => exact .inr (.inl rfl)
      | some e => exact .inl ⟨e, rfl⟩
    · rw [hp]
      exact .inr (.inl rfl)
    · rw [hp]
      exact .inr (.inr rfl)

end Looking

/-! ### Trees -/

section Trees

variable (ht : d.IsTree)

include ht

/-- **Whatever an entry lies in is a folder.** -/
theorem IsTree.folder_of_prefix (hslash : ∀ t ∈ p, '/' ∉ t.toList) (h : d.entryAt p ≠ none)
    (hq : q <+: p) (hne : q ≠ []) (hproper : q ≠ p) : d.entryAt q = some .folder := by
  -- upwards from the entry: what it lies in is an entry again
  induction p using List.reverseRecOn with
  | nil => exact absurd (List.prefix_nil.mp hq) hne
  | append_singleton p s ih =>
    have hqp : q <+: p := (List.prefix_concat_iff.mp hq).resolve_left hproper
    have hp : p ≠ [] := fun heq => hne (List.prefix_nil.mp (heq ▸ hqp))
    have hparent := ht.parent (by simp) hslash h
    rw [List.dropLast_concat] at hparent
    have hfolder := hparent.resolve_left hp
    by_cases heq : q = p
    · rwa [heq]
    · exact ih (List.forall_mem_append.mp hslash).1 (by simp [hfolder]) hqp heq

/-- A folder lies in folders only. -/
theorem IsTree.folder_up_to (hslash : ∀ t ∈ p, '/' ∉ t.toList) (h : d.entryAt p = some .folder)
    (hq : q <+: p) (hne : q ≠ []) : d.entryAt q = some .folder := by
  by_cases heq : q = p
  · rwa [heq]
  · exact ht.folder_of_prefix hslash (by simp [h]) hq hne heq

/-- **A look at a path finds the entry under it.** -/
theorem look_eq_ok_iff (h : ∀ t ∈ p, d.Takes t) (hne : p ≠ []) :
    d.look p = .ok e ↔ d.entryAt p = some e := by
  induction p using List.reverseRecOn generalizing e with
  | nil => exact absurd rfl hne
  | append_singleton p s ih =>
    rw [look_concat h]
    have hp := (List.forall_mem_append.mp h).1
    -- an entry has a folder to lie in, which a look finds for its part
    have hfolder : d.entryAt (p ++ [s]) ≠ none → d.look p = .ok .folder := by
      intro hentry
      have hparent := ht.parent (by simp) (Takes.slash_of_forall h) hentry
      rw [List.dropLast_concat] at hparent
      rcases hparent with rfl | hparent
      · rfl
      · by_cases hnil : p = []
        · rw [hnil]
          rfl
        · exact (ih hp hnil).mpr hparent
    constructor
    · intro hlook
      split at hlook
      · split at hlook
        · next hentry => rw [hentry, Except.ok.inj hlook]
        · cases hlook
      · cases hlook
      · cases hlook
    · intro hentry
      rw [hfolder (by simp [hentry]), hentry]

/-- A look at a path finds a folder at the top, or where there is one. -/
theorem look_eq_folder_iff (h : ∀ t ∈ p, d.Takes t) :
    d.look p = .ok .folder ↔ p = [] ∨ d.entryAt p = some .folder := by
  by_cases hne : p = []
  · exact iff_of_true (by rw [hne]; rfl) (.inl hne)
  · rw [look_eq_ok_iff ht h hne, or_iff_right hne]

/-- **A look at a path meets an obstacle** where a file stands on the way. -/
theorem look_eq_notAFolder_iff (h : ∀ t ∈ p, d.Takes t) :
    d.look p = .error .notAFolder ↔
      ∃ q text, q <+: p ∧ q ≠ p ∧ q ≠ [] ∧ d.entryAt q = some (.file text) := by
  induction p using List.reverseRecOn with
  | nil =>
    refine iff_of_false (fun hlook => nomatch hlook) ?_
    rintro ⟨q, text, hq, hproper, -, -⟩
    exact hproper (List.prefix_nil.mp hq)
  | append_singleton p s ih =>
    have hp := (List.forall_mem_append.mp h).1
    rw [look_concat h]
    constructor
    · intro hlook
      split at hlook
      · split at hlook <;> cases hlook
      · next text hfile =>
        have hne : p ≠ [] := by
          rintro rfl
          cases hfile
        exact ⟨p, text, List.prefix_append _ _, by simp, hne,
          (look_eq_ok_iff ht hp hne).mp hfile⟩
      · next o ho =>
        rw [Except.error.inj hlook] at ho
        obtain ⟨q, text, hq, hproper, hne, hfile⟩ := (ih hp).mp ho
        refine ⟨q, text, hq.trans (List.prefix_append _ _), ?_, hne, hfile⟩
        rintro rfl
        have hlength := hq.length_le
        rw [List.length_append, List.length_singleton] at hlength
        omega
    · rintro ⟨q, text, hq, hproper, hne, hfile⟩
      have hqp : q <+: p := (List.prefix_concat_iff.mp hq).resolve_left hproper
      by_cases heq : q = p
      · rw [(look_eq_ok_iff ht hp (heq ▸ hne)).mpr (heq ▸ hfile)]
      · rw [(ih hp).mpr ⟨q, text, hqp, heq, hne, hfile⟩]

end Trees

/-! ### Putting entries -/

section Putting

theorem entryAt_put (hp : p ≠ []) (hq : q ≠ []) (hps : ∀ t ∈ p, '/' ∉ t.toList)
    (hqs : ∀ t ∈ q, '/' ∉ t.toList) :
    (d.put q e).entryAt p = if p = q then some e else d.entryAt p := by
  rw [entryAt, put, Keyed.get?_insert]
  have hiff : ofSegments p = ofSegments q ↔ p = q :=
    ⟨ofSegments_inj hp hq hps hqs, congrArg ofSegments⟩
  simp only [hiff]
  rfl

/-- Disks with one bound on names take the same names. -/
theorem takes_of_limit {d' : Disk} (h : d'.maxNameSize = d.maxNameSize) :
    d'.Takes s ↔ d.Takes s :=
  ⟨fun ⟨hslash, hzero, hsize⟩ => ⟨hslash, hzero, h ▸ hsize⟩,
    fun ⟨hslash, hzero, hsize⟩ => ⟨hslash, hzero, h ▸ hsize⟩⟩

theorem takes_put : (d.put q e).Takes s ↔ d.Takes s :=
  takes_of_limit rfl

/-- **A new entry of a folder leaves the disk a tree**, and so does a file in place of another
one. -/
theorem IsTree.put (ht : d.IsTree) (hp : p ≠ []) (hslash : ∀ t ∈ p, '/' ∉ t.toList)
    (hparent : p.dropLast = [] ∨ d.entryAt p.dropLast = some .folder)
    (hold : d.entryAt p ≠ some .folder) : (d.put p e).IsTree := by
  refine ⟨Keyed.sorted_insert ht.sorted _ _, fun {q} hq hslash' hentry => ?_⟩
  by_cases hnil : q.dropLast = []
  · exact .inl hnil
  have hfolder : d.entryAt q.dropLast = some .folder := by
    rw [entryAt_put hq hp hslash' hslash] at hentry
    split at hentry
    case isTrue heq => exact heq ▸ hparent.resolve_left (heq ▸ hnil)
    case isFalse => exact (ht.parent hq hslash' hentry).resolve_left hnil
  have hne : q.dropLast ≠ p := fun heq => hold (heq ▸ hfolder)
  have hkept : (d.put p e).entryAt q.dropLast = d.entryAt q.dropLast :=
    (entryAt_put hnil hp (fun t ht => hslash' t ((List.dropLast_prefix q).mem ht)) hslash).trans
      (if_neg hne)
  exact .inr (hkept.trans hfolder)

end Putting

/-! ### Making folders -/

section Folders

/-- **What making folders leaves**: all that lie on the way to a path are there. -/
structure Leads (d : Disk) (p : List String) (d' : Disk) : Prop where
  /-- The disk is a tree still. -/
  tree : d'.IsTree
  /-- It has the same bound on names. -/
  limit : d'.maxNameSize = d.maxNameSize
  /-- The beginnings of the path are folders; all else is as before. -/
  entryAt : ∀ {q : List String}, q ≠ [] → (∀ t ∈ q, '/' ∉ t.toList) →
    d'.entryAt q = if q <+: p then some .folder else d.entryAt q

/-- Where no file stands on the way, folders are made. -/
theorem makeFoldersFrom_of_clear {place names : List String} (ht : d.IsTree)
    (hnames : ∀ t ∈ place ++ names, d.Takes t)
    (hplace : place = [] ∨ d.entryAt place = some .folder)
    (hclear : ∀ q, q <+: place ++ names → q ≠ [] → ∀ text, d.entryAt q ≠ some (.file text)) :
    ∃ d', d.makeFoldersFrom place names = (.ok (), d') ∧ d.Leads (place ++ names) d' := by
  -- on the names left; the place comes nearer to the end, as a folder throughout
  induction names generalizing d place with
  | nil =>
    refine ⟨d, rfl, ht, rfl, fun {q} hq hslash => ?_⟩
    split
    case isTrue hprefix =>
      rw [List.append_nil] at hprefix hnames
      have hfolder : d.entryAt place = some .folder :=
        hplace.resolve_left fun heq => hq (List.prefix_nil.mp (heq ▸ hprefix))
      exact ht.folder_up_to (Takes.slash_of_forall hnames) hfolder hprefix hq
    case isFalse => rfl
  | cons name rest ih =>
    have hsplit : place ++ name :: rest = place ++ [name] ++ rest := by simp
    have hbegin : place ++ [name] <+: place ++ name :: rest := hsplit ▸ List.prefix_append _ _
    have htakes : ∀ t ∈ place ++ [name], d.Takes t := fun t ht => hnames t (hbegin.mem ht)
    rw [hsplit] at hnames hclear ⊢
    rw [makeFoldersFrom, lookIn_eq (htakes name (by simp))]
    cases hentry : d.entryAt (place ++ [name]) with
    | some e =>
      cases e with
      | file text => exact absurd hentry (hclear _ (List.prefix_append _ _) (by simp) text)
      | folder => exact ih ht hnames (.inr hentry) hclear
    | none =>
      have hput {q : List String} (hq : q ≠ []) (hslash : ∀ t ∈ q, '/' ∉ t.toList) :
          (d.put (place ++ [name]) .folder).entryAt q =
            if q = place ++ [name] then some .folder else d.entryAt q :=
        entryAt_put hq (by simp) hslash (Takes.slash_of_forall htakes)
      have hslash := Takes.slash_of_forall hnames
      obtain ⟨d', hmade, hleads⟩ := ih (d := d.put (place ++ [name]) .folder)
        (ht.put (by simp) (Takes.slash_of_forall htakes) (by rwa [List.dropLast_concat])
          (by simp [hentry]))
        (fun t ht => takes_put.mpr (hnames t ht))
        (.inr ((hput (by simp) (Takes.slash_of_forall htakes)).trans (if_pos rfl)))
        (fun q hq hne text => by
          rw [hput hne fun t ht => hslash t (hq.mem ht)]
          split
          · simp
          · exact hclear q hq hne text)
      refine ⟨d', hmade, hleads.tree, hleads.limit, fun {q} hq hqs => ?_⟩
      rw [hleads.entryAt hq hqs, hput hq hqs]
      by_cases hprefix : q <+: place ++ [name] ++ rest
      · rw [if_pos hprefix, if_pos hprefix]
      · rw [if_neg hprefix, if_neg hprefix, if_neg]
        rintro rfl
        exact hprefix (List.prefix_append _ _)

/-- Where a file stands on the way, no folders are made. -/
theorem makeFoldersFrom_of_blocked {place names : List String} (ht : d.IsTree)
    (hnames : ∀ t ∈ place ++ names, d.Takes t)
    (hplace : place = [] ∨ d.entryAt place = some .folder) {text : String}
    (hq : q <+: place ++ names) (hne : q ≠ []) (hfile : d.entryAt q = some (.file text)) :
    ∃ o, d.makeFoldersFrom place names = (.error o, d) := by
  induction names generalizing place with
  | nil =>
    rw [List.append_nil] at hq hnames
    have hfolder : d.entryAt place = some .folder :=
      hplace.resolve_left fun heq => hne (List.prefix_nil.mp (heq ▸ hq))
    rw [ht.folder_up_to (Takes.slash_of_forall hnames) hfolder hq hne] at hfile
    cases hfile
  | cons name rest ih =>
    have hsplit : place ++ name :: rest = place ++ [name] ++ rest := by simp
    rw [hsplit] at hnames hq
    have htakes : ∀ t ∈ place ++ [name], d.Takes t :=
      fun t ht => hnames t (List.mem_append_left _ ht)
    rw [makeFoldersFrom, lookIn_eq (htakes name (by simp))]
    cases hentry : d.entryAt (place ++ [name]) with
    | some e =>
      cases e with
      | file text' => exact ⟨_, rfl⟩
      | folder => exact ih hnames (.inr hentry) hq
    | none =>
      -- the file would lie in what is not there
      exfalso
      have hslash := Takes.slash_of_forall hnames
      rcases List.prefix_or_prefix_of_prefix hq (List.prefix_append (place ++ [name]) rest) with
        hbefore | hbehind
      · by_cases heq : q = place ++ [name]
        · rw [← heq, hfile] at hentry
          cases hentry
        · have hqp : q <+: place := (List.prefix_concat_iff.mp hbefore).resolve_left heq
          have hfolder : d.entryAt place = some .folder :=
            hplace.resolve_left fun heq => hne (List.prefix_nil.mp (heq ▸ hqp))
          rw [ht.folder_up_to (fun t ht => hslash t (by simp [ht])) hfolder hqp hne] at hfile
          cases hfile
      · by_cases heq : place ++ [name] = q
        · rw [heq, hfile] at hentry
          cases hentry
        · rw [ht.folder_of_prefix (fun t ht => hslash t (hq.mem ht)) (by simp [hfile]) hbehind
            (by simp) heq] at hentry
          cases hentry

theorem makeFolders_eq (h : ∀ t ∈ p, d.Takes t) :
    d.makeFolders p = d.makeFoldersFrom [] p := by
  have hzero : ¬ hasZero p = true := by
    simpa [hasZero] using fun t ht => (h t ht).zero
  rw [makeFolders, if_neg hzero]

/-- **Where no file stands on the way, all folders of a path are made.** -/
theorem makeFolders_of_clear (ht : d.IsTree) (h : ∀ t ∈ p, d.Takes t)
    (hclear : ∀ q, q <+: p → q ≠ [] → ∀ text, d.entryAt q ≠ some (.file text)) :
    ∃ d', d.makeFolders p = (.ok (), d') ∧ d.Leads p d' := by
  rw [makeFolders_eq h]
  exact makeFoldersFrom_of_clear ht h (.inl rfl) hclear

/-- **Where a file stands on the way, none is made.** -/
theorem makeFolders_of_blocked (ht : d.IsTree) (h : ∀ t ∈ p, d.Takes t) {text : String}
    (hq : q <+: p) (hne : q ≠ []) (hfile : d.entryAt q = some (.file text)) :
    ∃ o, d.makeFolders p = (.error o, d) := by
  rw [makeFolders_eq h]
  exact makeFoldersFrom_of_blocked ht h (.inl rfl) hq hne hfile

end Folders

/-! ### Listing -/

section Listing

variable {folder segs : List String} {path name : String} {wanted : DiskEntry → Bool}

theorem seenFrom?_eq_some_iff : seenFrom? folder path = some segs ↔
    segs ≠ [] ∧ segmentsOf path = folder ++ segs := by
  rw [seenFrom?]
  simp only [Bool.and_eq_true, decide_eq_true_eq, List.isPrefixOf_iff_prefix]
  constructor
  · intro h
    split at h
    case isTrue hin =>
      obtain ⟨⟨rest, hrest⟩, hlt⟩ := hin
      obtain rfl := Option.some.inj h
      rw [← hrest, List.length_append] at hlt
      rw [← hrest, List.drop_left]
      exact ⟨List.ne_nil_of_length_pos (by omega), rfl⟩
    case isFalse => cases h
  · rintro ⟨hne, heq⟩
    have hlength := List.length_pos_iff.mpr hne
    rw [heq, if_pos ⟨List.prefix_append _ _, by rw [List.length_append]; omega⟩, List.drop_left]

/-- How an entry is listed. -/
theorem listed_entry_iff : (if wanted e = true then
      ((seenFrom? folder path).filter isListed).map ofSegments else none) = some name ↔
    wanted e = true ∧ ∃ segs, segs ≠ [] ∧ segmentsOf path = folder ++ segs ∧
      isListed segs = true ∧ name = ofSegments segs := by
  split
  case isTrue hwanted =>
    simp only [hwanted, true_and, Option.map_eq_some_iff, Option.filter_eq_some_iff,
      seenFrom?_eq_some_iff]
    constructor
    · rintro ⟨segs, ⟨⟨hne, hsegs⟩, hlisted⟩, rfl⟩
      exact ⟨segs, hne, hsegs, hlisted, rfl⟩
    · rintro ⟨segs, hne, hsegs, hlisted, rfl⟩
      exact ⟨segs, ⟨⟨hne, hsegs⟩, hlisted⟩, rfl⟩
  case isFalse hwanted => exact iff_of_false (by simp) fun h => hwanted h.1

/-- **The listed entries**, named by their paths as seen from the folder. -/
theorem mem_listed : name ∈ d.listed folder wanted ↔ ∃ path e, (path, e) ∈ d.entries ∧
    wanted e = true ∧ ∃ segs, segs ≠ [] ∧ segmentsOf path = folder ++ segs ∧
      isListed segs = true ∧ name = ofSegments segs := by
  rw [listed, List.mem_filterMap]
  constructor
  · rintro ⟨⟨path, e⟩, hmem, hname⟩
    exact ⟨path, e, hmem, listed_entry_iff.mp hname⟩
  · rintro ⟨path, e, hmem, hname⟩
    exact ⟨⟨path, e⟩, hmem, listed_entry_iff.mpr hname⟩

/-- **They are listed in order.** -/
theorem sorted_listed (h : d.entries.Sorted) : (d.listed folder wanted).Pairwise (· < ·) := by
  rw [listed, List.pairwise_filterMap]
  refine (List.pairwise_map.mp h).imp ?_
  rintro ⟨path, e⟩ ⟨path', e'⟩ hlt name hname name' hname'
  obtain ⟨-, segs, hne, hpath, -, rfl⟩ := listed_entry_iff.mp hname
  obtain ⟨-, segs', hne', hpath', -, rfl⟩ := listed_entry_iff.mp hname'
  have horder : ofSegments (folder ++ segs) < ofSegments (folder ++ segs') := by
    rw [← hpath, ← hpath', ofSegments_segmentsOf, ofSegments_segmentsOf]
    exact hlt
  exact lt_of_ofSegments_append_lt hne hne' horder

end Listing

end Disk

end FormChain
