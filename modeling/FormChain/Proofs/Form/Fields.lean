import FormChain.Form.Reader
import FormChain.Form.Writer

/-!
# Fields under names

What is written of a record are fields in the order of their declaration, some of them
left out; what is read are fields in the order of their names. Here the two are brought
together: `FormChain.Fields` are fields in order of their names, each name at most once,
and all that matters of them is what is found under each name (`FormChain.Fields.get?`).

Main statements: what is found among fields that were put together
(`FormChain.Keyed.get?_ofList_append`), that a value is read back from its document
(`FormChain.Json.Document.toValue_ofValue`), and that whatever value is read from a document
has its fields in order (`FormChain.Json.Document.wellFormed_of_toValue`).
-/

namespace FormChain

/-! ### Steps that may fail -/

section Steps

variable {ε ε' α β : Type} {x : Except ε α}

/-- What is read in two steps is read in the second from what is read in the first. -/
theorem exists_of_bind_eq_ok {f : α → Except ε β} {b : β} (h : x >>= f = .ok b) :
    ∃ a, x = .ok a ∧ f a = .ok b := by
  cases x with
  | error e => cases h
  | ok a => exact ⟨a, rfl, h⟩

theorem exists_of_map_eq_ok {f : α → β} {b : β} (h : x.map f = .ok b) :
    ∃ a, x = .ok a ∧ f a = b := by
  cases x with
  | error e => cases h
  | ok a => exact ⟨a, rfl, Except.ok.inj h⟩

/-- What is read in spite of a changed complaint is read. -/
theorem eq_ok_of_mapError {g : ε → ε'} {a : α} (h : x.mapError g = .ok a) : x = .ok a := by
  cases x with
  | error e => cases h
  | ok a' => exact congrArg Except.ok (Except.ok.inj h)

theorem ok_bind (a : α) (f : α → Except ε β) : (Except.ok a >>= f) = f a := rfl

end Steps

/-! ### Entries put one after another -/

namespace Keyed

variable {α : Type} {xs ys : Keyed α} {name other : String} {a : α}

theorem get?_insert : (xs.insert name a).get? other =
    if other = name then some a else xs.get? other := by
  split
  case isTrue h => rw [h, get?_insert_self]
  case isFalse h => exact get?_insert_of_ne xs a h

theorem insertAll_cons {e : String × α} : insertAll xs (e :: ys) =
    insertAll (xs.insert e.1 e.2) ys := rfl

theorem sorted_insertAll (h : xs.Sorted) : (insertAll xs ys).Sorted := by
  induction ys generalizing xs with
  | nil => exact h
  | cons e rest ih => exact ih (sorted_insert h e.1 e.2)

theorem sorted_ofList (ys : List (String × α)) : (ofList ys).Sorted :=
  sorted_insertAll sorted_nil

/-- Of entries put behind others, those put last are found. -/
theorem get?_insertAll : (insertAll xs ys).get? name =
    ((ofList ys).get? name).or (xs.get? name) := by
  induction ys generalizing xs with
  | nil => rfl
  | cons e rest ih =>
    have hfirst : (ofList (e :: rest)).get? name =
        ((ofList rest).get? name).or (if name = e.1 then some e.2 else none) := by
      rw [ofList, insertAll_cons, ih, get?_insert, get?_nil]
    rw [insertAll_cons, ih, hfirst, Option.or_assoc, get?_insert]
    congr 1
    split <;> rfl

/-- **What is found among entries put together**: what is found among the later ones, else
what is found among the earlier ones. -/
theorem get?_ofList_append {xs ys : List (String × α)} : (ofList (xs ++ ys)).get? name =
    ((ofList ys).get? name).or ((ofList xs).get? name) := by
  rw [ofList, insertAll, List.foldl_append]
  exact get?_insertAll

theorem get?_ofList_nil : (ofList ([] : List (String × α))).get? name = none := rfl

theorem get?_ofList_cons {e : String × α} {xs : List (String × α)} :
    (ofList (e :: xs)).get? name =
      ((ofList xs).get? name).or (if name = e.1 then some e.2 else none) :=
  (@get?_ofList_append α name [e] xs).trans (congrArg _ (get?_cons e [] name))

/-- An entry behind all others is put at the end. -/
theorem insert_of_forall_lt (h : ∀ n ∈ xs.names, n < name) :
    xs.insert name a = xs ++ [(name, a)] := by
  induction xs with
  | nil => rfl
  | cons e rest ih =>
    obtain ⟨k, b⟩ := e
    have hk : k < name := h k List.mem_cons_self
    have hne : name ≠ k := fun heq => String.lt_irrefl k (heq ▸ hk)
    rw [insert, if_neg hne, if_neg (String.lt_asymm hk),
      ih fun n hn => h n (List.mem_cons_of_mem _ hn)]
    rfl

/-- Entries in order stay as they are. -/
theorem insertAll_of_sorted (h : Sorted (xs ++ ys)) : insertAll xs ys = xs ++ ys := by
  induction ys generalizing xs with
  | nil => exact (List.append_nil xs).symm
  | cons e rest ih =>
    have hlt : ∀ n ∈ xs.names, n < e.1 := by
      intro n hn
      rw [Sorted, List.map_append, List.pairwise_append] at h
      exact h.2.2 n hn e.1 List.mem_cons_self
    rw [insertAll_cons, insert_of_forall_lt hlt, ih (by rwa [← List.append_cons]),
      ← List.append_cons]

/-- A list of entries in order is what is put together from it. -/
theorem ofList_of_sorted (h : xs.Sorted) : ofList xs = xs :=
  @insertAll_of_sorted α [] xs h

theorem sorted_filter {p : String × α → Bool} (h : xs.Sorted) : Sorted (xs.filter p) :=
  List.Pairwise.sublist (List.filter_sublist.map _) h

/-- What is found among the entries whose names are kept. -/
theorem get?_filter {p : String → Bool} : get? (xs.filter (p ·.1)) name =
    if p name then xs.get? name else none := by
  induction xs with
  | nil => simp
  | cons e rest ih =>
    rw [List.filter_cons]
    by_cases he : p e.1 = true
    · rw [if_pos he, get?_cons, get?_cons, ih]
      by_cases hname : name = e.1
      · rw [if_pos hname, if_pos hname, hname, if_pos he]
      · rw [if_neg hname, if_neg hname]
    · rw [if_neg he, get?_cons, ih]
      by_cases hname : name = e.1
      · rw [if_pos hname, hname, if_neg he, if_neg he]
      · rw [if_neg hname]

theorem mem_of_get?_eq_some (h : xs.get? name = some a) : (name, a) ∈ xs := by
  induction xs with
  | nil => cases h
  | cons e rest ih =>
    rw [get?_cons] at h
    split at h
    case isTrue heq =>
      obtain rfl := Option.some.inj h
      exact heq ▸ List.mem_cons_self
    case isFalse => exact List.mem_cons_of_mem _ (ih h)

theorem not_mem_of_get?_eq_none (h : xs.get? name = none) : name ∉ xs.names := by
  induction xs with
  | nil => exact List.not_mem_nil
  | cons e rest ih =>
    rw [get?_cons] at h
    split at h
    case isTrue => cases h
    case isFalse hne =>
      intro hmem
      rcases List.mem_cons.mp hmem with heq | hrest
      · exact hne heq
      · exact ih h hrest

/-- There is an entry under each of the names. -/
theorem mem_names_iff : name ∈ xs.names ↔ xs.has name = true := by
  rw [has, Option.isSome_iff_exists]
  constructor
  · intro hmem
    cases hget : xs.get? name with
    | none => exact absurd hmem (not_mem_of_get?_eq_none hget)
    | some a => exact ⟨a, rfl⟩
  · rintro ⟨a, hget⟩
    exact List.mem_map.mpr ⟨(name, a), mem_of_get?_eq_some hget, rfl⟩

/-- Of entries put together, every name stays. -/
theorem mem_names_ofList {ys : List (String × α)} :
    name ∈ (ofList ys).names ↔ name ∈ ys.map Prod.fst := by
  rw [mem_names_iff, has]
  induction ys with
  | nil => simp [get?_ofList_nil]
  | cons e rest ih =>
    rw [get?_ofList_cons, Option.isSome_or, Bool.or_eq_true, ih, List.map_cons, List.mem_cons,
      or_comm]
    refine or_congr_left ?_
    split <;> simp [*]

/-- Of entries put together, nothing is found under other names. -/
theorem get?_ofList_of_not_mem {ys : List (String × α)} (h : name ∉ ys.map Prod.fst) :
    (ofList ys).get? name = none := by
  rw [← mem_names_ofList, mem_names_iff, has] at h
  simpa using h

/-- Of entries with different names put together, each is found under its name. -/
theorem get?_ofList_of_mem {ys : List (String × α)} (hnames : (ys.map Prod.fst).Nodup)
    (h : (name, a) ∈ ys) : (ofList ys).get? name = some a := by
  induction ys with
  | nil => cases h
  | cons e rest ih =>
    rw [List.map_cons, List.nodup_cons] at hnames
    rw [get?_ofList_cons]
    rcases List.mem_cons.mp h with rfl | h
    · rw [get?_ofList_of_not_mem hnames.1, if_pos rfl]
      rfl
    · rw [ih hnames.2 h]
      rfl

/-- **In order, every entry is found under its name.** -/
theorem get?_of_mem (h : xs.Sorted) (hmem : (name, a) ∈ xs) : xs.get? name = some a := by
  induction xs with
  | nil => cases hmem
  | cons e rest ih =>
    obtain ⟨hfirst, hrest⟩ := List.pairwise_cons.mp h
    rw [get?_cons]
    rcases List.mem_cons.mp hmem with rfl | hmem
    · exact if_pos rfl
    · have hne : name ≠ e.1 := by
        rintro rfl
        exact String.lt_irrefl _ (hfirst e.1 (List.mem_map.mpr ⟨(e.1, a), hmem, rfl⟩))
      rw [if_neg hne]
      exact ih hrest hmem

/-- The names are the old ones and the one that was put. -/
theorem mem_names_insert_iff :
    other ∈ (xs.insert name a).names ↔ other = name ∨ other ∈ xs.names := by
  rw [mem_names_iff, mem_names_iff, has, get?_insert]
  split
  case isTrue heq => simp [heq]
  case isFalse hne => simp [hne, has]

/-! ### Entries in any order -/

/-- **In order, every name comes once.** -/
theorem names_nodup (h : xs.Sorted) : xs.names.Nodup :=
  h.imp fun hlt => String.ne_of_lt hlt

theorem nodup_of_names (h : xs.names.Nodup) : xs.Nodup :=
  List.Pairwise.of_map Prod.fst (fun _ _ hne heq => hne (congrArg Prod.fst heq)) h

theorem mem_iff_get?_eq_some (h : xs.Sorted) : (name, a) ∈ xs ↔ xs.get? name = some a :=
  ⟨get?_of_mem h, mem_of_get?_eq_some⟩

/-- Two lists in order have the same entries if the same is found in both. -/
theorem perm_cons_of_get? {e : String × α} (hxs : xs.Sorted) (hys : ys.Sorted)
    (hfree : ys.get? e.1 = none)
    (h : ∀ n, xs.get? n = if n = e.1 then some e.2 else ys.get? n) : xs.Perm (e :: ys) := by
  have hcons : (e :: ys).Nodup := nodup_of_names
    (List.nodup_cons.mpr ⟨not_mem_of_get?_eq_none hfree, names_nodup hys⟩)
  refine (List.perm_ext_iff_of_nodup (nodup_of_names (names_nodup hxs)) hcons).mpr
    fun ⟨n, b⟩ => ?_
  rw [mem_iff_get?_eq_some hxs, h, List.mem_cons, mem_iff_get?_eq_some hys]
  split
  case isTrue heq =>
    subst heq
    rw [hfree]
    simp [Prod.ext_iff, eq_comm]
  case isFalse hne => simp [Prod.ext_iff, hne]

/-- **What was put** is there, beside what was there under other names. -/
theorem perm_insert (h : xs.Sorted) (name : String) (a : α) :
    (xs.insert name a).Perm ((name, a) :: xs.erase name) := by
  refine perm_cons_of_get? (sorted_insert h name a) (sorted_erase h name) (get?_erase_self xs name)
    fun n => ?_
  rw [get?_insert]
  split
  case isTrue => rfl
  case isFalse hne => exact (get?_erase_of_ne xs hne).symm

/-- **What is found** is there, beside what is there under other names. -/
theorem perm_of_get? (h : xs.Sorted) (hget : xs.get? name = some a) :
    xs.Perm ((name, a) :: xs.erase name) := by
  refine perm_cons_of_get? h (sorted_erase h name) (get?_erase_self xs name) fun n => ?_
  split
  case isTrue heq => rw [heq, hget]
  case isFalse hne => rw [get?_erase_of_ne xs hne]

theorem erase_of_get?_eq_none (h : xs.get? name = none) : xs.erase name = xs := by
  refine List.filter_eq_self.mpr fun e he => decide_eq_true ?_
  rintro rfl
  exact not_mem_of_get?_eq_none h (List.mem_map_of_mem he)

end Keyed

/-! ### Values as documents -/

namespace Json.Document

mutual

/-- Nobody who skips the document of a value meets a fault. -/
theorem skipFault?_ofValue : (v : Value) → (ofValue v).skipFault? = none
  | .null | .bool _ | .number _ | .text _ => rfl
  | .list vs => by simp [ofValue, skipFault?, itemsFault?_ofItems vs]
  | .object fields => by simp [ofValue, skipFault?, fieldsFault?_ofFields fields]

theorem itemsFault?_ofItems : (vs : List Value) → itemsFault? (ofItems vs) = none
  | [] => rfl
  | v :: rest => by
    simp [ofItems, itemsFault?, skipFault?_ofValue v, itemsFault?_ofItems rest]

theorem fieldsFault?_ofFields :
    (fields : List (String × Value)) → fieldsFault? (ofFields fields) = none
  | [] => rfl
  | (_, v) :: rest => by
    simp [ofFields, fieldsFault?, skipFault?_ofValue v, fieldsFault?_ofFields rest]

end

mutual

/-- **A value is read back from its document**, if its fields are in order. -/
theorem toValue_ofValue : (v : Value) → v.WellFormed → (ofValue v).toValue = .ok v
  | .null, _ | .bool _, _ | .number _, _ | .text _, _ => rfl
  | .list vs, h => by
    rw [ofValue, toValue, toItems_ofItems vs h]
    rfl
  | .object fields, h => by
    have hfields := toFields_ofFields fields [] h.2
    rw [← Keyed.ofList, Keyed.ofList_of_sorted h.1] at hfields
    rw [ofValue, toValue, hfields]
    rfl

theorem toItems_ofItems :
    (vs : List Value) → Value.ItemsWellFormed vs → toItems (ofItems vs) = .ok vs
  | [], _ => rfl
  | v :: rest, h => by
    rw [ofItems, toItems, toValue_ofValue v h.1, toItems_ofItems rest h.2]
    rfl

theorem toFields_ofFields : (fields : List (String × Value)) → (before : Bag) →
    Value.FieldsWellFormed fields →
    toFields before (ofFields fields) = .ok (Keyed.insertAll before fields)
  | [], _, _ => rfl
  | (k, v) :: rest, before, h => by
    rw [ofFields, toFields, toValue_ofValue v h.1]
    exact toFields_ofFields rest (before.insert k v) h.2

end

/-- Fields stay well formed where a well formed one is put among them. -/
theorem fieldsWellFormed_insert {fields : Bag} {k : String} {v : Value}
    (h : Value.FieldsWellFormed fields) (hv : v.WellFormed) :
    Value.FieldsWellFormed (fields.insert k v) := by
  induction fields with
  | nil => exact ⟨hv, trivial⟩
  | cons e rest ih =>
    obtain ⟨k', v'⟩ := e
    unfold Keyed.insert
    split
    · exact ⟨hv, h.2⟩
    · split
      · exact ⟨hv, h⟩
      · exact ⟨h.1, ih h.2⟩

mutual

/-- **The fields of a value that is read are in order.** -/
theorem wellFormed_of_toValue : (d : Document) → (v : Value) → d.toValue = .ok v → v.WellFormed
  | .null, _, h | .bool _, _, h | .number _, _, h | .text _, _, h => by
    obtain rfl := Except.ok.inj h
    trivial
  | .hugeNumber, _, h | .badText _, _, h | .deep _, _, h | .broken _, _, h => nomatch h
  | .list ds stop, v, h => by
    obtain ⟨vs, hvs, h⟩ := exists_of_bind_eq_ok h
    cases stop with
    | some s => cases h
    | none =>
      obtain rfl := Except.ok.inj h
      exact itemsWellFormed_of_toItems ds vs hvs
  | .object fields stop, v, h => by
    obtain ⟨vs, hvs, h⟩ := exists_of_bind_eq_ok h
    cases stop with
    | some s => cases h
    | none =>
      obtain rfl := Except.ok.inj h
      exact wellFormed_of_toFields fields [] vs hvs Keyed.sorted_nil trivial

theorem itemsWellFormed_of_toItems :
    (ds : List Document) → (vs : List Value) → toItems ds = .ok vs → Value.ItemsWellFormed vs
  | [], _, h => by
    obtain rfl := Except.ok.inj h
    trivial
  | d :: rest, vs, h => by
    obtain ⟨v, hv, h⟩ := exists_of_bind_eq_ok h
    obtain ⟨more, hmore, h⟩ := exists_of_bind_eq_ok h
    obtain rfl := Except.ok.inj h
    exact ⟨wellFormed_of_toValue d v hv, itemsWellFormed_of_toItems rest more hmore⟩

theorem wellFormed_of_toFields : (fields : List (Except SyntaxFault String × Document)) →
    (before after : Bag) → toFields before fields = .ok after → before.Sorted →
    Value.FieldsWellFormed before → after.Sorted ∧ Value.FieldsWellFormed after
  | [], _, _, h, hsorted, hbefore => by
    obtain rfl := Except.ok.inj h
    exact ⟨hsorted, hbefore⟩
  | (name, d) :: rest, before, after, h, hsorted, hbefore => by
    obtain ⟨k, -, h⟩ := exists_of_bind_eq_ok h
    obtain ⟨v, hv, h⟩ := exists_of_bind_eq_ok h
    -- the fields read so far stay in order, whatever name comes next
    exact wellFormed_of_toFields rest (before.insert k v) after h
      (Keyed.sorted_insert hsorted k v)
      (fieldsWellFormed_insert hbefore (wellFormed_of_toValue d v hv))

end

/-- Nothing but `null` is read as `null`. -/
theorem eq_null_of_toValue {d : Document} (h : d.toValue = .ok .null) : d = .null := by
  cases d with
  | null => rfl
  | list ds stop =>
    obtain ⟨vs, -, h⟩ := exists_of_bind_eq_ok h
    cases stop <;> cases h
  | object fields stop =>
    obtain ⟨vs, -, h⟩ := exists_of_bind_eq_ok h
    cases stop <;> cases h
  | _ => cases h

end Json.Document

/-! ### Fields in order -/

/-- **Fields in order of their names**, each name at most once. -/
structure Fields where
  /-- The fields. -/
  entries : Bag
  /-- They are in order. -/
  sorted : entries.Sorted

namespace Fields

open Json Decode

variable {fs : Fields} {name : String} {names : List String} {v : Value}

/-- The field of a name. -/
def get? (fs : Fields) (name : String) : Option Value :=
  fs.entries.get? name

/-- The fields that were written one after another. -/
def ofList (xs : List (String × Value)) : Fields :=
  ⟨Keyed.ofList xs, Keyed.sorted_ofList xs⟩

/-- The fields whose names are not among some. -/
def without (names : List String) (fs : Fields) : Fields :=
  ⟨fs.entries.filter fun e => !names.contains e.1, Keyed.sorted_filter fs.sorted⟩

/-- The fields as they stand in the document of an object. -/
def documents (fs : Fields) : List (Except SyntaxFault String × Document) :=
  Document.ofFields fs.entries

@[simp] theorem get?_without : (fs.without names).get? name =
    if names.contains name then none else fs.get? name := by
  have hfilter : Keyed.get? (fs.entries.filter fun e => !names.contains e.1) name =
      if (!names.contains name) = true then fs.entries.get? name else none :=
    @Keyed.get?_filter _ fs.entries name fun n => !names.contains n
  rw [get?, without, hfilter]
  cases names.contains name <;> rfl

/-! ### What is found among written fields -/

section Written

variable {xs ys : List (String × Value)} {k : String}

@[simp] theorem get?_ofList_nil : (ofList []).get? name = none := rfl

/-- **What is found among fields written one after another**: what is found among the later
ones, else what is found among the earlier ones. -/
@[simp] theorem get?_ofList_append : (ofList (xs ++ ys)).get? name =
    ((ofList ys).get? name).or ((ofList xs).get? name) :=
  Keyed.get?_ofList_append

@[simp] theorem get?_ofList_always : (ofList (always k v)).get? name =
    if name = k then some v else none :=
  Keyed.get?_cons _ _ _

@[simp] theorem get?_ofList_whenSet {o : Option Value} :
    (ofList (whenSet k o)).get? name = if name = k then o else none := by
  cases o with
  | none => exact (ite_self none).symm
  | some v => exact get?_ofList_always

@[simp] theorem get?_ofList_whenAny {vs : List Value} :
    (ofList (whenAny k vs)).get? name =
      if name = k then (if vs.isEmpty then none else some (.list vs)) else none := by
  cases vs with
  | nil => exact (ite_self none).symm
  | cons v rest => exact get?_ofList_always

end Written

/-! ### What a reader finds -/

/-- Under a name that is not there nothing is found. -/
theorem fieldsNamed_ofFields_of_not_mem (xs : Bag) (place : Nat) (h : name ∉ xs.names) :
    fieldsNamed name place (Document.ofFields xs) = [] := by
  induction xs generalizing place with
  | nil => rfl
  | cons e rest ih =>
    have hne : e.1 ≠ name := fun heq => h (heq ▸ List.mem_cons_self)
    rw [Document.ofFields, fieldsNamed, if_neg hne]
    exact ih _ fun hn => h (List.mem_cons_of_mem _ hn)

/-- **What a reader finds under a name** is the field of that name and no other. -/
theorem fieldsNamed_documents (h : fs.get? name = some v) (place : Nat) :
    ∃ found, fieldsNamed name place fs.documents = [(found, Document.ofValue v)] := by
  have hsorted := fs.sorted
  simp only [get?, documents] at h ⊢
  generalize fs.entries = xs at h hsorted
  induction xs generalizing place with
  | nil => cases h
  | cons e rest ih =>
    obtain ⟨k, v'⟩ := e
    obtain ⟨hk, hrest⟩ := List.pairwise_cons.mp hsorted
    rw [Keyed.get?_cons] at h
    rw [Document.ofFields, fieldsNamed]
    split at h
    case isTrue heq =>
      obtain rfl : name = k := heq
      obtain rfl := Option.some.inj h
      have hnone : name ∉ Keyed.names rest := fun hn => String.lt_irrefl _ (hk _ hn)
      rw [if_pos rfl, fieldsNamed_ofFields_of_not_mem rest _ hnone]
      exact ⟨place, rfl⟩
    case isFalse hne =>
      rw [if_neg fun heq => hne heq.symm]
      exact ih (place + 1) h hrest

theorem fieldsNamed_documents_eq_nil (h : fs.get? name = none) (place : Nat) :
    fieldsNamed name place fs.documents = [] :=
  fieldsNamed_ofFields_of_not_mem fs.entries place (Keyed.not_mem_of_get?_eq_none h)

/-- How deep fields are. -/
def height (fs : Fields) : Nat :=
  Document.fieldsHeight fs.documents

/-- No field is deeper than all of them. -/
theorem height_le_of_get? (h : fs.get? name = some v) :
    (Document.ofValue v).height ≤ fs.height := by
  have hmem {xs : Bag} (he : (name, v) ∈ xs) :
      (Document.ofValue v).height ≤ Document.fieldsHeight (Document.ofFields xs) := by
    induction xs with
    | nil => cases he
    | cons e rest ih =>
      rw [Document.ofFields, Document.fieldsHeight]
      rcases List.mem_cons.mp he with rfl | he
      · exact Nat.le_max_left _ _
      · exact Nat.le_trans (ih he) (Nat.le_max_right _ _)
  exact hmem (Keyed.mem_of_get?_eq_some h)

/-- Without some of them fields are no deeper. -/
theorem height_without_le : (fs.without names).height ≤ fs.height := by
  change Document.fieldsHeight (Document.ofFields (fs.entries.filter _)) ≤
    Document.fieldsHeight (Document.ofFields fs.entries)
  generalize fs.entries = xs
  induction xs with
  | nil => exact Nat.le_refl 0
  | cons e rest ih =>
    rw [List.filter_cons]
    split
    · exact Nat.max_le.mpr ⟨Nat.le_max_left _ _, Nat.le_trans ih (Nat.le_max_right _ _)⟩
    · exact Nat.le_trans ih (Nat.le_max_right _ _)

/-- Nothing among fields strikes a reader who does not ask for it. -/
theorem strayFault_documents (place : Nat) : strayFault names place fs.documents = none := by
  unfold documents
  generalize fs.entries = xs
  induction xs generalizing place with
  | nil => rfl
  | cons e rest ih =>
    rw [Document.ofFields, strayFault, Document.skipFault?_ofValue]
    split
    · exact ih _
    · exact ih _

/-- The other fields, as they stand in a document. -/
theorem fieldsBeyond_documents :
    fieldsBeyond names fs.documents = (fs.without names).documents := by
  change fieldsBeyond names (Document.ofFields fs.entries) =
    Document.ofFields (fs.entries.filter fun e => !names.contains e.1)
  generalize fs.entries = xs
  induction xs with
  | nil => rfl
  | cons e rest ih =>
    simp only [fieldsBeyond] at ih ⊢
    simp only [Document.ofFields, List.filter_cons]
    by_cases he : (!names.contains e.1) = true
    · rw [if_pos he, if_pos he, ih]
      rfl
    · rw [if_neg he, if_neg he, ih]

/-- Under a name that is left out nothing is found. -/
theorem fieldsNamed_fieldsBeyond (h : names.contains name = true) (place : Nat)
    (fields : List (Except SyntaxFault String × Document)) :
    fieldsNamed name place (fieldsBeyond names fields) = [] := by
  induction fields generalizing place with
  | nil => rfl
  | cons e rest ih =>
    obtain ⟨_ | k, d⟩ := e
    · exact ih (place + 1)
    · rw [fieldsBeyond, List.filter_cons]
      by_cases hk : (!names.contains k) = true
      · have hne : k ≠ name := by
          rintro rfl
          rw [h] at hk
          cases hk
        rw [if_pos hk, fieldsNamed, if_neg hne]
        exact ih (place + 1)
      · rw [if_neg hk]
        exact ih place

/-! ### Tags among fields -/

section Tag

variable {τ : Type} {dec : Decoder τ} {t : τ} {src : Source} {xs : Bag}

/-- Where no field has the name of the tag, all fields are kept. -/
theorem splitTag_of_not_mem (hsrc : src ≠ .text) (tag : Option τ) (h : name ∉ xs.names) :
    splitTag name dec src tag (Document.ofFields xs) =
      .ok (tag, Document.ofFields (xs.filter fun e => !List.contains [name] e.1)) := by
  induction xs with
  | nil => rfl
  | cons e rest ih =>
    have hne : e.1 ≠ name := fun heq => h (heq ▸ List.mem_cons_self)
    have hkeep : (!List.contains [name] e.1) = true := by simp [hne]
    rw [Document.ofFields, splitTag.eq_def]
    simp only
    rw [if_neg hne, buffer, if_neg hsrc, ih fun hn => h (List.mem_cons_of_mem _ hn),
      List.filter_cons, if_pos hkeep]
    rfl

/-- **The tag is taken out from among fields**, which stay as they are otherwise. -/
theorem splitTag_documents (hsrc : src ≠ .text) (hv : fs.get? name = some v)
    (ht : dec src (Document.ofValue v) = .ok t) :
    splitTag name dec src none fs.documents = .ok (some t, (fs.without [name]).documents) := by
  have hsorted := fs.sorted
  simp only [get?, documents, without] at hv ⊢
  generalize fs.entries = xs at hv hsorted
  induction xs with
  | nil => cases hv
  | cons e rest ih =>
    obtain ⟨k, v'⟩ := e
    obtain ⟨hk, hrest⟩ := List.pairwise_cons.mp hsorted
    rw [Keyed.get?_cons] at hv
    rw [Document.ofFields, splitTag, List.filter_cons]
    split at hv
    case isTrue heq =>
      obtain rfl : name = k := heq
      obtain rfl := Option.some.inj hv
      have hnone : name ∉ Keyed.names rest := fun hn => String.lt_irrefl _ (hk _ hn)
      have hdrop : ¬(!List.contains [name] name) = true := by simp
      rw [if_pos rfl, ht, if_neg hdrop]
      exact splitTag_of_not_mem hsrc (some t) hnone
    case isFalse hne =>
      have hne' : k ≠ name := fun heq => hne heq.symm
      have hkeep : (!List.contains [name] k) = true := by simp [hne']
      rw [if_neg hne', buffer, if_neg hsrc, ih hv hrest, if_pos hkeep]
      rfl

end Tag

end Fields

end FormChain
