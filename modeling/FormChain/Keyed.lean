/-!
# Entries kept under names

A list of named entries in increasing order of names, each name at most once. It
serves as the fields of an object, as the values of a form and as the variables of a
chain; everything that walks over entries walks over them in this order.

The order of names is that of their code points, which is also the order of their
UTF-8 bytes.

Main statements: looking up what was just put (`get?_insert_self`), looking up
another name (`get?_insert_of_ne`), and that every operation keeps the order
(`sorted_insert`, `sorted_erase`).
-/

namespace FormChain

/-- Entries under names. -/
abbrev Keyed (α : Type) := List (String × α)

namespace Keyed

variable {α : Type}

/-- The names stand in increasing order. -/
def Sorted (xs : Keyed α) : Prop :=
  (xs.map Prod.fst).Pairwise (· < ·)

/-- The entry under a name. -/
def get? (xs : Keyed α) (name : String) : Option α :=
  xs.lookup name

/-- Whether there is an entry under a name. -/
def has (xs : Keyed α) (name : String) : Bool :=
  (xs.get? name).isSome

/-- **Put an entry under a name**, in place of the one that was there. -/
def insert (xs : Keyed α) (name : String) (a : α) : Keyed α :=
  match xs with
  | [] => [(name, a)]
  | (k, b) :: rest =>
    if name = k then (name, a) :: rest
    else if name < k then (name, a) :: (k, b) :: rest
    else (k, b) :: insert rest name a

/-- Remove the entry under a name. -/
def erase (xs : Keyed α) (name : String) : Keyed α :=
  xs.filter fun e => e.1 ≠ name

/-- Put all entries of `ys`, in their order. -/
def insertAll (xs ys : Keyed α) : Keyed α :=
  ys.foldl (fun acc e => acc.insert e.1 e.2) xs

/-- The entries of a list in which a later entry stands for an earlier one of its name. -/
def ofList (ys : List (String × α)) : Keyed α :=
  insertAll [] ys

/-- The names, in order. -/
def names (xs : Keyed α) : List String :=
  xs.map Prod.fst

/-! ### Looking up -/

@[simp] theorem get?_nil (name : String) : get? ([] : Keyed α) name = none := rfl

theorem get?_cons (e : String × α) (xs : Keyed α) (name : String) :
    get? (e :: xs) name = if name = e.1 then some e.2 else get? xs name := by
  obtain ⟨k, a⟩ := e
  by_cases h : name = k
  · simp [get?, h]
  · have : (name == k) = false := by simpa using h
    simp [get?, List.lookup_cons, h, this]

/-- What was just put is found. -/
@[simp] theorem get?_insert_self (xs : Keyed α) (name : String) (a : α) :
    (xs.insert name a).get? name = some a := by
  induction xs with
  | nil => simp [insert, get?_cons]
  | cons e rest ih =>
    obtain ⟨k, b⟩ := e
    unfold insert
    split
    · simp [get?_cons]
    · split
      · simp [get?_cons]
      · rename_i h _
        simp [get?_cons, h, ih]

/-- Putting an entry leaves the entries of other names as they are. -/
theorem get?_insert_of_ne (xs : Keyed α) {name other : String} (a : α) (h : other ≠ name) :
    (xs.insert name a).get? other = xs.get? other := by
  induction xs with
  | nil => simp [insert, get?_cons, h]
  | cons e rest ih =>
    obtain ⟨k, b⟩ := e
    unfold insert
    split
    · rename_i hk
      subst hk
      simp [get?_cons, h]
    · split
      · simp [get?_cons, h]
      · by_cases ho : other = k
        · simp [get?_cons, ho]
        · simp [get?_cons, ho, ih]

/-- A removed name is not found. -/
@[simp] theorem get?_erase_self (xs : Keyed α) (name : String) :
    (xs.erase name).get? name = none := by
  induction xs with
  | nil => rfl
  | cons e rest ih =>
    by_cases h : e.1 = name
    · simpa [erase, h] using ih
    · have h' : ¬ name = e.1 := fun hh => h hh.symm
      simp only [erase, ne_eq, h, not_false_eq_true, decide_true, List.filter_cons_of_pos]
      rw [get?_cons, if_neg h']
      exact ih

/-- Removing a name leaves the entries of other names as they are. -/
theorem get?_erase_of_ne (xs : Keyed α) {name other : String} (h : other ≠ name) :
    (xs.erase name).get? other = xs.get? other := by
  induction xs with
  | nil => rfl
  | cons e rest ih =>
    by_cases he : e.1 = name
    · have ho : ¬ other = e.1 := fun hh => h (hh.trans he)
      simp only [erase, ne_eq, he, not_true_eq_false, decide_false, Bool.false_eq_true,
        not_false_eq_true, List.filter_cons_of_neg]
      rw [get?_cons, if_neg ho]
      exact ih
    · simp only [erase, ne_eq, he, not_false_eq_true, decide_true, List.filter_cons_of_pos]
      rw [get?_cons, get?_cons]
      split
      · rfl
      · exact ih

/-! ### Order -/

/-- The empty list is in order. -/
theorem sorted_nil : Sorted ([] : Keyed α) := List.Pairwise.nil

/-- The names after putting an entry are the old ones and the new one. -/
theorem mem_names_insert (xs : Keyed α) (name other : String) (a : α)
    (h : other ∈ (xs.insert name a).names) : other = name ∨ other ∈ xs.names := by
  induction xs with
  | nil => simpa [insert, names] using h
  | cons e rest ih =>
    obtain ⟨k, b⟩ := e
    unfold insert at h
    split at h
    · rename_i hk
      subst hk
      simp only [names, List.map_cons, List.mem_cons] at h ⊢
      rcases h with h | h
      · exact Or.inl h
      · exact Or.inr (Or.inr h)
    · split at h
      · simp only [names, List.map_cons, List.mem_cons] at h ⊢
        exact h
      · simp only [names, List.map_cons, List.mem_cons] at h ⊢
        rcases h with h | h
        · exact Or.inr (Or.inl h)
        · rcases ih h with h | h
          · exact Or.inl h
          · exact Or.inr (Or.inr h)

/-- Putting an entry keeps the order. -/
theorem sorted_insert {xs : Keyed α} (hs : xs.Sorted) (name : String) (a : α) :
    (xs.insert name a).Sorted := by
  induction xs with
  | nil => simp [insert, Sorted]
  | cons e rest ih =>
    obtain ⟨k, b⟩ := e
    have hrest : Sorted rest := (List.pairwise_cons.1 hs).2
    have hk : ∀ n ∈ names rest, k < n := (List.pairwise_cons.1 hs).1
    unfold insert
    split
    · rename_i h
      subst h
      exact List.pairwise_cons.2 ⟨hk, hrest⟩
    · split
      · rename_i _ hlt
        refine List.pairwise_cons.2 ⟨?_, hs⟩
        intro n hn
        rcases List.mem_cons.1 hn with hn | hn
        · exact hn ▸ hlt
        · exact String.lt_trans hlt (hk n hn)
      · rename_i hne hnlt
        refine List.pairwise_cons.2 ⟨?_, ih hrest⟩
        intro n hn
        rcases mem_names_insert rest name n a hn with hn | hn
        · subst hn
          exact Std.lt_of_le_of_ne (Std.not_lt.1 hnlt) (fun hh => hne hh.symm)
        · exact hk n hn

/-- Removing an entry keeps the order. -/
theorem sorted_erase {xs : Keyed α} (hs : xs.Sorted) (name : String) :
    (xs.erase name).Sorted :=
  List.Pairwise.sublist (List.filter_sublist.map _) hs

end Keyed

end FormChain
