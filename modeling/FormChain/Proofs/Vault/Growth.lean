import FormChain.Proofs.Chain.Context

/-!
# What stays in a vault

A text *is held* by a file if its characters stand in the file in their order, whatever stands
between them (`FormChain.MemoryVault.Holds`). An edit that inserts loses nothing: it puts its
text somewhere into the old one, with line feeds around it, so the new text has both in it
(`FormChain.Edit.sublist_of_applied?`). Only an edit that replaces does not do so.

A request to the vault is *gentle* if it is not for such a replacement, nor for an insertion at a
place told in bytes, which may break off and leave nothing. Creating a file is
gentle, as the vault refuses to create one that is there. Behind gentle requests, in whatever
number and whoever makes them, every file holds what it held before
(`FormChain.MemoryVault.grows_behind`). A file comes about in no other way than by a granted
request to create it (`FormChain.MemoryVault.created_of_behind`), and then holds the text that
it was created with (`FormChain.MemoryVault.holds_create`).
-/

namespace FormChain

/-! ### Insertions -/

namespace Edit

/-- Whether an edit inserts a text and leaves the old one in place. -/
def isInsertion : Edit → Bool
  | replace _ => false
  | append _ | insertAt .. | insertAtEnd _ | insertAfterHeading .. => true

/-- The text that an edit brings. -/
def text : Edit → String
  | replace t | append t | insertAt _ t | insertAtEnd t | insertAfterHeading _ t => t

/-- **On lines of its own**, a text stands among the two others, and they stand around it. -/
theorem sublist_onOwnLines (before text behind : List Char) :
    (before ++ behind).Sublist (onOwnLines before text behind) ∧
      text.Sublist (onOwnLines before text behind) := by
  simp only [onOwnLines, List.append_assoc]
  generalize (if before.isEmpty then [] else lineFeedBehind before) = front
  generalize (if behind.isEmpty then [] else lineFeedBehind text) = back
  constructor
  · have hbehind : behind.Sublist (front ++ (text ++ (back ++ behind))) :=
      (List.sublist_append_right back behind).trans
        ((List.sublist_append_right text _).trans (List.sublist_append_right front _))
    exact (List.Sublist.refl before).append hbehind
  · have htext : text.Sublist (text ++ (back ++ behind)) := List.sublist_append_left ..
    exact htext.trans
      ((List.sublist_append_right front _).trans (List.sublist_append_right before _))

/-- Cutting behind some bytes loses nothing. -/
theorem append_of_cutBytes? {n : Nat} {cs a b : List Char} (h : cutBytes? n cs = some (a, b)) :
    a ++ b = cs := by
  fun_induction cutBytes? n cs generalizing a b with
  | case1 cs =>
    obtain ⟨rfl, rfl⟩ := Prod.mk.inj (Option.some.inj h)
    rfl
  | case2 => cases h
  | case3 n c cs _ ih =>
    obtain ⟨⟨a', b'⟩, hcut, hab⟩ := Option.map_eq_some_iff.mp h
    obtain ⟨rfl, rfl⟩ := Prod.mk.inj hab
    rw [List.cons_append, ih hcut]
  | case4 => cases h

/-- Cutting lines behind a heading loses nothing. -/
theorem append_of_cutAfter? {wanted : List Char} {lines a b : List (List Char)}
    (h : cutAfter? wanted lines = some (a, b)) : a ++ b = lines := by
  induction lines generalizing a b with
  | nil => cases h
  | cons line rest ih =>
    rw [cutAfter?] at h
    split at h
    · obtain ⟨rfl, rfl⟩ := Prod.mk.inj (Option.some.inj h)
      rfl
    · obtain ⟨⟨a', b'⟩, hcut, hab⟩ := Option.map_eq_some_iff.mp h
      obtain ⟨rfl, rfl⟩ := Prod.mk.inj hab
      rw [List.cons_append, ih hcut]

/-- Cutting a text behind a heading loses nothing. -/
theorem append_of_cutAfterHeading? {heading : String} {cs a b : List Char}
    (h : cutAfterHeading? heading cs = some (a, b)) : a ++ b = cs := by
  obtain ⟨⟨front, back⟩, hcut, hab⟩ := Option.map_eq_some_iff.mp h
  obtain ⟨rfl, rfl⟩ := Prod.mk.inj hab
  rw [← List.flatten_append, append_of_cutAfter? hcut, Text.flatten_linesWithEnds]

/-- **An insertion loses nothing**: behind it, both the old text and its own are there. -/
theorem sublist_of_applied? {e : Edit} {old new : String} (h : e.applied? old = some new)
    (hinserts : e.isInsertion = true) :
    old.toList.Sublist new.toList ∧ e.text.toList.Sublist new.toList := by
  -- every place to insert at cuts the old text in two
  have hcut {a b text : List Char} (hab : a ++ b = old.toList) :
      old.toList.Sublist (String.ofList (onOwnLines a text b)).toList ∧
        text.Sublist (String.ofList (onOwnLines a text b)).toList := by
    rw [← hab, String.toList_ofList]
    exact sublist_onOwnLines a text b
  cases e with
  | replace => cases hinserts
  | append text =>
    obtain rfl := Option.some.inj h
    rw [String.toList_append]
    exact ⟨List.sublist_append_left .., List.sublist_append_right ..⟩
  | insertAt offset text =>
    obtain ⟨⟨a, b⟩, hbytes, rfl⟩ := Option.map_eq_some_iff.mp h
    exact hcut (append_of_cutBytes? hbytes)
  | insertAtEnd text =>
    obtain rfl := Option.some.inj h
    exact hcut (List.append_nil _)
  | insertAfterHeading heading text =>
    obtain rfl := Option.some.inj h
    cases hheading : cutAfterHeading? heading old.toList with
    | none => exact hcut (List.append_nil _)
    | some ab => exact hcut (append_of_cutAfterHeading? hheading)

end Edit

/-! ### Gentle requests -/

/-- **Whether a request leaves all texts in place.** -/
def VaultRequest.isGentle : VaultRequest → Bool
  | .write _ edit => edit.isInsertion && !edit.isPlaced
  | .find _ | .read _ | .create .. | .metadata _ => true

/-- A gentle request gets an answer. -/
theorem VaultRequest.isPlaced_of_isGentle {r : VaultRequest} (h : r.isGentle = true) :
    r.isPlaced = false := by
  cases r with
  | write file edit => exact Bool.not_eq_true' _ |>.mp ((Bool.and_eq_true _ _).mp h).2
  | _ => rfl

/-- Whether an event is no request to the vault but a gentle one. -/
def Event.isGentle : Event → Bool
  | .exchange _ (.vault r) _ => r.isGentle
  | _ => true

namespace MemoryVault

variable {m m' m'' : MemoryVault} {file text : String} {r : VaultRequest}

/-- **A file holds a text**: its characters are there, in their order. -/
def Holds (m : MemoryVault) (file text : String) : Prop :=
  ∃ held, m.files.get? file = some held ∧ text.toList.Sublist held.toList

/-- **A vault grows into another**: every file is still there and holds what was in it. -/
def Grows (m m' : MemoryVault) : Prop :=
  ∀ file text, m.files.get? file = some text → m'.Holds file text

theorem holds_of_get? (h : m.files.get? file = some text) : m.Holds file text :=
  ⟨text, h, .refl _⟩

theorem Grows.refl (m : MemoryVault) : m.Grows m :=
  fun _ _ h => holds_of_get? h

/-- What a file holds, it holds in every vault that this one grows into. -/
theorem Holds.mono (h : m.Holds file text) (hgrows : m.Grows m') : m'.Holds file text := by
  obtain ⟨held, hheld, hsub⟩ := h
  obtain ⟨held', hheld', hsub'⟩ := hgrows file held hheld
  exact ⟨held', hheld', hsub.trans hsub'⟩

theorem Grows.trans (h : m.Grows m') (h' : m'.Grows m'') : m.Grows m'' :=
  fun file text hfile => (h file text hfile).mono h'

/-! ### Creating and writing -/

/-- **How a file is created** whose path has a plain form. -/
theorem answer_create_of_plain {path : String} (h : VaultPath.normalize? path = .ok file) :
    m.answer (.create path text) = if m.files.has file then (some (.error (.alreadyExists file)), m)
      else (some (.ok file), m.put file text) := by
  rw [answer, create, h]
  cases hhas : m.files.has file <;>
    simp [bind, Except.bind, hhas, pure, Except.pure, throw, throwThe, MonadExceptOf.throw]

/-- **A file is created** under the plain form of its path, where there was none. -/
theorem create_eq_ok {path : String} (h : m.create path text = .ok (file, m')) :
    VaultPath.normalize? path = .ok file ∧ m.files.get? file = none ∧ m' = m.put file text := by
  simp only [create, bind, Except.bind] at h
  split at h
  · cases h
  · next plain hplain =>
    split at h
    · cases h
    · next hfree =>
      obtain ⟨rfl, rfl⟩ := Prod.mk.inj (Except.ok.inj h)
      refine ⟨hplain, ?_, rfl⟩
      simpa [Keyed.has] using hfree

/-- A granted request to create a file puts it. -/
theorem answer_create_ok {path : String} (h : (m.answer (.create path text)).1 = some (.ok file)) :
    VaultPath.normalize? path = .ok file ∧ m.files.get? file = none ∧
      (m.answer (.create path text)).2 = m.put file text := by
  simp only [answer] at h ⊢
  split at h
  · next hcreate =>
    obtain rfl := Except.ok.inj (Option.some.inj h)
    exact create_eq_ok hcreate
  · cases h

/-- **Creating a file leaves those that are there as they are.** -/
theorem get?_create {path new : String} (h : m.files.get? file = some text) :
    (m.answer (.create path new)).2.files.get? file = some text := by
  obtain ⟨a, hanswer⟩ := m.exists_answer (r := .create path new) rfl
  cases a with
  | error e =>
    rw [answer_of_refused hanswer]
    exact h
  | ok created =>
    obtain ⟨-, hfree, hput⟩ := answer_create_ok hanswer
    have hother : file ≠ created := by
      rintro rfl
      rw [hfree] at h
      cases h
    rw [hput, put, Keyed.get?_insert_of_ne _ _ hother]
    exact h

/-- **What is behind a request to write**: what was there, or another text in a file that was
there. -/
theorem answer_write_snd (m : MemoryVault) (file : String) (edit : Edit) :
    (m.answer (.write file edit)).2 = m ∨ ∃ old new, m.files.get? file = some old ∧
      (m.answer (.write file edit)).2 = { m with files := m.files.insert file new } := by
  simp only [answer, write]
  split
  · exact .inl rfl
  · next old hold =>
    split
    · next new _ => exact .inr ⟨old, new, hold, rfl⟩
    · exact .inr ⟨old, "", hold, rfl⟩

/-- A granted request to write puts the edited text in place of the old one. -/
theorem answer_write_ok {edit : Edit} (h : (m.answer (.write file edit)).1 = some (.ok ())) :
    ∃ old new, m.files.get? file = some old ∧ edit.applied? old = some new ∧
      (m.answer (.write file edit)).2 = { m with files := m.files.insert file new } := by
  simp only [answer, write] at h ⊢
  split at h
  · cases h
  · next old hold =>
    split at h
    · next new hnew => exact ⟨old, new, hold, hnew, rfl⟩
    · cases h

/-- **What is inserted into a file is held by it.** -/
theorem holds_write {edit : Edit} (hinserts : edit.isInsertion = true)
    (h : (m.answer (.write file edit)).1 = some (.ok ())) :
    (m.answer (.write file edit)).2.Holds file edit.text := by
  obtain ⟨old, new, -, happlied, hput⟩ := answer_write_ok h
  rw [hput]
  exact ⟨new, Keyed.get?_insert_self .., (Edit.sublist_of_applied? happlied hinserts).2⟩

/-- **What is created with a text holds it.** -/
theorem holds_create {path : String} (h : (m.answer (.create path text)).1 = some (.ok file)) :
    (m.answer (.create path text)).2.Holds file text := by
  obtain ⟨-, -, hput⟩ := answer_create_ok h
  rw [hput]
  exact holds_of_get? (Keyed.get?_insert_self ..)

/-- A file is found under the plain form of its path. -/
theorem find_eq_some {path : String} (h : m.find path = .ok (some file)) :
    VaultPath.normalize? path = .ok file := by
  simp only [find, bind, Except.bind] at h
  split at h
  · cases h
  · next plain hplain =>
    have hsome := Except.ok.inj h
    split at hsome
    · rw [hplain, Option.some.inj hsome]
    · cases hsome

/-! ### Growth -/

/-- **A vault grows by gentle requests.** -/
theorem grows_answer (hr : r.isGentle = true) : m.Grows (m.answer r).2 := by
  intro file text hfile
  cases r with
  | find | read | metadata => exact holds_of_get? hfile
  | create path new => exact holds_of_get? (get?_create hfile)
  | write file' edit =>
    obtain ⟨a, hanswer⟩ := m.exists_answer (VaultRequest.isPlaced_of_isGentle hr)
    cases a with
    | error e =>
      rw [answer_of_refused hanswer]
      exact holds_of_get? hfile
    | ok =>
      obtain ⟨old, new, hold, happlied, hput⟩ := answer_write_ok hanswer
      have hinserts : edit.isInsertion = true := ((Bool.and_eq_true _ _).mp hr).1
      rw [hput]
      by_cases hsame : file = file'
      · subst hsame
        obtain rfl : old = text := Option.some.inj (hold.symm.trans hfile)
        exact ⟨new, Keyed.get?_insert_self .., (Edit.sublist_of_applied? happlied hinserts).1⟩
      · refine holds_of_get? ?_
        rw [Keyed.get?_insert_of_ne _ _ hsame]
        exact hfile

/-- A vault grows by an event that is gentle. -/
theorem grows_after {e : Event} (he : e.isGentle = true) : m.Grows (m.after e) := by
  cases e with
  | remark => exact .refl m
  | exchange token c reply =>
    cases c with
    | vault r =>
      simp only [after]
      split
      · exact grows_answer he
      · exact .refl m
    | _ => exact .refl m

/-- **A vault grows by gentle events**, whoever's they are. -/
theorem grows_behind {es : List Event} (h : ∀ e ∈ es, e.isGentle = true) :
    m.Grows (m.behind es) := by
  induction es generalizing m with
  | nil => exact .refl m
  | cons e es ih =>
    rw [behind_cons]
    exact (grows_after (h e (.head _))).trans (ih fun e' he' => h e' (.tail _ he'))

/-! ### Where the vault answers -/

/-- **The vault answers some events**: every request got the answer that it gives by then. -/
def Answers (m : MemoryVault) : List Event → Prop
  | [] => True
  | .exchange token (.vault r) reply :: es =>
    (m.answer r).1 = some reply.answer ∧ (m.after (.exchange token (.vault r) reply)).Answers es
  | _ :: es => m.Answers es

/-- What the vault answers is what it answers first, and what it answers behind that. -/
theorem answers_append {es es' : List Event} :
    m.Answers (es ++ es') ↔ m.Answers es ∧ (m.behind es).Answers es' := by
  induction es generalizing m with
  | nil => simp [Answers]
  | cons e es ih =>
    rw [List.cons_append, behind_cons]
    cases e with
    | remark => exact ih
    | exchange token c reply =>
      cases c with
      | vault r => simp only [Answers, ih, and_assoc]
      | _ => exact ih

/-- A request among events that the vault answers gets its answer, and has its effect. -/
theorem answer_of_answers {pre post : List Event} {token : Token} {reply : Reply (.vault r)}
    (h : m.Answers (pre ++ .exchange token (.vault r) reply :: post)) :
    ((m.behind pre).answer r).1 = some reply.answer ∧
      (m.behind pre).after (.exchange token (.vault r) reply) = ((m.behind pre).answer r).2 := by
  have hanswer : ((m.behind pre).answer r).1 = some reply.answer := (answers_append.mp h).2.1
  exact ⟨hanswer, after_answered hanswer⟩

/-- A file that is looked for is found where the vault finds it. -/
theorem found_of_answers {path : String} {token : Token} {found : Reply (.vault (.find path))}
    {es : List Event} (h : m.Answers (.exchange token (.vault (.find path)) found :: es)) :
    found.answer = m.find path :=
  (Option.some.inj h.1).symm

/-- A file comes about only by a request to create it. -/
theorem create_of_answer (hold : m.files.get? file = none)
    (hnew : (m.answer r).2.files.get? file = some text) :
    ∃ path, r = .create path text ∧ (m.answer (.create path text)).1 = some (.ok file) := by
  have hsame : ¬ (m.answer r).2 = m := by
    intro h
    rw [h, hold] at hnew
    cases hnew
  cases r with
  | find | read | metadata => exact absurd rfl hsame
  | create path new =>
    obtain ⟨a, hanswer⟩ := m.exists_answer (r := .create path new) rfl
    cases a with
    | error e => exact absurd (answer_of_refused hanswer) hsame
    | ok created =>
      obtain ⟨-, -, hput⟩ := answer_create_ok hanswer
      rw [hput, put] at hnew
      by_cases hfile : file = created
      · subst hfile
        rw [Keyed.get?_insert_self] at hnew
        obtain rfl := Option.some.inj hnew
        exact ⟨path, rfl, hanswer⟩
      · rw [Keyed.get?_insert_of_ne _ _ hfile, hold] at hnew
        cases hnew
  | write file' edit =>
    obtain ⟨old, new, hfile', hput⟩ := (m.answer_write_snd file' edit).resolve_left hsame
    rw [hput] at hnew
    by_cases hfile : file = file'
    · rw [← hfile, hold] at hfile'
      cases hfile'
    · rw [Keyed.get?_insert_of_ne _ _ hfile, hold] at hnew
      cases hnew

/-- **A file that was not there has been created.** -/
theorem created_of_behind {es : List Event} (hanswers : m.Answers es)
    (hold : m.files.get? file = none) (hnew : ((m.behind es).files.get? file).isSome = true) :
    ∃ pre token path text reply post,
      es = pre ++ .exchange token (.vault (.create path text)) reply :: post ∧
        reply.answer = .ok file := by
  induction es generalizing m with
  | nil =>
    rw [behind_nil, hold] at hnew
    cases hnew
  | cons e es ih =>
    rw [behind_cons] at hnew
    have hboth : m.Answers ([e] ++ es) := hanswers
    have hrest : (m.after e).Answers es := (answers_append.mp hboth).2
    cases hafter : (m.after e).files.get? file with
    | none =>
      obtain ⟨pre, token, path, text, reply, post, rfl, hreply⟩ := ih hrest hafter hnew
      exact ⟨e :: pre, token, path, text, reply, post, rfl, hreply⟩
    | some text =>
      -- the file has come about by this event
      cases e with
      | remark =>
        rw [show m.after (.remark _) = m from rfl, hold] at hafter
        cases hafter
      | exchange token c reply =>
        cases c with
        | vault r =>
          have hanswer : (m.answer r).1 = some reply.answer := hanswers.1
          rw [after_answered hanswer] at hafter
          obtain ⟨path, rfl, hok⟩ := create_of_answer hold hafter
          exact ⟨[], token, path, text, reply, es, rfl, Option.some.inj (hanswer.symm.trans hok)⟩
        | _ =>
          exact absurd (hold.symm.trans hafter) (by simp)

end MemoryVault

end FormChain
