import FormChain.Proofs.Form.Rereading
import FormChain.Proofs.Form.Visits

/-!
# Where actions are read from

Every action of a form that is read stands somewhere in the document of the form: there is a
part of the document that the action itself is read from
(`FormChain.Form.exists_source_of_visit`). So what holds of every action by the document it is
read from holds of every action of a form.

What stands under the name `condition` in the document of an action is a filter, if it is there
and not `null`. It becomes the condition of the action, but for a loop: a loop takes the name
for its test, whatever drives it (`FormChain.Action.declared_of_isReadFrom`), and is left without
a condition (`FormChain.Action.condition_loop_of_isReadFrom`).
-/

namespace FormChain

open Json (Document SyntaxFault)
open Decode

/-! ### Parts of documents -/

/-- **One document stands in another**, at whatever depth. -/
inductive Json.Document.Within : Document → Document → Prop where
  | same (d : Document) : Within d d
  | item {d e : Document} {ds : List Document} {stop : Option Json.Stop} (hin : Within d e)
      (hmem : e ∈ ds) : Within d (.list ds stop)
  | field {d e : Document} {name : Except SyntaxFault String}
      {fields : List (Except SyntaxFault String × Document)} {stop : Option Json.Stop}
      (hin : Within d e) (hmem : (name, e) ∈ fields) : Within d (.object fields stop)

namespace Json.Document

theorem Within.trans {c d e : Document} (hcd : c.Within d) (hde : d.Within e) : c.Within e := by
  induction hde with
  | same => exact hcd
  | item _ hmem ih => exact .item ih hmem
  | field _ hmem ih => exact .field ih hmem

theorem mem_ofItems {e : Document} {vs : List Value} (h : e ∈ ofItems vs) :
    ∃ v ∈ vs, e = ofValue v := by
  induction vs with
  | nil => cases h
  | cons v rest ih =>
    rcases List.mem_cons.mp h with rfl | h
    · exact ⟨v, List.mem_cons_self, rfl⟩
    · obtain ⟨w, hw, he⟩ := ih h
      exact ⟨w, List.mem_cons_of_mem _ hw, he⟩

theorem mem_ofFields {name : Except SyntaxFault String} {e : Document}
    {xs : List (String × Value)} (h : (name, e) ∈ ofFields xs) :
    ∃ v, e = ofValue v := by
  induction xs with
  | nil => cases h
  | cons x rest ih =>
    rcases List.mem_cons.mp h with heq | h
    · exact ⟨x.2, (Prod.mk.inj heq).2⟩
    · exact ih h

/-- What stands in the document of a value is the document of a value. -/
theorem exists_value_of_within {d e : Document} (h : d.Within e) {v : Value}
    (hv : e = ofValue v) : ∃ w, d = ofValue w := by
  induction h generalizing v with
  | same => exact ⟨v, hv⟩
  | item _ hmem ih =>
    cases v with
    | list vs =>
      obtain ⟨rfl, -⟩ := Document.list.inj hv
      obtain ⟨w, -, hw⟩ := mem_ofItems hmem
      exact ih hw
    | _ => cases hv
  | field _ hmem ih =>
    cases v with
    | object xs =>
      obtain ⟨rfl, -⟩ := (Document.object.injEq ..).mp hv
      obtain ⟨w, hw⟩ := mem_ofFields hmem
      exact ih hw
    | _ => cases hv

end Json.Document

/-- The documents that parts of a record consist of. -/
def Decode.Parts.documents : Parts → List Document
  | .fields named _ => named.map (·.2)
  | .items ds _ => ds

/-! ### What is found under a name -/

/-- The documents of the fields of a name. -/
def documentsNamed (name : String) (fields : List (Except SyntaxFault String × Document)) :
    List Document :=
  (fieldsNamed name 0 fields).map (·.2)

section Named

variable {name other : String} {d : Document}
  {fields others : List (Except SyntaxFault String × Document)}

theorem map_fieldsNamed (place : Nat) :
    (fieldsNamed name place fields).map (·.2) = documentsNamed name fields := by
  have hplace (place place' : Nat) : (fieldsNamed name place fields).map (·.2) =
      (fieldsNamed name place' fields).map (·.2) := by
    induction fields generalizing place place' with
    | nil => rfl
    | cons e rest ih =>
      obtain ⟨_ | k, d⟩ := e
      · exact ih _ _
      · rw [fieldsNamed, fieldsNamed]
        split
        · exact congrArg (d :: ·) (ih _ _)
        · exact ih _ _
  exact hplace place 0

theorem documentsNamed_cons {k : String} : documentsNamed name ((.ok k, d) :: fields) =
    if k = name then d :: documentsNamed name fields else documentsNamed name fields := by
  rw [documentsNamed, fieldsNamed]
  split
  · exact congrArg (d :: ·) (map_fieldsNamed 1)
  · exact map_fieldsNamed 1

theorem documentsNamed_error_cons {fault : SyntaxFault} :
    documentsNamed name ((.error fault, d) :: fields) = documentsNamed name fields :=
  map_fieldsNamed 1

theorem mem_of_mem_documentsNamed (h : d ∈ documentsNamed name fields) :
    d ∈ fields.map (·.2) := by
  induction fields with
  | nil => cases h
  | cons e rest ih =>
    obtain ⟨_ | k, d'⟩ := e
    · rw [documentsNamed_error_cons] at h
      exact List.mem_cons_of_mem _ (ih h)
    · rw [documentsNamed_cons] at h
      split at h
      · rcases List.mem_cons.mp h with rfl | h
        · exact List.mem_cons_self
        · exact List.mem_cons_of_mem _ (ih h)
      · exact List.mem_cons_of_mem _ (ih h)

/-- The field of an object is found under its name. -/
theorem documentsNamed_ofFields {xs : Bag} {v : Value} (h : xs.get? name = some v) :
    ∃ more, documentsNamed name (Document.ofFields xs) = Document.ofValue v :: more := by
  induction xs with
  | nil => cases h
  | cons e rest ih =>
    rw [Keyed.get?_cons] at h
    rw [Document.ofFields, documentsNamed_cons]
    split at h
    · next heq =>
      obtain rfl := Option.some.inj h
      exact ⟨documentsNamed name (Document.ofFields rest), by rw [if_pos heq.symm]⟩
    · next hne =>
      rw [if_neg fun heq => hne heq.symm]
      exact ih h

/-- Names that a type does not take are left. -/
theorem documentsNamed_fieldsBeyond {names : List String} (h : names.contains name = false) :
    documentsNamed name (fieldsBeyond names fields) = documentsNamed name fields := by
  induction fields with
  | nil => rfl
  | cons e rest ih =>
    obtain ⟨_ | k, d⟩ := e
    · rw [fieldsBeyond, List.filter_cons, if_pos rfl, documentsNamed_error_cons,
        documentsNamed_error_cons]
      exact ih
    · rw [fieldsBeyond, List.filter_cons]
      by_cases hk : (!names.contains k) = true
      · rw [if_pos hk, documentsNamed_cons, documentsNamed_cons]
        exact ite_congr rfl (fun _ => congrArg (d :: ·) ih) fun _ => ih
      · have hne : k ≠ name := by
          rintro rfl
          rw [h] at hk
          exact hk rfl
        rw [if_neg hk, documentsNamed_cons, if_neg hne]
        exact ih

/-- What is left behind a tag are the fields of other names. -/
theorem eq_fieldsBeyond_of_splitTag {τ : Type} {dec : Decoder τ} {src : Source}
    {tag tag' : Option τ} (h : splitTag name dec src tag fields = .ok (tag', others)) :
    others = fieldsBeyond [name] fields := by
  induction fields generalizing tag others with
  | nil => exact ((Prod.mk.inj (Except.ok.inj h)).2).symm
  | cons e rest ih =>
    obtain ⟨fault | k, d⟩ := e
    · cases h
    · rw [splitTag.eq_def] at h
      dsimp only at h
      rw [fieldsBeyond, List.filter_cons]
      split at h
      · next hk =>
        have hdrop : ¬(!List.contains [name] k) = true := by simp [hk]
        rw [if_neg hdrop]
        cases tag with
        | some _ => cases h
        | none =>
          obtain ⟨_, _, h⟩ := exists_of_bind_eq_ok h
          exact ih h
      · next hk =>
        have hkeep : (!List.contains [name] k) = true := by simp [hk]
        rw [if_pos hkeep]
        obtain ⟨_, _, h⟩ := exists_of_bind_eq_ok h
        obtain ⟨⟨_, _⟩, hrest, h⟩ := exists_of_bind_eq_ok h
        obtain ⟨rfl, rfl⟩ := Prod.mk.inj (Except.ok.inj h)
        exact congrArg (_ :: ·) (ih hrest)

/-- **The field of an object is found behind its tag**, if it is another one. -/
theorem documentsNamed_behind_tag {τ : Type} {dec : Decoder τ} {src : Source}
    {tag tag' : Option τ} {stop : Option Json.Stop} {w c : Value}
    (hw : Document.ofValue w = .object fields stop)
    (hsplit : splitTag name dec src tag fields = .ok (tag', others))
    (hc : w.field? other = some c) (hother : List.contains [name] other = false) :
    ∃ more, documentsNamed other others = .ofValue c :: more := by
  cases w with
  | object xs =>
    obtain ⟨rfl, -⟩ := (Document.object.injEq ..).mp hw
    obtain rfl := eq_fieldsBeyond_of_splitTag hsplit
    rw [documentsNamed_fieldsBeyond hother]
    exact documentsNamed_ofFields hc
  | _ => cases hc

end Named

/-! ### What is read from parts -/

section Parts

variable {α : Type} {dec : Decoder α} {P : α → Prop} {parts : Parts} {name : String}

/-- What may be absent is read from one of the parts, if it is there. -/
theorem Decode.Reading.ensures_given_part {default : α}
    (h : ∀ d ∈ parts.documents, ∀ src a, dec src d = .ok a → P a) (hdefault : P default) :
    (given name dec default).Ensures parts P := by
  intro src first a ha
  cases parts with
  | fields fields stop =>
    rcases readNamed_cases ha with ⟨-, ha⟩ | ⟨place, d, hone, ha⟩
    · exact Except.ok.inj ha ▸ hdefault
    · have hmem : d ∈ documentsNamed name fields := by simp [documentsNamed, hone]
      exact h d (mem_of_mem_documentsNamed hmem) src a ha
  | items ds stop =>
    rcases readItem_cases ha with ⟨-, ha⟩ | ⟨d, hd, ha⟩
    · exact Except.ok.inj ha ▸ hdefault
    · exact h d (List.mem_of_getElem? hd) src a ha

/-- **What is found under its name** is read from the first of what is found there. -/
theorem Decode.Reading.ensures_given_found {default : α} {d : Document} {more : List Document}
    {fields : List (Except SyntaxFault String × Document)} {stop : Option Json.Stop}
    (h : documentsNamed name fields = d :: more) :
    (given name dec default).Ensures (.fields fields stop) fun a => ∃ src, dec src d = .ok a := by
  intro src first a ha
  rcases readNamed_cases ha with ⟨hnone, -⟩ | ⟨place, d', hone, ha⟩
  · rw [documentsNamed, hnone] at h
    cases h
  · rw [documentsNamed, hone] at h
    obtain ⟨rfl, -⟩ := List.cons.inj h
    exact ⟨src, ha⟩

/-- What is not `null` is there. -/
theorem Decode.exists_of_option {src : Source} {v : Value} {o : Option α} (hv : v ≠ .null)
    (h : option dec src (.ofValue v) = .ok o) : ∃ a, o = some a ∧ dec src (.ofValue v) = .ok a := by
  unfold Decode.option at h
  split at h
  case h_1 hnull =>
    cases v with
    | null => exact absurd rfl hv
    | _ => cases hnull
  case h_2 =>
    obtain ⟨a, ha, rfl⟩ := exists_of_map_eq_ok h
    exact ⟨a, rfl, ha⟩

/-- The items of a list are read from what stands in it. -/
theorem Decode.exists_of_mem_list {src : Source} {d : Document} {as : List α}
    (h : list dec src d = .ok as) : ∀ a ∈ as, ∃ e : Document, e.Within d ∧ dec src e = .ok a := by
  have hitems {ds : List Document} {as : List α} (h : items dec src ds = .ok as) :
      ∀ a ∈ as, ∃ e ∈ ds, dec src e = .ok a := by
    induction ds generalizing as with
    | nil =>
      obtain rfl := Except.ok.inj h
      nofun
    | cons d rest ih =>
      obtain ⟨first, hfirst, h⟩ := exists_of_bind_eq_ok h
      obtain ⟨more, hmore, h⟩ := exists_of_bind_eq_ok h
      obtain rfl := Except.ok.inj h
      intro a ha
      rcases List.mem_cons.mp ha with rfl | ha
      · exact ⟨d, List.mem_cons_self, hfirst⟩
      · obtain ⟨e, he, hread⟩ := ih hmore a ha
        exact ⟨e, List.mem_cons_of_mem _ he, hread⟩
  unfold Decode.list at h
  split at h
  case h_1 ds stop =>
    obtain ⟨as', hds, h⟩ := exists_of_bind_eq_ok h
    obtain ⟨_, _, h⟩ := exists_of_bind_eq_ok h
    obtain rfl := Except.ok.inj h
    intro a ha
    obtain ⟨e, he, hread⟩ := hitems hds a ha
    exact ⟨e, .item (.same e) he, hread⟩
  case h_2 => cases h
  case h_3 => exact absurd h mismatch_ne_ok

/-- What is made of a record is made of parts that stand in its document. -/
theorem Decode.exists_run_of_record {r : Reading α} {expected : String} {src : Source}
    {d : Document} {a : α} (h : record expected r src d = .ok a) :
    ∃ parts : Parts, (∀ e ∈ parts.documents, e.Within d) ∧ r.run src parts 0 = .ok a := by
  rcases record_cases h with ⟨fields, stop, rfl, hrun⟩ | ⟨ds, stop, rfl, hrun⟩
  · refine ⟨_, fun e he => ?_, hrun⟩
    obtain ⟨⟨name, e'⟩, hmem, rfl⟩ := List.mem_map.mp he
    exact .field (.same _) hmem
  · exact ⟨.items ds stop, fun e he => .item (.same e) he, hrun⟩

end Parts

/-! ### What actions are read from -/

/-- **A filter is read from a document**, at some depth. -/
def Filter.IsReadFrom (F : Filter) (d : Document) : Prop :=
  ∃ depth src, Filter.decode depth src d = .ok F

/-- **An action is read from a document**, at some depth. -/
def Action.IsReadFrom (a : Action) (d : Document) : Prop :=
  ∃ depth src, Action.decode depth src d = .ok a

/-- Everything in a list is read from something that stands in a document. -/
def ReadWithin {α : Type} (dec : Decoder α) (d : Document) (as : List α) : Prop :=
  ∀ a ∈ as, ∃ (e : Document) (src : Source), e.Within d ∧ dec src e = .ok a

theorem ReadWithin.trans {α : Type} {dec : Decoder α} {d e : Document} {as : List α}
    (h : ReadWithin dec d as) (hde : d.Within e) : ReadWithin dec e as := by
  intro a ha
  obtain ⟨c, src, hin, hread⟩ := h a ha
  exact ⟨c, src, hin.trans hde, hread⟩

/-- Lists are read from what stands in the document that the parts belong to. -/
theorem Decode.Reading.ensures_given_within {α : Type} {dec : Decoder α} {parts : Parts}
    {name : String} {d : Document} (hparts : ∀ e ∈ parts.documents, e.Within d) :
    (given name (list dec) []).Ensures parts (ReadWithin dec d) := by
  refine ensures_given_part (fun e he src as has a ha => ?_) nofun
  obtain ⟨c, hin, hread⟩ := exists_of_mem_list has a ha
  exact ⟨c, src, hin.trans (hparts e he), hread⟩

/-- Where a field is called `condition`, the condition of an action is read from the first. -/
theorem Head.ensures_condition_found (depth : Nat)
    {fields : List (Except SyntaxFault String × Document)} {stop : Option Json.Stop}
    {d : Document} {more : List Document} (h : documentsNamed "condition" fields = d :: more) :
    (Head.reading (Filter.decode depth)).Ensures (.fields fields stop)
      fun head => ∃ src, option (Filter.decode depth) src d = .ok head.condition := by
  refine (Reading.ensures_first ?_).skip.skip |>.ap (Reading.ensures_given_found h)
  intro id title recovery condition hcondition
  exact hcondition

namespace Action

/-- The filter that stands under the name `condition` of an action: the test of a loop, and
else the condition of the action. -/
def declared? : Action → Option Filter
  | .loop _ plan _ => plan.test
  | a => a.head.condition

theorem declared?_of_tag_ne_loop {a : Action} (h : a.tag ≠ .loop) :
    a.declared? = a.head.condition := by
  cases a with
  | loop => exact absurd rfl h
  | _ => rfl

/-- **What is made of the fields of a type**: an action of this type with the start that it is
given. It holds actions from some place, and a loop has some test. -/
structure Made (t : ActionTag) (held : List Action → Prop) (tested : Option Filter → Prop)
    (make : Head → Action) : Prop where
  /-- The start is that which is given. -/
  head : ∀ h, (make h).head = h
  /-- The type is the given one. -/
  tag : ∀ h, (make h).tag = t
  /-- The actions that it holds. -/
  children : ∀ h body, (make h).children? = some body → held body
  /-- The test of a loop. -/
  test : t = .loop → ∀ h, tested (make h).declared?

theorem ensures_made {depth : Nat} {inner : Decoder Action} {parts : Parts}
    (held : List Action → Prop) (tested : Option Filter → Prop) (t : ActionTag)
    (hheld : (given "actions" (list inner) []).Ensures parts held)
    (htested : t = .loop →
      (given "condition" (option (Filter.decode depth)) none).Ensures parts tested) :
    (Action.reading depth inner t).Ensures parts (Made t held tested) := by
  cases t with
  | loop =>
    have hplan : (LoopPlan.reading (Filter.decode depth)).Ensures parts
        fun plan => tested plan.test := by
      refine (Reading.ensures_first ?_).skip.skip |>.ap (htested rfl) |>.skip.skip.skip.skip
      intro _ _ _ test htest _ _ _ _
      exact htest
    refine hplan.map ?_ |>.ap hheld
    intro plan htest body hbody
    refine ⟨fun _ => rfl, fun _ => rfl, fun _ body' h => ?_, fun _ _ => htest⟩
    obtain rfl := Option.some.inj h
    exact hbody
  | group =>
    refine Reading.ensures_first ?_ |>.ap hheld
    intro id members hmembers
    refine ⟨fun _ => rfl, fun _ => rfl, fun _ body' h => ?_, nofun⟩
    obtain rfl := Option.some.inj h
    exact hmembers
  | proceed => exact Reading.ensures_pure ⟨fun _ => rfl, fun _ => rfl, nofun, nofun⟩
  | leave => exact Reading.ensures_pure ⟨fun _ => rfl, fun _ => rfl, nofun, nofun⟩
  -- no other type holds actions or has a test
  | createFile | insertText | collectData =>
    refine (Reading.ensures_first ?_).skip.skip.skip.skip
    intro _ _ _ _ _
    exact ⟨fun _ => rfl, fun _ => rfl, nofun, nofun⟩
  | ai =>
    refine (Reading.ensures_first ?_).skip.skip.skip
    intro _ _ _ _
    exact ⟨fun _ => rfl, fun _ => rfl, nofun, nofun⟩
  | textTransform | suggest =>
    refine (Reading.ensures_first ?_).skip.skip
    intro _ _ _
    exact ⟨fun _ => rfl, fun _ => rfl, nofun, nofun⟩
  | button =>
    refine (Reading.ensures_first ?_).skip
    intro _ _
    exact ⟨fun _ => rfl, fun _ => rfl, nofun, nofun⟩
  | generateForm | wait =>
    refine Reading.ensures_first ?_
    intro _
    exact ⟨fun _ => rfl, fun _ => rfl, nofun, nofun⟩

/-! ### What stands under the name of a condition -/

/-- **What an action declares as its condition** is read from what stands under the name in the
document of the action. -/
theorem declared_of_isReadFrom {a : Action} {w c : Value} (h : a.IsReadFrom (.ofValue w))
    (hc : w.field? "condition" = some c) (hnull : c ≠ .null) :
    ∃ F : Filter, F.IsReadFrom (.ofValue c) ∧ a.declared? = some F := by
  obtain ⟨_, src, hdecode⟩ := h
  obtain ⟨depth, t, fields, others, make, head, rfl, ⟨stop, hw⟩, hsplit, hmake, hhead, rfl⟩ :=
    parts_of_decode hdecode
  obtain ⟨more, hfound⟩ := documentsNamed_behind_tag hw hsplit hc (by decide)
  have hread {o : Option Filter}
      (ho : ∃ src, option (Filter.decode depth) src (.ofValue c) = .ok o) :
      ∃ F : Filter, F.IsReadFrom (.ofValue c) ∧ o = some F := by
    obtain ⟨src, ho⟩ := ho
    obtain ⟨F, rfl, hF⟩ := exists_of_option hnull ho
    exact ⟨F, ⟨depth, src, hF⟩, rfl⟩
  obtain ⟨hmadeHead, hmadeTag, -, hmadeTest⟩ := ensures_made (fun _ => True) _ t
    (fun _ _ _ _ => trivial) (fun _ => Reading.ensures_given_found hfound) _ _ make hmake
  by_cases hloop : t = .loop
  · exact hread (hmadeTest hloop head)
  · -- another type leaves the filter for the start
    have hbeyond : documentsNamed "condition" (fieldsBeyond
        (reading depth (decode depth) t).names others) = .ofValue c :: more := by
      rw [documentsNamed_fieldsBeyond, hfound]
      rw [(contains_names (decode depth) t).2.2.2, decide_eq_false hloop]
    have hstart := Head.ensures_condition_found depth hbeyond _ _ head hhead
    obtain ⟨F, hF, hcondition⟩ := hread hstart
    have htag : (make head).tag ≠ .loop := fun heq => hloop ((hmadeTag head).symm.trans heq)
    exact ⟨F, hF, by rw [declared?_of_tag_ne_loop htag, hmadeHead, hcondition]⟩

/-- What a legible action declares is written under the name of a condition. -/
theorem field?_condition_toValue {a : Action} (h : a.Legible) :
    a.toValue.field? "condition" = a.declared?.map Filter.toValue := by
  change a.fields.get? "condition" = _
  have hown := a.get?_ownFields.2.2.2.2
  by_cases hloop : a.tag = .loop
  · cases h with
    | loop _ hfree => simp [fields, ownFields, LoopPlan.toFields, declared?, head, hfree]
    | _ => cases hloop
  · simp [fields, hown hloop, declared?_of_tag_ne_loop hloop]

/-- **A loop has no condition**, whatever document it is read from. -/
theorem condition_loop_of_isReadFrom {head : Head} {plan : LoopPlan} {body : List Action}
    {d : Document} (h : (loop head plan body).IsReadFrom d) : head.condition = none := by
  obtain ⟨depth, src, h⟩ := h
  cases ensures_decode depth src d _ h with
  | loop _ hfree => exact hfree

/-! ### Where visited actions are read from -/

/-- **Where a visited action is read from**: from something that stands in the document in which
its list stands. -/
theorem exists_source_of_mem_visitsOf {depth : Nat} {d : Document} {as : List Action}
    {inLoop : Bool} {u : Visit} (h : ReadWithin (decode depth) d as)
    (hu : u ∈ visitsOf inLoop as) : ∃ e, e.Within d ∧ u.action.IsReadFrom e := by
  induction depth generalizing d as inLoop u with
  | zero =>
    obtain ⟨a, ha, -⟩ := exists_of_mem_visitsOf hu
    obtain ⟨_, _, _, hread⟩ := h a ha
    cases hread
  | succ depth ih =>
    obtain ⟨a, ha, hvisit⟩ := exists_of_mem_visitsOf hu
    obtain ⟨e, src, hin, hread⟩ := h a ha
    rcases hvisit with rfl | hinside
    · exact ⟨e, hin, depth + 1, src, hread⟩
    · -- what an action holds is read from the fields of its document
      obtain ⟨body, inLoop', hbody, hheld⟩ := exists_children_of_mem_visitsInside hinside
      obtain ⟨_, t, fields, others, make, head, hdepth, ⟨stop, rfl⟩, hsplit, hmake, -, rfl⟩ :=
        parts_of_decode hread
      obtain rfl := Nat.succ.inj hdepth
      have hparts (c : Document) (hc : c ∈ (Parts.fields others none).documents) :
          c.Within (.object fields stop) := by
        obtain ⟨⟨name, c'⟩, hmem, rfl⟩ := List.mem_map.mp hc
        rw [eq_fieldsBeyond_of_splitTag hsplit] at hmem
        exact .field (.same _) (List.mem_filter.mp hmem).1
      have hmade := ensures_made _ (fun _ => True) t (Reading.ensures_given_within hparts)
        (fun _ _ _ _ _ => trivial) _ _ make hmake
      obtain ⟨c, hc, hsource⟩ := ih (hmade.children head body hbody) hheld
      exact ⟨c, hc.trans hin, hsource⟩

end Action

/-- The members of a group are read from what stands in the document of the group. -/
theorem ActionGroup.readWithin_of_decode {depth : Nat} {src : Source} {d : Document}
    {g : ActionGroup} (h : ActionGroup.decode depth src d = .ok g) :
    ReadWithin (Action.decode depth) d g.actions := by
  obtain ⟨parts, hparts, hrun⟩ := exists_run_of_record h
  refine (show Reading.Ensures _ parts fun g : ActionGroup =>
    ReadWithin (Action.decode depth) d g.actions from ?_) src 0 g hrun
  refine (Reading.ensures_first ?_).skip.skip |>.ap (Reading.ensures_given_within hparts)
  intro id name recovery actions hactions
  exact hactions

/-- **Every visited action of a form that is read** is read from something that stands in the
document of the form. -/
theorem Form.exists_source_of_visit {depth : Nat} {src : Source} {d : Document} {f : Form}
    {u : Visit} (h : Form.decode depth src d = .ok f) (hu : u ∈ f.visits) :
    ∃ e, e.Within d ∧ u.action.IsReadFrom e := by
  obtain ⟨parts, hparts, hrun⟩ := exists_run_of_record h
  have hlists : ReadWithin (Action.decode depth) d f.actions ∧
      ReadWithin (ActionGroup.decode depth) d f.groups := by
    refine (show Reading.Ensures _ parts fun f : Form =>
      ReadWithin (Action.decode depth) d f.actions ∧
        ReadWithin (ActionGroup.decode depth) d f.groups from ?_) src 0 f hrun
    refine (Reading.ensures_first ?_).skip.skip
      |>.ap (Reading.ensures_given_within hparts)
      |>.ap (Reading.ensures_given_within hparts)
      |>.skip.skip.skip
    intro id name fields actions hactions groups hgroups inBackground quiet timeout
    exact ⟨hactions, hgroups⟩
  rcases List.mem_append.mp hu with hu | hu
  · exact Action.exists_source_of_mem_visitsOf hlists.1 hu
  · obtain ⟨g, hg, hu⟩ := List.mem_flatMap.mp hu
    obtain ⟨e, src, hin, hread⟩ := hlists.2 g hg
    obtain ⟨c, hc, hsource⟩ :=
      Action.exists_source_of_mem_visitsOf (ActionGroup.readWithin_of_decode hread) hu
    exact ⟨c, hc.trans hin, hsource⟩

end FormChain
