import Mathlib.Data.List.Induction
import FormChain.Proofs.Chain.Checked
import FormChain.Proofs.Chain.Writing
import FormChain.Proofs.Text.Cutting

/-!
# What collecting adds up to

Each time a value is collected, the variable is taken up and written anew. So what it holds in the
end is a fold over the values that were collected, in the order of their attempts
(`FormChain.collectedInto`), wherever in a nest of loops and groups these stood: the fold over the
events of two parts is the one over those of the second, from where the first has come to.

The fold has a closed form, one for each shape and mode (`FormChain.Collect.whole`):

| | append | replace |
|---|---|---|
| array | the items of what was there, then all values | the last value alone |
| string | the texts of all of these, parted, but for empty ones in front | the text of the last |

In the closed form no value is missing, none is there twice, and all are in their order. It holds
where nothing else writes the variable (`FormChain.Chain.OnlyWriter`): other actions may name it as
their output, if only their effects fail.

Main statement: that is what every chain leaves in the variable
(`FormChain.Chain.collecting_keeps_all`).
-/

namespace FormChain

/-! ### Texts with nothing in front -/

namespace Text

theorem joined_dropWhile_singleton (sep x : String) :
    joined sep ([x].dropWhile (·.isEmpty)) = x := by
  cases hx : x.isEmpty with
  | true =>
    rw [List.dropWhile_cons_of_pos hx, String.isEmpty_iff.mp hx]
    rfl
  | false =>
    rw [List.dropWhile_cons_of_neg (by simp [hx])]
    exact String.intercalate_singleton

/-- Where empty texts in front are dropped, only no texts join to nothing. -/
theorem isEmpty_joined_dropWhile (sep : String) (xs : List String) :
    (joined sep (xs.dropWhile (·.isEmpty))).isEmpty = (xs.dropWhile (·.isEmpty)).isEmpty := by
  cases hxs : xs.dropWhile (·.isEmpty) with
  | nil => rfl
  | cons x rest =>
    have hx : x ≠ "" := by simpa [hxs] using List.head?_dropWhile_not (·.isEmpty) xs
    rw [List.isEmpty_cons, joined]
    cases rest with
    | nil => simpa using hx
    | cons y rest => simp [hx]

/-- One text more is parted from what the others join to, unless this is empty. -/
theorem joined_dropWhile_concat (sep x : String) (xs : List String) :
    joined sep ((xs ++ [x]).dropWhile (·.isEmpty)) =
      if (joined sep (xs.dropWhile (·.isEmpty))).isEmpty then x
      else joined sep (xs.dropWhile (·.isEmpty)) ++ sep ++ x := by
  rw [isEmpty_joined_dropWhile, List.dropWhile_append]
  split
  · exact joined_dropWhile_singleton sep x
  · next hne =>
    exact String.intercalate_append_of_ne_nil (by simpa using hne) (List.cons_ne_nil _ _)

end Text

/-! ### The closed form -/

namespace Collect

variable {c : Collect} {held : Option Value} {vs : List Value}

/-- **What the variable holds** after values were collected, given what it held before. -/
def whole (c : Collect) (held : Option Value) (vs : List Value) : Value :=
  match c.kind, c.mode with
  | .array, .append => .list ((held.map Value.toList).getD [] ++ vs)
  | .array, .replace => .list vs.getLast?.toList
  | .string, .append =>
    .text (Text.joined (c.separator.getD defaultSeparator)
      (((held.toList ++ vs).map Value.render).dropWhile (·.isEmpty)))
  | .string, .replace => .text ((vs.getLast?.map Value.render).getD "")

/-- What the variable holds after values were collected one by one. -/
def gathered (c : Collect) (held : Option Value) (vs : List Value) : Option Value :=
  vs.foldl (fun held v => some (c.collected held v)) held

theorem gathered_append (vs ws : List Value) :
    c.gathered held (vs ++ ws) = c.gathered (c.gathered held vs) ws :=
  List.foldl_append

/-- **A text more behind the others** is parted from what they make, unless this is empty. -/
theorem intoText_eq (sep : String) (held : Option Value) (v : Value) :
    intoText sep held v = .text
      (if ((held.map Value.render).getD "").isEmpty then v.render
        else (held.map Value.render).getD "" ++ sep ++ v.render) := by
  unfold intoText
  cases held with
  | none => rfl
  | some w =>
    cases hw : w.render.isEmpty with
    | true => simp [Option.filter, hw]
    | false => simp [Option.filter, hw]

/-- The first value. -/
theorem collected_eq_whole (c : Collect) (held : Option Value) (v : Value) :
    c.collected held v = c.whole held [v] := by
  unfold collected whole
  cases c.kind <;> cases c.mode
  case array.append => rfl
  case array.replace => rfl
  case string.append =>
    have hfront (sep : String) : Text.joined sep ((held.toList.map Value.render).dropWhile
        (·.isEmpty)) = (held.map Value.render).getD "" := by
      cases held with
      | none => rfl
      | some w => exact Text.joined_dropWhile_singleton sep w.render
    simp only [intoText_eq, List.map_append, List.map_singleton, Text.joined_dropWhile_concat,
      hfront]
  case string.replace => rfl

/-- **One value more.** -/
theorem collected_whole (c : Collect) (held : Option Value) (vs : List Value) (v : Value) :
    c.collected (some (c.whole held vs)) v = c.whole held (vs ++ [v]) := by
  unfold collected whole
  cases c.kind <;> cases c.mode
  case array.append => exact congrArg Value.list (List.append_assoc _ _ _)
  case array.replace => simp [intoList]
  case string.append =>
    simp only [intoText_eq, ← List.append_assoc, List.map_append, List.map_singleton,
      Text.joined_dropWhile_concat]
    rfl
  case string.replace => simp [intoText]

/-- **The closed form** of what the variable holds after values were collected one by one. -/
theorem gathered_eq (c : Collect) (held : Option Value) (vs : List Value) :
    c.gathered held vs = if vs.isEmpty then held else some (c.whole held vs) := by
  induction vs using List.reverseRecOn with
  | nil => rfl
  | append_singleton vs v ih =>
    have hlast : c.gathered held (vs ++ [v]) = some (c.collected (c.gathered held vs) v) :=
      gathered_append vs [v]
    rw [hlast, ih]
    cases vs with
    | nil => exact congrArg some (collected_eq_whole c held v)
    | cons w ws => exact congrArg some (collected_whole c held (w :: ws) v)

/-- A list is one item like any other, and what was no list is the first one. -/
example : ({ output := "v", content := "x", kind := .array } : Collect).gathered
    (some (.text "p")) [.list [.text "a"], .text "b"] =
      some (.list [.text "p", .list [.text "a"], .text "b"]) :=
  rfl

/-- Empty texts in front are dropped, and parted like others behind these. -/
example : ({ output := "v", content := "x", separator := some "," } : Collect).gathered
    (some .null) [.text "", .text "a", .text "", .text "b"] = some (.text "a,,b") :=
  rfl

end Collect

/-! ### What is collected -/

/-- The value that an event collects into a variable, if it does. -/
def Event.collected? (v : String) : Event → Option Value
  | .remark (.attempt (.collectData _ c) _ st) =>
    if c.output = v ∧ st.scope.insideLoop = true then some (c.valueIn st) else none
  | _ => none

/-- **The values that are collected into a variable** among some events, in their order: those of
the attempts to collect that are made inside of a loop, which are those that come about
(`FormChain.run_collectData`). -/
def collectedInto (v : String) (es : List Event) : List Value :=
  es.filterMap (·.collected? v)

section Collected

variable {v : String} {es es' : List Event}

theorem collectedInto_append :
    collectedInto v (es ++ es') = collectedInto v es ++ collectedInto v es' :=
  List.filterMap_append

/-- Without attempts nothing is collected. -/
theorem collectedInto_of_unremarked (h : remarksOf es = []) : collectedInto v es = [] := by
  refine List.filterMap_eq_nil_iff.mpr fun e he => ?_
  cases e with
  | remark r => cases List.filterMap_eq_nil_iff.mp h _ he
  | exchange => rfl

/-- An attempt to collect inside of a loop collects its value. -/
theorem collectedInto_collect {head : Head} {c : Collect} {n : Nat} {st : ChainState}
    (hin : st.scope.insideLoop = true) :
    collectedInto c.output (.remark (.attempt (.collectData head c) n st) :: es) =
      c.valueIn st :: collectedInto c.output es :=
  List.filterMap_cons_some (if_pos ⟨rfl, hin⟩)

/-- An attempt to do something else, or to collect outside of every loop, collects nothing. -/
theorem collectedInto_attempt {a : Action} {n : Nat} {st : ChainState}
    (h : ∀ head c, a = .collectData head c → c.output = v → st.scope.insideLoop = false) :
    collectedInto v (.remark (.attempt a n st) :: es) = collectedInto v es := by
  refine List.filterMap_cons_none ?_
  cases a with
  | collectData head c =>
    refine if_neg fun ⟨hv, hin⟩ => ?_
    rw [h head c rfl hv] at hin
    cases hin
  | _ => rfl

end Collected

namespace Chain

/-! ### Who writes the variable -/

/-- **An attempt that writes a variable**: the variable is the output of the action, and what
happens behind the attempt begins with an effect that comes about. -/
def Writes (s : ChainSetting) (v : String) (a : Action) (st : ChainState) (behind : List Event) :
    Prop :=
  a.output? = some v ∧
    ∃ x es st', plainEffect? s a = some x ∧ x.Run st es (.ok ()) st' ∧ es <+: behind

/-- **Nothing but one action writes a variable** among some events. -/
def OnlyWriter (s : ChainSetting) (v : String) (a : Action) (es : List Event) : Prop :=
  ∀ front b n st behind, es = front ++ .remark (.attempt b n st) :: behind →
    Writes s v b st behind → b = a

section Writers

variable {s : ChainSetting} {v : String} {a : Action} {es es₁ es₂ : List Event}

theorem OnlyWriter.front (h : OnlyWriter s v a (es₁ ++ es₂)) : OnlyWriter s v a es₁ := by
  rintro front b n st behind rfl ⟨hv, x, es, st', hx, hrun, hprefix⟩
  refine h front b n st (behind ++ es₂) (by simp) ⟨hv, x, es, st', hx, hrun, ?_⟩
  exact hprefix.trans (List.prefix_append _ _)

theorem OnlyWriter.behind (h : OnlyWriter s v a (es₁ ++ es₂)) : OnlyWriter s v a es₂ := by
  rintro front b n st behind rfl
  exact h (es₁ ++ front) b n st behind (by simp)

theorem OnlyWriter.tail {e : Event} (h : OnlyWriter s v a (e :: es)) : OnlyWriter s v a es := by
  rw [← List.singleton_append] at h
  exact h.behind

/-- Where no other action is attempted whose output the variable is, nothing else writes it. -/
theorem onlyWriter_of_attempts
    (h : ∀ b n st, .remark (.attempt b n st) ∈ es → b.output? = some v → b = a) :
    OnlyWriter s v a es := by
  rintro front b n st behind rfl ⟨hv, -⟩
  exact h b n st (List.mem_append_right _ (.head _)) hv

/-- **If no other action of the form has the variable as its output**, nothing else writes it in
the chain of the form. -/
theorem onlyWriter_of_visits
    (h : ∀ b inLoop, ⟨b, inLoop⟩ ∈ s.form.visits → b.output? = some v → b = a)
    {st : ChainState} {x : Outcome × ChainState} (hrun : (execute s s.form.actions st).Run es x) :
    OnlyWriter s v a es := by
  obtain ⟨es', r, st', rfl, hlist, -⟩ := run_execute hrun
  refine onlyWriter_of_attempts fun b n st₁ hmem hv => ?_
  obtain ⟨inLoop, hvisit⟩ := visited_of_attempt hlist ((List.mem_cons.mp hmem).resolve_left nofun)
  exact h b inLoop hvisit hv

end Writers

/-! ### What a chain leaves in the variable -/

section Runs

variable {s : ChainSetting} {head : Head} {c : Collect} {st st' : ChainState} {es : List Event}

/-- Whether the variable of a collection holds, behind some events, what it held in front and
what was collected between. -/
def Keeps (c : Collect) (st : ChainState) (es : List Event) (st' : ChainState) : Prop :=
  st'.outputs.get? c.output =
    c.gathered (st.outputs.get? c.output) (collectedInto c.output es)

theorem Keeps.append {st₁ : ChainState} {es₁ es₂ : List Event} (h₁ : Keeps c st es₁ st₁)
    (h₂ : Keeps c st₁ es₂ st') : Keeps c st (es₁ ++ es₂) st' := by
  rw [Keeps] at h₁ h₂ ⊢
  rw [h₂, h₁, collectedInto_append, Collect.gathered_append]

/-- An attempt to do something else keeps what is kept in it. -/
theorem Keeps.attempt {b : Action} {n : Nat} (h : Keeps c st es st')
    (hb : ∀ head c', b = .collectData head c' → c'.output = c.output →
      st.scope.insideLoop = false) :
    Keeps c st (.remark (.attempt b n st) :: es) st' := by
  rw [Keeps, collectedInto_attempt hb]
  exact h

/-- Decoding files keeps what is kept. -/
theorem Keeps.decoded {tests : List Event} (h : Decodes s st tests st') :
    Keeps c st tests st' := by
  rw [Keeps, collectedInto_of_unremarked h.remarksOf_eq]
  exact congrArg (fun context => context.outputs.get? c.output) h.context_eq.1

/-- **An attempt of a plain effect keeps all** values that are collected. -/
theorem keeps_plainEffect {b : Action} {x : Effect Unit} {n : Nat} {r : Except ActionError Unit}
    (hb : plainEffect? s b = some x) (hx : x.Run st es r st')
    (honly : OnlyWriter s c.output (.collectData head c) (.remark (.attempt b n st) :: es)) :
    Keeps c st (.remark (.attempt b n st) :: es) st' := by
  have hsilent : collectedInto c.output es = [] :=
    collectedInto_of_unremarked (conducts_plainEffect hb _ _ _ _ hx).remarksOf_eq
  have hspared (h : st'.outputs.get? c.output = st.outputs.get? c.output) : Keeps c st es st' := by
    rw [Keeps, hsilent]
    exact h
  cases r with
  | error e =>
    refine (hspared (congrArg (·.get? c.output) (outputs_eq_of_failed hb hx))).attempt ?_
    -- collecting does not fail inside of a loop
    rintro head' c' rfl -
    cases hb
    exact insideLoop_of_collectData hx
  | ok _ =>
    by_cases hv : b.output? = some c.output
    · obtain rfl : b = .collectData head c :=
        honly [] b n st es rfl ⟨hv, x, es, st', hb, hx, List.prefix_rfl⟩
      cases hb
      rcases (run_collectData hx).2 with ⟨-, herror, -⟩ | ⟨hin, -, hwritten⟩
      · cases herror
      · rw [Keeps, collectedInto_collect hin, hsilent, hwritten, Keyed.get?_insert_self]
        rfl
    · refine (hspared (spares_plainEffect hb hv _ _ _ _ hx)).attempt ?_
      rintro head' c' rfl hv'
      exact absurd (congrArg some hv') hv

/-- An iteration, whose frame is given, keeps what its body keeps. -/
theorem keeps_given {plan : LoopPlan} {index : Nat} {supply : Supply} {x : Frame × Supply}
    {look : Reply .look} {tests : List Event} {st₀ st₁ : ChainState}
    (hgives : supply.Gives s plan index (st.afterReply look) tests (some x) st₀)
    (h : Keeps c (st₀.enter x.1) es st₁) :
    Keeps c st (looked s look :: (tests ++ .remark (.iteration plan index (st₀.enter x.1)) :: es))
      st₁ := by
  have htests : Keeps c (st.afterReply look) tests st₀ := Keeps.decoded hgives.decodes
  exact htests.append h

/-- **What a task collects is kept**, where nothing else writes the variable. An effect counts on
its action having been attempted before, in the state that the effect starts in. -/
def Task.Keeps (s : ChainSetting) (head : Head) (c : Collect) (st : ChainState) (es : List Event)
    (st' : ChainState) : Task → Prop
  | .effect _ _ b => ∀ n,
    OnlyWriter s c.output (.collectData head c) (.remark (.attempt b n st) :: es) →
      Chain.Keeps c st (.remark (.attempt b n st) :: es) st'
  | _ => OnlyWriter s c.output (.collectData head c) es → Chain.Keeps c st es st'

/-- **What is collected is kept**: by induction on the rules. -/
theorem Happens.keeps {t : Task} {r : Except Failure Flow} (h : Happens s t st es r st') :
    t.Keeps s head c st es st' := by
  induction h with
  | tooDeep | listEnded | loopSpent => exact fun _ => rfl
  | listCalledOff | loopCalledOff => exact fun _ => rfl
  | loopTestFailed look _ _ hn =>
    intro _
    have htests := Keeps.decoded (c := c) hn.decodes
    exact htests
  | passedOver _ _ hw _ ih =>
    exact fun honly => (Keeps.decoded hw.decodes).append (ih honly.tail.tail.behind)
  | listLeft _ _ hw _ _ ih =>
    exact fun honly => (Keeps.decoded hw.decodes).append (ih honly.tail.tail.behind)
  | listWentOn _ _ hw _ _ ih₁ ih₂ =>
    intro honly
    have honly := honly.tail.tail.behind
    exact (Keeps.decoded hw.decodes).append ((ih₁ honly.front).append (ih₂ honly.behind))
  | attemptCalledOff _ _ _ ih =>
    intro honly
    rw [← List.cons_append] at honly ⊢
    exact (ih _ honly.front).append rfl
  | attemptSettled _ _ _ _ ih =>
    intro honly
    rw [← List.cons_append] at honly ⊢
    exact (ih _ honly.front).append rfl
  | delayCalledOff _ _ _ _ _ _ ih =>
    intro honly
    rw [← List.cons_append] at honly ⊢
    exact (ih _ honly.front).append rfl
  | triedAgain _ _ _ _ _ _ _ ih₁ ih₂ =>
    intro honly
    rw [← List.cons_append] at honly ⊢
    exact (ih₁ _ honly.front).append (ih₂ honly.behind.tail.tail)
  | plainDone hb hx => exact fun n honly => keeps_plainEffect hb hx honly
  | plainFailed hb hx => exact fun n honly => keeps_plainEffect hb hx honly
  | proceeded => exact fun _ _ => rfl
  | broke => exact fun _ _ => rfl
  | waited => exact fun _ _ => rfl
  | groupUnknown => exact fun _ _ => rfl
  | grouped _ _ ih => exact fun n honly => (ih honly.tail).attempt nofun
  | loopMisused hsource =>
    obtain ⟨-, -, seed, rfl⟩ := run_sourceOf hsource
    exact fun _ _ => rfl
  | looped hsource _ _ ih =>
    obtain ⟨-, -, seed, rfl⟩ := run_sourceOf hsource
    exact fun n honly => Chain.Keeps.attempt (ih honly.tail) nofun
  | bodyFailed _ _ _ hn _ ih => exact fun honly => keeps_given hn (ih honly.tail.behind.tail)
  | bodyLeft _ _ _ hn _ ih => exact fun honly => keeps_given hn (ih honly.tail.behind.tail)
  | bodyWentOn _ _ _ hn _ _ ih₁ ih₂ =>
    intro honly
    have honly := honly.tail.behind.tail
    exact keeps_given hn ((ih₁ honly.front).append (ih₂ honly.behind))

/-- **Collecting keeps all values.** Whatever the surroundings do, where nothing but one action
that collects writes its variable in a chain, the variable holds behind the chain what it held in
front and all values that were collected, in their order: the closed form of its shape and mode. If
none was collected, the variable is as it was. This holds for whole chains, and for lists nested
however deep. -/
theorem collecting_keeps_all (s : ChainSetting) (head : Head) (c : Collect) (st : ChainState)
    (b : Behaviour) (before : List Event) :
    (∀ actions,
      let run := (execute s actions st).under b before
      let held := st.outputs.get? c.output
      let values := collectedInto c.output run.1
      OnlyWriter s c.output (.collectData head c) run.1 →
        run.2.2.outputs.get? c.output =
          if values.isEmpty then held else some (c.whole held values)) ∧
      ∀ depth inherited actions,
        let run := (runDepth s depth inherited actions st).under b before
        let held := st.outputs.get? c.output
        let values := collectedInto c.output run.1
        OnlyWriter s c.output (.collectData head c) run.1 →
          run.2.2.outputs.get? c.output =
            if values.isEmpty then held else some (c.whole held values) := by
  constructor
  · intro actions run held values honly
    obtain ⟨es, r, st', hes, hlist, hend⟩ :=
      run_execute (Script.run_under b (execute s actions st) before)
    -- in front of the list there is only the remark that the chain starts
    have hkeeps : Keeps c st run.1 run.2.2 := by
      rw [show run.1 = _ from hes] at honly ⊢
      rw [show run.2 = _ from hend]
      exact (happens_of_run hlist).keeps honly.tail
    exact hkeeps.trans (Collect.gathered_eq c held values)
  · intro depth inherited actions run held values honly
    have hrun := happens_of_run (Script.run_under b (runDepth s depth inherited actions st) before)
    exact (hrun.keeps honly).trans (Collect.gathered_eq c held values)

end Runs

/-! ### One loop in another -/

/-- The collection of pairs of a letter and a number. -/
def pairs : Collect where
  output := "pairs"
  content := "{{letter}}{{number}}"
  separator := some " "

/-- A form that goes over letters, and over numbers for each of them. -/
def pairing : Form where
  actions := [.loop { id := "letters" }
    { kind := .list, source := some (.list [.text "a", .text "b"]), itemAlias := some "letter" }
    [.loop { id := "numbers" }
      { kind := .count, count := some { start := 1, stop := 2 }, itemAlias := some "number" }
      [.collectData { id := "pair" } pairs]]]

/-- What the pairs are written as. -/
theorem whole_pairs {values : List Value}
    (h : values.map Value.render = ["a1", "a2", "b1", "b2"]) :
    let held := some (Value.text "all:")
    (if values.isEmpty then held else some (pairs.whole held values)) =
      some (.text "all: a1 a2 b1 b2") := by
  intro held
  have hwhole : pairs.whole held values =
      .text (Text.joined " " (("all:" :: values.map Value.render).dropWhile (·.isEmpty))) := rfl
  rw [h] at hwhole
  cases values with
  | nil => cases h
  | cons v rest => exact congrArg some hwhole

/-- **All pairs are there**, in their order, behind what was there before. -/
theorem pairing_keeps_all :
    let s : ChainSetting := { form := pairing }
    let st : ChainState := { outputs := [("pairs", .text "all:")] }
    let run := (execute s s.form.actions st).under withoutUser []
    OnlyWriter s pairs.output (.collectData { id := "pair" } pairs) run.1 ∧
      run.2.2.outputs.get? pairs.output = some (.text "all: a1 a2 b1 b2") := by
  intro s st run
  have honly : OnlyWriter s pairs.output (.collectData { id := "pair" } pairs) run.1 := by
    refine onlyWriter_of_visits (fun b inLoop hvisit hv => ?_)
      (Script.run_under withoutUser (execute s s.form.actions st) [])
    rcases hvisit with _ | ⟨_, _ | ⟨_, _ | ⟨_, ⟨⟩⟩⟩⟩
    · cases hv
    · cases hv
    · rfl
  have hvalues : (collectedInto pairs.output run.1).map Value.render =
      ["a1", "a2", "b1", "b2"] := by decide +kernel
  have hkept := (collecting_keeps_all s { id := "pair" } pairs st withoutUser []).1 _ honly
  refine ⟨honly, ?_⟩
  rw [hkept]
  exact whole_pairs hvalues

end Chain

end FormChain
