import FormChain.Proofs.Chain.Requests

/-!
# Chains that share a vault

Any number of chains work on one vault in memory, and take turns in any order. A turn is a
single question, so between any two questions of a chain the others may do as they like:
between looking for a file and creating it, between reading a text and writing it. The vault
answers its requests by itself, one at a time; everything else is answered anyhow. In
particular, a chain that another one launches is one chain more, and the one that waits for it
may be told anything about how it ended.

Nothing is lost by this where the chains are *gentle*, which is to say that they create files
without overwriting any, and insert texts at the end or behind headings
(`FormChain.Action.isGentle`). The chains cannot rely on what they have seen before, and need
not: a file is created only if it is not there when it is created, and an insertion finds its
place in the text that is there when it is written. So it does not matter in which order
the requests come, and that every request is gentle is enough. No such request breaks off, which
would be the end of its chain and of the text that it was at.

Main statement: however gentle chains take turns, none breaks off, no creation changes a file that
is there, every event leaves all texts in place, and in the end every file holds what was in it at
first, what it was created with and whatever was inserted into it
(`FormChain.Commons.run_loses_nothing`).
-/

namespace FormChain

/-! ### Gentle chains -/

/-- **Whether an action is gentle**: a creation that overwrites nothing, an insertion that is not at
the top, or something else. -/
def Action.isGentle : Action → Bool
  | .createFile _ spec =>
    match spec.conflict with
    | .skip | .rename => true
    | .overwrite => false
  | .insertText _ spec =>
    match spec.position with
    | .bottom | .afterHeading => true
    | .top => false
  | _ => true

/-- A gentle action makes gentle requests. -/
theorem Action.Requests.isGentle {st : ChainState} {a : Action} {r : VaultRequest}
    (h : a.Requests st r) (ha : a.isGentle = true) : r.isGentle = true := by
  cases r with
  | find | read | create | metadata => rfl
  | write file edit =>
    obtain ⟨htext, hwrite⟩ := h
    cases a with
    | createFile head spec =>
      have hoverwrite : spec.conflict = .overwrite := hwrite.1
      rw [Action.isGentle, hoverwrite] at ha
      cases ha
    | insertText head spec =>
      refine (Bool.and_eq_true _ _).mpr ⟨hwrite.1, ?_⟩
      cases hplaced : edit.isPlaced with
      | false => rfl
      | true =>
        rw [Action.isGentle, hwrite.2 hplaced] at ha
        cases ha
    | _ => exact hwrite.elim

/-- **A chain of a form**, which starts in a state. -/
structure FormRun where
  /-- What it runs with. -/
  setting : ChainSetting
  /-- The state in which it starts. -/
  start : ChainState

namespace FormRun

/-- What it does. -/
def script (c : FormRun) : Script (Chain.Outcome × ChainState) :=
  Chain.execute c.setting c.setting.form.actions c.start

/-- **All actions of its form are gentle.** -/
def IsGentle (c : FormRun) : Prop :=
  ∀ v ∈ c.setting.form.visits, v.action.isGentle = true

end FormRun

/-! ### Taking turns -/

/-- **A turn**: the chain that takes it, and what the surroundings have to say. -/
structure Turn where
  /-- The number of the chain. -/
  chain : Nat
  /-- The answer to every question that is not for the vault. -/
  answer : (c : Call) → c.Answer
  /-- Whether the token of the chain is cancelled by now. -/
  cancelled : Bool
  /-- What the clock shows. -/
  now : LocalMoment

/-- **The reply to a question**, unless it breaks off, and the vault behind it. -/
def Turn.reply (t : Turn) (m : MemoryVault) : (c : Call) → Option (Reply c) × MemoryVault
  | .vault r => ((m.answer r).1.map fun a => ⟨a, t.cancelled, t.now⟩, (m.answer r).2)
  | c => (some ⟨t.answer c, t.cancelled, t.now⟩, m)

/-- **A vault that chains share.** -/
structure Commons where
  /-- The vault. -/
  vault : MemoryVault
  /-- What is left of each chain. -/
  scripts : List (Script (Chain.Outcome × ChainState))
  /-- What has happened, and in which chain. -/
  log : List (Nat × Event) := []
  /-- The chains that have broken off, and take no more turns. -/
  brokenOff : List Nat := []

/-- The events of one chain. -/
def eventsOf (i : Nat) (log : List (Nat × Event)) : List Event :=
  (log.filter (·.1 = i)).map (·.2)

/-- The events of all chains. -/
def eventsOfAll (log : List (Nat × Event)) : List Event :=
  log.map (·.2)

namespace Commons

/-- **A chain makes a move**, to which the vault becomes another one. -/
def move (p : Commons) (i : Nat) (e : Event) (next : Script (Chain.Outcome × ChainState))
    (vault : MemoryVault) : Commons :=
  { p with vault, scripts := p.scripts.set i next, log := p.log ++ [(i, e)] }

/-- **A chain takes a turn**: a remark, or a question that is replied to at once, or breaks off. -/
def take (p : Commons) (t : Turn) : Commons :=
  if t.chain ∈ p.brokenOff then p
  else match p.scripts[t.chain]? with
    | none | some (.done _) => p
    | some (.remark r next) => p.move t.chain (.remark r) next p.vault
    | some (.ask token c next) =>
      match t.reply p.vault c with
      | (some reply, vault) => p.move t.chain (.exchange token c reply) (next reply) vault
      | (none, vault) => { p with vault, brokenOff := t.chain :: p.brokenOff }

/-- **Chains take turns**, from their starts on. -/
def run (m : MemoryVault) (chains : List FormRun) (turns : List Turn) : Commons :=
  turns.foldl take { vault := m, scripts := chains.map (·.script) }

end Commons

/-! ### What is true of every turn -/

section Events

variable {i j : Nat} {e : Event} {log log' : List (Nat × Event)}

@[simp] theorem eventsOf_append : eventsOf i (log ++ log') = eventsOf i log ++ eventsOf i log' := by
  rw [eventsOf, List.filter_append, List.map_append]
  rfl

/-- An event is one of the chain in which it happens. -/
theorem eventsOf_cons :
    eventsOf i ((j, e) :: log) = if j = i then e :: eventsOf i log else eventsOf i log := by
  by_cases h : j = i <;> simp [eventsOf, h]

@[simp] theorem eventsOfAll_append :
    eventsOfAll (log ++ log') = eventsOfAll log ++ eventsOfAll log' :=
  List.map_append

@[simp] theorem eventsOfAll_cons : eventsOfAll ((i, e) :: log) = e :: eventsOfAll log := rfl

/-- What happens in a chain happens. -/
theorem mem_eventsOfAll (h : e ∈ eventsOf i log) : e ∈ eventsOfAll log := by
  obtain ⟨x, hx, rfl⟩ := List.mem_map.mp h
  exact List.mem_map.mpr ⟨x, (List.mem_filter.mp hx).1, rfl⟩

end Events

namespace Commons

variable {m : MemoryVault} {chains : List FormRun} {p : Commons}

/-- **What is true of chains that share a vault**, after any number of turns. -/
structure Valid (m : MemoryVault) (chains : List FormRun) (p : Commons) : Prop where
  /-- The vault is what the events have made of it. -/
  vault : p.vault = m.behind (eventsOfAll p.log)
  /-- The vault has answered its requests itself. -/
  answers : m.Answers (eventsOfAll p.log)
  /-- No chain comes or goes. -/
  length : p.scripts.length = chains.length
  /-- What is left of a chain goes on from what it has done. -/
  runs : ∀ (i : Nat) (c : FormRun) (script : Script (Chain.Outcome × ChainState)),
    chains[i]? = some c → p.scripts[i]? = some script →
      ∀ es x, script.Run es x → c.script.Run (eventsOf i p.log ++ es) x
  /-- Nothing happens but in the chains. -/
  known : ∀ i e, (i, e) ∈ p.log → i < chains.length
  /-- No chain has broken off. -/
  unbroken : p.brokenOff = []

/-- **A chain makes a move**, to which the vault has become what the event makes of it. -/
theorem Valid.move (h : p.Valid m chains) {i : Nat}
    {script next : Script (Chain.Outcome × ChainState)} {e : Event}
    (hscript : p.scripts[i]? = some script)
    (hmove : ∀ es x, next.Run es x → script.Run (e :: es) x)
    (hanswers : (m.behind (eventsOfAll p.log)).Answers [e]) :
    (p.move i e next (p.vault.after e)).Valid m chains where
  vault := by
    rw [Commons.move, h.vault, eventsOfAll_append, MemoryVault.behind_append]
    rfl
  answers := by
    rw [Commons.move, eventsOfAll_append]
    exact MemoryVault.answers_append.mpr ⟨h.answers, hanswers⟩
  length := (List.length_set ..).trans h.length
  runs := by
    intro j c script' hc hscript' es x hrun
    rw [Commons.move] at hscript' ⊢
    rw [eventsOf_append, eventsOf_cons, List.append_assoc]
    by_cases hij : i = j
    · subst hij
      have hlt := (List.getElem?_eq_some_iff.mp hscript).1
      rw [List.getElem?_set_self hlt] at hscript'
      obtain rfl := Option.some.inj hscript'
      rw [if_pos rfl]
      exact h.runs i c script hc hscript (e :: es) x (hmove es x hrun)
    · rw [List.getElem?_set_ne hij] at hscript'
      rw [if_neg hij]
      exact h.runs j c script' hc hscript' es x hrun
  known := by
    intro j e' hmem
    rcases List.mem_append.mp hmem with hmem | hmem
    · exact h.known j e' hmem
    · obtain ⟨rfl, -⟩ := Prod.mk.inj (List.mem_singleton.mp hmem)
      exact h.length ▸ (List.getElem?_eq_some_iff.mp hscript).1
  unbroken := h.unbroken

/-- **A request that is to be made next** belongs to an action of a form, which its chain has
attempted last. -/
theorem Valid.next (h : p.Valid m chains) {i : Nat} {token : Token} {r : VaultRequest}
    {next : Reply (.vault r) → Script (Chain.Outcome × ChainState)}
    (hscript : p.scripts[i]? = some (.ask token (.vault r) next)) :
    ∃ a st, a.Requests st r ∧ ∃ c ∈ chains, ∃ inLoop, ⟨a, inLoop⟩ ∈ c.setting.form.visits := by
  have hlt : i < chains.length := h.length ▸ (List.getElem?_eq_some_iff.mp hscript).1
  -- some reply or other is thinkable
  obtain ⟨reply⟩ : Nonempty (Reply (.vault r)) := inferInstance
  obtain ⟨es, x, hrun⟩ := Script.exists_run (next reply)
  have hrun := h.runs i _ _ (List.getElem?_eq_getElem hlt) hscript _ _ (.ask reply hrun)
  obtain ⟨a, st, -, hrequest, hvisit⟩ := Chain.request_of_attempt hrun
  exact ⟨a, st, hrequest, chains[i], List.getElem_mem hlt, hvisit⟩

section Gentle

variable (hgentle : ∀ c ∈ chains, c.IsGentle)

include hgentle

/-- **It stays true when a gentle chain takes a turn.** -/
theorem Valid.take (h : p.Valid m chains) (t : Turn) : (p.take t).Valid m chains := by
  unfold Commons.take
  rw [if_neg (by rw [h.unbroken]; exact List.not_mem_nil)]
  split
  · exact h
  · exact h
  · next r next hscript => exact h.move hscript (fun es x => .remark) trivial
  · next token c next hscript =>
    have hmove (reply : Reply c) (es : List Event) (x : Chain.Outcome × ChainState)
        (hrun : (next reply).Run es x) :
        (Script.ask token c next).Run (.exchange token c reply :: es) x := .ask reply hrun
    cases c with
    | vault r =>
      -- what gentle chains ask for does not break off
      obtain ⟨a, st, hrequest, c, hc, inLoop, hvisit⟩ := h.next hscript
      have hplaced := VaultRequest.isPlaced_of_isGentle (hrequest.isGentle (hgentle c hc _ hvisit))
      obtain ⟨answer, hanswer⟩ := p.vault.exists_answer hplaced
      let reply : Reply (.vault r) := ⟨answer, t.cancelled, t.now⟩
      have hanswer : (p.vault.answer r).1 = some reply.answer := hanswer
      have hreply : t.reply p.vault (.vault r) =
          (some reply, p.vault.after (.exchange token (.vault r) reply)) := by
        rw [MemoryVault.after_answered hanswer, Turn.reply, hanswer]
        rfl
      rw [hreply]
      refine h.move hscript (hmove _) ⟨?_, trivial⟩
      rw [← h.vault]
      exact hanswer
    | _ => exact h.move hscript (hmove _) trivial

/-- **It is true after any number of turns.** -/
theorem valid_run (turns : List Turn) : (run m chains turns).Valid m chains := by
  have hstart : Valid m chains { vault := m, scripts := chains.map (·.script) } := by
    constructor
    case vault => rfl
    case answers => trivial
    case length => exact List.length_map _
    case known => exact fun i e hmem => absurd hmem List.not_mem_nil
    case unbroken => rfl
    case runs =>
      intro i c script hc hscript es x hrun
      simp only [List.getElem?_map, hc, Option.map_some, Option.some.injEq] at hscript
      subst hscript
      exact hrun
  unfold run
  generalize ({ vault := m, scripts := chains.map (·.script) } : Commons) = p at hstart
  induction turns generalizing p with
  | nil => exact hstart
  | cons t turns ih => exact ih _ (hstart.take hgentle t)

end Gentle

/-- What a chain has done is the beginning of a run. -/
theorem Valid.exists_run (h : p.Valid m chains) {i : Nat} {c : FormRun}
    (hc : chains[i]? = some c) : ∃ es x, c.script.Run (eventsOf i p.log ++ es) x := by
  have hlt : i < p.scripts.length := by
    rw [h.length]
    exact (List.getElem?_eq_some_iff.mp hc).1
  obtain ⟨es, x, hrun⟩ := Script.exists_run p.scripts[i]
  exact ⟨es, x, h.runs i c _ hc (List.getElem?_eq_getElem hlt) es x hrun⟩

/-! ### Nothing is lost -/

section Gentle

variable {pre post : List (Nat × Event)} {i : Nat} {token : Token} {file : String}

/-- **Every request belongs to an action of a form**, which its chain has attempted last. -/
theorem Valid.owner (h : p.Valid m chains) {r : VaultRequest} {reply : Reply (.vault r)}
    (hlog : p.log = pre ++ (i, .exchange token (.vault r) reply) :: post) :
    ∃ a st, latestAttempt none (eventsOf i pre) = some (a, st) ∧ a.Requests st r ∧
      ∃ c ∈ chains, ∃ inLoop, ⟨a, inLoop⟩ ∈ c.setting.form.visits := by
  have hlt : i < chains.length := by
    refine h.known i (.exchange token (.vault r) reply) ?_
    rw [hlog]
    exact List.mem_append_right _ (.head _)
  obtain ⟨es, x, hrun⟩ := h.exists_run (List.getElem?_eq_getElem hlt)
  rw [hlog, eventsOf_append, eventsOf_cons, if_pos rfl, List.append_assoc, List.cons_append] at hrun
  obtain ⟨a, st, hlatest, hrequest, hvisit⟩ := Chain.request_of_attempt hrun
  exact ⟨a, st, hlatest, hrequest, chains[i], List.getElem_mem hlt, hvisit⟩

/-- Every request got an answer from the vault as it was by then. -/
theorem Valid.answered (h : p.Valid m chains) {r : VaultRequest} {reply : Reply (.vault r)}
    (he : .exchange token (.vault r) reply ∈ eventsOfAll p.log) :
    ∃ m' : MemoryVault, (m'.answer r).1 = some reply.answer := by
  obtain ⟨before, behind, hevents⟩ := List.append_of_mem he
  have hanswers := h.answers
  rw [hevents] at hanswers
  exact ⟨_, (MemoryVault.answer_of_answers hanswers).1⟩

variable (hgentle : ∀ c ∈ chains, c.IsGentle)

include hgentle

/-- **All that happens is gentle** in gentle chains. -/
theorem Valid.isGentle (h : p.Valid m chains) {e : Event} (he : e ∈ eventsOfAll p.log) :
    e.isGentle = true := by
  obtain ⟨⟨i, e⟩, hmem, rfl⟩ := List.mem_map.mp he
  cases e with
  | remark => rfl
  | exchange token c reply =>
    cases c with
    | vault r =>
      obtain ⟨pre, post, hlog⟩ := List.append_of_mem hmem
      obtain ⟨a, st, -, hrequest, c, hc, inLoop, hvisit⟩ := h.owner hlog
      exact hrequest.isGentle (hgentle c hc _ hvisit)
    | _ => rfl

/-- The vault has grown from what it was at any time. -/
theorem Valid.grows (h : p.Valid m chains) (hlog : p.log = pre ++ post) :
    (m.behind (eventsOfAll pre)).Grows p.vault := by
  rw [h.vault, hlog, eventsOfAll_append, MemoryVault.behind_append]
  refine MemoryVault.grows_behind fun e he => h.isGentle hgentle ?_
  rw [hlog, eventsOfAll_append]
  exact List.mem_append_right _ he

/-- **What a granted request has left in a file** is still there. -/
theorem Valid.holds (h : p.Valid m chains) {r : VaultRequest} {reply : Reply (.vault r)}
    {text : String} (he : .exchange token (.vault r) reply ∈ eventsOfAll p.log)
    (hleft : ∀ m' : MemoryVault, (m'.answer r).1 = some reply.answer →
      (m'.answer r).2.Holds file text) :
    p.vault.Holds file text := by
  obtain ⟨⟨i, e⟩, hmem, hie⟩ := List.mem_map.mp he
  obtain ⟨pre, post, hlog⟩ := List.append_of_mem hmem
  obtain rfl : e = .exchange token (.vault r) reply := hie
  have hanswers : m.Answers (eventsOfAll pre ++
      .exchange token (.vault r) reply :: eventsOfAll post) := by
    have hall := h.answers
    rwa [hlog, eventsOfAll_append, eventsOfAll_cons] at hall
  obtain ⟨hanswer, hafter⟩ := MemoryVault.answer_of_answers hanswers
  have hlog' : p.log = (pre ++ [(i, .exchange token (.vault r) reply)]) ++ post := by
    rw [hlog, List.append_assoc]
    rfl
  refine (hleft _ hanswer).mono ?_
  rw [← hafter]
  have hgrows := h.grows hgentle hlog'
  rw [eventsOfAll_append, MemoryVault.behind_append] at hgrows
  exact hgrows

end Gentle

/-- **An action of a chain has created a file** with its text: the one attempted last before the
request that was granted. -/
def Created (p : Commons) (file text : String) : Prop :=
  ∃ pre post i token path reply a st,
    p.log = pre ++ (i, .exchange token (.vault (.create path text)) reply) :: post ∧
      reply.answer = .ok file ∧ latestAttempt none (eventsOf i pre) = some (a, st) ∧
      a.textIn st = some text

/-- **Nothing is lost** in a vault that chains share. -/
structure LosesNothing (m : MemoryVault) (chains : List FormRun) (p : Commons) : Prop where
  /-- No chain has broken off. -/
  unbroken : p.brokenOff = []
  /-- The vault is what the events have made of it, one after another. -/
  vault : p.vault = m.behind (eventsOfAll p.log)
  /-- **No creation changes a file that is there.** -/
  creating : ∀ {pre post i e head spec st}, p.log = pre ++ (i, e) :: post →
    latestAttempt none (eventsOf i pre) = some (.createFile head spec, st) →
    ∀ {file text}, (m.behind (eventsOfAll pre)).files.get? file = some text →
      ((m.behind (eventsOfAll pre)).after e).files.get? file = some text
  /-- **Every event leaves all texts in place**, so every write does. -/
  growing : ∀ {pre post i e}, p.log = pre ++ (i, e) :: post →
    (m.behind (eventsOfAll pre)).Grows ((m.behind (eventsOfAll pre)).after e)
  /-- In the end, a file that was there at first holds what was in it. -/
  initial : m.Grows p.vault
  /-- A file that was not there at first was created by an action, and holds its text. -/
  created : ∀ {file}, p.vault.files.get? file ≠ none → m.files.get? file = none →
    ∃ text, p.Created file text ∧ p.vault.Holds file text
  /-- **Whatever was inserted with success is held by its file.** -/
  inserted : ∀ {i c pre es post head spec n st st'}, chains[i]? = some c →
    eventsOf i p.log = pre ++ .remark (.attempt (.insertText head spec) n st) :: (es ++ post) →
    (Effect.insertText c.setting spec).Run st es (.ok ()) st' →
    ∃ file, VaultPath.normalize? (spec.pathIn st) = .ok file ∧
      p.vault.Holds file (spec.textIn st)

/-- **However gentle chains take turns, nothing is lost.** -/
theorem run_loses_nothing (m : MemoryVault) (chains : List FormRun)
    (hgentle : ∀ c ∈ chains, c.IsGentle) (turns : List Turn) :
    (run m chains turns).LosesNothing m chains := by
  have h : (run m chains turns).Valid m chains := valid_run hgentle turns
  generalize run m chains turns = p at h
  constructor
  case unbroken => exact h.unbroken
  case vault => exact h.vault
  case creating =>
    intro pre post i e head spec st hlog hlatest file text hfile
    cases e with
    | remark => exact hfile
    | exchange token c reply =>
      cases c with
      | vault r =>
        simp only [MemoryVault.after]
        split
        · obtain ⟨a, st', hlatest', hrequest, c, hc, inLoop, hvisit⟩ := h.owner hlog
          rw [hlatest] at hlatest'
          obtain ⟨rfl, rfl⟩ := Prod.mk.inj (Option.some.inj hlatest')
          cases r with
          | find | read | metadata => exact hfile
          | create => exact MemoryVault.get?_create hfile
          | write file' edit =>
            -- only an action that overwrites would have asked for this
            have hoverwrite : spec.conflict = .overwrite := hrequest.2.1
            have hnever := hgentle c hc _ hvisit
            rw [Action.isGentle, hoverwrite] at hnever
            cases hnever
        · exact hfile
      | _ => exact hfile
  case growing =>
    intro pre post i e hlog
    refine MemoryVault.grows_after (h.isGentle hgentle ?_)
    rw [hlog, eventsOfAll_append]
    exact List.mem_append_right _ (.head _)
  case initial => exact h.grows hgentle (List.nil_append _).symm
  case created =>
    intro file hfile hnone
    rw [h.vault, Option.ne_none_iff_isSome] at hfile
    obtain ⟨before, token, path, text, reply, behind, hevents, hreply⟩ :=
      MemoryVault.created_of_behind h.answers hnone hfile
    obtain ⟨pre, rest, hlog, rfl, hrest⟩ := List.map_eq_append_iff.mp hevents
    obtain ⟨⟨i, e⟩, post, rfl, rfl, rfl⟩ := List.map_eq_cons_iff.mp hrest
    obtain ⟨a, st, hlatest, hrequest, -⟩ := h.owner hlog
    refine ⟨text, ⟨pre, post, i, token, path, reply, a, st, hlog, hreply, hlatest, hrequest⟩, ?_⟩
    refine h.holds hgentle (hevents ▸ List.mem_append_right _ (.head _)) fun m' hm' => ?_
    exact MemoryVault.holds_create (by rw [hm', hreply])
  case inserted =>
    intro i c pre es post head spec n st st' hc hevents hrun
    have hes : ∀ e ∈ es, e ∈ eventsOfAll p.log := by
      intro e he
      refine mem_eventsOfAll (i := i) ?_
      rw [hevents]
      exact List.mem_append_right _ (.tail _ (List.mem_append_left _ he))
    rcases insertText_done hrun with ⟨reply, file, hmem, hreply⟩ |
      ⟨found, file, edit, reply, hfind, hfound, hmem, hreply, hinsertion, htext⟩
    · -- the file was not there, and was created with the text
      obtain ⟨m', hm'⟩ := h.answered (hes _ hmem)
      refine ⟨file, (MemoryVault.answer_create_ok (by rw [hm', hreply])).1, ?_⟩
      refine h.holds hgentle (hes _ hmem) fun m' hm' => ?_
      exact MemoryVault.holds_create (by rw [hm', hreply])
    · -- the file was found, and the text was inserted
      obtain ⟨m', hm'⟩ := h.answered (hes _ hfind)
      have hanswer := Option.some.inj (hm'.trans (congrArg some hfound))
      refine ⟨file, MemoryVault.find_eq_some hanswer, ?_⟩
      refine h.holds hgentle (hes _ hmem) fun m' hm' => ?_
      rw [← htext]
      exact MemoryVault.holds_write hinsertion (by rw [hm', hreply])

/-- A chain that inserts a text at the end of a note. -/
def inserting (text : String) : FormRun where
  setting := { form := { actions :=
    [.insertText { id := "add" } { filePath := "a.md", content := text }] } }
  start := {}

/-- The turn of a chain, in which nobody answers anything but the vault. -/
def turnOf (i : Nat) : Turn := ⟨i, Chain.withoutUser.answer, false, default⟩

/-- Two chains insert into one note. Both have found it before either writes, and what is written
first is not lost. -/
theorem two_insertions_lose_nothing :
    let note : MemoryVault := { files := [("a.md", "old")] }
    let chains := [inserting "x", inserting "y"]
    let turns := ([0, 0, 0, 0, 0, 1, 1, 1, 1, 1, 1, 0] : List Nat).map turnOf
    (∀ c ∈ chains, c.IsGentle) ∧
      (run note chains turns).vault.files.get? "a.md" = some "old\ny\nx" ∧
      (run note chains turns).vault.Holds "a.md" "old" := by
  intro note chains turns
  have hgentle : ∀ c ∈ chains, c.IsGentle := by
    simp [chains, FormRun.IsGentle, inserting, Form.visits, Action.visitsOf, Action.visitsInside,
      Action.isGentle]
  exact ⟨hgentle, by decide +kernel, (run_loses_nothing note chains hgentle turns).initial _ _ rfl⟩

end Commons

end FormChain
