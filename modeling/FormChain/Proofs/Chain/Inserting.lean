import FormChain.Proofs.Chain.Requests
import FormChain.Proofs.Vault.Files
import FormChain.Proofs.Vault.Placing

/-!
# What an insertion makes of a file

An insertion looks for its file, then for the place in it, and last asks for the edit. What this
leaves in the file is settled by the text that the file has, if all three requests meet the same
text, whoever else is at the vault meanwhile (`FormChain.MeetsFile`). A position cuts this text in
two in one way at most (`FormChain.Position.Parts`). If it does, the insertion succeeds and its
text stands between the parts on lines of its own; only behind a heading that is missing it cannot
be cut, and then the vault is left alone (`FormChain.insertText_into_file`).
-/

namespace FormChain

/-! ### Where a text is cut -/

/-- **A text cut in two at a position**: behind its frontmatter, behind all of it, or behind the
first line that is the heading, which must not be blank. -/
def Position.Parts (position : Position) (heading : Option String) (upto behind : List Char) :
    Prop :=
  match position with
  | .top => Frontmatter.IsFront (upto ++ behind) upto
  | .bottom => behind = []
  | .afterHeading => ∃ wanted, heading = some wanted ∧ isBlankText wanted = false ∧
      Edit.PartsAtHeading wanted.toList upto behind

/-- The heading that a text goes behind, in a state. -/
def InsertText.headingIn (a : InsertText) (st : ChainState) : Option String :=
  a.heading.map fun heading => (st.draw heading).1

section Parts

variable {position : Position} {heading : Option String} {upto behind upto' behind' : List Char}

/-- **There is one place at most** to cut a text at. -/
theorem Position.Parts.unique (h : position.Parts heading upto behind)
    (h' : position.Parts heading upto' behind') (htext : upto ++ behind = upto' ++ behind') :
    upto = upto' ∧ behind = behind' := by
  have hupto : upto = upto' := by
    cases position with
    | top =>
      change Frontmatter.IsFront _ _ at h h'
      rw [Frontmatter.isFront_iff] at h h'
      rw [h, h', htext]
    | bottom =>
      obtain rfl : behind = [] := h
      obtain rfl : behind' = [] := h'
      rwa [List.append_nil, List.append_nil] at htext
    | afterHeading =>
      obtain ⟨wanted, rfl, -, hparts⟩ := h
      obtain ⟨wanted', hwanted, -, hparts'⟩ := h'
      obtain rfl := Option.some.inj hwanted
      have hcut := Edit.cutAfterHeading?_eq_some_iff.mpr ⟨htext, hparts⟩
      rw [Edit.cutAfterHeading?_eq_some_iff.mpr ⟨rfl, hparts'⟩] at hcut
      exact (Prod.mk.inj (Option.some.inj hcut)).1.symm
  subst hupto
  exact ⟨rfl, List.append_cancel_left htext⟩

end Parts

/-! ### Requests that meet a file -/

/-- **All requests meet a file with a text**: each is answered by a vault that has the file under
its path, with this text. What else there is may differ from one request to the next. -/
def MeetsFile (path file text : String) (es : List Event) : Prop :=
  ∀ token r reply, .exchange token (.vault r) reply ∈ es →
    ∃ v : Vault, v.Has path file text ∧ v.ask r = some reply.answer

/-- **Events that leave every vault alone.** -/
def LeavesVaults (es : List Event) : Prop :=
  ∀ token r reply, .exchange token (.vault r) reply ∈ es → ∀ v : Vault, (v.answer r).2 = v

section Meeting

variable {path file text : String} {es es' : List Event} {token : Token} {r : VaultRequest}
  {reply : Reply (.vault r)}

theorem MeetsFile.mono (h : MeetsFile path file text es) (hsub : ∀ e ∈ es', e ∈ es) :
    MeetsFile path file text es' :=
  fun token r reply hmem => h token r reply (hsub _ hmem)

theorem MeetsFile.append (h : MeetsFile path file text es) (h' : MeetsFile path file text es') :
    MeetsFile path file text (es ++ es') := by
  intro token r reply hmem
  exact (List.mem_append.mp hmem).elim (h token r reply) (h' token r reply)

/-- A request meets the file where a vault that has it gives the answer. -/
theorem meetsFile_singleton {v : Vault} (hv : v.Has path file text)
    (h : v.ask r = some reply.answer) :
    MeetsFile path file text [.exchange token (.vault r) reply] := by
  intro token' r' reply' hmem
  cases List.mem_singleton.mp hmem
  exact ⟨v, hv, h⟩

theorem leavesVaults_nil : LeavesVaults [] := nofun

/-- A request that only reads leaves every vault alone. -/
theorem leavesVaults_cons (hr : r.isReading = true) (h : LeavesVaults es) :
    LeavesVaults (.exchange token (.vault r) reply :: es) := by
  intro token' r' reply' hmem v
  rcases List.mem_cons.mp hmem with heq | hmem
  · cases heq
    exact Vault.answer_of_isReading hr
  · exact h token' r' reply' hmem v

end Meeting

/-! ### Steps that ask the vault -/

section Steps

variable {s : ChainSetting} {α : Type} {st st' : ChainState} {es : List Event}

/-- **A request in front of a step**: it is refused and nothing follows, or the step goes on from
its answer. -/
theorem run_askVault_bind {r : VaultRequest} {k : r.Answer → Effect α}
    {result : Except ActionError α} :
    (Effect.askVault s r >>= k).Run st es result st' ↔
      ∃ (reply : Reply (.vault r)) (es' : List Event),
        es = .exchange s.token (.vault r) reply :: es' ∧
          ((∃ e, reply.answer = .error e ∧ es' = [] ∧ result = .error (.vault e) ∧
              st' = st.afterReply reply) ∨
            ∃ answer, reply.answer = .ok answer ∧
              (k answer).Run (st.afterReply reply) es' result st') := by
  rw [Effect.askVault, bind_assoc, Step.run_ask_bind]
  refine exists_congr fun reply => exists_congr fun es' => and_congr_right fun _ => ?_
  rw [Step.run_ofExcept_bind]
  cases reply.answer with
  | error e => simp
  | ok answer => simp

/-- A request alone. -/
theorem run_askVault {r : VaultRequest} {result : Except ActionError r.Answer} :
    (Effect.askVault s r).Run st es result st' ↔
      ∃ reply : Reply (.vault r), es = [.exchange s.token (.vault r) reply] ∧
        result = reply.answer.mapError .vault ∧ st' = st.afterReply reply := by
  rw [Effect.askVault, Step.run_ask_bind]
  simp only [Step.run_ofExcept]
  constructor
  · rintro ⟨reply, _, rfl, rfl, h⟩
    exact ⟨reply, rfl, h⟩
  · rintro ⟨reply, rfl, h⟩
    exact ⟨reply, [], rfl, rfl, h⟩

/-- A template that may be missing, in front of a step. -/
theorem run_expandOption_bind {template : Option String} {k : Option String → Effect α}
    {result : Except ActionError α}
    (h : (Step.expandOption template >>= k).Run st es result st') :
    ∃ st₁, (k (template.map fun t => (st.draw t).1)).Run st₁ es result st' := by
  cases template with
  | none => exact ⟨st, h⟩
  | some t => exact ⟨(st.draw t).2, h⟩

end Steps

/-! ### The edit that is asked for -/

section Insertions

variable {s : ChainSetting} {a : InsertText} {path file content text : String}
  {st st' : ChainState} {es : List Event}

/-- **The edit puts the text between the parts** of the text that there is. -/
structure Edit.PutsBetween (edit : Edit) (old content : String) (upto behind : List Char) :
    Prop where
  /-- The old text is cut in two. -/
  parts : upto ++ behind = old.toList
  /-- The new one has the content between the parts. -/
  applied : edit.applied? old =
    some (String.ofList (Edit.onOwnLines upto content.toList behind))

/-- What is wrong with a heading behind which nothing can be inserted. -/
def headingMisuse (path : String) (heading : Option String) : Misuse :=
  match heading.filter (!isBlankText ·) with
  | none => .headingNeeded
  | some wanted => .headingNotFound wanted path

/-- **The edit that is come to**, where all requests meet the file: it puts the content where its
position cuts the text. Only where a heading is missing there is no such edit. -/
theorem run_insertionOf {result : Except ActionError Edit}
    (hrun : (insertionOf s a path file content).Run st es result st')
    (hmeets : MeetsFile path file text es) :
    LeavesVaults es ∧
    ((∃ edit upto behind, result = .ok edit ∧ edit.PutsBetween text content upto behind ∧
        a.position.Parts (a.headingIn st) upto behind) ∨
      a.position = .afterHeading ∧
        result = .error (.misuse (headingMisuse path (a.headingIn st))) ∧
        ∀ upto behind, upto ++ behind = text.toList →
          ¬ a.position.Parts (a.headingIn st) upto behind) := by
  rw [insertionOf] at hrun
  cases hposition : a.position with
  | top =>
    simp only [hposition, Effect.topEdit] at hrun
    obtain ⟨reply, es', rfl, hanswer⟩ := run_askVault_bind.mp hrun
    obtain ⟨v, hv, hreply⟩ := hmeets _ _ _ (.head _)
    rw [← Option.some.inj (hv.metadata.symm.trans hreply)] at hanswer
    rcases hanswer with ⟨e, he, -⟩ | ⟨answer, hanswer, hpure⟩
    · cases he
    obtain rfl := Except.ok.inj hanswer
    obtain ⟨rfl, rfl, -⟩ := Step.run_pure.mp hpure
    refine ⟨leavesVaults_cons rfl leavesVaults_nil, Or.inl ?_⟩
    obtain ⟨behind, htext⟩ := @Frontmatter.front_isPrefix text.toList
    refine ⟨_, Frontmatter.front text.toList, behind, rfl, ⟨htext, ?_⟩, ?_⟩
    · simp only [Option.bind_some, Frontmatter.stop_range?]
      exact Edit.applied?_insertAt content htext
    · change Frontmatter.IsFront _ _
      rw [Frontmatter.isFront_iff, htext]
  | bottom =>
    simp only [hposition] at hrun
    obtain ⟨rfl, rfl, -⟩ := Step.run_pure.mp hrun
    refine ⟨leavesVaults_nil, Or.inl ⟨_, text.toList, [], rfl, ⟨List.append_nil _, ?_⟩, rfl⟩⟩
    exact Edit.applied?_insertAtEnd text content
  | afterHeading =>
    simp only [hposition, Effect.headingEdit] at hrun
    obtain ⟨st₁, hrun⟩ := run_expandOption_bind hrun
    rw [← InsertText.headingIn] at hrun
    cases hfilter : (a.headingIn st).filter (!isBlankText ·) with
    | none =>
      simp only [hfilter] at hrun
      obtain ⟨rfl, rfl, -⟩ := Step.run_throw.mp hrun
      refine ⟨leavesVaults_nil, Or.inr ⟨rfl, by rw [headingMisuse, hfilter], ?_⟩⟩
      rintro upto behind - ⟨wanted, hwanted, hblank, -⟩
      rw [hwanted, Option.filter_some, hblank] at hfilter
      cases hfilter
    | some wanted =>
      obtain ⟨hwanted, hblank⟩ := Option.filter_eq_some_iff.mp hfilter
      simp only [hfilter] at hrun
      obtain ⟨reply, es', rfl, hanswer⟩ := run_askVault_bind.mp hrun
      obtain ⟨v, hv, hreply⟩ := hmeets _ _ _ (.head _)
      rw [← Option.some.inj (hv.read.symm.trans hreply)] at hanswer
      rcases hanswer with ⟨e, he, -⟩ | ⟨answer, hanswer, hrest⟩
      · cases he
      obtain rfl := Except.ok.inj hanswer
      cases hcut : Edit.cutAfterHeading? wanted text.toList with
      | none =>
        simp only [hcut, Option.isNone_none, if_true] at hrest
        obtain ⟨rfl, rfl, -⟩ := Step.run_throw_bind.mp hrest
        refine ⟨leavesVaults_cons rfl leavesVaults_nil, Or.inr ⟨rfl, ?_, ?_⟩⟩
        · rw [headingMisuse, hfilter]
        · rintro upto behind htext ⟨wanted', hwanted', -, hparts⟩
          obtain rfl := Option.some.inj (hwanted.symm.trans hwanted')
          rw [Edit.cutAfterHeading?_eq_some_iff.mpr ⟨htext, hparts⟩] at hcut
          cases hcut
      | some parts =>
        simp only [hcut, Option.isNone_some] at hrest
        obtain ⟨rfl, rfl, -⟩ := Step.run_pure.mp hrest
        obtain ⟨htext, hparts⟩ := Edit.cutAfterHeading?_eq_some_iff.mp hcut
        refine ⟨leavesVaults_cons rfl leavesVaults_nil, Or.inl ?_⟩
        refine ⟨_, parts.1, parts.2, rfl, ⟨htext, ?_⟩, wanted, hwanted, by simpa using hblank,
          hparts⟩
        exact Edit.applied?_insertAfterHeading content htext hparts

/-- The edit is granted by every vault that has the file, and leaves the new text there. -/
theorem Edit.PutsBetween.granted {edit : Edit} {upto behind : List Char} {v : Vault}
    (h : edit.PutsBetween text content upto behind) (hv : v.Has path file text) :
    v.ask (.write file edit) = some (.ok ()) ∧
      (v.answer (.write file edit)).2.ask (.read file) =
        some (.ok (String.ofList (Edit.onOwnLines upto content.toList behind))) :=
  hv.write h.applied

/-- The state in which the heading is looked up: behind the path and the text, and with what was
known when the file had been found. -/
def InsertText.searching (a : InsertText) (st : ChainState)
    (found : Reply (.vault (.find (a.pathIn st)))) : ChainState :=
  ((st.draw a.filePath).2.draw a.content).2.afterReply found

/-- **An insertion looks for its file first.** It fails with the vault, or goes on by what was
found. -/
theorem run_insertText {result : Except ActionError Unit} :
    (Effect.insertText s a).Run st es result st' ↔
      ∃ (found : Reply (.vault (.find (a.pathIn st)))) (es' : List Event),
        es = .exchange s.token (.vault (.find (a.pathIn st))) found :: es' ∧
          ((∃ e, found.answer = .error e ∧ es' = [] ∧ result = .error (.vault e) ∧
              st' = a.searching st found) ∨
            ∃ file?, found.answer = .ok file? ∧
              (insertInto s a (a.pathIn st) (a.textIn st) file?).Run (a.searching st found) es'
                result st') := by
  rw [insertText_eq]
  exact (Step.run_expand_bind.trans Step.run_expand_bind).trans run_askVault_bind

/-- **What an insertion leaves in a file** whose text all its requests meet. It finds the file.
Where its position cuts the text in two, it succeeds, and asks last for an edit that every vault
with the file grants: from then on the file has the part before, the text of the insertion and the
part behind, with a line feed in front of the text if there is a part before it that does not end
in one, and behind the text if there is a part behind it and the text does not end in one. Nothing
else is changed. Where the text cannot be cut, the position is behind a heading; then the
insertion fails, as it needs a heading or as the heading is not there, and changes nothing. -/
theorem insertText_into_file {result : Except ActionError Unit}
    (hrun : (Effect.insertText s a).Run st es result st')
    (hmeets : MeetsFile (a.pathIn st) file text es) :
    ∃ (found : Reply (.vault (.find (a.pathIn st)))) (es' : List Event),
      es = .exchange s.token (.vault (.find (a.pathIn st))) found :: es' ∧
      (∀ upto behind, upto ++ behind = text.toList →
        a.position.Parts (a.headingIn (a.searching st found)) upto behind →
        result = .ok () ∧
        ∃ front edit reply,
          es' = front ++ [.exchange s.token (.vault (.write file edit)) reply] ∧
          LeavesVaults front ∧
          ∀ v : Vault, v.Has (a.pathIn st) file text →
            v.ask (.write file edit) = some (.ok ()) ∧
            (v.answer (.write file edit)).2.ask (.read file) = some (.ok (String.ofList
              (upto ++ (if upto ≠ [] ∧ upto.getLast? ≠ some '\n' then ['\n'] else []) ++
                (a.textIn st).toList ++
                (if behind ≠ [] ∧ (a.textIn st).toList.getLast? ≠ some '\n' then ['\n'] else []) ++
                behind)))) ∧
      ((∀ upto behind, upto ++ behind = text.toList →
          ¬ a.position.Parts (a.headingIn (a.searching st found)) upto behind) →
        a.position = .afterHeading ∧
        result = .error (.misuse
          (headingMisuse (a.pathIn st) (a.headingIn (a.searching st found)))) ∧
        LeavesVaults es) := by
  obtain ⟨found, es', rfl, hfound⟩ := run_insertText.mp hrun
  refine ⟨found, es', rfl, ?_⟩
  -- the file is found
  obtain ⟨v, hv, hreply⟩ := hmeets _ _ _ (.head _)
  rw [← Option.some.inj (hv.found.symm.trans hreply)] at hfound
  rcases hfound with ⟨e, he, -⟩ | ⟨_, hfile, hinsert⟩
  · cases he
  obtain rfl := Except.ok.inj hfile
  -- an edit is come to, and asked for
  rcases Step.run_bind.mp hinsert with ⟨e, hedit, rfl⟩ | ⟨es₁, edit, st₁, es₂, rfl, hedit, hwrite⟩
  · obtain ⟨hleaves, hcase⟩ := run_insertionOf hedit (hmeets.mono fun _ he => .tail _ he)
    rcases hcase with ⟨_, _, _, he, -⟩ | ⟨hposition, he, hno⟩
    · cases he
    refine ⟨fun upto behind htext hparts => absurd hparts (hno upto behind htext), fun _ => ?_⟩
    exact ⟨hposition, congrArg Except.error (Except.error.inj he), leavesVaults_cons rfl hleaves⟩
  · obtain ⟨hleaves, hcase⟩ := run_insertionOf hedit
      (hmeets.mono fun _ he => .tail _ (List.mem_append_left _ he))
    obtain ⟨edit', upto, behind, hok, hputs, hparts⟩ := hcase.resolve_right (by simp)
    obtain rfl := Except.ok.inj hok
    obtain ⟨reply, rfl, rfl, -⟩ := run_askVault.mp hwrite
    obtain ⟨v', hv', hreply'⟩ := hmeets _ _ _ (.tail _ (List.mem_append_right _ (.head _)))
    refine ⟨fun upto' behind' htext' hparts' => ?_, fun hno => ?_⟩
    · obtain ⟨rfl, rfl⟩ := hparts.unique hparts' (hputs.parts.trans htext'.symm)
      refine ⟨?_, es₁, edit, reply, rfl, hleaves, fun w hw => ?_⟩
      · rw [← Option.some.inj ((hputs.granted hv').1.symm.trans hreply')]
        rfl
      · rw [← Edit.onOwnLines_eq]
        exact hputs.granted hw
    · exact absurd hparts (hno upto behind hputs.parts)

/-- **Where a vault has the file, an insertion comes to an end** at which it has met the file: no
request of it breaks off. -/
theorem exists_insertText_meeting (s : ChainSetting) (a : InsertText) (st : ChainState) {v : Vault}
    (hv : v.Has (a.pathIn st) file text) :
    ∃ es result st', (Effect.insertText s a).Run st es result st' ∧
      MeetsFile (a.pathIn st) file text es := by
  let b : Behaviour := Script.withVault fun _ r => v.ask r
  have hrun : (Effect.insertText s a).Run st (((Effect.insertText s a) st).under b []).1
      (((Effect.insertText s a) st).under b []).2.1 (((Effect.insertText s a) st).under b []).2.2 :=
    Script.run_under b (Effect.insertText s a st) []
  have hmeet {token : Token} {r : VaultRequest} {reply : Reply (.vault r)}
      (hmem : .exchange token (.vault r) reply ∈ (((Effect.insertText s a) st).under b []).1)
      (h : ∃ answer, v.ask r = some answer) : v.ask r = some reply.answer := by
    obtain ⟨before, rfl⟩ := Script.reply_of_under hmem
    obtain ⟨answer, hanswer⟩ := h
    exact hanswer.trans (congrArg some (Script.answer_withVault hanswer).symm)
  refine ⟨_, _, _, hrun, ?_⟩
  generalize ((Effect.insertText s a) st).under b [] = seen at hrun hmeet ⊢
  obtain ⟨es, result, st'⟩ := seen
  obtain ⟨found, es', rfl, hfound⟩ := run_insertText.mp hrun
  have hfind := hmeet (.head _) ⟨_, hv.found⟩
  rw [← Option.some.inj (hv.found.symm.trans hfind)] at hfound
  rcases hfound with ⟨e, he, -⟩ | ⟨_, hfile, hinsert⟩
  · cases he
  obtain rfl := Except.ok.inj hfile
  have hreads := (makesInsertion_insertionOf s a (a.pathIn st) file (a.textIn st)
    (a.searching st found) (P := fun r => r.isReading = true) fun _ hr => hr).asksOnly
  have hmeets {es₁ : List Event} (hsub : ∀ e ∈ es₁, e ∈ es')
      (hreading : ∀ token r reply, .exchange token (.vault r) reply ∈ es₁ → r.isReading = true) :
      MeetsFile (a.pathIn st) file text es₁ := by
    intro token r reply hmem
    refine ⟨v, hv, hmeet (.tail _ (hsub _ hmem)) (v.exists_answer ?_)⟩
    have hr := hreading token r reply hmem
    cases r <;> first | rfl | cases hr
  refine (meetsFile_singleton hv hfind).append ?_
  rcases Step.run_bind.mp hinsert with ⟨e, hedit, rfl⟩ | ⟨es₁, edit, st₁, es₂, rfl, hedit, hwrite⟩
  · exact hmeets (fun _ he => he) (hreads _ _ _ hedit)
  · have hmeets₁ := hmeets (fun _ he => List.mem_append_left _ he) (hreads _ _ _ hedit)
    obtain ⟨edit', upto, behind, hok, hputs, -⟩ :=
      (run_insertionOf hedit hmeets₁).2.resolve_right (by simp)
    obtain rfl := Except.ok.inj hok
    obtain ⟨reply, rfl, rfl, -⟩ := run_askVault.mp hwrite
    refine hmeets₁.append (meetsFile_singleton hv ?_)
    exact hmeet (.tail _ (List.mem_append_right _ (.head _))) ⟨_, (hputs.granted hv).1⟩

/-- An insertion behind the heading of a log. -/
def logging : InsertText where
  filePath := "note"
  content := "new"
  position := .afterHeading
  heading := some "## Log"

/-- A vault with a note that has a log. -/
def logged : MemoryVault where
  files := [("note.md", "---\na: é\n---\n# Log \nold")]

/-- What is new goes behind the heading, in front of what is old. -/
theorem logging_goes_behind_heading :
    ∃ es st' edit, (Effect.insertText { form := {} } logging).Run {} es (.ok ()) st' ∧
      MeetsFile (logging.pathIn {}) "note.md" "---\na: é\n---\n# Log \nold" es ∧
      ((Vault.memory logged).answer (.write "note.md" edit)).2.ask (.read "note.md") =
        some (.ok "---\na: é\n---\n# Log \nnew\nold") := by
  have hpath : logging.pathIn {} = "note.md" := by decide
  have hv : (Vault.memory logged).Has (logging.pathIn {}) "note.md"
      "---\na: é\n---\n# Log \nold" := ⟨by rw [hpath]; rfl, rfl⟩
  obtain ⟨es, result, st', hrun, hmeets⟩ := exists_insertText_meeting { form := {} } logging {} hv
  obtain ⟨found, es', rfl, hparts, -⟩ := insertText_into_file hrun hmeets
  have hcut : logging.position.Parts (logging.headingIn (logging.searching {} found))
      "---\na: é\n---\n# Log \n".toList "old".toList :=
    ⟨"## Log", rfl, by decide, ["---\n".toList, "a: é\n".toList, "---\n".toList],
      "# Log \n".toList, ["old".toList], by decide, by decide, by decide, by decide, by decide⟩
  obtain ⟨rfl, front, edit, reply, -, -, hgranted⟩ := hparts _ _ (by decide) hcut
  refine ⟨_, st', edit, hrun, hmeets, (hgranted _ hv).2.trans ?_⟩
  decide

end Insertions

end FormChain
