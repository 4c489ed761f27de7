import FormChain.Proofs.Script.Rehearsed
import FormChain.Proofs.Submission.Notices
import FormChain.Rehearsal.CommandLine

/-!
# What the program exits with

A submission from the command line has one of four ends: the form cannot be loaded, a required
answer is lacking, the chain of the form is moved behind the user's back, or it is carried out
and has an outcome. Which one it is can be told from what has happened
(`FormChain.CommandLine.Ends.unique`).

The number that the program exits with tells the outcome of a chain that was carried out in
front of the user. Of a chain behind the user's back it tells nothing: the program waits for its
end, and then exits with zero (`FormChain.CommandLine.exitCode_tells_ending`,
`FormChain.CommandLine.exitCode_of_failure_behind`).
-/

namespace FormChain

namespace CommandLine

open Script Submission

/-! ### Ends of a submission -/

/-- **How a submission from the command line ends.** -/
inductive Ending where
  /-- The form cannot be loaded, or breaks a rule. -/
  | notLoaded (e : SubmitError)
  /-- The answer of a required field is lacking. -/
  | lacking (field : Field)
  /-- The chain of the form is moved behind the user's back. -/
  | movedAway (form : Form)
  /-- The chain of the form is carried out. -/
  | carriedOut (form : Form) (outcome : Chain.Outcome)

/-- The number that stands for an end. -/
def Ending.code : Ending → Nat
  | notLoaded _ => failureCode
  | lacking _ => failureCode
  | movedAway _ => successCode
  | carriedOut _ .completed => successCode
  | carriedOut _ .aborted => abortCode
  | carriedOut _ (.failed _) => failureCode

/-- **A missing answer is looked for** at some time, by what happens and what is found. -/
abbrev LooksFor (form : Form) (given : Bag) (now : LocalMoment) (es : List Event)
    (lacking : Option Field) : Prop :=
  (form.missing? (Submission.decode 0) (form.withDefaults given) now :
    Script (Option Field)).Run es lacking

/-- **Where the submission of a form ends**, by what happens in it. -/
inductive FormEnds (config : Config) (given : Bag) (timeout : Option Nat) (form : Form) :
    List Event → Ending → Prop where
  /-- A required answer is lacking at the time of the submission. -/
  | lacking {look : Reply .look} {tests rest : List Event} {field : Field} :
    LooksFor form given look.now tests (some field) →
    FormEnds config given timeout form (.exchange 0 .look look :: (tests ++ rest)) (.lacking field)
  /-- The form is one of those whose chains run behind the user's back. -/
  | movedAway {look : Reply .look} {tests rest : List Event} :
    LooksFor form given look.now tests none → form.inBackground = true →
    FormEnds config given timeout form (.exchange 0 .look look :: (tests ++ rest))
      (.movedAway form)
  /-- The chain is carried out under the token of a session. -/
  | carriedOut {look : Reply .look} {tests es₁ es₂ rest : List Event} {lease : Lease}
    {outcome : Chain.Outcome} :
    LooksFor form given look.now tests none → form.inBackground = false →
    (takeLease config 0 form (submitOptions timeout) none).Run es₁ lease →
    (chain config (launcher config) lease.token lease.session form
      (form.withDefaults given) look.now).Run es₂ outcome →
    FormEnds config given timeout form
      (.exchange 0 .look look :: (tests ++ (es₁ ++ (es₂ ++ rest)))) (.carriedOut form outcome)

/-- **Where the submission of the form of a path ends**, by what happens in it. -/
inductive Ends (config : Config) (path : String) (given : Bag) (timeout : Option Nat) :
    List Event → Ending → Prop where
  /-- The form cannot be loaded. -/
  | notLoaded {es : List Event} {e : SubmitError} :
    (load path).run.Run es (.error e) → Ends config path given timeout es (.notLoaded e)
  /-- The form is submitted. -/
  | submitted {es es' : List Event} {form : Form} {ending : Ending} :
    (load path).run.Run es (.ok form) → FormEnds config given timeout form es' ending →
    Ends config path given timeout (es ++ es') ending

section Endings

variable {config : Config} {path : String} {given : Bag} {timeout : Option Nat} {form : Form}
  {es : List Event} {ending ending' : Ending} {r : Except SubmitError SubmitStatus}

/-- What happens tells what is found to be lacking. -/
theorem lacking_unique {look look' : Reply .look} {tests tests' rest rest' : List Event}
    {lacking lacking' : Option Field} (h : LooksFor form given look.now tests lacking)
    (h' : LooksFor form given look'.now tests' lacking')
    (heq : Event.exchange 0 .look look :: (tests ++ rest) =
      .exchange 0 .look look' :: (tests' ++ rest')) :
    look = look' ∧ lacking = lacking' ∧ rest = rest' := by
  obtain ⟨hlook, htail⟩ := List.cons.inj heq
  cases hlook
  obtain ⟨-, rfl, rfl⟩ := h.unique_of_prefix h' htail
  exact ⟨rfl, rfl, rfl⟩

/-- What happens in the submission of a form tells where it ends. -/
theorem FormEnds.unique (h : FormEnds config given timeout form es ending)
    (h' : FormEnds config given timeout form es ending') : ending = ending' := by
  generalize hes : es = es' at h'
  -- what happens begins with a look and the tests behind it, which decide what is lacking
  cases h with
  | lacking hlacking =>
    cases h' with
    | lacking hlacking' =>
      obtain ⟨-, hfield, -⟩ := lacking_unique hlacking hlacking' hes
      rw [Option.some.inj hfield]
    | movedAway hlacking' _ | carriedOut hlacking' _ _ _ =>
      cases (lacking_unique hlacking hlacking' hes).2.1
  | movedAway hlacking haway =>
    cases h' with
    | lacking hlacking' => cases (lacking_unique hlacking hlacking' hes).2.1
    | movedAway => rfl
    | carriedOut _ haway' _ _ => cases haway.symm.trans haway'
  | carriedOut hlacking haway hlease hchain =>
    cases h' with
    | lacking hlacking' => cases (lacking_unique hlacking hlacking' hes).2.1
    | movedAway _ haway' => cases haway.symm.trans haway'
    | carriedOut hlacking' _ hlease' hchain' =>
      -- no run goes on behind another one, so lease and chain are the same ones
      obtain ⟨rfl, -, htail⟩ := lacking_unique hlacking hlacking' hes
      obtain ⟨-, rfl, htail⟩ := hlease.unique_of_prefix hlease' htail
      obtain ⟨-, rfl, -⟩ := hchain.unique_of_prefix hchain' htail
      rfl

/-- **What happens in a submission tells where it ends.** -/
theorem Ends.unique (h : Ends config path given timeout es ending)
    (h' : Ends config path given timeout es ending') : ending = ending' := by
  generalize hes : es = es' at h'
  cases h with
  | notLoaded hload =>
    cases h' with
    | notLoaded hload' =>
      obtain ⟨-, hr, -⟩ := hload.unique_of_prefix hload' (congrArg (· ++ []) hes)
      cases hr
      rfl
    | submitted hload' _ =>
      obtain ⟨-, hr, -⟩ := hload.unique_of_prefix hload' ((List.append_nil _).trans hes)
      cases hr
  | submitted hload hform =>
    cases h' with
    | notLoaded hload' =>
      obtain ⟨-, hr, -⟩ := hload.unique_of_prefix hload' (hes.trans (List.append_nil _).symm)
      cases hr
    | submitted hload' hform' =>
      obtain ⟨-, hr, htail⟩ := hload.unique_of_prefix hload' hes
      cases hr
      cases htail
      exact hform.unique hform'

/-! ### Codes -/

/-- The number of a chain that was carried out in front of the user is that of its outcome. -/
theorem exitCode_of_foreground {launcher : Launcher} {token : Token} {lease : Lease}
    {values : Bag} {nested : Bool} {now : LocalMoment}
    (h : (foreground config launcher token lease form values nested now).Run es r) :
    ∃ es₁ outcome es₂, es = es₁ ++ es₂ ∧
      (chain config launcher token lease.session form values now).Run es₁ outcome ∧
      exitCode r = (Ending.carriedOut form outcome).code := by
  obtain ⟨es₁, outcome, es₂, rfl, hchain, h⟩ := Script.run_bind.mp h
  obtain ⟨_, expired, _, -, -, h⟩ := Script.run_bind.mp h
  obtain ⟨_, _, es₃, -, -, hreport⟩ := Script.run_bind.mp h
  obtain ⟨-, rfl⟩ := noticesOf_report hreport
  refine ⟨es₁, outcome, es₂, rfl, hchain, ?_⟩
  cases outcome <;> rfl

/-- **The submission of a form has an end**, and its result has the number of this end. -/
theorem exists_formEnds
    (h : (submit config form given (submitOptions timeout)).run.Run es r) :
    ∃ ending, FormEnds config given timeout form es ending ∧ exitCode r = ending.code := by
  unfold submit submitWithin at h
  rw [run_liftM_bind] at h
  obtain ⟨_, look, es', rfl, hlook, hrest⟩ := Script.run_bind.mp h
  obtain ⟨_, _, rfl, hdone⟩ := run_ask.mp hlook
  obtain ⟨rfl, rfl⟩ := run_done.mp hdone
  rw [run_liftM_bind] at hrest
  obtain ⟨tests, lacking, _, rfl, hlacking, hrest⟩ := Script.run_bind.mp hrest
  cases lacking with
  | some field =>
    rw [run_liftM_bind] at hrest
    obtain ⟨_, _, _, rfl, -, hthrow⟩ := Script.run_bind.mp hrest
    obtain ⟨-, rfl⟩ := run_done.mp hthrow
    exact ⟨_, @FormEnds.lacking _ _ _ _ _ tests _ _ hlacking, rfl⟩
  | none =>
    rw [run_liftM_bind] at hrest
    obtain ⟨es₁, lease, es₂, rfl, hlease, hbranch⟩ := Script.run_bind.mp hrest
    split at hbranch
    case isTrue haway =>
      rw [run_liftM] at hbranch
      obtain ⟨_, status, _, rfl, hmove, hdone⟩ := Script.run_bind.mp hbranch
      obtain ⟨rfl, rfl⟩ := run_done.mp hdone
      obtain ⟨-, rfl⟩ := run_moveAway hmove
      have hbackground := (Bool.and_eq_true_iff.mp haway).1
      exact ⟨_, @FormEnds.movedAway _ _ _ _ _ tests _ hlacking hbackground, rfl⟩
    case isFalse hstays =>
      obtain ⟨es₃, outcome, es₄, rfl, hchain, hcode⟩ := exitCode_of_foreground hbranch
      have hforeground : form.inBackground = false := by
        simpa [submitOptions] using hstays
      have hends : FormEnds config given timeout form
          (.exchange 0 .look look :: (tests ++ (es₁ ++ (es₃ ++ es₄))))
          (.carriedOut form outcome) :=
        .carriedOut hlacking hforeground hlease hchain
      exact ⟨_, hends, hcode⟩

/-- **A submission has an end**, and its result has the number of this end. -/
theorem exists_ends
    (h : (submitPath config path given (submitOptions timeout)).run.Run es r) :
    ∃ ending, Ends config path given timeout es ending ∧ exitCode r = ending.code := by
  rw [submitPath, Submission.run_bind] at h
  obtain ⟨es₁, loaded, es₂, rfl, hload, h⟩ := Script.run_bind.mp h
  cases loaded with
  | error e =>
    obtain ⟨rfl, rfl⟩ := run_done.mp h
    rw [List.append_nil]
    exact ⟨_, .notLoaded hload, rfl⟩
  | ok form =>
    obtain ⟨ending, hends, hcode⟩ := exists_formEnds h
    exact ⟨ending, .submitted hload hends, hcode⟩

/-- The result of the main script comes of one of its runs. -/
theorem run_of_runMain {α : Type} {s : Script α} {st : Rehearsal.ServiceState} {a : α}
    (h : (Rehearsal.runMain config s st).1 = some a) : ∃ es, s.Run es a := by
  rw [Rehearsal.runMain] at h
  exact Rehearsal.run_of_play h

/-- The program exits with the number of the result, where there is one. -/
theorem submitAndWait_fst {st : Rehearsal.ServiceState}
    (h : (Rehearsal.runMain config (submitPath config path given (submitOptions timeout)).run
      st).1 = some r) :
    (Rehearsal.submitAndWait config path given timeout st).1 = exitCode r := by
  unfold Rehearsal.submitAndWait
  dsimp only
  generalize Rehearsal.runMain config (submitPath config path given (submitOptions timeout)).run
    st = main at h
  obtain ⟨result, st'⟩ := main
  obtain rfl : result = some r := h
  rcases r with e | _ | _ | _ <;> rfl

end Endings

/-- **The number that the program exits with tells the end of the submission.** It does so
under every behaviour of the surroundings, and in every rehearsal that comes to a result. -/
theorem exitCode_tells_ending (config : Config) (path : String) (given : Bag)
    (timeout : Option Nat) :
    (∀ (b : Behaviour) (before : List Event),
      let run := (submitPath config path given (submitOptions timeout)).run.under b before
      ∃ ending, Ends config path given timeout run.1 ending ∧
        (∀ other, Ends config path given timeout run.1 other → other = ending) ∧
        exitCode run.2 = ending.code) ∧
    ∀ st : Rehearsal.ServiceState,
      (Rehearsal.runMain config (submitPath config path given (submitOptions timeout)).run
        st).1 = none ∨
      ∃ es r ending, (submitPath config path given (submitOptions timeout)).run.Run es r ∧
        Ends config path given timeout es ending ∧
        (Rehearsal.submitAndWait config path given timeout st).1 = ending.code := by
  refine ⟨fun b before => ?_, fun st => ?_⟩
  · have hrun := run_under b
      (submitPath config path given (submitOptions timeout)).run before
    obtain ⟨ending, hends, hcode⟩ := exists_ends hrun
    exact ⟨ending, hends, fun other hother => hother.unique hends, hcode⟩
  · cases hmain : (Rehearsal.runMain config
      (submitPath config path given (submitOptions timeout)).run st).1 with
    | none => exact .inl rfl
    | some r =>
      obtain ⟨es, hrun⟩ := run_of_runMain hmain
      obtain ⟨ending, hends, hcode⟩ := exists_ends hrun
      exact .inr ⟨es, r, ending, hrun, hends, (submitAndWait_fst hmain).trans hcode⟩

/-- A form whose only action fails. -/
def failingForm (behind : Bool) : String :=
  "\x7b\"runInBackground\": " ++ (if behind then "true" else "false") ++
    ", \"actions\": [\x7b\"type\": \"insertText\", \"id\": \"note\", " ++
    "\"filePath\": \"missing.md\", \"content\": \"x\"\x7d]\x7d"

/-- **A chain that fails behind the user's back** is reported in the same words as one that
fails in front of the user, but the program exits as after one that was carried out. -/
theorem exitCode_of_failure_behind :
    let submit (behind : Bool) := Rehearsal.program [] default
      { entries := [("form.json", .file (failingForm behind))] } ["submit", "form.json"]
    let failure := "action 'note' (insertText) failed: document store error: " ++
      "file not found: missing.md"
    (submit true).lines = [failure] ∧ (submit true).code = successCode ∧
      (submit false).lines = [failure] ∧ (submit false).code = failureCode := by
  decide +kernel

end CommandLine

end FormChain
