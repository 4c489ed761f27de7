import FormChain.Proofs.Condition.Testing
import FormChain.Proofs.Submission.Keeping

/-!
# Submissions keep to one session

Every script of the service keeps to a session (`FormChain.Script.Keeps`): a submission
by itself starts one, a form launched from within a chain works within that of the chain,
and a chain behind the user's back within the one that its lease is on. Each of them ends
with as many leases as it has to: none where the session is its own, and as many as there
were before where it works for somebody else.

The launches in a chain are answered by submissions of the same kind, so the depth of
launches is what the induction is on (`FormChain.Submission.keeps_launcherOfDepth`).
-/

namespace FormChain

namespace Submission

/-! ### Scripts that may fail -/

section Lifting

variable {α β : Type}

/-- A script in front of one that may fail. -/
@[simp] theorem run_liftM_bind (x : Script α) (f : α → Submission β) :
    ((liftM x : Submission α) >>= f).run = x.bind fun a => (f a).run := by
  change (x.bind _).bind _ = _
  rw [Script.bind_assoc]
  rfl

/-- A script as one that may fail. -/
@[simp] theorem run_liftM (x : Script α) :
    (liftM x : Submission α).run = x.bind fun a => .done (.ok a) := rfl

/-- Two scripts that may fail, one behind the other. -/
theorem run_bind (x : Submission α) (f : α → Submission β) :
    (x >>= f).run = x.run.bind fun
      | .ok a => (f a).run
      | .error e => .done (.error e) := by
  change x.run.bind _ = _
  refine congrArg _ (funext fun r => ?_)
  cases r <;> rfl

end Lifting

open Script

/-! ### Small scripts -/

section Small

variable {σ : Standing} {token : Token} {c : Call} {id : SessionId} {n : Nat}

theorem mayAsk_within : (Standing.within id n).MayAsk id c := Or.inl rfl

theorem keeps_askLedger {r : SessionRequest} (htoken : σ.MayAsk token (.session r))
    (hr : σ.Permits (.session r)) : (askLedger token r).Keeps
      (fun σ' a => σ.Promises (.session r) a ∧ σ' = σ.after (.session r) a) σ :=
  (keeps_call htoken hr).bind fun _ _ h => h

/-- Starting a session, which is a new one. -/
theorem keeps_start {timeout : Timeout} : (askLedger 0 (.start timeout false)).Keeps
    (fun σ lease => lease.token = lease.session ∧ σ = .within lease.session 1) .outside :=
  keeps_askLedger (by rfl) (by rfl)

/-- Joining the session, as long as there is a lease on it. -/
theorem keeps_join (hn : 0 < n) : (askLedger id (.join id)).Keeps
    (fun σ lease => lease = some ⟨id, id, id, true⟩ ∧ σ = .within id (n + 1)) (.within id n) :=
  keeps_askLedger mayAsk_within ⟨rfl, hn⟩

/-- Holding the session for work behind the user's back. -/
theorem keeps_hold (hn : 0 < n) {lease : Lease} (hlease : lease.session = id) :
    (askLedger id (.hold lease)).Keeps
      (fun σ held => held = ⟨id, id, true⟩ ∧ σ = .within id (n + 1)) (.within id n) :=
  keeps_askLedger mayAsk_within ⟨hlease, hn⟩

/-- Giving a lease back. -/
theorem keeps_release : (askLedger id (.release id)).Keeps
    (fun σ _ => σ = .within id n) (.within id (n + 1)) := by
  have hc : (Standing.within id (n + 1)).Permits (.session (.release id)) :=
    ⟨rfl, Nat.succ_pos n⟩
  exact (keeps_askLedger mayAsk_within hc).imp fun _ _ h => h.2

/-- Giving a lease for work behind the user's back back. -/
theorem keeps_releaseBackground : (askLedger id (.releaseBackground ⟨id, id, true⟩)).Keeps
    (fun σ _ => σ = .within id n) (.within id (n + 1)) := by
  have hc : (Standing.within id (n + 1)).Permits
      (.session (.releaseBackground ⟨id, id, true⟩)) := ⟨rfl, Nat.succ_pos n⟩
  exact (keeps_askLedger mayAsk_within hc).imp fun _ _ h => h.2

/-- Handing a lease on to a chain behind the user's back. -/
theorem keeps_detach {form : Form} {values : Bag} :
    (call id (.detach ⟨form, values, id, ⟨id, id, true⟩⟩)).Keeps
      (fun σ _ => σ = .within id n) (.within id (n + 1)) := by
  have hc : (Standing.within id (n + 1)).Permits (.detach ⟨form, values, id, ⟨id, id, true⟩⟩) :=
    ⟨rfl, rfl, Nat.succ_pos n⟩
  exact (keeps_call mayAsk_within hc).imp fun _ _ h => h.2

theorem keeps_askLedger_of_isQuiet {r : SessionRequest}
    (htoken : σ.MayAsk token (.session r)) (hr : (Call.session r).isQuiet = true) :
    (askLedger token r).Keeps (fun σ' _ => σ' = σ) σ :=
  (keeps_call_of_isQuiet htoken hr).bind fun _ _ h => h

theorem keeps_notify {message : String} (htoken : σ.MayAsk token (.notify message)) :
    (notify token message).Keeps (fun σ' _ => σ' = σ) σ :=
  (keeps_call_of_isQuiet htoken rfl).bind fun _ _ h => h

theorem keeps_report {config : Config} {form : Form} {stage : Stage} {expired : Bool}
    {outcome : Chain.Outcome} (htoken : ∀ message, σ.MayAsk token (.notify message)) :
    (report config token form stage expired outcome).Keeps (fun σ' _ => σ' = σ) σ := by
  unfold report
  split
  · exact (keeps_notify (htoken _)).bind fun _ _ h => h
  · exact rfl

theorem keeps_ask (htoken : σ.MayAsk token c) (hc : c.isQuiet = true) :
    (ask token c).run.Keeps (fun σ' _ => σ' = σ) σ := by
  rw [ask, run_liftM_bind]
  exact (keeps_call_of_isQuiet htoken hc).bind fun _ _ h => h

/-- Where the first of two scripts leaves the standing alone, failing or not, the second
goes on from it. -/
theorem keeps_submission_bind {α β : Type} {x : Submission α} {f : α → Submission β}
    (hx : x.run.Keeps (fun σ' _ => σ' = σ) σ)
    (hf : ∀ a, (f a).run.Keeps (fun σ' _ => σ' = σ) σ) :
    (x >>= f).run.Keeps (fun σ' _ => σ' = σ) σ := by
  rw [run_bind]
  refine hx.bind fun σ' r hσ => ?_
  rw [hσ]
  cases r with
  | ok a => exact hf a
  | error e => exact rfl

theorem keeps_askForForm {path : String} {r : VaultRequest}
    (hr : (Call.vault r).isReading = true) :
    (askForForm path r).run.Keeps (fun σ' _ => σ' = σ) σ := by
  refine keeps_submission_bind (keeps_ask (Standing.mayAsk_of_isReading hr) rfl) fun a => ?_
  cases a <;> exact rfl

/-- **Loading a form** has nothing to do with sessions. -/
theorem keeps_load {path : String} : (load path).run.Keeps (fun σ' _ => σ' = σ) σ := by
  refine keeps_submission_bind (keeps_askForForm rfl) fun file => ?_
  cases file with
  | none => exact rfl
  | some file =>
    refine keeps_submission_bind (keeps_askForForm rfl) fun text => ?_
    split
    · exact rfl
    · split <;> exact rfl

theorem keeps_launchValues {mode : ButtonMode} {form : Form} :
    (launchValues id mode form).Keeps (fun σ _ => σ = .within id n) (.within id n) := by
  cases mode with
  | submit => exact rfl
  | openFirst => exact (keeps_call_of_isQuiet mayAsk_within rfl).bind fun _ _ h => h

/-- **Looking for a missing answer** has nothing to do with sessions: files are decoded. -/
theorem keeps_missing? (htoken : ∀ file, σ.MayAsk token (.decode file)) {form : Form}
    {values : Bag} {now : LocalMoment} :
    (form.missing? (decode token) values now : Script (Option Field)).Keeps
      (fun σ' _ => σ' = σ) σ := by
  have hpasses : PassesOn (decode token)
      fun {α} (x : Script α) => x.Keeps (fun σ' _ => σ' = σ) σ :=
    { pure := fun _ => rfl
      bind := fun hx hf => hx.bind fun σ' a hσ => hσ ▸ hf a
      decode := fun file => (keeps_call_of_isQuiet (htoken file) rfl).bind fun _ _ h => h }
  exact Form.tested_missing? hpasses

end Small

/-! ### Chains -/

/-- **What answers launches keeps to the session of the chain** that launches, as long as
there is a lease on it. -/
def LauncherKeeps (launcher : Launcher) : Prop :=
  ∀ id n path mode, 0 < n → (launcher id path mode (some id)).Keeps
    (fun σ _ => σ = .within id n) (.within id n)

section Chains

variable {config : Config} {launcher : Launcher} {id : SessionId} {n : Nat}

/-- **The chain of a form keeps to the session** that it is carried out in. -/
theorem keeps_chain (hlauncher : LauncherKeeps launcher) (hn : 0 < n) {form : Form}
    {values : Bag} {now : LocalMoment} : (chain config launcher id id form values now).Keeps
      (fun σ _ => σ = .within id n) (.within id n) := by
  let s : ChainSetting := { form, config, token := id, session := some id, canLaunch := true }
  refine (keeps_call_of_isQuiet mayAsk_within rfl).bind fun σ draw hσ => ?_
  rw [hσ]
  refine Keeps.bind (Q := fun σ _ => σ = .within id n) ⟨⟨rfl, rfl⟩, ?_⟩ fun _ _ h => h
  refine keeps_withLauncher (s := s) rfl rfl ?_ fun path mode => hlauncher id n path mode hn
  intro es a hrun
  obtain ⟨es₁, ⟨r, st⟩, es₂, rfl, hlist, hdone⟩ := Script.run_bind.mp hrun
  obtain ⟨rfl, -⟩ := Script.run_done.mp hdone
  rw [List.append_nil]
  exact (Chain.happens_of_run hlist).isOf

/-- **In front of the user**, a chain costs one lease, whatever it comes to. -/
theorem keeps_foreground (hlauncher : LauncherKeeps launcher) (lease : Lease)
    (hlease : lease.session = id) {form : Form} {values : Bag} {nested : Bool} {now : LocalMoment} :
    (foreground config launcher id lease form values nested now).Keeps
      (fun σ _ => σ = .within id n) (.within id (n + 1)) := by
  obtain rfl := hlease
  refine (keeps_chain hlauncher (Nat.succ_pos n)).bind fun σ outcome hσ => ?_
  rw [hσ]
  refine (keeps_askLedger_of_isQuiet mayAsk_within rfl).bind fun σ expired hσ => ?_
  rw [hσ]
  refine keeps_release.bind fun σ _ hσ => ?_
  rw [hσ]
  exact keeps_report fun _ => mayAsk_within

/-- **Behind the user's back**, a chain costs the lease that it was given. -/
theorem keeps_background (hlauncher : LauncherKeeps launcher) {form : Form} {values : Bag} :
    (background config launcher ⟨form, values, id, ⟨id, id, true⟩⟩).Keeps
      (fun σ _ => σ = .within id 0) (.within id 1) := by
  refine (keeps_call_of_isQuiet mayAsk_within rfl).bind fun σ look hσ => ?_
  rw [hσ]
  refine (keeps_chain hlauncher Nat.zero_lt_one).bind fun σ outcome hσ => ?_
  rw [hσ]
  refine (keeps_askLedger_of_isQuiet mayAsk_within rfl).bind fun σ expired hσ => ?_
  rw [hσ]
  refine (keeps_report fun _ => mayAsk_within).bind fun σ _ hσ => ?_
  rw [hσ]
  exact keeps_releaseBackground

/-- **Moving a chain behind the user's back**: the lease for it is taken before the other
one is given back, and goes with it. -/
theorem keeps_moveAway {lease : Lease} (htoken : lease.token = lease.session) {form : Form}
    {values : Bag} : (moveAway lease form values).Keeps
      (fun σ _ => σ = .within lease.session 0) (.within lease.session 1) := by
  unfold moveAway
  rw [htoken]
  refine (keeps_hold Nat.zero_lt_one rfl).bind fun σ held hσ => ?_
  obtain ⟨rfl, rfl⟩ := hσ
  refine keeps_release.bind fun σ _ hσ => ?_
  rw [hσ]
  exact keeps_detach.bind fun _ _ h => h

end Chains

/-! ### Submissions -/

/-- Whether a script has given back what it has taken. -/
def HasReleased : Standing → Prop
  | .outside => True
  | .within _ n => n = 0

section Submissions

variable {config : Config} {launcher : Launcher}

/-- **A launched form works within the session of the chain** that it was launched from, and
leaves as many leases on it as there were. -/
theorem keeps_submitWithin_parent (hlauncher : LauncherKeeps launcher) {id : SessionId}
    {n : Nat} (hn : 0 < n) {form : Form} {given : Bag} :
    (submitWithin config launcher form given { nested := true } (some ⟨id, some id⟩)).run.Keeps
      (fun σ _ => σ = .within id n) (.within id n) := by
  unfold submitWithin
  rw [run_liftM_bind]
  refine (keeps_call_of_isQuiet mayAsk_within rfl).bind fun σ look hσ => ?_
  rw [hσ, run_liftM_bind]
  refine (keeps_missing? fun _ => mayAsk_within).bind fun σ lacking hσ => ?_
  rw [hσ]
  split
  · rw [run_liftM_bind]
    exact (keeps_notify mayAsk_within).bind fun _ _ h => h
  · rw [run_liftM_bind]
    -- there is a lease on the session, so it is joined and no other is started
    have hlease : (takeLease config id form { nested := true } (some ⟨id, some id⟩)).Keeps
        (fun σ lease => lease = ⟨id, id, id, true⟩ ∧ σ = .within id (n + 1)) (.within id n) := by
      refine (keeps_join hn).bind fun σ joined hσ => ?_
      obtain ⟨rfl, rfl⟩ := hσ
      exact ⟨rfl, rfl⟩
    refine hlease.bind fun σ lease hσ => ?_
    obtain ⟨rfl, rfl⟩ := hσ
    rw [if_neg (by simp)]
    exact keeps_foreground hlauncher ⟨id, id, id, true⟩ rfl

/-- **A submission by itself starts one session** and gives all leases on it back. -/
theorem keeps_submitWithin_none (hlauncher : LauncherKeeps launcher) {form : Form}
    {given : Bag} {options : SubmitOptions} (hoptions : options.nested = false) :
    (submitWithin config launcher form given options none).run.Keeps
      (fun σ _ => HasReleased σ) .outside := by
  unfold submitWithin
  rw [run_liftM_bind]
  refine (keeps_call_of_isQuiet (by rfl) rfl).bind fun σ look hσ => ?_
  rw [hσ, run_liftM_bind]
  refine (keeps_missing? fun _ => by rfl).bind fun σ lacking hσ => ?_
  rw [hσ]
  split
  · rw [run_liftM_bind]
    refine (keeps_notify (by rfl)).bind fun σ _ hσ => ?_
    rw [hσ]
    trivial
  · rw [run_liftM_bind]
    have hlease : (takeLease config 0 form options none).Keeps
        (fun σ lease => lease.token = lease.session ∧ σ = .within lease.session 1) .outside := by
      unfold takeLease
      rw [hoptions]
      exact keeps_start
    refine hlease.bind fun σ lease hσ => ?_
    obtain ⟨session, token, flag, reused⟩ := lease
    obtain ⟨rfl : token = session, rfl⟩ := hσ
    split
    · rw [run_liftM]
      refine (keeps_moveAway rfl).bind fun σ _ hσ => ?_
      rw [hσ]
      exact rfl
    · refine (keeps_foreground hlauncher ⟨token, token, flag, reused⟩ rfl).imp fun σ _ hσ => ?_
      rw [hσ]
      exact rfl

theorem keeps_launchForm (hlauncher : LauncherKeeps launcher) {id : SessionId} {n : Nat}
    (hn : 0 < n) {path : String} {mode : ButtonMode} :
    (launchForm config launcher path mode ⟨id, some id⟩).Keeps
      (fun σ _ => σ = .within id n) (.within id n) := by
  refine keeps_load.bind fun σ loaded hσ => ?_
  rw [hσ]
  cases loaded with
  | error e => exact rfl
  | ok form =>
    refine keeps_launchValues.bind fun σ values hσ => ?_
    rw [hσ]
    rcases values with e | _ | values
    · exact rfl
    · exact rfl
    · refine (keeps_submitWithin_parent hlauncher hn).bind fun σ r hσ => ?_
      rw [hσ]
      cases r <;> exact rfl

/-- **What answers launches keeps to the session**, by induction on how deep forms may
launch each other. -/
theorem keeps_launcherOfDepth (config : Config) (depth : Nat) :
    LauncherKeeps (launcherOfDepth config depth) := by
  induction depth with
  | zero =>
    intro id n path mode _
    exact (keeps_call_of_isQuiet mayAsk_within rfl).bind fun _ _ h => h
  | succ depth ih =>
    intro id n path mode hn
    refine (keeps_launchForm ih hn).bind fun σ answer hσ => ?_
    rw [hσ]
    exact (keeps_call_of_isQuiet mayAsk_within rfl).bind fun _ _ h => h

end Submissions

end Submission

end FormChain
