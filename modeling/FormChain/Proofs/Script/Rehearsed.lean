import FormChain.Proofs.Script.Run
import FormChain.Rehearsal.Schedule

/-!
# Rehearsed scripts

A rehearsal lets several scripts take turns. The main one is taken up again and again, and
what it is told on waking depends on what the others have done meanwhile. It is still one run
of the script that is gone down, so whatever holds of all runs of a script holds of its
rehearsals (`FormChain.Rehearsal.run_of_play`).
-/

namespace FormChain

namespace Rehearsal

variable {α ρ : Type}

/-- **A turn may lead to a result**: it has ended with it, or the script may end with it when it
goes on. -/
def Turn.LeadsTo (a : α) : Turn α → Prop
  | .ended a' => a' = a
  | .asleep _ _ resume => ∃ w es, (resume w).Run es a
  | .interrupted resume => ∃ w s es, (resume w).1 = some s ∧ s.Run es a
  | .brokenOff => False

/-- A turn takes a script down one of its runs, whatever room there is in it. -/
theorem run_of_turn {room : Nat} {s : Script α} {w : World} {a : α}
    (h : (turn room s w).1.LeadsTo a) : ∃ es, s.Run es a := by
  induction s generalizing room w with
  | done a' =>
    obtain rfl : a' = a := h
    exact ⟨_, .done _⟩
  | remark r next ih =>
    obtain ⟨es, hrun⟩ := ih h
    exact ⟨_, .remark hrun⟩
  | ask token call next ih =>
    have hgoesOn {room' : Nat} {reply : Reply call} {w' : World}
        (h : (turn room' (next reply) w').1.LeadsTo a) :
        ∃ es, (Script.ask token call next).Run es a := by
      obtain ⟨es, hrun⟩ := ih reply h
      exact ⟨_, .ask reply hrun⟩
    cases call with
    | sleep duration =>
      rw [turn] at h
      split at h
      · exact hgoesOn h
      · obtain ⟨w', es, hrun⟩ := h
        exact ⟨_, .ask _ hrun⟩
    | vault r =>
      rw [turn] at h
      dsimp only at h
      split at h
      · exact hgoesOn h
      · split at h
        · obtain ⟨w', s, es, hs, hrun⟩ := h
          obtain ⟨a', -, rfl⟩ := Option.map_eq_some_iff.mp hs
          exact ⟨_, .ask _ hrun⟩
        · split at h
          · exact hgoesOn h
          · exact h.elim
    | _ => exact hgoesOn h

/-- With more fuel or less, playing a script and waiting for it go down its runs. -/
theorem run_of_play_and_wait {jobScript : JobScript ρ} {fuel : Nat} {a : α} :
    (∀ {room : Nat} {s : Script α} {t : Troupe ρ} {w : World},
      (play jobScript fuel room s t w).1 = some a → ∃ es, s.Run es a) ∧
    ∀ {x : Waiting α ρ} {t : Troupe ρ} {w : World},
      (wait jobScript fuel x t w).1 = some a →
        ∃ t w s es, (x.resume t w).1 = some s ∧ s.Run es a := by
  -- on the fuel, and for both at once, as they call each other
  induction fuel with
  | zero => exact ⟨nofun, nofun⟩
  | succ fuel ih =>
    refine ⟨fun {room s t w} h => ?_, fun {x t w} h => ?_⟩
    · rw [play] at h
      suffices hlead : (turn room s w).1.LeadsTo a from run_of_turn hlead
      cases hturn : (turn room s w).1 with
      | ended a' =>
        simp only [hturn] at h
        exact Option.some.inj h
      | asleep wake token resume =>
        simp only [hturn] at h
        obtain ⟨_, w', s, es, hs, hrun⟩ := ih.2 h
        obtain rfl := Option.some.inj hs
        exact ⟨w', es, hrun⟩
      | interrupted resume =>
        simp only [hturn] at h
        obtain ⟨_, w', s, es, hs, hrun⟩ := ih.2 h
        exact ⟨w', s, es, hs, hrun⟩
      | brokenOff =>
        simp only [hturn] at h
        cases h
    · rw [wait] at h
      dsimp only at h
      have hresumed {t' : Troupe ρ} {w' w'' : World} {s : Script α}
          (hs : x.resume t' w' = (some s, w''))
          (h : (play jobScript fuel x.room s t' w'').1 = some a) :
          ∃ t w s es, (x.resume t w).1 = some s ∧ s.Run es a := by
        obtain ⟨es, hrun⟩ := ih.1 h
        exact ⟨t', w', s, es, congrArg Prod.fst hs, hrun⟩
      split at h
      case isTrue =>
        split at h
        · next hs => exact hresumed hs h
        · cases h
      case isFalse =>
        split at h
        · exact ih.2 h
        · split at h
          · cases h
          · split at h
            · split at h
              · next hs => exact hresumed hs h
              · cases h
            · exact ih.2 h

/-- **What comes of rehearsing a script comes of one of its runs.** -/
theorem run_of_play {jobScript : JobScript ρ} {fuel room : Nat} {s : Script α} {t : Troupe ρ}
    {w : World} {a : α} (h : (play jobScript fuel room s t w).1 = some a) : ∃ es, s.Run es a :=
  run_of_play_and_wait.1 h

end Rehearsal

end FormChain
