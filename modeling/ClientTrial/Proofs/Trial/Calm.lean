import ClientTrial.Proofs.Bench.Calm
import ClientTrial.Proofs.Trial.CleanUp
import ClientTrial.Proofs.Trial.Ends

/-!
# Trials that nobody interrupts

On a calm bench a journey is ended by a failure, if it is not the wait for the ready marker
of the receiver that has to be given up, and the clean-up that follows always answers.

## Main results

* `Calm.journey` — what ends a journey, and the bench that it leaves.
* `Calm.cleanUp_answers` — the clean-up answers.
-/

namespace ClientTrial

open Act

namespace Calm

variable (t : Trial)

/-- A call of the clean-up is never given up. -/
theorem answer (call : CleanUpCall) : Calm false (Crew.usual.answer call) := by
  have covered := Raised.covers_isCalm false
  have ready : Ends (fun r => r.isFailure = true) False (Raised.IsCalm false) Server.ensureDaemon :=
    Ends.ensureDaemon covered fun _ _ _ => trivial
  refine Calm.of_ends ?_
  cases call with
  | terminate r => exact Ends.bind (Ends.terminate covered r) fun _ => Ends.pure _
  | logs name => exact Ends.bind (Ends.logsOf covered ready name _) fun _ => Ends.pure _
  | stop name => exact Ends.bind (Ends.stop covered ready name) fun _ => Ends.pure _

/-! ### The journey and the clean-up -/

/-- A trial sets out on a calm bench if it is begun on one. -/
theorem outset {b : Bench} (hb : b.IsCalm) (fs : Files) : (t.outset fs b).IsCalm := { hb with }

/-- A journey leaves a calm bench, and what ends it is a failure or a wait that was given up. -/
theorem journey {b : Bench} (hb : b.IsCalm) :
    (∀ r, (t.journey .usual b).ended = .error r → r.IsCalm true) ∧
      (t.journey .usual b).bench.IsCalm := by
  have foreseen := Bench.isCalm_iff_foresees.1 hb
  refine ⟨fun r hr => ?_, Bench.isCalm_iff_foresees.2 (t.foresees_journey foreseen).2⟩
  rcases t.ended_journey (Q := fun _ => Raised.IsCalm true) (fun _ => Raised.covers_isCalm true)
      (fun _ => rfl) (fun _ _ _ _ => trivial) foreseen hr with ⟨v, -, hcalm⟩ | ⟨-, f, rfl⟩
  · exact hcalm
  · trivial

theorem isHandled_of_isCalm {m : MadeCall} (h : ∀ r, m.ended = .error r → r.IsCalm false) :
    m.isHandled = true := by
  obtain ⟨call, raised | answer⟩ := m
  · cases raised with
    | failure f => rfl
    | interrupt text => exact (h _ rfl).elim
    | stalled => cases h _ rfl
  · rfl

/-- The calls of a clean-up are handled. -/
theorem makeCalls (calls : List CleanUpCall) {b : Bench} (hb : b.IsCalm) :
    (∀ m ∈ (Crew.usual.makeCalls calls b).1, m.isHandled = true) ∧
      (Crew.usual.makeCalls calls b).2.IsCalm := by
  induction calls generalizing b with
  | nil => exact ⟨fun m hm => absurd hm List.not_mem_nil, hb⟩
  | cons call rest ih =>
    obtain ⟨hend, hcalm⟩ := answer call b hb
    obtain ⟨hrest, hlast⟩ := ih hcalm
    exact ⟨List.forall_mem_cons.2 ⟨isHandled_of_isCalm hend, hrest⟩, hlast⟩

theorem sayingAll (events : List Log.Event) {b : Bench} (hb : b.IsCalm) :
    (b.sayingAll events).IsCalm :=
  Bench.isCalm_iff_foresees.2 ((Bench.isCalm_iff_foresees.1 hb).sayingAll events)

/-- The clean-up is entered on a calm bench if the journey leaves one. -/
theorem homeBench {j : Journey} (hj : j.bench.IsCalm) : (Trial.homeBench j).IsCalm :=
  { (sayingAll (Trial.failureEvents j.progress.history.getLast? (Trial.failureOf j.ended)) hj) with }

/-- The clean-up answers, and leaves a calm bench. -/
theorem cleanUp_answers (p : Progress) (failed : Bool) {b : Bench} (hb : b.IsCalm) :
    ∃ cleaned c, (t.cleanUp .usual p failed).exec b = (.ok cleaned, c) ∧ c.IsCalm := by
  obtain ⟨handled, hcalm⟩ := makeCalls (t.dueCalls p.receiver p.server failed) hb
  exact ⟨_, _, (t.exec_cleanUp_eq_ok_iff .usual).2 ⟨handled, rfl, rfl⟩, sayingAll _ hcalm⟩

end Calm
end ClientTrial
