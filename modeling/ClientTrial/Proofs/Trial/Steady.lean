import ClientTrial.Proofs.Crew
import ClientTrial.Proofs.Trial.Journey

/-!
# What a trial leaves alone

Every stage but the start of the receiver stays in the frame of its tasks, and so do
the calls of the clean-up.  A whole trial, however it ends, leaves the containers
of all other names as they are.

## Main definitions

* `Act.Frame.containers` — the frame of the containers of all names but some.

## Main results

* `Steady.keeps_perform`, `Steady.keeps_answer` — the stages and the calls.
* `Containers.keeps_run` — a whole trial.
-/

namespace ClientTrial

open Act

/-! ### The stages and the calls -/

namespace Steady

open Act.Frame

variable {free : List String} (t : Trial)

theorem keeps_enter (stage : Stage) : (steady free).Keeps (Trial.enter stage) :=
  keeps_change_of_eq (fun _ => rfl) (fun _ => rfl) fun _ => rfl

/-- Every stage but the start of the receiver starts no background process, and changes no container
but that of the server. -/
theorem keeps_perform (hname : t.serverName ∈ free) (p : Progress) {stage : Stage}
    (hstage : stage ≠ .startReceiver) : (steady free).Keeps (t.perform .usual p stage) :=
  Frame.keeps_perform keeps_say t keeps_openDaemon (keeps_lookup _) (keeps_remove hname)
    (keeps_create hname) (keeps_reload _) keeps_connect keeps_readClock keeps_sleep keeps_runErrand
    (fun h => absurd h hstage) p

/-- A call of the clean-up changes no container but the one that is to be removed. -/
theorem keeps_answer {call : CleanUpCall} (hcall : ∀ name, call = .stop name → name ∈ free) :
    (steady free).Keeps (Crew.usual.answer call) :=
  Frame.keeps_answer keeps_say keeps_openDaemon keeps_lookup keeps_logs
    (fun name h => keeps_remove (hcall name h)) keeps_kill keeps_wait fun _ _ => keeps_closeOutput

theorem keeps_cleanUp (hname : t.serverName ∈ free) (p : Progress) (failed : Bool) :
    (steady free).Keeps (t.cleanUp .usual p failed) :=
  Frame.keeps_cleanUp keeps_say t
    (fun _ hcall => keeps_answer fun name h => hcall name h ▸ hname) p failed

end Steady

/-! ### The containers -/

/-- The frame of the containers of all names but some. -/
def Act.Frame.containers (free : List String) : Frame where
  Holds b later := ∀ name ∉ free, later.daemon.id? name = b.daemon.id? name
  refl _ := fun _ _ => rfl
  trans h hl := fun name hname => (hl name hname).trans (h name hname)

namespace Containers

open Act.Frame

variable {free : List String} (t : Trial)

theorem keeps_of_steady {α : Type} {act : Act α} (h : (steady free).Keeps act) :
    (containers free).Keeps act :=
  h.mono fun _ _ (hs : Bench.Steady free _ _) => hs.containers

theorem keeps_say (e : Log.Event) : (containers free).Keeps (say e) :=
  keeps_of_steady (Steady.keeps_say e)

theorem keeps_onFiles (f : Files → Except Fault Files) : (containers free).Keeps (onFiles f) := by
  intro b
  rw [exec_onFiles]
  cases f b.files with
  | ok fs => exact fun _ _ => rfl
  | error e => exact fun _ _ => rfl

theorem keeps_runBackground (command : List String) (added : List (String × String))
    (route : Route) : (containers free).Keeps (Client.runBackground command added route) := by
  intro b
  rcases h : (Client.runBackground command added route).exec b with ⟨raised | r, c⟩
  · have hs : b.Steady free c := Client.runBackground_eq_error h
    exact hs.containers
  · have hs : b.Leads free c ∧ _ := Client.runBackground_eq_ok h
    exact hs.1.containers

theorem keeps_perform (hname : t.serverName ∈ free) (p : Progress) (stage : Stage) :
    (containers free).Keeps (t.perform .usual p stage) := by
  by_cases hstage : stage = .startReceiver
  · subst hstage
    simp only [Trial.perform]
    split
    · exact keeps_pure p
    · refine keeps_bind (keeps_wordsOf _) fun command => ?_
      exact keeps_bind (keeps_runBackground _ _ _) fun _ => keeps_pure _
  · exact keeps_of_steady (Steady.keeps_perform t hname p hstage)

theorem keeps_forward (hname : t.serverName ∈ free) :
    (containers free).Keeps (t.forward .usual) := by
  unfold Trial.forward
  split
  · exact keeps_pure _
  · refine Frame.keeps_goForward t (fun stage => keeps_of_steady (Steady.keeps_enter stage)) ?_ _ _
    exact keeps_perform t hname

theorem keeps_settle (startedAt : Moment) (p : Progress) (ended : Except Raised Unit)
    (cleaned : List TrialError × String) :
    (containers free).Keeps (t.settle startedAt p ended cleaned) :=
  Frame.keeps_settle keeps_say t (fun r => keeps_of_steady (Steady.keeps_save r _))
    (keeps_onFiles _) _ _ _ _

theorem keeps_comeHome (hname : t.serverName ∈ free) (startedAt : Moment) (p : Progress)
    (ended : Except Raised Unit) :
    (containers free).Keeps (t.comeHome .usual startedAt p ended) :=
  Frame.keeps_comeHome keeps_say t (keeps_of_steady (Steady.keeps_enter _))
    (keeps_bind (keeps_of_steady (Steady.keeps_cleanUp t hname _ _)) fun _ => keeps_settle t _ _ _ _)

/-- A trial, however it ends, changes no container but that of its server. -/
theorem keeps_run (hname : t.serverName ∈ free) : (containers free).Keeps t.run := by
  have conducted (startedAt : Moment) : (containers free).Keeps (t.conduct .usual startedAt) := by
    refine keeps_bind (keeps_attempt (keeps_onFiles _)) fun ended => ?_
    split
    · exact keeps_pure _
    · refine keeps_bind (keeps_say _) fun _ => ?_
      exact keeps_bind (keeps_forward t hname) fun way => keeps_comeHome t hname _ _ _
  refine keeps_bind (keeps_bind (keeps_ask _) fun context => ?_) fun _ => keeps_release _
  refine keeps_bind (keeps_change fun _ _ _ => rfl) fun _ => keeps_bind (keeps_ask _) fun _ => ?_
  refine keeps_bind (conducted _) fun course => ?_
  refine keeps_bind (keeps_change fun _ _ _ => rfl) fun _ => keeps_bind ?_ fun _ => keeps_pure _
  split
  · exact keeps_ite (keeps_say _) (keeps_pure ())
  · exact keeps_pure ()

end Containers
end ClientTrial
