import ClientTrial.Proofs.Tasks

/-!
# What is reported

Most of what is done on a bench is done in silence.  The tasks of a trial report what
happens to them, and every record is made in the context of the bench, which only entering
a stage and the ends of a trial change.  However a task ends, then, what it has reported
carries the context in which it was begun.

## Main definitions

* `Bench.IsMute` — nothing was reported, and the context is the same.
* `Bench.Voices` — what was reported carries the context, which is the same.
* `Act.Frame.mute`, `Act.Frame.voice` — the frames of both.

## Main results

* `Voice.keeps_perform`, `Voice.keeps_answer`, `Voice.keeps_settle` — the stages, the calls of the
  clean-up, and what follows it.
-/

namespace ClientTrial

open Act

/-- Nothing was reported, and what would be reported carries the same context. -/
structure Bench.IsMute (b later : Bench) : Prop where
  records : later.records = b.records
  context : later.context = b.context

/-- Everything that was reported carries the context, which is still the same. -/
structure Bench.Voices (b later : Bench) : Prop where
  context : later.context = b.context
  records : ∃ told, later.records.toList = b.records.toList ++ told ∧
    ∀ r ∈ told, r.context = b.context

namespace Bench.Voices

variable {b c d : Bench}

theorem of_isMute (h : b.IsMute c) : b.Voices c :=
  ⟨h.context, [], by rw [h.records, List.append_nil], fun _ hr => nomatch hr⟩

theorem trans (h : b.Voices c) (hl : c.Voices d) : b.Voices d := by
  obtain ⟨told, hrecords, htold⟩ := h.records
  obtain ⟨more, hlater, hmore⟩ := hl.records
  rw [h.context] at hmore
  refine ⟨hl.context.trans h.context, told ++ more, ?_, List.forall_mem_append.2 ⟨htold, hmore⟩⟩
  rw [hlater, hrecords, List.append_assoc]

theorem saying (e : Log.Event) (b : Bench) : b.Voices (b.saying e) :=
  ⟨rfl, [e.record b.clock b.context], Array.toList_push, List.forall_mem_singleton.2 rfl⟩

end Bench.Voices

/-- The frame of what is done in silence. -/
def Act.Frame.mute : Frame where
  Holds := Bench.IsMute
  refl _ := ⟨rfl, rfl⟩
  trans h hl := ⟨hl.records.trans h.records, hl.context.trans h.context⟩

/-- The frame of what reports in the context of the bench. -/
def Act.Frame.voice : Frame where
  Holds := Bench.Voices
  refl _ := .of_isMute ⟨rfl, rfl⟩
  trans := Bench.Voices.trans

/-! ### What is done in silence -/

namespace Mute

open Act.Frame

theorem keeps_note (e : Effect) : mute.Keeps (note e) := keeps_change fun _ => ⟨rfl, rfl⟩

theorem keeps_onFiles (f : Files → Except Fault Files) : mute.Keeps (onFiles f) := by
  refine keeps_bind (keeps_ask _) fun _ => keeps_bind (keeps_ofExcept _) fun _ => ?_
  exact keeps_change fun _ => ⟨rfl, rfl⟩

theorem keeps_changeOutput (n : Nat) (f : Output → Output) : mute.Keeps (changeOutput n f) :=
  keeps_change fun _ => ⟨rfl, rfl⟩

theorem keeps_openOutput (route : Route) : mute.Keeps (openOutput route) :=
  Frame.keeps_openOutput (keeps_onFiles _) fun _ _ => ⟨rfl, rfl⟩

theorem keeps_closeOutput (n : Nat) : mute.Keeps (closeOutput n) :=
  Frame.keeps_closeOutput (keeps_changeOutput n _) (keeps_changeOutput n _)

theorem keeps_settleDeposits (deposits : List Deposit) : mute.Keeps (settleDeposits deposits) :=
  Frame.keeps_settleDeposits (fun _ => keeps_onFiles _) (fun _ _ => ⟨rfl, rfl⟩) deposits

theorem keeps_advance (seconds : Float) : mute.Keeps (advance seconds) := by
  refine Frame.keeps_advance (fun _ _ => ?_) (fun _ _ => ?_) keeps_settleDeposits
    (keeps_change fun _ => ⟨rfl, rfl⟩) seconds
  · exact ⟨rfl, rfl⟩
  · exact ⟨rfl, rfl⟩

theorem keeps_sleep (seconds : Float) : mute.Keeps (sleep seconds) :=
  Frame.keeps_sleep (keeps_note _) (fun _ _ => ⟨rfl, rfl⟩) (keeps_advance seconds)

theorem keeps_readClock : mute.Keeps readClock := Frame.keeps_readClock keeps_advance

theorem keeps_connect (host : String) (port : Int) (timeout : Float) :
    mute.Keeps (connect host port timeout) :=
  Frame.keeps_connect (fun _ => keeps_note _) (fun _ _ => ⟨rfl, rfl⟩) keeps_advance

theorem keeps_openDaemon : mute.Keeps openDaemon :=
  Frame.keeps_openDaemon (keeps_note _) fun _ _ _ => ⟨rfl, rfl⟩

theorem keeps_request (kind : Request) (effect : Effect) : mute.Keeps (request kind effect) :=
  Frame.keeps_request (keeps_note _) fun _ => ⟨rfl, rfl⟩

theorem keeps_lookup (name : String) : mute.Keeps (lookup name) :=
  Frame.keeps_lookup (keeps_request _ _)

theorem keeps_create (image name port : String) (hostPort : Option Int) :
    mute.Keeps (create image name port hostPort) :=
  Frame.keeps_create (keeps_request _ _) fun _ => ⟨rfl, rfl⟩

theorem keeps_remove (name : String) : mute.Keeps (remove name) :=
  Frame.keeps_remove (keeps_request _ _) fun _ => ⟨rfl, rfl⟩

theorem keeps_reload (name : String) : mute.Keeps (reload name) :=
  Frame.keeps_reload (keeps_request _ _)

theorem keeps_logs (name : String) (tail : Int) : mute.Keeps (logs name tail) :=
  Frame.keeps_logs (keeps_request _ _)

theorem keeps_runErrand (command : List String) (environ : List (String × String))
    (dir : Option String) (timeout : Option Float) :
    mute.Keeps (runErrand command environ dir timeout) :=
  Frame.keeps_runErrand (fun _ _ => ⟨rfl, rfl⟩) (keeps_note _) keeps_advance
    fun _ => keeps_change fun _ => ⟨rfl, rfl⟩

theorem keeps_spawn (command : List String) (environ : List (String × String))
    (dir : Option String) (route : Route) (n : Nat) :
    mute.Keeps (spawn command environ dir route n) :=
  Frame.keeps_spawn (fun _ _ => ⟨rfl, rfl⟩) (keeps_note _) (fun _ => keeps_changeOutput n _)
    fun _ _ => ⟨rfl, rfl⟩

theorem keeps_kill (pid : Int) : mute.Keeps (kill pid) :=
  Frame.keeps_kill (keeps_note _) fun _ _ _ => ⟨rfl, rfl⟩

theorem keeps_wait (pid : Int) : mute.Keeps (wait pid) := Frame.keeps_wait (keeps_note _)

end Mute

/-! ### What reports -/

namespace Voice

open Act.Frame

variable {α : Type}

theorem keeps_of_mute {act : Act α} (h : mute.Keeps act) : voice.Keeps act :=
  h.mono fun _ _ hmute => Bench.Voices.of_isMute hmute

theorem keeps_say (e : Log.Event) : voice.Keeps (say e) := fun b => Bench.Voices.saying e b

variable (t : Trial)

theorem keeps_runBackground (command : List String) (added : List (String × String))
    (route : Route) : voice.Keeps (Client.runBackground command added route) :=
  Frame.keeps_runBackground keeps_say (keeps_of_mute (Mute.keeps_openOutput _))
    (fun b n => keeps_of_mute (Mute.keeps_spawn _ _ _ _ n) b)
    fun n => keeps_of_mute (Mute.keeps_closeOutput n)

/-- What is reported in a stage carries the context in which it is performed. -/
theorem keeps_perform (p : Progress) (stage : Stage) :
    voice.Keeps (t.perform .usual p stage) :=
  Frame.keeps_perform keeps_say t (keeps_of_mute Mute.keeps_openDaemon)
    (keeps_of_mute (Mute.keeps_lookup _)) (keeps_of_mute (Mute.keeps_remove _))
    (fun _ _ _ => keeps_of_mute (Mute.keeps_create _ _ _ _))
    (keeps_of_mute (Mute.keeps_reload _)) (fun _ _ _ => keeps_of_mute (Mute.keeps_connect _ _ _))
    (keeps_of_mute Mute.keeps_readClock) (fun _ => keeps_of_mute (Mute.keeps_sleep _))
    (fun _ _ _ _ => keeps_of_mute (Mute.keeps_runErrand _ _ _ _))
    (fun _ _ _ => keeps_runBackground _ _ _) p

theorem keeps_answer (call : CleanUpCall) : voice.Keeps (Crew.usual.answer call) :=
  Frame.keeps_answer keeps_say (keeps_of_mute Mute.keeps_openDaemon)
    (fun _ => keeps_of_mute (Mute.keeps_lookup _)) (fun _ _ => keeps_of_mute (Mute.keeps_logs _ _))
    (fun _ _ => keeps_of_mute (Mute.keeps_remove _)) (fun _ => keeps_of_mute (Mute.keeps_kill _))
    (fun _ => keeps_of_mute (Mute.keeps_wait _)) fun _ _ _ =>
      keeps_of_mute (Mute.keeps_closeOutput _)

theorem keeps_cleanUp (p : Progress) (failed : Bool) : voice.Keeps (t.cleanUp .usual p failed) :=
  Frame.keeps_cleanUp keeps_say t (fun call _ => keeps_answer call) p failed

theorem keeps_settle (startedAt : Moment) (p : Progress) (ended : Except Raised Unit)
    (cleaned : List TrialError × String) :
    voice.Keeps (t.settle startedAt p ended cleaned) :=
  Frame.keeps_settle keeps_say t
    (fun r => keeps_of_mute (Frame.keeps_save (Mute.keeps_onFiles _)
      (fun _ _ => Mute.keeps_onFiles _) r))
    (keeps_of_mute (Mute.keeps_onFiles _)) startedAt p ended cleaned

end Voice
end ClientTrial
