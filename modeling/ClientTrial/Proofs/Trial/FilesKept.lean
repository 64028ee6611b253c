import ClientTrial.Proofs.Tasks
import ClientTrial.Proofs.Trial.CleanUp

/-!
# Files in the clean-up

To stop a receiver, to tell the log of a server and to remove it leaves every file as it
is, whatever becomes of it: the receiver's output is closed, not written, and time does
not pass.

## Main definitions

* `Act.Frame.files` — the frame of the files.

## Main results

* `FilesKept.keeps_answer` — the calls of the clean-up stay in it.
* `FilesKept.files_makeCalls` — the calls of any crew that stay in it.
* `FilesKept.keeps_cleanUp` — the clean-up of the usual crew.
-/

namespace ClientTrial

open Act

/-- The frame of the files. -/
def Act.Frame.files : Frame where
  Holds b later := later.files = b.files
  refl _ := rfl
  trans h hl := hl.trans h

namespace FilesKept

open Act.Frame

theorem keeps_say (e : Log.Event) : files.Keeps (say e) := keeps_change fun _ => rfl

theorem keeps_openDaemon : files.Keeps openDaemon :=
  Frame.keeps_openDaemon (keeps_change fun _ => rfl) fun _ _ _ => rfl

theorem keeps_request (kind : Request) (effect : Effect) : files.Keeps (request kind effect) :=
  Frame.keeps_request (keeps_change fun _ => rfl) fun _ => rfl

theorem keeps_lookup (name : String) : files.Keeps (lookup name) :=
  Frame.keeps_lookup (keeps_request _ _)

theorem keeps_remove (name : String) : files.Keeps (remove name) :=
  Frame.keeps_remove (keeps_request _ _) fun _ => rfl

theorem keeps_logs (name : String) (tail : Int) : files.Keeps (logs name tail) :=
  Frame.keeps_logs (keeps_request _ _)

theorem keeps_kill (pid : Int) : files.Keeps (kill pid) :=
  Frame.keeps_kill (keeps_change fun _ => rfl) fun _ _ _ => rfl

theorem keeps_wait (pid : Int) : files.Keeps (wait pid) :=
  Frame.keeps_wait (keeps_change fun _ => rfl)

theorem keeps_closeOutput (n : Nat) : files.Keeps (closeOutput n) :=
  Frame.keeps_closeOutput (keeps_change fun _ => rfl) (keeps_change fun _ => rfl)

/-- A call of the clean-up to the usual crew leaves the files alone. -/
theorem keeps_answer (call : CleanUpCall) : files.Keeps (Crew.usual.answer call) :=
  Frame.keeps_answer keeps_say keeps_openDaemon keeps_lookup keeps_logs
    (fun name _ => keeps_remove name) keeps_kill keeps_wait fun _ _ => keeps_closeOutput

theorem files_makeCalls {crew : Crew} {calls : List CleanUpCall}
    (h : ∀ call ∈ calls, files.Keeps (crew.answer call)) (b : Bench) :
    (crew.makeCalls calls b).2.files = b.files := by
  induction calls generalizing b with
  | nil => rfl
  | cons call rest ih =>
    obtain ⟨hcall, hrest⟩ := List.forall_mem_cons.1 h
    exact (ih hrest _).trans (hcall b)

/-- The clean-up of the usual crew leaves the files alone. -/
theorem keeps_cleanUp (t : Trial) (p : Progress) (failed : Bool) :
    files.Keeps (t.cleanUp .usual p failed) :=
  Frame.keeps_cleanUp keeps_say t (fun call _ => keeps_answer call) p failed

/-- To enter the clean-up leaves the files alone. -/
theorem files_homeBench (j : Journey) : (Trial.homeBench j).files = j.bench.files :=
  holds_homeBench keeps_say (keeps_change fun _ => rfl) j

end FilesKept

end ClientTrial
