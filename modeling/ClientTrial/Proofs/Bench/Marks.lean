import ClientTrial.Proofs.Bench.Frame
import ClientTrial.Proofs.Client

/-!
# Which of the opened files are closed

An opened file is marked by whether it is known to be closed and by what happens whenever
it is closed.  What is written to it leaves the mark alone.  So does everything else but
the opening of a file, its being closed, and the start of the process that is to write to
it; of these three it is said what they do to the marks.

## Main definitions

* `Output.Mark`, `Desk.marks` — the marks of the opened files.
* `Act.Frame.marks` — the frame of the marks and of the processes that are still to come.
* `Bench.spawnIncident?` — what ends the start of a command.

## Main results

* `Marks.keeps_advance`, `Marks.keeps_runErrand`, … — the calls stay in the frame.
* `Marks.openOutput_eq_ok`, `Marks.exec_spawn`, `Marks.exec_closeOutput` — what is done to the
  marks.
-/

namespace ClientTrial

open Act

/-! ### Marks -/

/-- What an opened file is marked by. -/
structure Output.Mark where
  /-- The file is known to be closed. -/
  closed : Bool
  /-- What happens whenever it is closed. -/
  closeIncident : Option Raised

/-- The mark of an opened file. -/
def Output.mark (o : Output) : Mark := ⟨o.closed, o.closeIncident⟩

namespace Desk

/-- The marks of the opened files, in the order of their opening. -/
def marks (d : Desk) : List Output.Mark := d.outputs.map Output.mark

@[simp] theorem length_marks (d : Desk) : d.marks.length = d.outputs.length := List.length_map _

theorem marks_changeOutput (d : Desk) (n : Nat) {f : Output → Output}
    {g : Output.Mark → Output.Mark} (h : ∀ o, (f o).mark = g o.mark) :
    (d.changeOutput n f).marks = d.marks.modify n g := by
  refine List.ext_getElem? fun i => ?_
  simp only [marks, changeOutput, List.getElem?_map, List.getElem?_modify]
  cases d.outputs[i]? with
  | none => simp
  | some o =>
    by_cases hi : n = i
    · simp [hi, h]
    · simp [hi]

/-- The file that was opened last bears the last mark. -/
theorem exists_of_marks_concat {d : Desk} {l : List Output.Mark} {m : Output.Mark}
    (h : d.marks = l ++ [m]) : ∃ o, d.outputs[l.length]? = some o ∧ o.mark = m := by
  have hlast : d.marks[l.length]? = some m := by rw [h, List.getElem?_concat_length]
  rw [marks, List.getElem?_map] at hlast
  exact Option.map_eq_some_iff.1 hlast

theorem marks_changeOutput_of_eq (d : Desk) (n : Nat) {f : Output → Output}
    (h : ∀ o, (f o).mark = o.mark) : (d.changeOutput n f).marks = d.marks := by
  rw [marks_changeOutput d n (g := id) h, List.modify_id]

/-- The file that was opened last has its mark changed. -/
theorem modify_concat_length (l : List Output.Mark) (m : Output.Mark)
    (g : Output.Mark → Output.Mark) : (l ++ [m]).modify l.length g = l ++ [g m] := by
  simp [List.modify_eq_take_drop]

theorem marks_write (n : Nat) (d : Desk) (piece : Text.Octets) :
    (d.write n piece).marks = d.marks := by
  unfold write
  split
  · rfl
  · split
    · exact d.marks_changeOutput_of_eq n fun _ => rfl
    · rfl

theorem marks_foldl_write (n : Nat) (pieces : List Text.Octets) (d : Desk) :
    (pieces.foldl (write n) d).marks = d.marks := by
  induction pieces generalizing d with
  | nil => rfl
  | cons piece rest ih => exact (ih _).trans (marks_write n d piece)

end Desk

namespace Child

theorem marks_advance (clock : Float) (c : Child) (d : Desk) :
    (c.advance clock d).2.marks = d.marks := by
  unfold advance
  split
  · exact Desk.marks_foldl_write _ _ _
  · rfl

theorem marks_relay (piece : Text.Octets) (c : Child) (d : Desk) :
    (c.relay piece d).2.marks = d.marks := by
  unfold relay
  dsimp only
  split
  · exact Desk.marks_write _ _ _
  · rfl

theorem marks_each {act : Child → Desk → Child × Desk}
    (hact : ∀ (c : Child) (d : Desk), (act c d).2.marks = d.marks) (children : List Child)
    (d : Desk) : (each act children d).2.marks = d.marks := by
  induction children generalizing d with
  | nil => rfl
  | cons c rest ih => exact (ih _).trans (hact c d)

end Child

/-! ### The frame -/

/-- The marks are the same, and no process has been started. -/
structure Bench.KeepsMarks (b later : Bench) : Prop where
  marks : later.desk.marks = b.desk.marks
  scripts : later.scripts = b.scripts

/-- The frame of the marks and of the processes that are still to come. -/
def Act.Frame.marks : Frame where
  Holds := Bench.KeepsMarks
  refl _ := ⟨rfl, rfl⟩
  trans h hl := ⟨hl.marks.trans h.marks, hl.scripts.trans h.scripts⟩

namespace Marks

open Act.Frame

/-- Only the opened files and the processes to come matter to a change. -/
theorem keeps_change {f : Bench → Bench} (hdesk : ∀ b, (f b).desk.marks = b.desk.marks)
    (hscripts : ∀ b, (f b).scripts = b.scripts) : marks.Keeps (change f) :=
  fun b => ⟨hdesk b, hscripts b⟩

theorem keeps_note (e : Effect) : marks.Keeps (note e) := keeps_change (fun _ => rfl) fun _ => rfl

theorem keeps_say (e : Log.Event) : marks.Keeps (say e) := keeps_change (fun _ => rfl) fun _ => rfl

theorem keeps_onFiles (f : Files → Except Fault Files) : marks.Keeps (onFiles f) := by
  intro b
  rw [exec_onFiles]
  cases f b.files with
  | ok fs => exact ⟨rfl, rfl⟩
  | error e => exact marks.refl b

/-! ### Time and the server -/

theorem keeps_settleDeposits (deposits : List Deposit) : marks.Keeps (settleDeposits deposits) :=
  Frame.keeps_settleDeposits (fun _ => keeps_onFiles _) (fun _ _ => ⟨rfl, rfl⟩) deposits

/-- All processes act on the files. -/
theorem keeps_change_of_each {act : Bench → Child → Desk → Child × Desk}
    (hact : ∀ (b : Bench) (c : Child) (d : Desk), (act b c d).2.marks = d.marks) :
    marks.Keeps (change fun b =>
      let (children, desk) := Child.each (act b) b.children b.desk
      { b with children, desk }) :=
  keeps_change (fun b => Child.marks_each (hact b) b.children b.desk) fun _ => rfl

theorem keeps_advance (seconds : Float) : marks.Keeps (advance seconds) := by
  refine Frame.keeps_advance (fun _ _ => ?_) (fun _ _ => ?_) keeps_settleDeposits
    (keeps_change_of_each fun b => Child.marks_advance b.clock) seconds
  · exact ⟨rfl, rfl⟩
  · exact ⟨rfl, rfl⟩

theorem keeps_readClock : marks.Keeps readClock := Frame.keeps_readClock keeps_advance

theorem keeps_sleep (seconds : Float) : marks.Keeps (sleep seconds) :=
  Frame.keeps_sleep (keeps_note _) (fun _ _ => ⟨rfl, rfl⟩) (keeps_advance seconds)

theorem keeps_connect (host : String) (port : Int) (timeout : Float) :
    marks.Keeps (connect host port timeout) :=
  Frame.keeps_connect (fun _ => keeps_note _) (fun _ _ => ⟨rfl, rfl⟩) keeps_advance

/-! ### The daemon -/

theorem keeps_openDaemon : marks.Keeps openDaemon :=
  Frame.keeps_openDaemon (keeps_note _) fun _ _ _ => ⟨rfl, rfl⟩

theorem keeps_request (kind : Request) (effect : Effect) : marks.Keeps (request kind effect) :=
  Frame.keeps_request (keeps_note _) fun _ => ⟨rfl, rfl⟩

theorem keeps_lookup (name : String) : marks.Keeps (lookup name) :=
  Frame.keeps_lookup (keeps_request _ _)

theorem keeps_create (image name port : String) (hostPort : Option Int) :
    marks.Keeps (create image name port hostPort) :=
  Frame.keeps_create (keeps_request _ _) fun _ => ⟨rfl, rfl⟩

theorem keeps_remove (name : String) : marks.Keeps (remove name) :=
  Frame.keeps_remove (keeps_request _ _) fun _ => ⟨rfl, rfl⟩

theorem keeps_reload (name : String) : marks.Keeps (reload name) :=
  Frame.keeps_reload (keeps_request _ _)

theorem keeps_logs (name : String) (tail : Int) : marks.Keeps (logs name tail) :=
  Frame.keeps_logs (keeps_request _ _)

/-! ### Processes -/

theorem keeps_runErrand (command : List String) (environ : List (String × String))
    (dir : Option String) (timeout : Option Float) :
    marks.Keeps (runErrand command environ dir timeout) :=
  Frame.keeps_runErrand (fun _ _ => ⟨rfl, rfl⟩) (keeps_note _) keeps_advance
    fun piece => keeps_change_of_each fun _ => Child.marks_relay piece

theorem keeps_kill (pid : Int) : marks.Keeps (kill pid) :=
  Frame.keeps_kill (keeps_note _) fun _ _ _ => ⟨rfl, rfl⟩

theorem keeps_wait (pid : Int) : marks.Keeps (wait pid) := Frame.keeps_wait (keeps_note _)

end Marks

/-! ### What is done to the marks -/

/-- What ends the start of a command in the background, if anything does. -/
def Bench.spawnIncident? (command : List String) (b : Bench) : Option Raised :=
  if command = [] then some (.fault Fault.emptyCommand) else (b.scripts.headD {}).spawnIncident

/-- What is to happen whenever the output of the next process is closed. -/
def Bench.nextCloseIncident (b : Bench) : Option Raised := (b.scripts.headD {}).closeIncident

theorem Bench.spawnIncident?_congr {b c : Bench} (h : c.scripts = b.scripts)
    (command : List String) : c.spawnIncident? command = b.spawnIncident? command := by
  rw [spawnIncident?, h]
  rfl

theorem Bench.nextCloseIncident_congr {b c : Bench} (h : c.scripts = b.scripts) :
    c.nextCloseIncident = b.nextCloseIncident := by
  rw [nextCloseIncident, h]
  rfl

theorem Act.exec_changeOutput (n : Nat) (f : Output → Output) (b : Bench) :
    (changeOutput n f).exec b = (.ok (), { b with desk := b.desk.changeOutput n f }) := rfl

namespace Marks

variable {b c : Bench}

/-- A file that is opened is marked as open. -/
theorem openOutput_eq_ok {route : Route} {n : Nat} (h : (openOutput route).exec b = (.ok n, c)) :
    n = b.desk.marks.length ∧ c.desk.marks = b.desk.marks ++ [⟨false, none⟩] ∧
      c.scripts = b.scripts := by
  obtain ⟨fs, place, -, -, rfl, rfl⟩ := Client.openOutput_eq_ok h
  simp [Desk.marks, Output.mark]

/-- A file that cannot be opened leaves no mark. -/
theorem openOutput_eq_error {route : Route} {raised : Raised}
    (h : (openOutput route).exec b = (.error raised, c)) : b.KeepsMarks c := by
  rcases exec_bind_eq_error.1 h with h | ⟨_, d, hwrite, h⟩
  · exact (keeps_onFiles _).holds h
  · refine Frame.marks.trans ((keeps_onFiles _).holds hwrite) ?_
    rcases exec_bind_eq_error.1 h with h | ⟨place, e, -, h⟩
    · exact (Act.Frame.keeps_fromFiles _).holds h
    · cases h

/-- A command is started unless there is something to end that.  Only if it is started, its output
is marked by what is to happen whenever that is closed. -/
theorem exec_spawn (command : List String) (environ : List (String × String)) (dir : Option String)
    (route : Route) (n : Nat) (b : Bench) :
    match b.spawnIncident? command with
    | some raised =>
      ∃ c, (spawn command environ dir route n).exec b = (.error raised, c) ∧
        c.desk.marks = b.desk.marks
    | none =>
      ∃ pid c, (spawn command environ dir route n).exec b = (.ok pid, c) ∧
        c.desk.marks =
          b.desk.marks.modify n fun m => { m with closeIncident := b.nextCloseIncident } := by
  unfold spawn Bench.spawnIncident? Bench.nextCloseIncident
  rw [exec_bind_of_ok (exec_ask _ b), exec_bind_of_ok (exec_change _ b),
    exec_bind_of_ok (exec_note _ _)]
  generalize b.scripts.headD {} = script
  by_cases hcommand : command = []
  · simp only [hcommand, if_true]
    exact ⟨_, rfl, rfl⟩
  · simp only [hcommand, if_false]
    cases script.spawnIncident with
    | some raised => exact ⟨_, rfl, rfl⟩
    | none =>
      refine ⟨_, _, rfl, ?_⟩
      -- what the process writes at once leaves the marks alone
      refine (Child.marks_advance _ _ _).trans ?_
      exact Desk.marks_changeOutput _ n fun _ => rfl

/-- A file is marked as closed unless something happens when it is closed. -/
theorem exec_closeOutput {l : List Output.Mark} {incident : Option Raised}
    (hmarks : b.desk.marks = l ++ [⟨false, incident⟩]) :
    ∃ c, (closeOutput l.length).exec b = (incident.elim (.ok ()) .error, c) ∧
      c.desk.marks = l ++ [⟨incident.isNone, incident⟩] := by
  obtain ⟨o, ho, hmark⟩ := Desk.exists_of_marks_concat hmarks
  have hincident : (b.desk.outputs[l.length]?).bind (·.closeIncident) = incident := by
    rw [ho]
    exact congrArg Output.Mark.closeIncident hmark
  have hclosing : (b.desk.changeOutput l.length fun o => { o with writable := false }).marks =
      l ++ [⟨false, incident⟩] := by
    rw [← hmarks]
    exact b.desk.marks_changeOutput_of_eq _ fun _ => rfl
  unfold closeOutput
  rw [exec_bind_of_ok (exec_ask _ b), hincident, exec_bind_of_ok (exec_changeOutput _ _ b)]
  cases incident with
  | some raised => exact ⟨_, rfl, hclosing⟩
  | none =>
    refine ⟨_, rfl, ?_⟩
    have closed := Desk.marks_changeOutput
      (b.desk.changeOutput l.length fun o => { o with writable := false }) l.length
      (f := fun o => { o with closed := true }) (g := fun m => { m with closed := true })
      fun _ => rfl
    rw [hclosing, Desk.modify_concat_length] at closed
    exact closed

end Marks
end ClientTrial
