import ClientTrial.Proofs.Bench.Marks
import ClientTrial.Proofs.Tasks
import ClientTrial.Proofs.Trial.CleanUp
import ClientTrial.Settings.Sources

/-!
# Whether the receiver's output is closed

A trial opens at most one file for output, that of its receiver.  If the receiver cannot be
started, the file is closed after a fault of the operating system, and is left open after
anything else, although there is no receiver then through which it could be closed later.
If the receiver was started, its file is closed in the clean-up, unless stopping it is
ended by something else than a fault of the operating system or a passed time limit.

## Main definitions

* `Client.unstarted` — what is raised for a command that could not be started.
* `Trial.Opened` — what has become of the opened files on the way forward.

## Main results

* `Client.exec_runBackground`, `Receiver.marks_terminate` — the file of one receiver.
* `Trial.opened_journey`, `Trial.marks_homecoming` — the opened files after the way forward, and
  after the clean-up.
* `Trial.closed_iff_of_run` — **which files a trial leaves closed**.
-/

namespace ClientTrial

open Act

/-! ### The start of a receiver -/

namespace Client

/-- What is raised for a command that could not be started, by what has ended the start. -/
def unstarted (command : List String) (raised : Raised) : Raised :=
  match spawnFailure? raised with
  | none => raised
  | some f => .trial (.processFailed command spawnFailedStatus false) (some f)

variable (command : List String) (added : List (String × String)) {route : Route} {b d : Bench}
  {n : Nat}

/-- Once its file is opened, a receiver is started unless there is something to end that, and its
file is closed only after a fault of the operating system. -/
theorem exec_runBackground (hopen : (openOutput route).exec b = (.ok n, d)) :
    match b.spawnIncident? command with
    | some raised =>
      ∃ c, (runBackground command added route).exec b = (.error (unstarted command raised), c) ∧
        c.desk.marks = b.desk.marks ++ [⟨(spawnFailure? raised).isSome, none⟩]
    | none =>
      ∃ r c, (runBackground command added route).exec b = (.ok r, c) ∧
        r.output = some b.desk.marks.length ∧
        c.desk.marks = b.desk.marks ++ [⟨false, b.nextCloseIncident⟩] := by
  obtain ⟨rfl, hd, hscripts⟩ := Marks.openOutput_eq_ok hopen
  have hspawn := Marks.exec_spawn command (overlay d.environ added) d.workingDir route
    b.desk.marks.length d
  rw [Bench.spawnIncident?_congr hscripts, Bench.nextCloseIncident_congr hscripts, hd] at hspawn
  unfold runBackground
  rw [exec_bind_of_ok hopen, exec_bind_of_ok (exec_ask _ d), exec_bind_of_ok (exec_ask _ _),
    exec_bind_of_ok (exec_attempt _ _)]
  cases hended : b.spawnIncident? command with
  | none =>
    rw [hended] at hspawn
    obtain ⟨pid, e, hexec, he⟩ := hspawn
    rw [Desk.modify_concat_length] at he
    rw [hexec]
    exact ⟨_, _, rfl, rfl, he⟩
  | some raised =>
    rw [hended] at hspawn
    obtain ⟨e, hexec, he⟩ := hspawn
    rw [hexec]
    unfold unstarted
    dsimp only
    cases spawnFailure? raised with
    | none => exact ⟨_, rfl, he⟩
    | some f =>
      -- the file has just been opened, and nothing happens when it is closed
      obtain ⟨c, hclosed, hc⟩ := Marks.exec_closeOutput he
      rw [exec_bind_of_ok hclosed]
      exact ⟨_, rfl, hc⟩

variable {command added} in
/-- A receiver that is not started although its file was opened. -/
theorem marks_of_unstarted {c : Bench} {raised : Raised}
    (hopen : (openOutput route).exec b = (.ok n, d))
    (hraised : (runBackground command added route).exec b = (.error raised, c)) :
    ∃ incident, b.spawnIncident? command = some incident ∧
      raised = unstarted command incident ∧
      c.desk.marks = b.desk.marks ++ [⟨(spawnFailure? incident).isSome, none⟩] := by
  have hrun := exec_runBackground command added hopen
  cases hincident : b.spawnIncident? command with
  | none =>
    rw [hincident, hraised] at hrun
    obtain ⟨r, _, hr, -⟩ := hrun
    cases hr
  | some incident =>
    rw [hincident, hraised] at hrun
    obtain ⟨_, hr, hmarks⟩ := hrun
    cases hr
    exact ⟨incident, rfl, rfl, hmarks⟩

/-- A receiver whose file cannot be opened is not started. -/
theorem exec_runBackground_of_unopened {raised : Raised}
    (h : (openOutput route).exec b = (.error raised, d)) :
    (runBackground command added route).exec b = (.error raised, d) ∧ b.KeepsMarks d :=
  ⟨exec_bind_of_error h _, Marks.openOutput_eq_error h⟩

end Client

/-! ### The end of a receiver -/

namespace Marks

open Act.Frame

theorem keeps_tryHalt (r : Receiver) : marks.Keeps r.tryHalt :=
  Frame.keeps_tryHalt keeps_say r (keeps_kill _) (keeps_wait _)

end Marks

namespace Receiver

variable {r : Receiver} {b : Bench}

/-- The stop of a process is answered unless it is ended by something else than a fault of the
operating system or a passed time limit. -/
theorem isOk_tryHalt_iff :
    (r.tryHalt.exec b).1.isOk = true ↔
      ∀ raised, (r.halt.exec b).1 = .error raised → tolerated? raised ≠ none := by
  unfold tryHalt
  rw [exec_bind_of_ok (exec_attempt _ b)]
  cases (r.halt.exec b).1 with
  | ok _ => simp [Except.isOk, Except.toBool]
  | error raised =>
    dsimp only
    cases htolerated : tolerated? raised with
    | none => simp [htolerated, Except.isOk, Except.toBool]
    | some f =>
      refine iff_of_true rfl ?_
      rintro _ ⟨⟩
      simp [htolerated]

/-- The file of a receiver is closed unless something happens then, whatever is made of that. -/
theorem marks_tryClose {l : List Output.Mark} {incident : Option Raised}
    (hmarks : b.desk.marks = l ++ [⟨false, incident⟩]) (hr : r.output = some l.length)
    (earlier : Option TrialError) :
    ((r.tryClose earlier).exec b).2.desk.marks = l ++ [⟨incident.isNone, incident⟩] := by
  have hopen : ((b.desk.outputs[l.length]?).map (·.closed)).getD true = false := by
    obtain ⟨o, ho, hmark⟩ := Desk.exists_of_marks_concat hmarks
    rw [ho]
    exact congrArg Output.Mark.closed hmark
  obtain ⟨c, hclosed, hc⟩ := Marks.exec_closeOutput hmarks
  unfold tryClose
  rw [hr]
  dsimp only
  rw [isClosed, exec_bind_of_ok (exec_ask _ b), hopen, if_neg Bool.false_ne_true]
  unfold close
  rw [exec_bind_of_ok (exec_attempt _ b), hclosed]
  cases incident with
  | none => exact hc
  | some raised =>
    dsimp only [Option.elim_some]
    split
    · exact hc
    · exact hc

/-- The file of a receiver is closed when the receiver is stopped, unless that is not answered or
something happens when the file is closed. -/
theorem marks_terminate {l : List Output.Mark} {incident : Option Raised}
    (hmarks : b.desk.marks = l ++ [⟨false, incident⟩]) (hr : r.output = some l.length) :
    (r.terminate.exec b).2.desk.marks =
      l ++ [⟨(r.tryHalt.exec b).1.isOk && incident.isNone, incident⟩] := by
  have hhalted := (Marks.keeps_tryHalt r b).marks.trans hmarks
  unfold terminate
  rcases hhalt : r.tryHalt.exec b with ⟨raised | failure, c⟩
  · rw [hhalt] at hhalted
    rw [exec_bind_of_error hhalt]
    exact hhalted
  · rw [hhalt] at hhalted
    rw [exec_bind_of_ok hhalt]
    exact marks_tryClose hhalted hr failure

end Receiver

/-! ### The way forward -/

namespace Marks

open Act.Frame

variable (t : Trial)

theorem keeps_enter (stage : Stage) : marks.Keeps (Trial.enter stage) :=
  keeps_change (fun _ => rfl) fun _ => rfl

/-- Every stage but the start of the receiver leaves the marks alone. -/
theorem keeps_perform (p : Progress) {stage : Stage} (hstage : stage ≠ .startReceiver) :
    marks.Keeps (t.perform .usual p stage) :=
  Frame.keeps_perform keeps_say t keeps_openDaemon (keeps_lookup _) (keeps_remove _)
    (fun _ _ _ => keeps_create _ _ _ _) (keeps_reload _) keeps_connect keeps_readClock keeps_sleep
    keeps_runErrand (fun h => absurd h hstage) p

/-- So do the calls of the clean-up that are about the server. -/
theorem keeps_answer {call : CleanUpCall} (hcall : ∀ r, call ≠ .terminate r) :
    marks.Keeps (Crew.usual.answer call) :=
  Frame.keeps_answer keeps_say keeps_openDaemon keeps_lookup keeps_logs
    (fun name _ => keeps_remove name) keeps_kill keeps_wait fun r h => absurd h (hcall r)

theorem keeps_settle (startedAt : Moment) (p : Progress) (ended : Except Raised Unit)
    (cleaned : List TrialError × String) : marks.Keeps (t.settle startedAt p ended cleaned) :=
  Frame.keeps_settle keeps_say t
    (fun r => Frame.keeps_save (keeps_onFiles _) (fun _ _ => keeps_onFiles _) r) (keeps_onFiles _)
    _ _ _ _

end Marks

namespace Trial

variable (t : Trial)

/-- What has become of the opened files since an earlier bench, by the receiver that is held and by
what has ended the way forward. -/
inductive Opened (b : Bench) : Option Receiver → Except Raised Unit → Bench → Prop where
  /-- No file has been opened. -/
  | untouched {ended : Except Raised Unit} {c : Bench} (h : b.KeepsMarks c) : Opened b none ended c
  /-- A file was opened for a receiver that could not be started. -/
  | unstarted {command : List String} {raised : Raised} {c : Bench}
      (hwords : t.settings.receiverWords = .ok command)
      (hincident : b.spawnIncident? command = some raised)
      (hmarks : c.desk.marks =
        b.desk.marks ++ [⟨(Client.spawnFailure? raised).isSome, none⟩]) :
      Opened b none (.error (Client.unstarted command raised)) c
  /-- A file was opened for the receiver that is held. -/
  | started {command : List String} {r : Receiver} {ended : Except Raised Unit} {c : Bench}
      (hwords : t.settings.receiverWords = .ok command)
      (hincident : b.spawnIncident? command = none)
      (houtput : r.output = some b.desk.marks.length)
      (hmarks : c.desk.marks = b.desk.marks ++ [⟨false, b.nextCloseIncident⟩]) :
      Opened b (some r) ended c

variable {t} {b c d : Bench}

/-- What leaves the marks alone adds nothing to this. -/
theorem Opened.keeps {receiver : Option Receiver} (h : t.Opened b receiver (.ok ()) c)
    (hkept : c.KeepsMarks d) (ended : Except Raised Unit) : t.Opened b receiver ended d := by
  cases h with
  | untouched h => exact .untouched (Frame.marks.trans h hkept)
  | started hwords hincident houtput hmarks =>
    exact .started hwords hincident houtput (hkept.marks.trans hmarks)

variable (t)

/-- A visit on which the receiver is to be started, which it has not been before. -/
theorem opened_of_startReceiver {p : Progress} (hp : p.receiver = none) (h : b.KeepsMarks c) :
    match (t.perform .usual p .startReceiver).exec c with
    | (.ok q, d) => t.Opened b q.receiver (.ok ()) d
    | (.error raised, d) => t.Opened b none (.error raised) d := by
  unfold perform
  cases p.server with
  | none => exact hp ▸ .untouched h
  | some server =>
    dsimp only
    cases hwords : t.settings.receiverWords with
    | error e => exact .untouched h
    | ok command =>
      rw [exec_bind_of_ok (show (wordsOf (.ok command)).exec c = (.ok command, c) from rfl),
        show Crew.usual.runBackground = Client.runBackground from rfl]
      rcases hopen : (openOutput t.output).exec c with ⟨raised | n, e⟩
      · obtain ⟨hrun, hkept⟩ :=
          Client.exec_runBackground_of_unopened command (t.addressBinding server) hopen
        rw [exec_bind_of_error hrun]
        exact .untouched (Frame.marks.trans h hkept)
      · have hrun := Client.exec_runBackground command (t.addressBinding server) hopen
        rw [Bench.spawnIncident?_congr h.scripts, Bench.nextCloseIncident_congr h.scripts,
          h.marks] at hrun
        cases hincident : b.spawnIncident? command with
        | none =>
          rw [hincident] at hrun
          obtain ⟨r, d, hrun, houtput, hmarks⟩ := hrun
          rw [exec_bind_of_ok hrun]
          exact .started hwords hincident houtput hmarks
        | some raised =>
          rw [hincident] at hrun
          obtain ⟨d, hrun, hmarks⟩ := hrun
          rw [exec_bind_of_error hrun]
          exact .unstarted hwords hincident hmarks

/-- What a visit does to the opened files.  The receiver is not started twice. -/
theorem opened_of_performed {v : Visit}
    (hfirst : v.stage = .startReceiver → v.progress.receiver = none)
    (h : t.Opened b v.progress.receiver (.ok ()) v.bench) :
    match t.performed .usual v with
    | (.ok q, d) => t.Opened b q.receiver (.ok ()) d
    | (.error raised, d) => t.Opened b v.progress.receiver (.error raised) d := by
  by_cases hstage : v.stage = .startReceiver
  · rw [hfirst hstage] at h ⊢
    cases h with
    | untouched hkept =>
      unfold performed
      rw [hstage]
      exact t.opened_of_startReceiver (hfirst hstage) hkept
  · have hkept : v.bench.KeepsMarks (t.performed .usual v).2 :=
      Marks.keeps_perform t v.progress hstage v.bench
    rcases hp : t.performed .usual v with ⟨raised | q, d⟩
    · rw [hp] at hkept
      exact h.keeps hkept _
    · rw [hp] at hkept
      have hq : q.receiver = v.progress.receiver := by
        rw [t.progress_of_performed_ok .usual hp, t.receiver?_of_ne .usual hstage]
        rfl
      dsimp only
      rw [hq]
      exact h.keeps hkept _

/-- What has become of the opened files when a trial has gone forward. -/
theorem opened_journey (b : Bench) :
    let j := t.journey .usual b
    t.Opened b j.progress.receiver j.ended j.bench :=
  t.invariant_journey .usual (fun stage _ c h => h.keeps (Marks.keeps_enter stage c) _)
    (fun _ hfirst h => t.opened_of_performed hfirst h) fun _ => .untouched (Frame.marks.refl b)

/-! ### The end of a trial -/

/-- The receiver that is held is stopped, whatever is made of the end of that. -/
theorem bench_stopReceiver (p : Progress) (b : Bench) :
    ((stopReceiver .usual p).exec b).2 = p.receiver.elim b fun r => (r.terminate.exec b).2 := by
  unfold stopReceiver
  cases p.receiver with
  | none => rfl
  | some r =>
    have answered : ((Crew.usual.answer (.terminate r)).exec b).2 = (r.terminate.exec b).2 := by
      change ((do pure (Crew.answerOf (← r.terminate)) : Act _).exec b).2 = _
      rw [exec_bind]
      rcases r.terminate.exec b with ⟨raised | failure, c⟩ <;> rfl
    dsimp only [Option.elim_some]
    unfold bestEffort
    rw [exec_bind_of_ok (exec_attempt _ b), ← answered]
    split <;> rfl

/-- After the journey the marks are changed only in stopping the receiver. -/
theorem marks_homecoming (startedAt : Moment) (j : Journey) :
    (t.homecoming .usual startedAt j).2.desk.marks =
      (j.progress.receiver.elim (homeBench j) fun r =>
        (r.terminate.exec (homeBench j)).2).desk.marks := by
  have cleaned := Act.Frame.holds_cleanUp_of_stopReceiver Marks.keeps_say t
    (Marks.keeps_answer fun _ h => nomatch h) (Marks.keeps_answer fun _ h => nomatch h)
    j.progress (failureOf j.ended).isSome (homeBench j)
  have settled :
      ((t.cleanUp .usual j.progress (failureOf j.ended).isSome).exec (homeBench j)).2.KeepsMarks
        (t.homecoming .usual startedAt j).2 :=
    Act.Frame.holds_bind (F := .marks) (Act.Frame.marks.refl _) fun cleaned =>
      Marks.keeps_settle t startedAt j.progress j.ended cleaned
  rw [settled.marks, cleaned.marks, bench_stopReceiver]

theorem marks_homeBench (j : Journey) : (homeBench j).desk.marks = j.bench.desk.marks :=
  (Act.Frame.holds_homeBench (F := .marks) Marks.keeps_say (Marks.keeps_enter _) j).marks

/-- Once it has its directory, a trial ends where it comes home from its journey. -/
theorem desk_run {b : Bench} {fs : Files} (made : b.files.makeDir t.artifacts = .ok fs) :
    (t.run.exec b).2.desk =
      (t.homecoming .usual (Moment.ofClock b.clock) (t.journey .usual (t.outset fs b))).2.desk := by
  unfold run course
  rw [exec_bind_of_ok (t.exec_courseWith .usual made), exec_release]
  exact t.desk_parting _ _

theorem desk_run_of_unmade {b : Bench} {f : Fault}
    (unmade : b.files.makeDir t.artifacts = .error f) : (t.run.exec b).2.desk = b.desk := by
  unfold run course
  rw [exec_bind_of_ok (t.exec_courseWith_of_makeDir_error .usual unmade), exec_release]
  rfl

/-- **Which files are left closed.**  If a receiver cannot be started once its file is opened, the
file is closed iff what has ended the start is a fault of the operating system; there is then no
receiver.  A trial opens one file at most.  If there is one at its end, that of a receiver which
could not be started is closed under the same condition, and that of a receiver which was started
is closed iff nothing happens when it is closed and the stop of the receiver is not ended by
anything but a fault of the operating system or a passed time limit. -/
theorem closed_iff_of_run (b : Bench) :
    (∀ (command : List String) (added : List (String × String)) (route : Route) (c d : Bench)
        (n : Nat) (raised : Raised), (openOutput route).exec b = (.ok n, c) →
        (Client.runBackground command added route).exec b = (.error raised, d) →
      ∃ incident, b.spawnIncident? command = some incident ∧
        raised = Client.unstarted command incident ∧
        d.desk.marks = b.desk.marks ++ [⟨(Client.spawnFailure? incident).isSome, none⟩]) ∧
    ∃ opened, (t.run.exec b).2.desk.marks = b.desk.marks ++ opened ∧ opened.length ≤ 1 ∧
      ∀ m ∈ opened, ∃ fs command,
        b.files.makeDir t.artifacts = .ok fs ∧ t.settings.receiverWords = .ok command ∧
        let j := t.journey .usual (t.outset fs b)
        match b.spawnIncident? command with
        | some incident =>
          j.progress.receiver = none ∧ j.ended = .error (Client.unstarted command incident) ∧
            (m.closed = true ↔ Client.spawnFailure? incident ≠ none)
        | none =>
          ∃ r, j.progress.receiver = some r ∧
            (m.closed = true ↔ b.nextCloseIncident = none ∧
              ∀ raised, (r.halt.exec (homeBench j)).1 = .error raised →
                Receiver.tolerated? raised ≠ none) := by
  refine ⟨fun _ _ _ _ _ _ _ hopen hraised => Client.marks_of_unstarted hopen hraised, ?_⟩
  rcases made : b.files.makeDir t.artifacts with f | fs
  · refine ⟨[], ?_, Nat.zero_le 1, fun _ hm => nomatch hm⟩
    rw [t.desk_run_of_unmade made, List.append_nil]
  · have hrun := congrArg Desk.marks (t.desk_run made)
    rw [marks_homecoming] at hrun
    have hopened := t.opened_journey (t.outset fs b)
    dsimp only at hopened
    generalize hreceiver : (t.journey .usual (t.outset fs b)).progress.receiver = receiver
      at hrun hopened
    generalize hended : (t.journey .usual (t.outset fs b)).ended = ended at hopened
    cases hopened with
    | untouched hkept =>
      refine ⟨[], ?_, Nat.zero_le 1, fun _ hm => nomatch hm⟩
      rw [hrun, List.append_nil, Option.elim_none, marks_homeBench, hkept.marks]
      rfl
    | @unstarted command incident _ hwords hincident hmarks =>
      refine ⟨_, hrun.trans ((marks_homeBench _).trans hmarks), Nat.le_refl 1, ?_⟩
      intro m hm
      rw [List.mem_singleton.1 hm]
      refine ⟨fs, command, rfl, hwords, ?_⟩
      rw [show b.spawnIncident? command = some incident from hincident]
      exact ⟨hreceiver, hended, by simp [Option.isSome_iff_ne_none]⟩
    | @started command r _ _ hwords hincident houtput hmarks =>
      have hstopped := Receiver.marks_terminate ((marks_homeBench _).trans hmarks) houtput
      refine ⟨_, hrun.trans hstopped, Nat.le_refl 1, ?_⟩
      intro m hm
      rw [List.mem_singleton.1 hm]
      refine ⟨fs, command, rfl, hwords, ?_⟩
      rw [show b.spawnIncident? command = none from hincident]
      refine ⟨r, hreceiver, ?_⟩
      simp only [Bool.and_eq_true, Receiver.isOk_tryHalt_iff, Option.isNone_iff_eq_none]
      exact and_comm

/-- The file of a receiver whose executable is not there is closed. -/
theorem closed_of_missing_receiver :
    let t : Trial := ⟨Settings.default, "run0001"⟩
    let missing := Raised.fault (Fault.noSuchFile "./target/debug/examples/print_messages")
    let b : Bench := { Bench.quiet with scripts := [{ spawnIncident := some missing }] }
    ∃ m, (t.run.exec b).2.desk.marks = [m] ∧ m.closed = true := by
  intro t missing b
  have counted : (t.run.exec b).2.desk.outputs.length = 1 := by decide +kernel
  obtain ⟨opened, hmarks, -, hopened⟩ := (t.closed_iff_of_run b).2
  rw [show b.desk.marks = [] from rfl, List.nil_append] at hmarks
  obtain ⟨m, rfl⟩ : ∃ m, opened = [m] := by
    rw [← List.length_eq_one_iff, ← hmarks, Desk.length_marks, counted]
  refine ⟨m, hmarks, ?_⟩
  obtain ⟨fs, command, -, hwords, hm⟩ := hopened m (List.mem_singleton_self m)
  have told : t.settings.receiverWords.toOption =
      some ["./target/debug/examples/print_messages"] := by decide +kernel
  rw [hwords] at told
  obtain rfl := Option.some.inj told
  obtain ⟨-, -, hclosed⟩ := hm
  exact hclosed.2 (by decide)

/-- **Files that are left open.**  Settings are accepted in which the receiver's command has no
words; the start of the receiver is then ended by the fault of an empty command, no receiver is
held, and the file that was opened for it is open when the trial is over.  The file of a receiver
whose stop is interrupted is open as well.  Nothing would have happened in closing either. -/
theorem left_open_of_empty_command :
    (let sources : Sources := { overrides := [("receiver_command", .str "")] }
      let t : Trial := ⟨sources.valueOrDefault, "run0001"⟩
      sources.load = .ok t.settings ∧
        (t.run.exec Bench.quiet).2.desk.marks = [⟨false, none⟩]) ∧
    let b : Bench := { Bench.quiet with scripts := [{
      incident := fun dealing _ => if dealing = .wait then some (.interrupt "") else none }] }
    ∃ r c, (Client.runBackground ["./print_messages"] [] (Route.ofText "recvd")).exec b =
        (.ok r, c) ∧
      (r.terminate.exec c).2.desk.marks = [⟨false, none⟩] := by
  constructor
  · intro sources t
    have accepted : sources.allIssues.isEmpty = true := by decide +kernel
    refine ⟨Sources.load_eq_ok_iff.2 ⟨List.isEmpty_iff.1 accepted, rfl⟩, ?_⟩
    have told : (t.run.exec Bench.quiet).2.desk.marks.map
        (fun m => (m.closed, m.closeIncident.isNone)) = [(false, true)] := by decide +kernel
    obtain ⟨⟨closed, incident⟩, hmarks, hmark⟩ := List.map_eq_singleton_iff.1 told
    obtain ⟨rfl, hincident⟩ := Prod.mk.inj hmark
    rw [hmarks, show incident = none from Option.isNone_iff_eq_none.1 hincident]
  · intro b
    refine ⟨_, _, rfl, ?_⟩
    rfl

end Trial
end ClientTrial
