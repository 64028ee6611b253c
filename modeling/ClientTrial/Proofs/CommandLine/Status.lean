import ClientTrial.CommandLine.Session
import ClientTrial.Proofs.Trial.Errors

/-!
# The status that the program ends with

Four things set the status: the command line may be malformed, the settings may be invalid,
the trial may succeed, and the error of a trial that fails has a status of its own.  They
share one range of numbers.  Which of them a status stands for can be read off it, with one
exception: a malformed command line ends with two, as a server does that never came up.

## Main definitions

* `TrialError.statuses` — the kinds of error with a status of their own.
* `Raised.IsUsual` — what happens outside is no error of the trial with an unusual status.
* `CommandLine.Finish.FailsWith` — a trial was run and failed with an error of a given name.

## Main results

* `CommandLine.status_of_session` — what each status stands for.
* `CommandLine.status_of_malformed` — a malformed command line ends with the status of a
  server that never came up.
-/

namespace ClientTrial

open Act

/-! ### Kinds of error and their statuses -/

namespace TrialError

/-- The kinds of error that have a status of their own, with that status. -/
def statuses : List (String × Int) :=
  [("ServiceUnavailable", 2), ("ProcessFailed", 3), ("MissingExpectedContent", 4),
    ("ServerStartFailed", 5), ("ReceiverNotReady", 6)]

/-- The status that errors of a name usually have: one, unless they have a status of their own. -/
def usualStatus (name : String) : Int := (statuses.lookup name).getD 1

/-- The names of all kinds of error. -/
def names : List String :=
  ["HarnessError", "ServerStartFailed", "ServiceUnavailable", "ProcessFailed",
    "MissingExpectedContent", "ReceiverNotReady", "CleanupFailed"]

theorem name_mem_names (e : TrialError) : e.name ∈ names := by cases e <;> simp [name, names]

/-- A status of its own is usual for no other kind of error. -/
theorem usualStatus_eq_iff {entry : String × Int} (hentry : entry ∈ statuses) (e : TrialError) :
    usualStatus e.name = entry.2 ↔ e.name = entry.1 := by
  have listed : ∀ entry ∈ statuses, ∀ name ∈ names,
      (usualStatus name = entry.2 ↔ name = entry.1) := by decide
  exact listed entry hentry e.name e.name_mem_names

/-- One is the usual status of the errors that have none of their own. -/
theorem usualStatus_eq_one_iff (e : TrialError) :
    usualStatus e.name = 1 ↔ e.name ∉ statuses.map Prod.fst := by
  have listed : ∀ name ∈ names, (usualStatus name = 1 ↔ name ∉ statuses.map Prod.fst) := by decide
  exact listed e.name e.name_mem_names

theorem usualStatus_ne_zero (e : TrialError) : usualStatus e.name ≠ 0 := by
  have listed : ∀ name ∈ names, usualStatus name ≠ 0 := by decide
  exact listed e.name e.name_mem_names

end TrialError

/-- What happens outside a trial is no error of the trial with a status that is unusual for it. -/
def Raised.IsUsual (r : Raised) : Prop :=
  ∀ e cause, r = .trial e cause → e.exitStatus = TrialError.usualStatus e.name

namespace Trial

variable (t : Trial)

/-- The errors of a stage have their usual statuses. -/
theorem usualStatus_of_mem_sortsIn {stage : Stage} {e : TrialError}
    (h : e.sort ∈ t.sortsIn stage) : e.exitStatus = TrialError.usualStatus e.name := by
  have listed : ∀ s ∈ t.sortsIn stage, s.2.2 = TrialError.usualStatus s.1 := by
    cases stage with
    | settleReceiver =>
      rw [sortsIn]
      split
      · decide
      · decide
    | build | cleanPriorState | startServer | awaitReadiness | settleServer | startReceiver
    | runSender | verifyOutputs | cleanup =>
      rw [sortsIn]
      decide
  exact listed e.sort h

/-- A trial that comes to an outcome has succeeded, or ends with the usual status of its error. -/
theorem status_of_course {b b' : Bench} {course : Course} {o : Outcome}
    (hb : b.Foresees Raised.IsUsual False) (h : t.course.exec b = (.ok course, b'))
    (ho : course.result = .ok o) :
    o.succeeded = true ∨ o.succeeded = false ∧ ∃ e cause, o.error = some (e, cause) ∧
      o.exitStatus = TrialError.usualStatus e.name := by
  obtain ⟨fs, -, c, hhome, -⟩ := t.homecoming_of_course .usual h ho
  have covered : Raised.Covers Raised.IsUsual Raised.IsUsual :=
    ⟨fun _ hr => hr, fun f e cause hf => by cases hf⟩
  have sorted (stage : Stage) (e : TrialError) (cause : Option Fault)
      (he : e.sort ∈ t.sortsIn stage) : Raised.IsUsual (.trial e cause) := by
    intro e' cause' heq
    cases heq
    exact t.usualStatus_of_mem_sortsIn he
  rcases t.blamed_of_homecoming (Q := fun _ => Raised.IsUsual) (fun _ => covered)
      (fun _ _ _ h => by cases h) sorted (t.foresees_outset hb fs) hhome with
    hsucceeded | ⟨hfailed, f, herror, hblamed⟩
  · exact .inl hsucceeded
  refine .inr ⟨hfailed, (verdict f).1, (verdict f).2, herror, ?_⟩
  have hstatus : o.exitStatus = (verdict f).1.exitStatus := by
    simp [Outcome.exitStatus, hfailed, herror]
  rw [hstatus]
  cases f with
  | fault fault => rfl
  | trial e cause =>
    rcases hblamed with ⟨stage, -, husual⟩ | ⟨fault, hfault⟩
    · exact husual e cause rfl
    · cases hfault

end Trial

/-! ### Ends of the program -/

namespace CommandLine

/-- A trial was run and succeeded. -/
def Finish.Succeeds (finish : Finish) : Prop := ∃ o, finish = .done o ∧ o.succeeded = true

/-- A trial was run and failed with an error of a given name. -/
def Finish.FailsWith (finish : Finish) (name : String) : Prop :=
  ∃ o e cause, finish = .done o ∧ o.succeeded = false ∧ o.error = some (e, cause) ∧ e.name = name

/-- A trial that was run and came to an end succeeded, or failed with an error whose usual status
the program ends with. -/
theorem status_of_done {arguments : List String} {file : Option String} {runId : String}
    {b : Bench} {o : Outcome} (hb : b.Foresees Raised.IsUsual False)
    (h : (session arguments file runId b).finish = .done o) :
    o.succeeded = true ∨ o.succeeded = false ∧ ∃ e cause, o.error = some (e, cause) ∧
      o.exitStatus = TrialError.usualStatus e.name := by
  unfold session at h
  split at h
  · cases h
  · next settings _ =>
    split at h
    · cases h
    · unfold runTrial at h
      split at h
      · cases h
      · next course bench hcourse =>
        dsimp only at h
        split at h
        · cases h
        · next result hresult =>
          cases h
          exact Trial.status_of_course _ hb hcourse hresult

/-- What is refused says why no trial was run. -/
theorem refused_iff {arguments : List String} {file : Option String} {runId : String} {b : Bench}
    {why : Refusal} :
    (session arguments file runId b).finish = .refused why ↔
      loadSettings arguments b.environ file = .error why := by
  unfold session
  cases hload : loadSettings arguments b.environ file with
  | error reason => simp
  | ok settings =>
    refine iff_of_false ?_ (by simp)
    dsimp only
    split
    · simp
    · unfold runTrial
      split
      · simp
      · dsimp only
        split
        · simp
        · simp

/-- A command line that is malformed is refused as such, and so is one that asks for help. -/
theorem refused_of_parse (arguments : List String) (environ : List (String × String))
    (file : Option String) :
    (∀ e, loadSettings arguments environ file = .error (.usage e) ↔ parse arguments = .error e) ∧
      (loadSettings arguments environ file = .error .help ↔ parse arguments = .ok none) := by
  unfold loadSettings
  cases hparse : parse arguments with
  | error e => simp
  | ok given =>
    cases given with
    | none => simp
    | some overrides =>
      dsimp only
      split
      · simp
      · simp

/-- What a status stands for, for any end of the program at which the error of a failed trial sets its
usual status. -/
theorem meaning_of_status {finish : Finish} {k : Int} (hk : finish.status? = some k)
    (hdone : ∀ o, finish = .done o → o.succeeded = true ∨ o.succeeded = false ∧
      ∃ e cause, o.error = some (e, cause) ∧ o.exitStatus = TrialError.usualStatus e.name) :
    (k = 0 ↔ finish.Succeeds ∨ finish = .refused .help) ∧
      (∀ entry ∈ TrialError.statuses,
        (k = entry.2 ↔
          finish.FailsWith entry.1 ∨ entry.2 = 2 ∧ ∃ e, finish = .refused (.usage e))) ∧
      (k = 1 ↔
        (∃ issues, finish = .refused (.invalid issues)) ∨
          ∃ name, name ∉ TrialError.statuses.map Prod.fst ∧ finish.FailsWith name) := by
  -- no status of an error is that of success or of invalid settings
  have own : ∀ entry ∈ TrialError.statuses, entry.2 ≠ 0 ∧ entry.2 ≠ 1 := by decide
  cases finish with
  | raised r => cases hk
  | refused why =>
    -- without a trial nothing has succeeded or failed
    have silent (name : String) : ¬(Finish.refused why).FailsWith name := by
      rintro ⟨o, e, cause, h, -⟩
      cases h
    have unsuccessful : ¬(Finish.refused why).Succeeds := by
      rintro ⟨o, h, -⟩
      cases h
    cases why with
    | usage e =>
      cases hk
      refine ⟨by simp [unsuccessful], fun entry _ => ?_, by simp [silent]⟩
      simp [silent, eq_comm]
    | help =>
      cases hk
      refine ⟨by simp, fun entry hentry => ?_, by simp [silent]⟩
      simp [silent, (own entry hentry).1.symm]
    | invalid issues =>
      cases hk
      refine ⟨by simp [unsuccessful], fun entry hentry => ?_, by simp⟩
      simp [silent, (own entry hentry).2.symm]
  | done o =>
    obtain rfl : o.exitStatus = k := Option.some.inj hk
    rcases hdone o rfl with hsucceeded | ⟨hfailed, e, cause, herror, hstatus⟩
    · have silent (name : String) : ¬(Finish.done o).FailsWith name := by
        rintro ⟨_, _, _, h, hfailed, -⟩
        cases h
        rw [hsucceeded] at hfailed
        cases hfailed
      have hzero : o.exitStatus = 0 := o.exitStatus_eq_zero_iff.2 hsucceeded
      rw [hzero]
      refine ⟨by simp [Finish.Succeeds, hsucceeded], fun entry hentry => ?_, by simp [silent]⟩
      simp [silent, (own entry hentry).1.symm]
    · -- a trial that failed has one error, and that has one name
      have named (name : String) : (Finish.done o).FailsWith name ↔ e.name = name := by
        constructor
        · rintro ⟨_, e', cause', h, -, herror', hname⟩
          cases h
          rw [herror] at herror'
          cases herror'
          exact hname
        · exact fun hname => ⟨o, e, cause, rfl, hfailed, herror, hname⟩
      rw [hstatus]
      refine ⟨?_, fun entry hentry => ?_, ?_⟩
      · simp [Finish.Succeeds, hfailed, e.usualStatus_ne_zero]
      · simp [named, e.usualStatus_eq_iff hentry]
      · simp only [named, e.usualStatus_eq_one_iff]
        simp

/-- **The status of the program.**  Unless what happens outside is itself an error of the trial with
an unusual status, a status that the program ends with says how it ended.  It is zero iff a trial
succeeded or the user asked for help.  A status of its own belongs to an error of its name, but two
also to a malformed command line.  One is left to settings with issues, and to the errors of a trial
that have no status of their own. -/
theorem status_of_session (arguments : List String) (file : Option String) (runId : String)
    {b : Bench} (hb : b.Foresees Raised.IsUsual False) {k : Int}
    (hk : (session arguments file runId b).finish.status? = some k) :
    let finish := (session arguments file runId b).finish
    (k = 0 ↔ finish.Succeeds ∨ parse arguments = .ok none) ∧
      (∀ entry ∈ TrialError.statuses,
        (k = entry.2 ↔
          finish.FailsWith entry.1 ∨ entry.2 = 2 ∧ ∃ e, parse arguments = .error e)) ∧
      (k = 1 ↔
        (∃ issues, loadSettings arguments b.environ file = .error (.invalid issues)) ∨
          ∃ name, name ∉ TrialError.statuses.map Prod.fst ∧ finish.FailsWith name) := by
  obtain ⟨husage, hhelp⟩ := refused_of_parse arguments b.environ file
  have hmeaning := meaning_of_status hk fun o => status_of_done hb
  simp only [refused_iff, husage, hhelp] at hmeaning
  exact hmeaning

/-- A trial whose sender exits with status seven ends with three. -/
theorem status_of_failing_sender :
    let b : Bench := { Bench.quiet with errands := [{ status := 7 }] }
    let finish := (session [] none "r1" b).finish
    b.Foresees Raised.IsUsual False ∧ finish.status? = some 3 ∧ finish.FailsWith "ProcessFailed" := by
  intro b finish
  have quiet : Bench.quiet.Foresees Raised.IsUsual False := Bench.foresees_quiet
  have foreseen : b.Foresees Raised.IsUsual False := { quiet with
    errands := by
      intro e he
      cases List.mem_singleton.1 he
      exact foreseen_none }
  have hstatus : finish.status? = some 3 := by decide +kernel
  obtain ⟨-, hown, -⟩ := status_of_session [] none "r1" foreseen hstatus
  have hmeaning := (hown ("ProcessFailed", 3) (by decide)).1 rfl
  refine ⟨foreseen, hstatus, hmeaning.resolve_right fun h => ?_⟩
  cases h.1

/-- A malformed command line ends with two although no server was waited for.  The same value in the
environment ends with one. -/
theorem status_of_malformed :
    let finish := (session ["--log-format", "xml"] none "r1" Bench.quiet).finish
    finish.status? = some 2 ∧ ¬finish.FailsWith "ServiceUnavailable" ∧
      (session [] none "r1"
        { Bench.quiet with environ := [("IRC_HARNESS_LOG_FORMAT", "xml")] }).finish.status? =
        some 1 := by
  intro finish
  refine ⟨by decide +kernel, ?_, by decide +kernel⟩
  have malformed : (parse ["--log-format", "xml"]).isOk = false := by decide +kernel
  cases hparse : parse ["--log-format", "xml"] with
  | ok given =>
    rw [hparse] at malformed
    cases malformed
  | error usage =>
    have hrefused : finish = .refused (.usage usage) :=
      refused_iff.2 (((refused_of_parse _ _ _).1 usage).2 hparse)
    rw [hrefused]
    rintro ⟨o, e, cause, hdone, -⟩
    cases hdone

end CommandLine
end ClientTrial
