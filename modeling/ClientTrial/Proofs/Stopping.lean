import Mathlib.Data.List.Basic
import ClientTrial.Client

/-!
# How a receiver is stopped

To stop a receiver is to ask whether its process is running, to kill it if so, and to wait
for it; the first of the three that goes wrong is answered as what went wrong.  Whatever
the answer is, the output of the receiver is closed.  So nothing is left to be stopped
after a receiver was stopped without complaint, and stopping it once more only waits for
a process that is over.

What goes wrong depends on when the process is dealt with.  Stopping it takes no time, so that
all of it is told by the reading of the clock at which it begins.

## Main definitions

* `Child.killed`, `Child.stopped` — a process after a kill, and after it was to be stopped.
* `Child.trouble?` — the first thing that goes wrong in stopping a process.
* `Child.dealings` — what is done to a process to stop it.
* `Bench.Knows` — a process is found by its number.
* `Receiver.IsAtHand` — a receiver can be stopped without anything unheard of.

## Main results

* `Receiver.exec_halt` — how a receiver is halted.
* `Receiver.exec_tryClose` — how its output is closed.
* **`Receiver.honest_terminate`** — what the answer says, and that the output is closed.
-/

namespace ClientTrial

open Act

/-! ### A process that is to be stopped -/

namespace Child

/-- A process after it was killed. -/
def killed (c : Child) : Child :=
  if c.isLive ∧ ¬c.script.unkillable then { c with status := some (-9) } else c

/-- A process after it was to be stopped. -/
def stopped (c : Child) (clock : Float) : Child :=
  if (c.incident? clock .poll).isSome ∨ (c.incident? clock .kill).isSome then c else c.killed

/-- What goes wrong in waiting for a process.  One that runs on is overdue. -/
def lateness? (c : Child) (clock : Float) : Option Raised :=
  (c.incident? clock .wait).or
    (if c.isLive then some (.fault (Fault.overdue c.command "10")) else none)

/-- The first thing that goes wrong in polling, killing and waiting for a process, of which only one
that runs is killed. -/
def trouble? (c : Child) (clock : Float) : Option Raised :=
  (c.incident? clock .poll).or
    ((if c.isLive then c.incident? clock .kill else none).or (c.killed.lateness? clock))

/-- What is done to a process of a number to stop it. -/
def dealings (pid : Int) (c : Child) (clock : Float) : List Effect :=
  if (c.incident? clock .poll).isSome then []
  else if c.isLive then
    if (c.incident? clock .kill).isSome then [.kill pid] else [.kill pid, .wait pid]
  else [.wait pid]

variable {c : Child}

@[simp] theorem killed_pid : c.killed.pid = c.pid := by
  unfold killed
  split <;> rfl

@[simp] theorem incident?_killed (clock : Float) (dealing : Dealing) :
    c.killed.incident? clock dealing = c.incident? clock dealing := by
  unfold killed
  split <;> rfl

@[simp] theorem killed_command : c.killed.command = c.command := by
  unfold killed
  split <;> rfl

theorem killed_of_not_isLive (h : c.isLive = false) : c.killed = c := by
  simp [killed, h]

end Child

/-! ### The three calls -/

/-- A process is found by its number. -/
def Bench.Knows (pid : Int) (c : Child) (b : Bench) : Prop :=
  b.children.find? (·.pid == pid) = some c

namespace Act

variable {pid : Int} {c : Child} {b : Bench}

theorem exec_child? (h : b.Knows pid c) : (child? pid).exec b = (.ok (some c), b) := by
  rw [← h]
  rfl

/-- A process is found if nothing goes wrong in dealing with it. -/
theorem exec_dealWith_of_none (h : b.Knows pid c) {dealing : Dealing}
    (hnone : c.incident? b.clock dealing = none) :
    (dealWith pid dealing).exec b = (.ok (some c), b) := by
  unfold dealWith
  rw [exec_bind_of_ok (exec_child? h), exec_bind_of_ok (exec_ask _ b), Option.bind_some, hnone]
  rfl

/-- What goes wrong in dealing with a process is raised. -/
theorem exec_dealWith_of_some (h : b.Knows pid c) {dealing : Dealing} {raised : Raised}
    (hsome : c.incident? b.clock dealing = some raised) :
    (dealWith pid dealing).exec b = (.error raised, b) := by
  unfold dealWith
  rw [exec_bind_of_ok (exec_child? h), exec_bind_of_ok (exec_ask _ b), Option.bind_some, hsome]
  rfl

/-- A process says whether it is running unless asking goes wrong. -/
theorem exec_isRunning (h : b.Knows pid c) :
    (isRunning pid).exec b = (match c.incident? b.clock .poll with
      | none => .ok c.isLive
      | some raised => .error raised, b) := by
  unfold isRunning
  cases hpoll : c.incident? b.clock .poll with
  | none => exact exec_bind_of_ok (exec_dealWith_of_none h hpoll) _
  | some raised => exact exec_bind_of_error (exec_dealWith_of_some h hpoll) _

/-- A process is killed unless that goes wrong; nothing else changes. -/
theorem exec_kill (h : b.Knows pid c) :
    ∃ d : Bench, (kill pid).exec b = (match c.incident? b.clock .kill with
        | none => .ok ()
        | some raised => .error raised, d) ∧
      d.Knows pid (if (c.incident? b.clock .kill).isSome then c else c.killed) ∧
      d.clock = b.clock ∧ d.desk = b.desk ∧ d.trace.toList = b.trace.toList ++ [.kill pid] := by
  have hnoted : (b.noting (.kill pid)).Knows pid c := h
  unfold kill
  rw [exec_bind_of_ok (exec_note _ b)]
  cases hkill : c.incident? b.clock .kill with
  | some raised =>
    exact ⟨_, exec_bind_of_error (exec_dealWith_of_some hnoted hkill) _, h, rfl, rfl,
      Array.toList_push⟩
  | none =>
    refine ⟨_, exec_bind_of_ok (exec_dealWith_of_none hnoted hkill) _, ?_, rfl, rfl,
      Array.toList_push⟩
    have hpid : c.pid = pid := by
      have hfound := List.find?_some h
      simpa using hfound
    -- the first process with the number stays the first, since no number changes
    have hnumbers : ((fun c : Child => c.pid == pid) ∘ fun c : Child =>
        if c.pid = pid ∧ c.isLive ∧ ¬c.script.unkillable then { c with status := some (-9) }
        else c) = fun c => c.pid == pid := by
      funext other
      dsimp only [Function.comp_apply]
      split <;> rfl
    have hfound : b.children.find? (·.pid == pid) = some c := h
    unfold Bench.Knows
    dsimp only [Bench.noting]
    rw [List.find?_map, hnumbers, hfound]
    simp [Child.killed, hpid]

/-- A process that is over is waited for unless that goes wrong. -/
theorem exec_wait (h : b.Knows pid c) :
    (wait pid).exec b = (match c.lateness? b.clock with
      | none => .ok (c.status.getD 0)
      | some raised => .error raised, b.noting (.wait pid)) := by
  have hnoted : (b.noting (.wait pid)).Knows pid c := h
  unfold wait Child.lateness? Child.isLive
  rw [exec_bind_of_ok (exec_note _ b)]
  cases hwait : c.incident? b.clock .wait with
  | some raised => exact exec_bind_of_error (exec_dealWith_of_some hnoted hwait) _
  | none =>
    rw [exec_bind_of_ok (exec_dealWith_of_none hnoted hwait), Option.bind_some]
    cases c.status with
    | some status => rfl
    | none => rfl

end Act

namespace Receiver

variable {r : Receiver} {c : Child} {b : Bench}

/-- What is raised is a failure of the operating system, or says that a process runs on. -/
def IsOrdinary (raised : Raised) : Prop :=
  ∃ f, raised = .fault f ∧ (f.kind.isOs = true ∨ f.kind = .overdue)

/-- The process of a receiver is known, nothing unheard of happens to the three calls, and its
output can be closed. -/
structure IsAtHand (r : Receiver) (c : Child) (b : Bench) : Prop where
  knows : b.Knows r.pid c
  ordinary : ∀ dealing raised, c.incident? b.clock dealing = some raised → IsOrdinary raised
  closes : ∀ n, r.output = some n →
    ∃ o, b.desk.outputs[n]? = some o ∧ o.closeIncident = none

theorem isOrdinary_of_trouble? (h : r.IsAtHand c b) {raised : Raised}
    (htrouble : c.trouble? b.clock = some raised) : IsOrdinary raised := by
  unfold Child.trouble? Child.lateness? at htrouble
  rw [Child.incident?_killed] at htrouble
  rcases Option.or_eq_some_iff.1 htrouble with hpoll | ⟨-, htrouble⟩
  · exact h.ordinary .poll raised hpoll
  rcases Option.or_eq_some_iff.1 htrouble with hkill | ⟨-, htrouble⟩
  · have hkill : c.incident? b.clock .kill = some raised := by
      split at hkill
      · exact hkill
      · cases hkill
    exact h.ordinary .kill raised hkill
  rcases Option.or_eq_some_iff.1 htrouble with hwait | ⟨-, hlive⟩
  · exact h.ordinary .wait raised hwait
  · split at hlive
    · cases hlive
      exact ⟨_, rfl, .inr rfl⟩
    · cases hlive

theorem tolerated?_of_isOrdinary {raised : Raised} (h : IsOrdinary raised) :
    ∃ f, tolerated? raised = some f ∧ raised.text = f.text := by
  obtain ⟨f, rfl, hkind⟩ := h
  refine ⟨f, ?_, rfl⟩
  have hp : (f.kind.isOs || decide (f.kind = .overdue)) = true := by
    simpa using hkind
  exact if_pos hp

/-! ### The process -/

/-- A process that is over is waited for, and that it has stopped is reported. -/
def awaitEnd (r : Receiver) : Act Unit := do
  let status ← wait r.pid
  say (.stopped (Client.firstWord r.command) r.pid status)

theorem exec_awaitEnd (h : b.Knows r.pid c) :
    r.awaitEnd.exec b = match c.lateness? b.clock with
      | none => (.ok (), (b.noting (.wait r.pid)).saying
          (.stopped (Client.firstWord r.command) r.pid (c.status.getD 0)))
      | some raised => (.error raised, b.noting (.wait r.pid)) := by
  have hwait := exec_wait h
  unfold awaitEnd
  cases hlate : c.lateness? b.clock with
  | none =>
    rw [hlate] at hwait
    exact exec_bind_of_ok hwait _
  | some raised =>
    rw [hlate] at hwait
    exact exec_bind_of_error hwait _

/-- What waiting for a process comes to, and what it leaves. -/
theorem exec_awaitEnd_of_knows (h : b.Knows r.pid c) :
    ∃ d : Bench, r.awaitEnd.exec b = (match c.lateness? b.clock with
        | none => .ok ()
        | some raised => .error raised, d) ∧
      d.Knows r.pid c ∧ d.clock = b.clock ∧ d.desk = b.desk ∧
      d.trace.toList = b.trace.toList ++ [.wait r.pid] := by
  rw [exec_awaitEnd h]
  cases c.lateness? b.clock with
  | none => exact ⟨_, rfl, h, rfl, rfl, Array.toList_push⟩
  | some raised => exact ⟨_, rfl, h, rfl, rfl, Array.toList_push⟩

/-- How a receiver is halted: what goes wrong first ends it, and the calls up to that one have been
made. -/
theorem exec_halt (h : b.Knows r.pid c) :
    ∃ d : Bench, r.halt.exec b = (match c.trouble? b.clock with
        | none => .ok ()
        | some raised => .error raised, d) ∧
      d.Knows r.pid (c.stopped b.clock) ∧ d.clock = b.clock ∧ d.desk = b.desk ∧
      d.trace.toList = b.trace.toList ++ c.dealings r.pid b.clock := by
  have hpolled : r.isRunning.exec b = _ := exec_isRunning h
  unfold Child.trouble? Child.stopped Child.dealings
  cases hpoll : c.incident? b.clock .poll with
  | some raised =>
    rw [hpoll] at hpolled
    exact ⟨b, exec_bind_of_error hpolled _, h, rfl, rfl, (List.append_nil _).symm⟩
  | none =>
    rw [hpoll] at hpolled
    have hhalt := exec_bind_of_ok hpolled fun running => do
      if running then kill r.pid
      r.awaitEnd
    cases hlive : c.isLive with
    | false =>
      -- a process that is over is not killed
      rw [hlive] at hhalt
      obtain ⟨d, hd, hknows, hclock, hdesk, htrace⟩ := exec_awaitEnd_of_knows h
      rw [Child.killed_of_not_isLive hlive]
      refine ⟨d, hhalt.trans hd, ?_, hclock, hdesk, htrace⟩
      simpa using hknows
    | true =>
      rw [hlive] at hhalt
      obtain ⟨d, hd, hknows, hclock, hdesk, htrace⟩ := exec_kill h
      cases hkill : c.incident? b.clock .kill with
      | some raised =>
        rw [hkill] at hd hknows
        exact ⟨d, hhalt.trans (exec_bind_of_error hd _), hknows, hclock, hdesk, htrace⟩
      | none =>
        rw [hkill] at hd hknows
        obtain ⟨e, he, hlast, hlater, hsame, hwaited⟩ := exec_awaitEnd_of_knows hknows
        rw [hclock] at he hlater
        refine ⟨e, hhalt.trans ((exec_bind_of_ok hd _).trans he), hlast, hlater,
          hsame.trans hdesk, ?_⟩
        rw [hwaited, htrace, List.append_assoc]
        rfl

/-- The answer to halting a receiver is what went wrong first. -/
theorem exec_tryHalt (h : r.IsAtHand c b) :
    ∃ d : Bench, r.tryHalt.exec b = (.ok ((c.trouble? b.clock).map fun raised =>
        .cleanupFailed "terminate_receiver" raised.text), d) ∧
      d.Knows r.pid (c.stopped b.clock) ∧ d.clock = b.clock ∧ d.desk = b.desk ∧
      d.trace.toList = b.trace.toList ++ c.dealings r.pid b.clock := by
  obtain ⟨d, hhalt, hknows, hclock, hdesk, htrace⟩ := exec_halt h.knows
  have attempted := exec_attempt r.halt b
  rw [hhalt] at attempted
  unfold tryHalt
  rw [exec_bind_of_ok attempted]
  cases htrouble : c.trouble? b.clock with
  | none => exact ⟨d, rfl, hknows, hclock, hdesk, htrace⟩
  | some raised =>
    obtain ⟨f, hf, htext⟩ := tolerated?_of_isOrdinary (isOrdinary_of_trouble? h htrouble)
    refine ⟨d.saying (.notStopped (TrialError.cleanupFailed "terminate_receiver" f.text).message),
      ?_, hknows, hclock, hdesk, htrace⟩
    dsimp only [Option.map_some]
    rw [hf, htext]
    rfl

/-! ### The output -/

/-- The output that a receiver has is closed on a bench. -/
def HasClosed (r : Receiver) (b : Bench) : Prop :=
  ∀ n, r.output = some n → ∃ o, b.desk.outputs[n]? = some o ∧ o.closed = true

theorem exec_isClosed {n : Nat} {o : Output} (h : b.desk.outputs[n]? = some o) :
    (isClosed n).exec b = (.ok o.closed, b) := by
  unfold isClosed
  rw [exec_ask, h]
  rfl

/-- An output that can be closed is closed. -/
theorem exec_closeOutput {n : Nat} {o : Output} (h : b.desk.outputs[n]? = some o)
    (hcloses : o.closeIncident = none) :
    ∃ d : Bench, (closeOutput n).exec b = (.ok (), d) ∧ d.children = b.children ∧
      d.clock = b.clock ∧ d.trace = b.trace ∧ ∃ o, d.desk.outputs[n]? = some o ∧ o.closed = true := by
  unfold closeOutput changeOutput
  rw [exec_bind_of_ok (exec_ask _ b), exec_bind_of_ok (exec_change _ b), h, Option.bind_some,
    hcloses]
  refine ⟨_, rfl, rfl, rfl, rfl, { o with writable := false, closed := true }, ?_, rfl⟩
  simp [Desk.changeOutput, h]

/-- What is answered of a receiver does not change when its output is closed. -/
theorem exec_tryClose (hcloses : ∀ n, r.output = some n →
      ∃ o, b.desk.outputs[n]? = some o ∧ o.closeIncident = none)
    (earlier : Option TrialError) :
    ∃ d : Bench, (r.tryClose earlier).exec b = (.ok earlier, d) ∧ d.children = b.children ∧
      d.clock = b.clock ∧ d.trace = b.trace ∧ r.HasClosed d := by
  unfold tryClose HasClosed
  cases houtput : r.output with
  | none => exact ⟨b, rfl, rfl, rfl, rfl, fun n hn => nomatch hn⟩
  | some n =>
    obtain ⟨o, ho, hnone⟩ := hcloses n houtput
    dsimp only
    rw [exec_bind_of_ok (exec_isClosed ho)]
    cases hclosed : o.closed with
    | true =>
      refine ⟨b, rfl, rfl, rfl, rfl, fun n hn => ?_⟩
      cases hn
      exact ⟨o, ho, hclosed⟩
    | false =>
      obtain ⟨d, hd, hchildren, hclock, htrace, hafter⟩ := exec_closeOutput ho hnone
      have attempted := exec_attempt (closeOutput n) b
      rw [hd] at attempted
      refine ⟨d, exec_bind_of_ok attempted _, hchildren, hclock, htrace, fun n hn => ?_⟩
      cases hn
      exact hafter

/-- An output that is closed is left alone. -/
theorem exec_tryClose_of_hasClosed (h : r.HasClosed b) (earlier : Option TrialError) :
    (r.tryClose earlier).exec b = (.ok earlier, b) := by
  unfold tryClose
  cases houtput : r.output with
  | none => rfl
  | some n =>
    obtain ⟨o, ho, hclosed⟩ := h n houtput
    dsimp only
    rw [exec_bind_of_ok (exec_isClosed ho), hclosed]
    rfl

/-! ### The whole -/

theorem stopped_of_trouble?_eq_none {clock : Float} (h : c.trouble? clock = none) :
    (c.stopped clock).isLive = false ∧ (c.stopped clock).incident? clock .poll = none ∧
      (c.stopped clock).lateness? clock = none := by
  unfold Child.trouble? at h
  obtain ⟨hpoll, h⟩ := Option.or_eq_none_iff.1 h
  obtain ⟨hkill, hlate⟩ := Option.or_eq_none_iff.1 h
  have hlive : c.killed.isLive = false := by
    obtain ⟨-, hnone⟩ := Option.or_eq_none_iff.1 hlate
    simpa using hnone
  have hstopped : c.stopped clock = c.killed := by
    unfold Child.stopped
    cases hrunning : c.isLive with
    | false => rw [Child.killed_of_not_isLive hrunning, ite_self]
    | true =>
      rw [hrunning] at hkill
      simp_all
  rw [hstopped]
  exact ⟨hlive, by rw [Child.incident?_killed, hpoll], hlate⟩

/-- A receiver whose process is over and whose output is closed is only waited for. -/
theorem exec_terminate_of_over (h : b.Knows r.pid c) (hlive : c.isLive = false)
    (hpoll : c.incident? b.clock .poll = none) (hlate : c.lateness? b.clock = none)
    (hclosed : r.HasClosed b) :
    r.terminate.exec b = (.ok none, (b.noting (.wait r.pid)).saying
      (.stopped (Client.firstWord r.command) r.pid (c.status.getD 0))) := by
  have hpolled : r.isRunning.exec b = (.ok false, b) := by
    have hanswer := exec_isRunning h
    rw [hpoll, hlive] at hanswer
    exact hanswer
  have hend := exec_awaitEnd h
  rw [hlate] at hend
  have hhalt := (exec_bind_of_ok hpolled fun running => do
    if running then kill r.pid
    r.awaitEnd).trans hend
  have attempted := exec_attempt r.halt b
  rw [show r.halt.exec b = _ from hhalt] at attempted
  have htry : r.tryHalt.exec b = (.ok none, (b.noting (.wait r.pid)).saying
      (.stopped (Client.firstWord r.command) r.pid (c.status.getD 0))) :=
    exec_bind_of_ok attempted _
  have hlater : r.HasClosed ((b.noting (.wait r.pid)).saying
      (.stopped (Client.firstWord r.command) r.pid (c.status.getD 0))) := hclosed
  exact (exec_bind_of_ok htry _).trans (exec_tryClose_of_hasClosed hlater none)

theorem sublist_dealings (pid : Int) (c : Child) (clock : Float) :
    (c.dealings pid clock).Sublist [.kill pid, .wait pid] := by
  unfold Child.dealings
  split
  · exact List.nil_sublist _
  split
  · split
    · exact List.Sublist.cons_cons _ (List.nil_sublist _)
    · exact List.Sublist.refl _
  · exact List.Sublist.cons _ (List.Sublist.refl _)

/-- A process is killed iff it was found running. -/
theorem kill_mem_dealings_iff (h : b.Knows r.pid c) :
    .kill r.pid ∈ c.dealings r.pid b.clock ↔ (r.isRunning.exec b).1 = .ok true := by
  have hpolled : r.isRunning.exec b = _ := exec_isRunning h
  rw [hpolled]
  unfold Child.dealings
  cases c.incident? b.clock .poll with
  | some raised => simp
  | none =>
    cases c.isLive with
    | false => simp
    | true =>
      cases c.incident? b.clock .kill with
      | none => simp
      | some raised => simp

/-- **A receiver is stopped honestly.**  If nothing unheard of happens, stopping it answers, and its
output is closed then.  The answer is the first thing that went wrong with its process, and there is
none only if the process is over.  The process is killed iff it was found running.  To stop the
receiver again after that is to wait for it once more, and nothing else. -/
theorem honest_terminate (r : Receiver) (c : Child) (b : Bench) (h : r.IsAtHand c b) :
    ∃ answer d, r.terminate.exec b = (.ok answer, d) ∧ r.HasClosed d ∧
      answer = ((c.trouble? b.clock).map fun raised =>
        .cleanupFailed "terminate_receiver" raised.text) ∧
      (answer = none → ∃ ended, d.Knows r.pid ended ∧ ended.isLive = false) ∧
      (∃ sent, d.trace.toList = b.trace.toList ++ sent ∧
        sent.Sublist [.kill r.pid, .wait r.pid] ∧
        (.kill r.pid ∈ sent ↔ (r.isRunning.exec b).1 = .ok true)) ∧
      (answer = none → ∃ status, r.terminate.exec d = (.ok none, (d.noting (.wait r.pid)).saying
        (.stopped (Client.firstWord r.command) r.pid status))) := by
  obtain ⟨e, htry, hknows, hclock, hdesk, hsent⟩ := exec_tryHalt h
  obtain ⟨d, hclose, hchildren, hlater, htrace, hclosed⟩ :=
    exec_tryClose (r := r) (b := e) (by rw [hdesk]; exact h.closes)
      ((c.trouble? b.clock).map fun raised => .cleanupFailed "terminate_receiver" raised.text)
  have hover : d.Knows r.pid (c.stopped b.clock) := by
    unfold Bench.Knows
    rw [hchildren]
    exact hknows
  have untroubled (hnone : ((c.trouble? b.clock).map fun raised : Raised =>
      TrialError.cleanupFailed "terminate_receiver" raised.text) = none) :=
    stopped_of_trouble?_eq_none (Option.map_eq_none_iff.1 hnone)
  refine ⟨_, d, (exec_bind_of_ok htry _).trans hclose, hclosed, rfl, fun hnone => ?_,
    ⟨c.dealings r.pid b.clock, ?_, sublist_dealings _ _ _, kill_mem_dealings_iff h.knows⟩,
    fun hnone => ?_⟩
  · exact ⟨c.stopped b.clock, hover, (untroubled hnone).1⟩
  · rw [htrace, hsent]
  · -- nothing is left to do: the process is over, the output is closed and no time has passed
    obtain ⟨hlive, hpoll, hlate⟩ := untroubled hnone
    have hsame : d.clock = b.clock := hlater.trans hclock
    refine ⟨_, exec_terminate_of_over hover hlive ?_ ?_ hclosed⟩
    · rw [hsame, hpoll]
    · rw [hsame, hlate]

/-- A process that was started as a receiver and runs. -/
def listening : Child where
  pid := 4242
  command := ["./print_messages"]
  start := 0.0
  script := {}
  pending := []
  output := 0

theorem honest_terminate_of_listening :
    let r : Receiver := ⟨["./print_messages"], 4242, ⟨0, ["art", "received.txt"]⟩, some 0,
      Moment.ofClock 0.0⟩
    let b : Bench := { Bench.quiet with
      desk := ⟨Bench.quiet.files, [{ route := r.route, place := ["art", "received.txt"] }]⟩
      children := [listening] }
    r.IsAtHand listening b ∧ ∃ d, r.terminate.exec b = (.ok none, d) ∧ r.HasClosed d ∧
      .kill 4242 ∈ d.trace.toList ∧ (∃ ended, d.Knows 4242 ended ∧ ended.isLive = false) ∧
      ∃ status, r.terminate.exec d = (.ok none, (d.noting (.wait 4242)).saying
        (.stopped "./print_messages" 4242 status)) := by
  intro r b
  have hathand : r.IsAtHand listening b := by
    refine ⟨rfl, ?_, ?_⟩
    · intro dealing raised h
      cases h
    · intro n hn
      cases hn
      exact ⟨_, rfl, rfl⟩
  obtain ⟨answer, d, hd, hclosed, hanswer, hover, ⟨sent, htrace, -, hkill⟩, hagain⟩ :=
    honest_terminate r listening b hathand
  obtain rfl : answer = none := hanswer
  have hsent : .kill 4242 ∈ sent := hkill.2 rfl
  refine ⟨hathand, d, hd, hclosed, ?_, hover rfl, hagain rfl⟩
  rw [htrace]
  exact List.mem_append_right _ hsent

end Receiver
end ClientTrial
