import ClientTrial.Proofs.Server.Law

/-!
# The connection to the daemon

The connection to the daemon is opened when a call first needs it, and is kept from then on.
A call that finds none makes one attempt at opening it.  If that attempt fails the call makes
no request at all, and is ended by what the attempt has failed with: a fault of the daemon is
made an error of the trial, even one that would mean something else as the answer to a
request.  Two calls do not raise what they are ended by: a removal answers it as a clean-up
step that failed, and the end of a log is replaced by a text that tells it.

Between two calls anything may happen outside, except to the connection.

## Main definitions

* `Bench.connected`, `Bench.unconnected` — the bench after an attempt at opening a connection.
* `Server.Unreached` — what a failed attempt is made of.
* `Server.Call.Unserved` — how a call without a connection ends.
* `Server.Occasion`, `Server.attend` — calls with what happens between them, and their steps.
* `Server.Step.attempts` — how often a step tries to open a connection.

## Main results

* `Server.exec_of_ensured` — a call with a connection does what it does on the bench where the
  connection has been opened.
* `Server.unserved_of_due`, `Server.keeps_linked` — a call without a connection, and one with it.
* `Server.connection_of_calls` — who opens the connection along any run of calls.
-/

namespace ClientTrial

open Act

/-! ### One attempt at a connection -/

namespace Bench

variable (b : Bench)

/-- The bench after an attempt at opening a connection that has failed. -/
def unconnected : Bench :=
  { b.noting .openDaemon with
    daemon := { b.daemon with openings := b.daemon.openings.rest } }

/-- The bench with a connection, which is opened if there is none. -/
def connected : Bench :=
  if b.daemon.opened then b
  else { b.unconnected with daemon := { b.unconnected.daemon with opened := true } }

variable {b}

theorem connected_of_opened (h : b.daemon.opened = true) : b.connected = b := if_pos h

theorem connected_of_closed (h : b.daemon.opened = false) :
    b.connected = { b.unconnected with daemon := { b.unconnected.daemon with opened := true } } :=
  if_neg (by simp [h])

@[simp] theorem opened_connected : b.connected.daemon.opened = true := by
  unfold connected
  split
  · assumption
  · rfl

end Bench

variable {b c : Bench}

theorem Act.exec_openDaemon_of_closed (h : b.daemon.opened = false) :
    openDaemon.exec b =
      match b.daemon.openings.due with
      | none => (.ok (), b.connected)
      | some r => (.error r, b.unconnected) := by
  unfold openDaemon
  rw [exec_bind_of_ok (exec_ask _ b), if_neg (by simp [h]), exec_bind_of_ok (exec_note _ b),
    exec_bind_of_ok (exec_ask _ _), exec_bind_of_ok (exec_change _ _),
    show (b.noting .openDaemon).daemon.openings.due = b.daemon.openings.due from rfl]
  cases b.daemon.openings.due with
  | none => rw [Bench.connected_of_closed h]; rfl
  | some r => rfl

namespace Server

/-- What ends a call that does not reach the daemon because of a failure: an error of the trial that
the failure has caused, if it is a fault of the daemon, and else the failure itself. -/
inductive Unreached : Failure → Failure → Prop where
  | daemon {f : Fault} (hf : f.kind.isDaemon = true) {e : TrialError}
    (hname : e.name = "HarnessError") (hcode : e.code = "DOCKER_UNAVAILABLE")
    (hmessage : e.message = "Cannot reach the docker daemon: " ++ f.text) :
    Unreached (.fault f) (.trial e (some f))
  | other {f : Failure} (hf : f.isFaultOf Fault.Kind.isDaemon = false) : Unreached f f

theorem exec_ensureDaemon_of_due_none (h : b.daemon.opened = true ∨ b.daemon.openings.due = none) :
    ensureDaemon.exec b = (.ok (), b.connected) := by
  cases hopened : b.daemon.opened with
  | true => rw [exec_ensureDaemon_of_opened hopened, Bench.connected_of_opened hopened]
  | false =>
    have hdue : b.daemon.openings.due = none := h.resolve_left (by simp [hopened])
    unfold ensureDaemon
    rw [exec_bind_of_ok (exec_attempt _ b), exec_openDaemon_of_closed hopened, hdue]
    rfl

/-- An attempt at a connection that fails ends with what the failure is made of. -/
theorem exec_ensureDaemon_of_due_some (hclosed : b.daemon.opened = false) {f : Failure}
    (hdue : b.daemon.openings.due = some (.failure f)) :
    ∃ g, Unreached f g ∧ ensureDaemon.exec b = (.error (.failure g), b.unconnected) := by
  unfold ensureDaemon
  rw [exec_bind_of_ok (exec_attempt _ b), exec_openDaemon_of_closed hclosed, hdue]
  dsimp only
  cases f with
  | trial e cause => exact ⟨_, .other rfl, rfl⟩
  | fault f =>
    cases hf : f.kind.isDaemon with
    | false =>
      rw [isFault, hf]
      exact ⟨_, .other hf, rfl⟩
    | true =>
      rw [isFault, hf]
      refine ⟨_, .daemon hf rfl rfl ?_, rfl⟩
      exact TrialError.orElse_of_ne_empty (TrialError.ne_empty_append (by decide))

theorem isAbsence_of_unreached {f g : Failure} (h : Unreached f g) :
    g.isFaultOf Fault.Kind.isAbsence = false := by
  cases h with
  | daemon => rfl
  | other hf =>
    cases f with
    | trial => rfl
    | fault g =>
      refine Bool.eq_false_iff.2 fun habsent => ?_
      have hdaemon := Fault.Kind.isDaemon_of_isRefusal (Fault.Kind.isRefusal_of_isAbsence habsent)
      exact Bool.false_ne_true (hf.symm.trans hdaemon)

/-! ### A call and the connection -/

/-- How a call ends that does not reach the daemon because of a failure. -/
def Call.Unserved (f : Failure) : (call : Call) → Except Raised call.Answer → Prop
  | .ensureClean _, ended => ∃ g, Unreached f g ∧ ended = .error (.failure g)
  | .start .., ended => ∃ g, Unreached f g ∧ ended = .error (.failure g)
  | .restart .., ended => ∃ g, Unreached f g ∧ ended = .error (.failure g)
  | .stop _, ended =>
    ∃ g, Unreached f g ∧ ended = .ok (some (.cleanupFailed "stop_server" g.text))
  | .logs .., ended => ∃ g, Unreached f g ∧ ended = .ok ("Error fetching logs: " ++ g.text)

/-- What is attempted over a connection does not depend on the bench if the connection does not. -/
theorem attempt_ensured_congr {α β : Type} {act : Act α} {f : Except Raised α → Act β}
    (h : ensureDaemon.exec b = ensureDaemon.exec c) :
    (attempt (do ensureDaemon; act) >>= f).exec b =
      (attempt (do ensureDaemon; act) >>= f).exec c := by
  rw [exec_bind_of_ok (exec_attempt _ b), exec_bind_of_ok (exec_attempt _ c), exec_bind, exec_bind,
    h]

/-- A call begins with the connection, so that it does the same on two benches on which the same
comes of that. -/
theorem exec_of_ensured (h : ensureDaemon.exec b = ensureDaemon.exec c) (call : Call) :
    call.act.exec b = call.act.exec c := by
  cases call with
  | ensureClean name => exact attempt_ensured_congr h
  | start name image containerPort hostPort => exact attempt_ensured_congr h
  | restart name image containerPort hostPort =>
    have cleaned : (ensureClean name).exec b = (ensureClean name).exec c := attempt_ensured_congr h
    change (ensureClean name >>= fun _ => start name image containerPort hostPort).exec b =
      (ensureClean name >>= fun _ => start name image containerPort hostPort).exec c
    rw [exec_bind, exec_bind, cleaned]
  | stop name => exact attempt_ensured_congr h
  | logs name tail => exact attempt_ensured_congr h

/-- A call that does not reach the daemon makes no request. -/
theorem unserved_of_due (hclosed : b.daemon.opened = false) {f : Failure}
    (hdue : b.daemon.openings.due = some (.failure f)) (call : Call) :
    call.Unserved f (call.act.exec b).1 ∧
      (call.act.exec b).2.trace = b.trace.push .openDaemon ∧
      (call.act.exec b).2.daemon = b.unconnected.daemon := by
  obtain ⟨g, hg, hensure⟩ := exec_ensureDaemon_of_due_some hclosed hdue
  have hrefused : isFault Fault.Kind.isRefusal (.failure g) = none :=
    isFault_of_ensureDaemon hensure
  have ended {α : Type} (act : Act α) :
      (do ensureDaemon; act).exec b = (.error (.failure g), b.unconnected) :=
    exec_bind_of_error hensure _
  have cleaned (name : String) :
      (ensureClean name).exec b = (.error (.failure g), b.unconnected) := by
    unfold ensureClean
    rw [exec_bind_of_ok (exec_attempt _ b), ended]
    dsimp only
    rw [hrefused]
    rfl
  cases call with
  | ensureClean name =>
    rw [show (Call.ensureClean name).act = ensureClean name from rfl, cleaned]
    exact ⟨⟨g, hg, rfl⟩, rfl, rfl⟩
  | start name image containerPort hostPort =>
    have started : (start name image containerPort hostPort).exec b =
        (.error (.failure g), b.unconnected) := by
      unfold start
      rw [exec_bind_of_ok (exec_attempt _ b), ended]
      dsimp only
      rw [hrefused]
      rfl
    rw [show (Call.start name image containerPort hostPort).act =
      start name image containerPort hostPort from rfl, started]
    exact ⟨⟨g, hg, rfl⟩, rfl, rfl⟩
  | restart name image containerPort hostPort =>
    rw [show (Call.restart name image containerPort hostPort).act =
      (ensureClean name >>= fun _ => start name image containerPort hostPort) from rfl,
      exec_bind_of_error (cleaned name)]
    exact ⟨⟨g, hg, rfl⟩, rfl, rfl⟩
  | stop name =>
    have stopped : (stop name).exec b = (.ok (some (failedStep "stop_server" g)),
        b.unconnected.saying (.serverNotStopped (failedStep "stop_server" g).message)) := by
      unfold stop
      rw [exec_bind_of_ok (exec_attempt _ b), ended]
      dsimp only
      rw [if_neg (by simp [isAbsence_of_unreached hg])]
      rfl
    rw [show (Call.stop name).act = stop name from rfl, stopped]
    exact ⟨⟨g, hg, rfl⟩, rfl, rfl⟩
  | logs name tail =>
    have told : (Server.logs name tail).exec b =
        (.ok ("Error fetching logs: " ++ g.text), b.unconnected) := by
      unfold Server.logs
      rw [exec_bind_of_ok (exec_attempt _ b), ended]
      rfl
    rw [show (Call.logs name tail).act = Server.logs name tail from rfl, told]
    exact ⟨⟨g, hg, rfl⟩, rfl, rfl⟩

end Server

/-! ### The frame of an open connection -/

/-- The effect is an attempt at opening a connection to the daemon. -/
def Effect.isOpening : Effect → Bool
  | .openDaemon => true
  | _ => false

/-- The frame of an open connection: it stays open, and no attempt is made at opening one. -/
def Act.Frame.linked : Frame where
  Holds b c := b.daemon.opened = true →
    c.daemon.opened = true ∧ c.daemon.openings = b.daemon.openings ∧
      ∃ es, c.trace.toList = b.trace.toList ++ es ∧ es.countP Effect.isOpening = 0
  refl _ h := ⟨h, rfl, [], (List.append_nil _).symm, rfl⟩
  trans := by
    intro b c d hbc hcd h
    obtain ⟨hc, hcq, es, hes, hnone⟩ := hbc h
    obtain ⟨hd, hdq, more, hmore, hnomore⟩ := hcd hc
    refine ⟨hd, hdq.trans hcq, es ++ more, by rw [hmore, hes, List.append_assoc], ?_⟩
    rw [List.countP_append, hnone, hnomore]

namespace Linked

open Act.Frame

/-- What leaves the connection and the trace alone stays in the frame. -/
theorem holds_of_eq {b c : Bench} (hopened : c.daemon.opened = b.daemon.opened)
    (hopenings : c.daemon.openings = b.daemon.openings) (htrace : c.trace = b.trace) :
    linked.Holds b c :=
  fun h => ⟨hopened.trans h, hopenings, [], by rw [htrace, List.append_nil], rfl⟩

theorem keeps_say (e : Log.Event) : linked.Keeps (say e) :=
  keeps_change fun _ => holds_of_eq rfl rfl rfl

theorem keeps_openDaemon : linked.Keeps openDaemon := by
  intro b h
  unfold openDaemon
  rw [exec_bind_of_ok (exec_ask _ b), if_pos h]
  exact linked.refl b h

theorem keeps_request (kind : Request) {e : Effect} (he : e.isOpening = false) :
    linked.Keeps (request kind e) := by
  refine Frame.keeps_request (fun b h => ⟨h, rfl, [e], Array.toList_push, ?_⟩)
    (keeps_change fun b => holds_of_eq rfl rfl rfl)
  simp [he]

/-- A call over an open connection makes no attempt at opening one. -/
theorem keeps_act (call : Server.Call) : linked.Keeps call.act :=
  Server.keeps_act keeps_say keeps_openDaemon call
    (keeps_lookup (keeps_request _ rfl))
    (fun _ _ _ => keeps_create (keeps_request _ rfl) fun _ => holds_of_eq rfl rfl rfl)
    (keeps_remove (keeps_request _ rfl) fun _ => holds_of_eq rfl rfl rfl)
    (keeps_reload (keeps_request _ rfl))
    fun _ => keeps_logs (keeps_request _ rfl)

end Linked

/-! ### Runs of calls -/

namespace Server

/-- A call, and what happens outside before it is made: anything, except to the connection. -/
structure Occasion where
  call : Call
  meanwhile : Bench → Bench := fun b => b
  opened_meanwhile : ∀ b, (meanwhile b).daemon.opened = b.daemon.opened := by exact fun _ => rfl
  openings_meanwhile : ∀ b, (meanwhile b).daemon.openings = b.daemon.openings := by
    exact fun _ => rfl

/-- A call that is made on a bench. -/
def Call.step (call : Call) (b : Bench) : Step :=
  ⟨call, b, (call.act.exec b).1, (call.act.exec b).2⟩

/-- The steps of a run of calls. -/
def attend : List Occasion → Bench → List Step
  | [], _ => []
  | occasion :: rest, b =>
    let s := occasion.call.step (occasion.meanwhile b)
    s :: attend rest s.after

/-- How often a step tries to open a connection. -/
def Step.attempts (s : Step) : Nat :=
  (s.after.trace.toList.drop s.before.trace.size).countP Effect.isOpening

/-- A step that does not reach the daemon because of a failure: the one attempt at a connection is
all that is done, and the table stays as it is. -/
structure Step.FailsFor (s : Step) (f : Failure) : Prop where
  ended : s.call.Unserved f s.ended
  trace : s.after.trace.toList = s.before.trace.toList ++ [.openDaemon]
  table : s.before.daemon.SameTable s.after.daemon

theorem attempts_eq_of_trace {s : Step} {es : List Effect}
    (h : s.after.trace.toList = s.before.trace.toList ++ es) :
    s.attempts = es.countP Effect.isOpening := by
  unfold Step.attempts
  rw [h, ← Array.length_toList, List.drop_left]

/-- A call over an open connection tries to open none, and leaves it open. -/
theorem step_of_opened (h : b.daemon.opened = true) (call : Call) :
    (call.step b).attempts = 0 ∧ (call.step b).after.daemon.opened = true := by
  obtain ⟨hopened, -, es, htrace, hnone⟩ := Linked.keeps_act call b h
  exact ⟨(attempts_eq_of_trace htrace).trans hnone, hopened⟩

/-- A call that can open a connection tries it once, and leaves it open. -/
theorem step_of_due_none (hclosed : b.daemon.opened = false)
    (hdue : b.daemon.openings.due = none) (call : Call) :
    (call.step b).attempts = 1 ∧ (call.step b).after.daemon.opened = true := by
  have hexec : call.act.exec b = call.act.exec b.connected :=
    exec_of_ensured (by rw [exec_ensureDaemon_of_due_none (.inr hdue),
      exec_ensureDaemon_of_opened Bench.opened_connected]) call
  obtain ⟨hopened, -, es, htrace, hnone⟩ := Linked.keeps_act call b.connected Bench.opened_connected
  have hconnected : b.connected.trace.toList = b.trace.toList ++ [.openDaemon] := by
    rw [Bench.connected_of_closed hclosed]
    exact Array.toList_push
  rw [← hexec] at hopened htrace
  rw [hconnected, List.append_assoc] at htrace
  refine ⟨?_, hopened⟩
  rw [attempts_eq_of_trace htrace, List.countP_append, hnone]
  rfl

/-- A call that cannot open a connection tries it once, and leaves the other attempts to the calls
after it. -/
theorem step_of_due_some (hclosed : b.daemon.opened = false) {f : Failure}
    (hdue : b.daemon.openings.due = some (.failure f)) (call : Call) :
    (call.step b).attempts = 1 ∧ (call.step b).FailsFor f ∧
      (call.step b).after.daemon.opened = false ∧
      (call.step b).after.daemon.openings = b.daemon.openings.rest := by
  obtain ⟨hended, htrace, hdaemon⟩ := unserved_of_due hclosed hdue call
  have htrace : (call.step b).after.trace.toList = b.trace.toList ++ [.openDaemon] :=
    (congrArg Array.toList htrace).trans Array.toList_push
  have htable : b.daemon.SameTable (call.step b).after.daemon := by
    change b.daemon.SameTable (call.act.exec b).2.daemon
    rw [hdaemon]
    exact ⟨rfl, rfl⟩
  refine ⟨attempts_eq_of_trace htrace, ⟨hended, htrace, htable⟩, ?_, ?_⟩
  · exact (congrArg Daemon.opened hdaemon).trans hclosed
  · exact congrArg Daemon.openings hdaemon

/-- No step of a run over an open connection tries to open one. -/
theorem attempts_of_opened (occasions : List Occasion) (h : b.daemon.opened = true) :
    ∀ s ∈ attend occasions b, s.attempts = 0 ∧ s.after.daemon.opened = true := by
  induction occasions generalizing b with
  | nil => exact fun s hs => nomatch hs
  | cons occasion rest ih =>
    have hstep := step_of_opened ((occasion.opened_meanwhile b).trans h) occasion.call
    exact List.forall_mem_cons.2 ⟨hstep, ih hstep.2⟩

/-- How many attempts at a connection fail before one succeeds. -/
def failures (openings : Queue Raised) : Nat := (openings.takeWhile Option.isSome).length

/-- **Who opens the connection.**  Along any run of calls, with anything happening between them:
over a connection that was there at the beginning no call tries to open one.  If there was none, and
the attempts that fail do so because of failures, each call makes one attempt up to and including
the first that succeeds, and no call makes any after that.  A call whose attempt fails makes no
request and leaves the table as it is; how it ends is settled by the failure. -/
theorem connection_of_calls (occasions : List Occasion) (b : Bench) :
    (b.daemon.opened = true → ∀ s ∈ attend occasions b, s.attempts = 0) ∧
      (b.daemon.opened = false → (∀ r, some r ∈ b.daemon.openings → ∃ f, r = .failure f) →
        ∀ i s, (attend occasions b)[i]? = some s →
          s.attempts = (if i ≤ failures b.daemon.openings then 1 else 0) ∧
          s.after.daemon.opened = decide (failures b.daemon.openings ≤ i) ∧
          (i < failures b.daemon.openings →
            ∃ f, b.daemon.openings[i]? = some (some (.failure f)) ∧ s.FailsFor f)) := by
  refine ⟨fun h s hs => (attempts_of_opened occasions h s hs).1, ?_⟩
  induction occasions generalizing b with
  | nil => exact fun _ _ i s hs => nomatch hs
  | cons occasion rest ih =>
    intro hclosed hfailures i s hs
    -- the call begins with the connection as it was left
    have hbefore : (occasion.meanwhile b).daemon.opened = false :=
      (occasion.opened_meanwhile b).trans hclosed
    have hopenings := occasion.openings_meanwhile b
    cases hdue : b.daemon.openings.due with
    | none =>
      have hfirst : failures b.daemon.openings = 0 := by
        unfold failures
        cases hq : b.daemon.openings with
        | nil => rfl
        | cons entry more =>
          rw [hq, Queue.due_cons] at hdue
          rw [hdue]
          rfl
      obtain ⟨hone, hopened⟩ :=
        step_of_due_none hbefore (by rw [hopenings]; exact hdue) occasion.call
      rw [hfirst]
      cases i with
      | zero =>
        cases hs
        exact ⟨hone, hopened, fun hlt => absurd hlt (Nat.lt_irrefl 0)⟩
      | succ i =>
        obtain ⟨hnone, hstays⟩ :=
          attempts_of_opened rest hopened s (List.mem_of_getElem? hs)
        exact ⟨hnone, hstays, fun hlt => absurd hlt (Nat.not_lt_zero _)⟩
    | some r =>
      cases hq : b.daemon.openings with
      | nil =>
        rw [hq] at hdue
        cases hdue
      | cons entry more =>
        rw [hq, Queue.due_cons] at hdue
        subst hdue
        obtain ⟨f, rfl⟩ := hfailures r (by rw [hq]; exact List.mem_cons_self)
        obtain ⟨hone, hfails, hstill, hleft⟩ :=
          step_of_due_some hbefore (by rw [hopenings, hq]; rfl) occasion.call
        rw [hopenings, hq, Queue.rest_cons] at hleft
        have hmore : failures (some (.failure f) :: more) = failures more + 1 := rfl
        rw [hmore]
        cases i with
        | zero =>
          cases hs
          exact ⟨hone, hstill, fun _ => ⟨f, rfl, hfails⟩⟩
        | succ i =>
          have hothers (r : Raised)
              (hr : some r ∈ (occasion.call.step (occasion.meanwhile b)).after.daemon.openings) :
              ∃ f, r = .failure f := by
            rw [hleft] at hr
            exact hfailures r (hq ▸ List.mem_cons_of_mem _ hr)
          have later := ih _ hstill hothers i s hs
          rw [hleft] at later
          simpa using later

/-- A daemon that is not there at first, and then cannot be talked to, is reached by the third call.
That no such container is found where the daemon should be is not taken for the answer that there is
no container to remove. -/
theorem connection_to_late_daemon :
    let gone : Fault := ⟨.daemon .absent, "no such socket"⟩
    let occasions : List Occasion :=
      [{ call := .ensureClean "ircd" }, { call := .stop "ircd" },
        { call := .restart "ircd" "image" 6667 (some 6667)
          meanwhile := fun b => { b with daemon := b.daemon.create "ircd" } },
        { call := .logs "ircd" 50 }]
    let b : Bench :=
      { Bench.quiet with daemon :=
        { opened := false, openings := [some (.fault gone), some (.fault ⟨.runtime, "boom"⟩)] } }
    (attend occasions b).map Step.attempts = [1, 1, 1, 0] ∧
      ∃ s, (attend occasions b)[0]? = some s ∧ s.FailsFor (.fault gone) := by
  intro gone occasions b
  have failed : ∀ r, some r ∈ b.daemon.openings → ∃ f, r = .failure f := by
    intro r hr
    rcases List.mem_cons.1 hr with hr | hr
    · exact ⟨_, Option.some.inj hr⟩
    · exact ⟨_, Option.some.inj (List.mem_singleton.1 hr)⟩
  obtain ⟨-, -, hfails⟩ := (connection_of_calls occasions b).2 rfl failed 0 _ rfl
  obtain ⟨f, hf, hended⟩ := hfails (by decide)
  cases hf
  exact ⟨by decide +kernel, _, rfl, hended⟩

end Server
end ClientTrial
