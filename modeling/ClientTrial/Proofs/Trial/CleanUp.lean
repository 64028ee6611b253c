import ClientTrial.Proofs.Trial.Course

/-!
# The calls of the clean-up

In the end a trial calls on its crew to stop the receiver, to tell the end of the
server's log and to remove the server, as far as each of these is due.  Every call
that is due is made once, in this order, whatever the calls before it came to.
What a call answers or raises adds at most one error to those of the clean-up, and
the clean-up itself does not fail.

The calls are made by nobody else.  That is said by two facts: the way forward
does not depend on the members of the crew that answer these calls, and the course
of a trial is determined by the journey and by the calls, made one after the
other on the bench that the journey has left.

## Main definitions

* `Crew.makeCalls` — some calls made one after the other.
* `MadeCall.isHandled`, `MadeCall.error?` — how the end of a call is taken.
* `Trial.dueCalls` — the calls that are due in the end.

## Main results

* `Trial.exec_cleanUp_eq_ok_iff` — the clean-up answers iff it can handle the ends of
  all calls, and it then answers their errors.
* `Trial.calls_made_once_in_order` — what a trial comes to, by the calls of its
  clean-up.
-/

namespace ClientTrial

open Act

/-! ### Calls that were made -/

/-- A call and how it ended. -/
structure MadeCall where
  call : CleanUpCall
  ended : Except Raised (Except TrialError String)

/-- The call asks for a log. -/
def CleanUpCall.isForLog : CleanUpCall → Bool
  | .logs _ => true
  | _ => false

namespace MadeCall

/-- The call answered or failed; it was not interrupted. -/
def isHandled (m : MadeCall) : Bool :=
  match m.ended with
  | .ok _ | .error (.failure _) => true
  | .error _ => false

/-- The error that a call adds to those of the clean-up: one that is answered as it is, and a
failure under the name of the step. -/
def error? (m : MadeCall) : Option TrialError :=
  match m.ended with
  | .ok (.error e) => some e
  | .error (.failure f) => some (.cleanupFailed m.call.step f.text)
  | _ => none

/-- The text that a call has told, which is empty if it has told none. -/
def text (m : MadeCall) : String :=
  match m.ended with
  | .ok (.ok text) => text
  | _ => ""

/-- The errors that some calls add, in order. -/
def errorsOf (made : List MadeCall) : List TrialError := made.filterMap error?

/-- The log that some calls have told. -/
def logOf (made : List MadeCall) : String :=
  String.join ((made.filter (·.call.isForLog)).map text)

@[simp] theorem errorsOf_nil : errorsOf [] = [] := rfl

@[simp] theorem errorsOf_cons (m : MadeCall) (made : List MadeCall) :
    errorsOf (m :: made) = m.error?.toList ++ errorsOf made := by
  cases h : m.error? <;> simp [errorsOf, h]

@[simp] theorem errorsOf_append (made more : List MadeCall) :
    errorsOf (made ++ more) = errorsOf made ++ errorsOf more := List.filterMap_append

theorem logOf_append (made more : List MadeCall) :
    logOf (made ++ more) = logOf made ++ logOf more := by
  simp [logOf, String.join_append]

end MadeCall

namespace Crew

variable (crew : Crew)

/-- A call that is made on a bench. -/
def makeCall (call : CleanUpCall) (b : Bench) : MadeCall × Bench :=
  (⟨call, ((crew.answer call).exec b).1⟩, ((crew.answer call).exec b).2)

/-- Some calls are made one after the other, each once and whatever the calls before it came
to. -/
def makeCalls : List CleanUpCall → Bench → List MadeCall × Bench
  | [], b => ([], b)
  | call :: rest, b =>
    ((crew.makeCall call b).1 :: (makeCalls rest (crew.makeCall call b).2).1,
      (makeCalls rest (crew.makeCall call b).2).2)

@[simp] theorem makeCalls_nil (b : Bench) : crew.makeCalls [] b = ([], b) := rfl

theorem makeCalls_append (calls more : List CleanUpCall) (b : Bench) :
    crew.makeCalls (calls ++ more) b =
      ((crew.makeCalls calls b).1 ++ (crew.makeCalls more (crew.makeCalls calls b).2).1,
        (crew.makeCalls more (crew.makeCalls calls b).2).2) := by
  induction calls generalizing b with
  | nil => rfl
  | cons call rest ih => simp [makeCalls, ih]

/-- Every call of the list is made, once and in the order of the list. -/
theorem map_call_makeCalls (calls : List CleanUpCall) (b : Bench) :
    (crew.makeCalls calls b).1.map MadeCall.call = calls := by
  induction calls generalizing b with
  | nil => rfl
  | cons call rest ih => simp [makeCalls, makeCall, ih]

theorem call_mem_of_mem_makeCalls {calls : List CleanUpCall} {b : Bench} {m : MadeCall}
    (h : m ∈ (crew.makeCalls calls b).1) : m.call ∈ calls := by
  rw [← crew.map_call_makeCalls calls b]
  exact List.mem_map_of_mem h

theorem logOf_makeCalls_of_others {calls : List CleanUpCall}
    (h : ∀ call ∈ calls, call.isForLog = false) (b : Bench) :
    MadeCall.logOf (crew.makeCalls calls b).1 = "" := by
  have hnil : (crew.makeCalls calls b).1.filter (·.call.isForLog) = [] := by
    rw [List.filter_eq_nil_iff]
    intro m hm
    simp [h m.call (crew.call_mem_of_mem_makeCalls hm)]
  rw [MadeCall.logOf, hnil]
  rfl

theorem logOf_makeCalls_of_logs {calls : List CleanUpCall}
    (h : ∀ call ∈ calls, call.isForLog = true) (b : Bench) :
    MadeCall.logOf (crew.makeCalls calls b).1 =
      String.join ((crew.makeCalls calls b).1.map MadeCall.text) := by
  have hself : (crew.makeCalls calls b).1.filter (·.call.isForLog) = (crew.makeCalls calls b).1 :=
    List.filter_eq_self.2 fun m hm => h m.call (crew.call_mem_of_mem_makeCalls hm)
  rw [MadeCall.logOf, hself]

end Crew

/-! ### Parts of the clean-up -/

namespace Trial

variable (t : Trial) (crew : Crew)

/-- A part of the clean-up makes some calls: it answers iff all of them can be handled, and the
answer is then what they add. -/
def Makes (part : Act (List TrialError × String)) (calls : List CleanUpCall) : Prop :=
  ∀ b r c, part.exec b = (.ok r, c) ↔
    (∀ m ∈ (crew.makeCalls calls b).1, m.isHandled = true) ∧
      (MadeCall.errorsOf (crew.makeCalls calls b).1,
        String.join ((crew.makeCalls calls b).1.map MadeCall.text)) = r ∧
      (crew.makeCalls calls b).2 = c

theorem makes_nil : Makes crew (pure ([], "")) [] := by
  intro b r c
  simp

/-- A step of the clean-up makes its call. -/
theorem makes_bestEffort (call : CleanUpCall) : Makes crew (bestEffort crew call) [call] := by
  intro b r c
  have single : crew.makeCalls [call] b =
      ([⟨call, ((crew.answer call).exec b).1⟩], ((crew.answer call).exec b).2) := rfl
  unfold bestEffort
  rw [exec_bind, exec_attempt, single]
  simp only [List.forall_mem_singleton]
  rcases (crew.answer call).exec b with ⟨raised | answer, d⟩
  · cases raised <;>
      simp [MadeCall.isHandled, MadeCall.error?, MadeCall.text, Server.failedStep]
  · cases answer <;> simp [MadeCall.isHandled, MadeCall.error?, MadeCall.text]

/-- The calls for the log of a server that was started, if the trial failed. -/
def logCalls (server : Option Server) (failed : Bool) : List CleanUpCall :=
  if failed ∧ server.isSome then [.logs t.serverName] else []

/-- The calls that remove the server, unless it is to be left running. -/
def stopCalls : List CleanUpCall :=
  if (t.settings .keepServer : Bool) then [] else [.stop t.serverName]

/-- The calls that are due in the end: a receiver that was started is stopped, the log of the server
is told after a failure, and the server is removed. -/
def dueCalls (receiver : Option Receiver) (server : Option Server) (failed : Bool) :
    List CleanUpCall :=
  receiver.toList.map .terminate ++ t.logCalls server failed ++ t.stopCalls

theorem makes_stopReceiver (p : Progress) :
    Makes crew (stopReceiver crew p) (p.receiver.toList.map .terminate) := by
  unfold stopReceiver
  cases p.receiver with
  | none => exact makes_nil crew
  | some receiver => exact makes_bestEffort crew _

theorem makes_serverLogs (p : Progress) (failed : Bool) :
    Makes crew (t.serverLogs crew p failed) (t.logCalls p.server failed) := by
  unfold serverLogs logCalls
  split
  · exact makes_bestEffort crew _
  · exact makes_nil crew

/-! ### The clean-up -/

/-- What is reported once the calls are made. -/
def closingEvents (errors : List TrialError) : List Log.Event :=
  (if (t.settings .keepServer : Bool) then [.serverLeft t.serverName] else []) ++
    errors.map fun e => .cleanupWarning e.message

/-- The server is removed by its call, or it is reported to be left running. -/
theorem exec_stopServer_eq_ok_iff {b c : Bench} {r : List TrialError × String} :
    (t.stopServer crew).exec b = (.ok r, c) ↔
      (∀ m ∈ (crew.makeCalls t.stopCalls b).1, m.isHandled = true) ∧
        (MadeCall.errorsOf (crew.makeCalls t.stopCalls b).1,
          String.join ((crew.makeCalls t.stopCalls b).1.map MadeCall.text)) = r ∧
        (crew.makeCalls t.stopCalls b).2.sayingAll (t.closingEvents []) = c := by
  unfold stopServer stopCalls closingEvents
  cases (t.settings .keepServer : Bool) with
  | true =>
    have left :
        (do say (.serverLeft t.serverName)
            pure ([], "") : Act (List TrialError × String)).exec b =
          (.ok ([], ""), b.saying (.serverLeft t.serverName)) := rfl
    simp only [if_true, left]
    simp [Bench.sayingAll]
  | false => exact makes_bestEffort crew _ b r c

/-- Only the calls for the log tell one. -/
theorem logOf_dueCalls (p : Progress) (failed : Bool) (b : Bench) :
    MadeCall.logOf (crew.makeCalls (t.dueCalls p.receiver p.server failed) b).1 =
      String.join ((crew.makeCalls (t.logCalls p.server failed)
        (crew.makeCalls (p.receiver.toList.map .terminate) b).2).1.map MadeCall.text) := by
  have hreceiver : ∀ call ∈ p.receiver.toList.map CleanUpCall.terminate, call.isForLog = false := by
    intro call hcall
    obtain ⟨receiver, -, rfl⟩ := List.mem_map.1 hcall
    rfl
  have hlogs : ∀ call ∈ t.logCalls p.server failed, call.isForLog = true := by
    unfold logCalls
    split <;> simp [CleanUpCall.isForLog]
  have hserver : ∀ call ∈ t.stopCalls, call.isForLog = false := by
    unfold stopCalls
    split <;> simp [CleanUpCall.isForLog]
  simp only [dueCalls, Crew.makeCalls_append, MadeCall.logOf_append]
  rw [crew.logOf_makeCalls_of_others hreceiver, crew.logOf_makeCalls_of_logs hlogs,
    crew.logOf_makeCalls_of_others hserver, String.empty_append, String.append_empty]

/-- The clean-up answers iff it can handle the ends of all calls that are due.  It then answers what
they add, and has reported it. -/
theorem exec_cleanUp_eq_ok_iff {p : Progress} {failed : Bool} {b c : Bench}
    {r : List TrialError × String} :
    (t.cleanUp crew p failed).exec b = (.ok r, c) ↔
      let made := crew.makeCalls (t.dueCalls p.receiver p.server failed) b
      (∀ m ∈ made.1, m.isHandled = true) ∧
        (MadeCall.errorsOf made.1, MadeCall.logOf made.1) = r ∧
        made.2.sayingAll (t.closingEvents (MadeCall.errorsOf made.1)) = c := by
  have reported {errors : List TrialError} {d : Bench} :
      d.sayingAll (t.closingEvents errors) =
        (d.sayingAll (t.closingEvents [])).sayingAll
          (errors.map fun e => .cleanupWarning e.message) := by
    rw [← Bench.sayingAll_append]
    simp [closingEvents]
  dsimp only
  rw [logOf_dueCalls]
  simp only [dueCalls, Crew.makeCalls_append, MadeCall.errorsOf_append, List.forall_mem_append]
  unfold cleanUp
  constructor
  · intro h
    obtain ⟨_, _, hreceiver, h⟩ := exec_bind_eq_ok.1 h
    obtain ⟨_, _, hlogs, h⟩ := exec_bind_eq_ok.1 h
    obtain ⟨_, _, hserver, h⟩ := exec_bind_eq_ok.1 h
    obtain ⟨hr, rfl, rfl⟩ := (makes_stopReceiver crew p _ _ _).1 hreceiver
    obtain ⟨hl, rfl, rfl⟩ := (t.makes_serverLogs crew p failed _ _ _).1 hlogs
    obtain ⟨hs, rfl, rfl⟩ := (t.exec_stopServer_eq_ok_iff crew).1 hserver
    rw [exec_bind_of_ok (Artifact.exec_sayAll _ _)] at h
    cases h
    exact ⟨⟨⟨hr, hl⟩, hs⟩, rfl, reported⟩
  · rintro ⟨⟨⟨hr, hl⟩, hs⟩, rfl, rfl⟩
    rw [exec_bind_of_ok ((makes_stopReceiver crew p _ _ _).2 ⟨hr, rfl, rfl⟩),
      exec_bind_of_ok ((t.makes_serverLogs crew p failed _ _ _).2 ⟨hl, rfl, rfl⟩),
      exec_bind_of_ok ((t.exec_stopServer_eq_ok_iff crew).2 ⟨hs, rfl, rfl⟩),
      exec_bind_of_ok (Artifact.exec_sayAll _ _)]
    exact congrArg (Prod.mk (Except.ok _)) reported.symm

/-! ### After the journey -/

/-- After a clean-up that answers, a trial settles. -/
theorem homecoming_of_cleanUp {startedAt : Moment} {j : Journey} {b : Bench}
    {cleaned : List TrialError × String}
    (h : (t.cleanUp crew j.progress (failureOf j.ended).isSome).exec (homeBench j) =
      (.ok cleaned, b)) :
    t.homecoming crew startedAt j = (t.settle startedAt j.progress j.ended cleaned).exec b := by
  exact exec_bind_of_ok h _

/-- Two crews that perform every stage alike go the same way forward. -/
theorem goForward_congr {crew other : Crew} (h : t.perform crew = t.perform other)
    (stages : List Stage) (p : Progress) :
    t.goForward crew stages p = t.goForward other stages p := by
  induction stages generalizing p with
  | nil => rfl
  | cons stage rest ih => simp only [goForward, h, ih]

theorem forward_congr {crew other : Crew} (h : t.perform crew = t.perform other) :
    t.forward crew = t.forward other := by
  unfold forward
  split
  · rfl
  · exact t.goForward_congr h _ _

/-- The errors of the clean-up stand first among those of an outcome. -/
theorem isPrefix_cleanupErrors_settle {startedAt : Moment} {p : Progress}
    {ended : Except Raised Unit} {cleaned : List TrialError × String} {o : Outcome} {b c : Bench}
    (h : (t.settle startedAt p ended cleaned).exec b = (.ok o, c)) :
    cleaned.1 <+: o.cleanupErrors := by
  obtain ⟨-, content, d, -, hf⟩ := t.settle_eq_ok h
  rcases t.finalize_eq_ok hf with ⟨-, _, _, -, -, rfl⟩ | ⟨-, -, rfl⟩ | ⟨-, e, rfl⟩
  · exact List.prefix_refl _
  · exact List.prefix_refl _
  · exact List.prefix_append _ _

/-- **The calls of the clean-up.**  After any journey, if the clean-up can handle the ends of the
calls that are due -- none of them is interrupted -- each of these calls is made once and in order,
whatever those before it came to: the receiver is stopped iff one was started, then the log is told
iff the trial failed with a server started, then the server is removed iff it is not to be left
running.  The clean-up answers their errors, at most one for each call, and what follows makes no
more calls. -/
theorem calls_made_once_in_order {b : Bench} {fs : Files}
    (made : b.files.makeDir t.artifacts = .ok fs) :
    let j := t.journey crew (t.outset fs b)
    let failure := failureOf j.ended
    let calls := t.dueCalls (j.visits.findSome? (t.receiver? crew))
      (j.visits.findSome? (t.server? crew)) failure.isSome
    let ends := crew.makeCalls calls (homeBench j)
    let errors := MadeCall.errorsOf ends.1
    let after := ends.2.sayingAll (t.closingEvents errors)
    (∀ terminate logs stop,
      t.forward { crew with terminate, logs, stop } = t.forward crew) ∧
    ((∀ m ∈ ends.1, m.isHandled = true) →
      ends.1.map MadeCall.call = calls ∧
      (t.cleanUp crew j.progress failure.isSome).exec (homeBench j) =
        (.ok (errors, MadeCall.logOf ends.1), after) ∧
      ∃ c b', (t.courseWith crew).exec b = (.ok c, b') ∧
        let home := (t.settle (Moment.ofClock b.clock) j.progress j.ended
          (errors, MadeCall.logOf ends.1)).exec after
        c.result = home.1 ∧ b' = t.parting b.context home ∧
        ∀ o, c.result = .ok o → errors <+: o.cleanupErrors) := by
  intro j failure calls ends errors after
  refine ⟨fun _ _ _ => t.forward_congr rfl, fun handled => ?_⟩
  have hcalls : t.dueCalls j.progress.receiver j.progress.server failure.isSome = calls := by
    rw [t.receiver_journey, t.server_journey]
  have hclean : (t.cleanUp crew j.progress failure.isSome).exec (homeBench j) =
      (.ok (errors, MadeCall.logOf ends.1), after) := by
    rw [exec_cleanUp_eq_ok_iff, hcalls]
    exact ⟨handled, rfl, rfl⟩
  have hhome : t.homecoming crew (Moment.ofClock b.clock) j =
      (t.settle (Moment.ofClock b.clock) j.progress j.ended
        (errors, MadeCall.logOf ends.1)).exec after := exec_bind_of_ok hclean _
  refine ⟨crew.map_call_makeCalls _ _, hclean, _, _, t.exec_courseWith crew made, ?_⟩
  rw [hhome]
  refine ⟨rfl, rfl, fun o ho => ?_⟩
  exact t.isPrefix_cleanupErrors_settle (Prod.ext ho rfl)

/-- A receiver that cannot be stopped hinders neither the log from being told nor the server from
being removed. -/
theorem calls_made_of_failing_receiver :
    let t : Trial := ⟨Settings.default, "r1"⟩
    let crew : Crew := { Crew.usual with
      start := fun name image port _ => pure ⟨name, image, port, 6667, "id1"⟩
      runBackground := fun command _ route => pure ⟨command, 7, route, none, Moment.ofClock 0.0⟩
      runForeground := fun _ _ _ => throw (.fault ⟨.runtime, "lost"⟩)
      terminate := fun _ => throw (.fault ⟨.runtime, "stuck"⟩)
      logs := fun _ => pure "bye"
      stop := fun _ => pure (some (.cleanupFailed "stop_server" "busy")) }
    let fs := Bench.quiet.files.put ["tmp", artifactsName] .dir
    let j := t.journey crew (t.outset fs Bench.quiet)
    Bench.quiet.files.makeDir t.artifacts = .ok fs ∧
      ∃ (ends : List MadeCall) (errors : List TrialError) (after : Bench),
        (∀ m ∈ ends, m.isHandled = true) ∧
        ends.map (·.call.step) = ["terminate_receiver", "server_logs", "stop_server"] ∧
        errors.map TrialError.message =
          ["Cleanup step 'terminate_receiver' failed: stuck",
            "Cleanup step 'stop_server' failed: busy"] ∧
        (t.cleanUp crew j.progress true).exec (homeBench j) = (.ok (errors, "bye"), after) := by
  intro t crew fs j
  have made : Bench.quiet.files.makeDir t.artifacts = .ok fs := rfl
  have handled : ∀ m ∈ (crew.makeCalls (t.dueCalls (j.visits.findSome? (t.receiver? crew))
      (j.visits.findSome? (t.server? crew)) (failureOf j.ended).isSome)
      (homeBench j)).1, m.isHandled = true := by
    decide +kernel
  have hfailed : (failureOf j.ended).isSome = true := by decide +kernel
  have hlog : MadeCall.logOf (crew.makeCalls (t.dueCalls (j.visits.findSome? (t.receiver? crew))
      (j.visits.findSome? (t.server? crew)) (failureOf j.ended).isSome)
      (homeBench j)).1 = "bye" := by
    decide +kernel
  obtain ⟨-, hclean, -⟩ := (calls_made_once_in_order t crew made).2 handled
  rw [hlog, hfailed] at hclean
  refine ⟨made, _, _, _, handled, ?_, ?_, hclean⟩
  · decide +kernel
  · decide +kernel

end Trial
end ClientTrial
