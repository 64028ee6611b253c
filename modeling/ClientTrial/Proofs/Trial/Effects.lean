import ClientTrial.Proofs.Effects
import ClientTrial.Proofs.Trial.CleanUp
import ClientTrial.Proofs.Trial.Verdict

/-!
# What a trial adds to the trace

For each stage it is said which effects it has when it is performed to its end.  A visit
adds all of these, or the first of them if it fails, so that a journey adds the first of
the effects that the itinerary has all in all.  The clean-up adds no more than the effects
of the calls that are due, in their order; the rest of a trial adds nothing.

## Main definitions

* `Trial.Canonical` — the effects of a stage that is performed to its end.
* `Trial.leaves` — what a visit adds to the trace.
* `CleanUpCall.effects` — what a call of the clean-up adds if nothing fails.

## Main results

* `Trial.traces_perform` — what performing a stage adds.
* `Trial.trace_journey`, `Trial.isPrefix_leaves_journeyFrom` — what a journey adds.
* `Trial.traces_homecoming` — what is added after the journey.
-/

namespace ClientTrial

open Act
open Act.Frame (keeps_pure keeps_throw keeps_bind keeps_ite)

namespace Trial

variable (t : Trial) (w : Surroundings) (server : Server)

/-- What is around a trial that is begun on a bench. -/
def surroundings (b : Bench) : Surroundings :=
  ⟨b.environ, (t.settings .workingDir : Option Route).map Route.text⟩

theorem outset_liesIn {b : Bench} (hopened : b.daemon.opened = true) (fs : Files) :
    (t.outset fs b).LiesIn (t.surroundings b) := ⟨rfl, rfl, hopened⟩

/-! ### Stages -/

/-- The receiver is given its time, or there is a pause after every look for the marker that does not
end the wait. -/
def Settles (es : List Effect) : Prop :=
  match (t.settings .readyMarker : Option String) with
  | none => es = [.sleep (t.settings .receiverSettle)]
  | some _ => ∃ n, es = List.replicate n (.sleep (t.settings .readyPause))

theorem settles_of_none (h : (t.settings .readyMarker : Option String) = none) :
    t.Settles = (· = [.sleep (t.settings .receiverSettle)]) := by
  funext es
  rw [Settles, h]

theorem settles_of_some {marker : String}
    (h : (t.settings .readyMarker : Option String) = some marker) :
    t.Settles = fun es => ∃ n, es = List.replicate n (.sleep (t.settings .readyPause)) := by
  funext es
  rw [Settles, h]

theorem exists_settles : ∃ es, t.Settles es := by
  cases h : (t.settings .readyMarker : Option String) with
  | none =>
    rw [t.settles_of_none h]
    exact ⟨_, rfl⟩
  | some marker =>
    rw [t.settles_of_some h]
    exact ⟨[], 0, rfl⟩

/-- The effects of a stage that is performed to its end, in some surroundings and with a server.  A
command that cannot be read stands for one without words; it is not performed. -/
def Canonical : Stage → List Effect → Prop
  | .build, es =>
    es = [.run (t.settings.buildWords.toOption.join.getD []) (overlay w.environ []) w.dir none]
  | .cleanPriorState, es =>
    es = [.lookup t.serverName] ∨ es = [.lookup t.serverName, .remove t.serverName]
  | .startServer, es =>
    es = Server.startEffects t.serverName (t.settings .serverImage) (t.settings .containerPort)
      (t.settings .hostPort)
  -- at least one connection, at most as many as the budget allows, and a pause between any two
  | .awaitReadiness, es =>
    ∃ (refused : Nat) (closed : Bool), (refused : Int) + 1 ≤ t.settings .readinessAttempts ∧
      es = tries (.connect t.host server.hostPort (t.settings .readinessTimeout))
        (.sleep (t.settings .readinessPause)) refused closed
  | .settleServer, es => es = [.sleep (t.settings .serverSettle)]
  | .startReceiver, es =>
    es = [.spawn (t.settings.receiverWords.toOption.getD [])
      (overlay w.environ (t.addressBinding server)) w.dir t.output.text]
  | .settleReceiver, es => t.Settles es
  | .runSender, es =>
    es = [.run (t.settings.senderWords.toOption.getD [])
      (overlay w.environ (t.addressBinding server)) w.dir (t.settings .senderTimeout)]
  | .verifyOutputs, es | .cleanup, es => es = []

/-- Every stage can be performed to its end. -/
theorem exists_canonical (hbudget : 1 ≤ (t.settings .readinessAttempts : Int)) (stage : Stage) :
    ∃ es, t.Canonical w server stage es := by
  cases stage with
  | build | startServer | settleServer | startReceiver | runSender | verifyOutputs | cleanup =>
    exact ⟨_, rfl⟩
  | cleanPriorState => exact ⟨_, .inl rfl⟩
  | awaitReadiness => exact ⟨_, 0, true, by simpa using hbudget, rfl⟩
  | settleReceiver => exact t.exists_settles

section

variable {t w server} {α β : Type} {L : List Effect → Prop}

/-- Before a command is made use of, it is read. -/
theorem traces_wordsOf_bind {words : Except Text.CommandError α} {f : α → Act β}
    (hL : ∃ full, L full) (hf : ∀ list, words = .ok list → Traces w (f list) (Within L)) :
    Traces w (wordsOf words >>= f) (Within L) := by
  cases words with
  | error e =>
    obtain ⟨full, hfull⟩ := hL
    exact Traces.throw (Within.part hfull List.nil_prefix _)
  | ok list => exact hf list rfl

/-- What has one effect, and leaves it at that. -/
theorem traces_one {act : Act α} {f : α → Act β} {e : Effect} (h : Notes w act e) (he : L [e])
    (hf : ∀ a, Frame.still.Keeps (f a)) : Traces w (act >>= f) (Within L) := by
  refine Traces.mono (Notes.bind_still h hf) fun r es hes => ?_
  rw [hes]
  exact Within.whole he r

end

/-- A visit adds the effects of its stage, or the first of them if it fails. -/
theorem traces_perform (hbudget : 1 ≤ (t.settings .readinessAttempts : Int)) {v : Visit}
    (hv : v.Supplied) (hserver : ∀ s, v.progress.server = some s → s = server) :
    Traces w (t.perform .usual v.progress v.stage) (Within (t.Canonical w server v.stage)) := by
  obtain ⟨stage, p, b⟩ := v
  have held (hstage : stage ∈ [.awaitReadiness, .startReceiver, .runSender]) :
      p.server = some server := by
    obtain ⟨s, hs⟩ := Option.isSome_iff_exists.1 (hv.server hstage)
    exact hserver s hs ▸ hs
  have readable := t.exists_canonical w server hbudget
  cases stage with
  | build =>
    refine traces_wordsOf_bind (readable .build) fun command hw => ?_
    have he : t.Canonical w server .build
        [.run (command.getD []) (overlay w.environ []) w.dir none] := by
      rw [Canonical, hw]
      rfl
    exact traces_one (Traces.runForeground _ [] none) he fun _ => keeps_pure p
  | cleanPriorState =>
    have cleaned : Traces w (Server.ensureClean t.serverName)
        (Within (t.Canonical w server .cleanPriorState)) :=
      Traces.mono (Traces.ensureClean _) fun e es hes => Within.whole hes e
    exact Traces.bind_still cleaned fun _ => keeps_pure p
  | startServer => exact Traces.bind_still (Traces.start _ _ _ _) fun _ => keeps_pure _
  | awaitReadiness =>
    simp only [perform, held (by simp)]
    exact Traces.bind_still (Traces.awaitReachable t.host server.hostPort hbudget _ _)
      fun _ => keeps_pure p
  | settleServer => exact traces_one (Notes.sleep _) rfl fun _ => keeps_pure p
  | startReceiver =>
    simp only [perform, held (by simp)]
    refine traces_wordsOf_bind (readable .startReceiver) fun command hw => ?_
    have spawned : Traces w (Client.runBackground command (t.addressBinding server) t.output)
        (Within (t.Canonical w server .startReceiver)) := by
      refine Traces.mono (Traces.runBackground _ _ _) fun e es hes => hes.mono fun full hfull => ?_
      rw [Canonical, hw]
      exact hfull
    exact Traces.bind_still spawned fun _ => keeps_pure _
  | settleReceiver =>
    have settled : Traces w (t.settleReceiver .usual) (Within t.Settles) := by
      unfold settleReceiver
      cases hm : (t.settings .readyMarker : Option String) with
      | none =>
        rw [t.settles_of_none hm]
        exact Traces.mono (Notes.sleep _) fun e es hes => Within.all hes e
      | some marker =>
        rw [t.settles_of_some hm]
        refine Traces.bind_still (Traces.mono (Traces.waitFor _ _ _ _) fun e es hes => ?_) ?_
        · exact Within.whole hes e
        · exact fun _ => keeps_ite (keeps_throw _) (keeps_pure _)
    refine Traces.bind_still settled fun _ => ?_
    split
    · exact keeps_pure p
    · exact keeps_bind (Frame.keeps_reportExited Still.keeps_say _) fun _ => keeps_pure p
  | runSender =>
    simp only [perform, held (by simp)]
    refine traces_wordsOf_bind (readable .runSender) fun command hw => ?_
    have he : t.Canonical w server .runSender
        [.run command (overlay w.environ (t.addressBinding server)) w.dir
          (t.settings .senderTimeout)] := by
      rw [Canonical, hw]
      rfl
    exact traces_one (Traces.runForeground _ _ _) he fun _ => keeps_pure p
  | verifyOutputs =>
    refine Traces.of_still (keeps_bind (Still.keeps_verifyAll _ _) fun _ => keeps_pure p) fun e => ?_
    exact Within.whole (L := t.Canonical w server .verifyOutputs) rfl e
  | cleanup => exact Traces.pure (Within.whole (L := t.Canonical w server .cleanup) rfl _)

/-! ### Visits -/

/-- What a visit adds to the trace. -/
def leaves (v : Visit) : List Effect :=
  (t.performed .usual v).2.trace.toList.drop v.bench.trace.toList.length

variable {w server}

/-- What is known of all that a stage may add is known of what a visit adds. -/
theorem leaves_of_traces {v : Visit} {S : Except Raised Progress → List Effect → Prop}
    (h : Traces w (t.perform .usual v.progress v.stage) S) (hb : v.bench.LiesIn w) :
    (t.performed .usual v).2.LiesIn w ∧
      (t.performed .usual v).2.trace.toList = v.bench.trace.toList ++ t.leaves v ∧
      S (t.performed .usual v).1 (t.leaves v) := by
  obtain ⟨hlies, es, htrace, hes⟩ := h v.bench hb
  have hleaves : t.leaves v = es := by
    unfold leaves performed
    rw [htrace, List.drop_left]
  rw [hleaves]
  exact ⟨hlies, htrace, hes⟩

/-- A container that an earlier trial has left behind is removed iff it is found. -/
theorem remove_mem_leaves_iff {v : Visit} (hstage : v.stage = .cleanPriorState)
    (hb : v.bench.LiesIn w) :
    .remove t.serverName ∈ t.leaves v ↔ (lookup t.serverName).Answers v.bench := by
  obtain ⟨stage, p, b⟩ := v
  dsimp only at hstage
  subst hstage
  obtain ⟨hlies, es, htrace, hes⟩ := Server.ensureClean_effects t.serverName hb
  have hbench : (t.performed .usual ⟨.cleanPriorState, p, b⟩).2 =
      ((Server.ensureClean t.serverName).exec b).2 := by
    unfold performed perform
    rcases h : (Server.ensureClean t.serverName).exec b with ⟨raised | cleaned, c⟩
    · exact congrArg Prod.snd (exec_bind_of_error h _)
    · exact congrArg Prod.snd (exec_bind_of_ok h _)
  have hleaves : t.leaves ⟨.cleanPriorState, p, b⟩ = es := by
    unfold leaves
    rw [hbench, htrace, List.drop_left]
  rw [hleaves]
  rcases hes with ⟨rfl, hfound⟩ | ⟨rfl, hmissed⟩
  · exact iff_of_true (by simp) hfound
  · exact iff_of_false (by simp) hmissed

/-- A server that has been waited for was connected to. -/
theorem connect_mem_leaves {v : Visit} {p : Progress} (hv : v.Supplied)
    (hstage : v.stage = .awaitReadiness) (hb : v.bench.LiesIn w)
    (h : (t.performed .usual v).1 = .ok p) :
    ∃ host port timeout, .connect host port timeout true ∈ t.leaves v := by
  obtain ⟨stage, q, b⟩ := v
  dsimp only at hstage
  subst hstage
  obtain ⟨s, hs⟩ : ∃ s, q.server = some s := Option.isSome_iff_exists.1 (hv.server (by simp))
  have connected : Traces w (t.perform .usual q .awaitReadiness) fun e es =>
      e.isOk = true → .connect t.host s.hostPort (t.settings .readinessTimeout) true ∈ es := by
    simp only [perform, hs]
    refine Traces.bind (Traces.awaitReachable_connected _ _ _ _ _) (fun number es hes => ?_) ?_
    · exact Traces.pure fun _ => List.mem_append_left [] (hes rfl)
    · exact fun r es hes h => Bool.noConfusion h
  obtain ⟨-, -, hmem⟩ := t.leaves_of_traces connected hb
  exact ⟨_, _, _, hmem (by rw [h]; rfl)⟩

/-! ### The journey -/

/-- A journey in some surroundings stays there, and adds what its visits add. -/
theorem trace_journeyFrom (hbudget : 1 ≤ (t.settings .readinessAttempts : Int))
    {stages : List Stage} {p : Progress} {b : Bench} (hb : b.LiesIn w)
    (hvisits : ∀ v ∈ (t.journeyFrom .usual stages p b).visits,
      v.Supplied ∧ ∀ s, v.progress.server = some s → s = server) :
    let j := t.journeyFrom .usual stages p b
    (∀ v ∈ j.visits, v.bench.LiesIn w ∧
      Within (t.Canonical w server v.stage) (t.performed .usual v).1 (t.leaves v)) ∧
    j.bench.LiesIn w ∧ j.bench.trace.toList = b.trace.toList ++ j.visits.flatMap t.leaves := by
  induction stages generalizing p b with
  | nil => exact ⟨by simp [journeyFrom], hb, by simp [journeyFrom]⟩
  | cons stage rest ih =>
    -- to enter a stage leaves no trace
    have hentered : (visit stage p b).bench.LiesIn w := hb.of_isStill ⟨rfl, rfl, rfl, rfl⟩
    have first (hv : (visit stage p b).Supplied)
        (hserver : ∀ s, (visit stage p b).progress.server = some s → s = server) :=
      t.leaves_of_traces (t.traces_perform w server hbudget hv hserver) hentered
    rcases h : t.performed .usual (visit stage p b) with ⟨raised | p', b'⟩
    · rw [journeyFrom_of_error t .usual h] at hvisits ⊢
      obtain ⟨hv, hserver⟩ := hvisits _ (List.mem_singleton_self _)
      obtain ⟨hlies, htrace, hwithin⟩ := first hv hserver
      refine ⟨List.forall_mem_singleton.2 ⟨hentered, hwithin⟩, ?_⟩
      rw [h] at hlies htrace
      exact ⟨hlies, by rw [List.flatMap_singleton]; exact htrace⟩
    · rw [journeyFrom_of_ok t .usual h] at hvisits ⊢
      obtain ⟨⟨hv, hserver⟩, hrest⟩ := List.forall_mem_cons.1 hvisits
      obtain ⟨hlies, htrace, hwithin⟩ := first hv hserver
      rw [h] at hlies htrace
      obtain ⟨hlater, hend, hmore⟩ := ih hlies hrest
      refine ⟨List.forall_mem_cons.2 ⟨⟨hentered, hwithin⟩, hlater⟩, hend, ?_⟩
      dsimp only at htrace ⊢
      rw [List.flatMap_cons, hmore, htrace, List.append_assoc]
      rfl

/-- Effects for every stage, as it has them when it is performed to its end. -/
def Plan (w : Surroundings) (server : Server) (plan : Stage → List Effect) : Prop :=
  ∀ stage, t.Canonical w server stage (plan stage)

theorem exists_plan (w : Surroundings) (server : Server)
    (hbudget : 1 ≤ (t.settings .readinessAttempts : Int)) : ∃ plan, t.Plan w server plan := by
  choose plan hplan using t.exists_canonical w server hbudget
  exact ⟨plan, hplan⟩

/-- The plan for one stage may be changed without changing what is planned for others. -/
theorem Plan.update {plan : Stage → List Effect} {stage : Stage} {es : List Effect}
    (h : t.Plan w server plan) (hes : t.Canonical w server stage es) {rest : List Stage}
    (hrest : stage ∉ rest) :
    t.Plan w server (Function.update plan stage es) ∧
      (stage :: rest).flatMap (Function.update plan stage es) = es ++ rest.flatMap plan := by
  constructor
  · intro other
    by_cases hother : other = stage
    · subst hother
      rwa [Function.update_self]
    · rw [Function.update_of_ne hother]
      exact h other
  · rw [List.flatMap_cons, Function.update_self]
    congr 1
    refine List.flatMap_congr fun other hmem => Function.update_of_ne ?_ _ _
    exact fun hother => hrest (hother ▸ hmem)

/-- If each visit adds the effects of its stage, or the first of them if it fails, then a journey adds
the first of the effects that are planned for its stages, and all of them if it goes through. -/
theorem isPrefix_leaves_journeyFrom (hbudget : 1 ≤ (t.settings .readinessAttempts : Int))
    {stages : List Stage} {p : Progress} {b : Bench} (hnodup : stages.Nodup)
    (hvisits : ∀ v ∈ (t.journeyFrom .usual stages p b).visits,
      Within (t.Canonical w server v.stage) (t.performed .usual v).1 (t.leaves v)) :
    let j := t.journeyFrom .usual stages p b
    ∃ plan, t.Plan w server plan ∧ j.visits.flatMap t.leaves <+: stages.flatMap plan ∧
      (j.ended = .ok () → j.visits.flatMap t.leaves = stages.flatMap plan) := by
  induction stages generalizing p b with
  | nil =>
    obtain ⟨plan, hplan⟩ := t.exists_plan w server hbudget
    exact ⟨plan, hplan, List.prefix_rfl, fun _ => rfl⟩
  | cons stage rest ih =>
    obtain ⟨hstage, hrest⟩ := List.nodup_cons.1 hnodup
    rcases h : t.performed .usual (visit stage p b) with ⟨raised | p', b'⟩
    · -- the last visit adds the first effects of its stage
      rw [journeyFrom_of_error t .usual h] at hvisits ⊢
      obtain ⟨-, full, hfull, hprefix⟩ := hvisits _ (List.mem_singleton_self _)
      rw [stage_visit] at hfull
      obtain ⟨plan, hplan⟩ := t.exists_plan w server hbudget
      obtain ⟨hplan', hflat⟩ := hplan.update t hfull hstage
      refine ⟨_, hplan', ?_, fun hend => by cases hend⟩
      rw [hflat, List.flatMap_singleton]
      exact hprefix.trans (List.prefix_append _ _)
    · -- what the first visit has left is planned for its stage, and the rest as for the rest
      rw [journeyFrom_of_ok t .usual h] at hvisits ⊢
      obtain ⟨hfirst, hlater⟩ := List.forall_mem_cons.1 hvisits
      obtain ⟨plan, hplan, hprefix, hall⟩ := ih hrest hlater
      have hwhole : t.Canonical w server stage (t.leaves (visit stage p b)) :=
        hfirst.1 (by rw [h]; rfl)
      obtain ⟨hplan', hflat⟩ := hplan.update t hwhole hstage
      refine ⟨_, hplan', ?_, fun hend => ?_⟩
      · rw [hflat, List.flatMap_cons]
        exact (List.prefix_append_right_inj _).2 hprefix
      · rw [hflat, List.flatMap_cons]
        exact congrArg _ (hall hend)

/-- All visits of a journey that find a server find the one that the trial holds in the end. -/
theorem exists_server (b : Bench) :
    ∃ server, (∀ s, (t.journey .usual b).progress.server = some s → s = server) ∧
      ∀ v ∈ (t.journey .usual b).visits, ∀ s, v.progress.server = some s → s = server := by
  have found : ∀ v ∈ (t.journey .usual b).visits, ∀ s, v.progress.server = some s →
      (t.journey .usual b).progress.server = some s := by
    intro v hv s hs
    unfold journey at hv ⊢
    split at hv
    · simp at hv
    · exact t.server_of_mem_visits .usual (nodup_forward _) (fun h => by cases h) hv hs
  -- if there is none, nothing is said of the server
  let server := (t.journey .usual b).progress.server.getD ⟨"", "", 0, 0, ""⟩
  have held : ∀ s, (t.journey .usual b).progress.server = some s → s = server := by
    intro s hs
    simp [server, hs]
  exact ⟨server, held, fun v hv s hs => held s (found v hv s hs)⟩

/-- A journey in some surroundings stays there, and adds what its visits add: the first of what is
planned for the itinerary, and all of it if the journey goes through. -/
theorem trace_journey (hbudget : 1 ≤ (t.settings .readinessAttempts : Int)) {b : Bench}
    (hb : b.LiesIn w)
    (hserver : ∀ v ∈ (t.journey .usual b).visits, ∀ s, v.progress.server = some s → s = server) :
    let j := t.journey .usual b
    (∀ v ∈ j.visits, v.bench.LiesIn w ∧
      Within (t.Canonical w server v.stage) (t.performed .usual v).1 (t.leaves v)) ∧
    j.bench.LiesIn w ∧
    j.bench.trace.toList = b.trace.toList ++ j.visits.flatMap t.leaves ∧
    ∃ plan, t.Plan w server plan ∧ j.visits.flatMap t.leaves <+: t.itinerary.flatMap plan ∧
      (j.ended = .ok () → j.visits.flatMap t.leaves = t.itinerary.flatMap plan) := by
  have hsupplied := t.supplied_journey .usual b
  unfold journey at hserver hsupplied ⊢
  split
  · obtain ⟨plan, hplan⟩ := t.exists_plan w server hbudget
    refine ⟨by simp, hb, by simp, plan, hplan, List.nil_prefix, ?_⟩
    intro hend
    cases hend
  · next command hwords =>
    rw [hwords] at hserver hsupplied
    obtain ⟨hvisits, hend, htrace⟩ := t.trace_journeyFrom hbudget hb fun v hv =>
      ⟨hsupplied v hv, hserver v hv⟩
    obtain ⟨plan, hplan, hprefix, hall⟩ := t.isPrefix_leaves_journeyFrom hbudget
      (nodup_forward _) fun v hv => (hvisits v hv).2
    rw [← t.forward_eq_itinerary hwords]
    exact ⟨hvisits, hend, htrace, plan, hplan, hprefix, hall⟩

end Trial

/-! ### After the journey -/

/-- What a call of the clean-up adds if nothing fails. -/
def CleanUpCall.effects : CleanUpCall → List Effect
  | .terminate r => [.kill r.pid, .wait r.pid]
  | .logs name => [.lookup name, .logs name Server.usualTail]
  | .stop name => [.lookup name, .remove name]

namespace Trial

section

variable (t : Trial) {w : Surroundings}

/-- A step of the clean-up adds no more than the effects of its call. -/
theorem traces_bestEffort (call : CleanUpCall) :
    Traces w (bestEffort .usual call) fun _ es => es.Sublist call.effects := by
  have answered : Traces w (Crew.usual.answer call) fun _ es => es.Sublist call.effects := by
    cases call with
    | terminate r => exact Traces.bind_of_still (Traces.terminate r) fun _ => keeps_pure _
    | logs name => exact Traces.bind_of_still (Traces.logsOf name _) fun _ => keeps_pure _
    | stop name => exact Traces.bind_of_still (Traces.stop name) fun _ => keeps_pure _
  refine Traces.attempt_bind_of_still answered fun e => ?_
  split
  · exact keeps_pure _
  · exact keeps_pure _
  · exact keeps_pure _
  · exact keeps_throw _

theorem traces_stopReceiver (p : Progress) :
    Traces w (stopReceiver .usual p) fun _ es =>
      es.Sublist ((p.receiver.toList.map .terminate).flatMap CleanUpCall.effects) := by
  unfold stopReceiver
  cases p.receiver with
  | none => exact Traces.pure (List.nil_sublist _)
  | some r => simpa using traces_bestEffort (.terminate r)

theorem traces_serverLogs (p : Progress) (failed : Bool) :
    Traces w (t.serverLogs .usual p failed) fun _ es =>
      es.Sublist ((t.logCalls p.server failed).flatMap CleanUpCall.effects) := by
  unfold serverLogs logCalls
  split
  · simpa using traces_bestEffort (.logs t.serverName)
  · exact Traces.pure (List.nil_sublist _)

theorem traces_stopServer :
    Traces w (t.stopServer .usual) fun _ es =>
      es.Sublist (t.stopCalls.flatMap CleanUpCall.effects) := by
  unfold stopServer stopCalls
  split
  · exact Traces.of_still (keeps_bind (Still.keeps_say _) fun _ => keeps_pure _) fun _ =>
      List.nil_sublist _
  · simpa using traces_bestEffort (.stop t.serverName)

/-- The clean-up adds no more than the effects of the calls that are due, in their order. -/
theorem traces_cleanUp (p : Progress) (failed : Bool) :
    Traces w (t.cleanUp .usual p failed) fun _ es =>
      es.Sublist ((t.dueCalls p.receiver p.server failed).flatMap CleanUpCall.effects) := by
  rw [dueCalls, List.flatMap_append, List.flatMap_append, List.append_assoc]
  refine Traces.bind_sublist (traces_stopReceiver p) fun receiver => ?_
  refine Traces.bind_sublist (t.traces_serverLogs p failed) fun logs => ?_
  refine Traces.bind_of_still t.traces_stopServer fun stopped => ?_
  exact keeps_bind (Still.keeps_sayAll _) fun _ => keeps_pure _

end

/-! ### The end -/

variable (t : Trial)

theorem still_settle (startedAt : Moment) (p : Progress) (ended : Except Raised Unit)
    (cleaned : List TrialError × String) : Frame.still.Keeps (t.settle startedAt p ended cleaned) := by
  have saved (r : Report) : Frame.still.Keeps (r.save t.artifacts) :=
    Frame.keeps_save (Still.keeps_onFiles _) (fun _ _ => Still.keeps_onFiles _) r
  exact Frame.keeps_settle Still.keeps_say t saved (Still.keeps_onFiles _) _ _ _ _

/-- After the journey only the clean-up adds to the trace. -/
theorem traces_homecoming {w : Surroundings} {j : Journey} (hj : j.bench.LiesIn w)
    (startedAt : Moment) :
    ∃ es, (t.homecoming .usual startedAt j).2.trace.toList = j.bench.trace.toList ++ es ∧
      es.Sublist ((t.dueCalls j.progress.receiver j.progress.server
        (failureOf j.ended).isSome).flatMap CleanUpCall.effects) := by
  -- to enter the clean-up leaves no trace
  have hentered : j.bench.IsStill (homeBench j) := Frame.holds_homeBench (F := .still)
    Still.keeps_say (Frame.keeps_change fun _ => ⟨rfl, rfl, rfl, rfl⟩) j
  obtain ⟨-, es, htrace, hes⟩ := Traces.bind_of_still (t.traces_cleanUp j.progress _)
    (fun cleaned => t.still_settle startedAt j.progress j.ended cleaned) _
    (hj.of_isStill hentered)
  exact ⟨es, htrace.trans (congrArg (·.toList ++ es) hentered.trace), hes⟩

/-- In parting nothing is added. -/
theorem trace_parting (context : Log.Context) (home : Except Raised Outcome × Bench) :
    (parting t context home).trace = home.2.trace := by
  obtain ⟨raised | o, b⟩ := home
  · rfl
  · unfold parting
    dsimp only
    split <;> rfl

end Trial
end ClientTrial
