import ClientTrial.Proofs.Artifact
import ClientTrial.Proofs.Client
import ClientTrial.Proofs.Readiness
import ClientTrial.Proofs.Trial.Course
import Mathlib.Data.List.Nodup

/-!
# The verdict of a trial

A trial succeeds iff it goes well in every stage of its itinerary.  What that takes is
said for each stage in terms of what happens outside on the bench on which the stage
is entered: which commands are spawned and how they exit, which connections are made
and which pauses are let pass, and what stands in the receiver's output.  Nothing else
has a say in the verdict, and the clean-up in particular has none.

## Main definitions

* `Trial.GoesWell` — what a visit takes to go well.
* `Visit.Supplied` — a visit has what its stage needs.

## Main results

* `Trial.answers_of_goesWell`, `Trial.goesWell_of_answers` — a visit is performed without
  failing iff it goes well.
* `Trial.supplied_journey` — every visit of a journey is supplied.
* `Trial.succeeded_iff_goesWell` — a trial that comes to an outcome succeeds iff it goes
  well in every stage of its itinerary.
-/

namespace ClientTrial

open Act

namespace Trial

variable (t : Trial)

/-! ### What it takes -/

/-- The attempts at a connection to a server. -/
def attemptsAt (server : Server) : Attempts where
  host := t.host
  port := server.hostPort
  timeout := t.settings .readinessTimeout
  pause := t.settings .readinessPause
  budget := t.settings .readinessAttempts

/-- The receiver is ready: its ready marker is found by some look of the wait for it, or without a
marker it is given its time. -/
def ReceiverReady (b : Bench) : Prop :=
  match (t.settings .readyMarker : Option String) with
  | some marker =>
    (Artifact.ofRoute t.output).EventuallyShows marker (t.settings .readyTimeout)
      (t.settings .readyPause) b
  | none => (sleep (t.settings .receiverSettle)).Answers b

/-- What a visit takes to go well. -/
def GoesWell (v : Visit) : Prop :=
  match v.stage with
  -- the build command is spawned and exits with status zero
  | .build =>
    ∃ command, t.settings.buildWords = .ok (some command) ∧ v.bench.Exits command none 0
  -- what an earlier trial left behind is removed
  | .cleanPriorState => (Server.ensureClean t.serverName).Answers v.bench
  -- the server is started
  | .startServer =>
    (Server.start t.serverName (t.settings .serverImage) (t.settings .containerPort)
      (t.settings .hostPort)).Answers v.bench
  -- the first attempt that is not told "not yet" connects, and is within the budget
  | .awaitReadiness =>
    ∃ server, v.progress.server = some server ∧ (t.attemptsAt server).FindsReady v.bench
  | .settleServer => (sleep (t.settings .serverSettle)).Answers v.bench
  -- the receiver is spawned with a file open for its output
  | .startReceiver =>
    ∃ command, t.settings.receiverWords = .ok command ∧ v.bench.Spawns command t.output
  -- the receiver gets ready, and can then be asked whether it is running
  | .settleReceiver =>
    t.ReceiverReady v.bench ∧
      ∃ receiver, v.progress.receiver = some receiver ∧
        receiver.isRunning.Answers ((t.settleReceiver .usual).exec v.bench).2
  -- the sender is spawned and exits with status zero in time
  | .runSender =>
    ∃ command, t.settings.senderWords = .ok command ∧
      v.bench.Exits command (t.settings .senderTimeout) 0
  -- every marker stands in what the receiver has written by now
  | .verifyOutputs =>
    ∃ s, (Artifact.ofRoute t.output).textOn v.bench = .ok s ∧
      ∀ m ∈ (t.settings .markers : List String), m.toList <:+: s.toList
  | .cleanup => True

end Trial

/-- A visit has what its stage needs: the server, once it is to be talked to, and the receiver, once
it is to be asked. -/
structure Visit.Supplied (v : Visit) : Prop where
  server : v.stage ∈ [.awaitReadiness, .startReceiver, .runSender] → v.progress.server.isSome = true
  receiver : v.stage = .settleReceiver → v.progress.receiver.isSome = true

namespace Trial

variable (t : Trial)

/-! ### Visits -/

theorem settleReceiver_answers {b : Bench} (h : (t.settleReceiver .usual).Answers b) :
    t.ReceiverReady b := by
  unfold settleReceiver at h
  unfold ReceiverReady
  cases hm : (t.settings .readyMarker : Option String) with
  | none =>
    rw [hm] at h
    exact h
  | some marker =>
    rw [hm] at h
    obtain ⟨ready, c, hready, h⟩ := answers_bind_iff.1 h
    cases ready with
    | false =>
      obtain ⟨_, h⟩ := h
      cases h
    | true => exact Artifact.eventuallyShows_of_waitFor _ hready

/-- A receiver that gets ready is settled, unless the clock stops moving. -/
theorem settleReceiver_of_ready {b : Bench} (h : t.ReceiverReady b) :
    (t.settleReceiver .usual).Answers b ∨
      ((t.settleReceiver .usual).exec b).1 = .error .stalled := by
  unfold ReceiverReady at h
  unfold settleReceiver
  cases hm : (t.settings .readyMarker : Option String) with
  | none =>
    rw [hm] at h
    exact .inl h
  | some marker =>
    rw [hm] at h
    rcases Artifact.waitFor_of_eventuallyShows _ h with hw | hw
    · exact .inl (answers_bind_iff.2 ⟨true, _, Prod.ext hw rfl, ⟨(), rfl⟩⟩)
    · exact .inr (congrArg Prod.fst (exec_bind_of_error (Prod.ext hw rfl) _))

/-- A receiver is reported or not iff it can be asked whether it is running. -/
theorem reportExited_answers_iff {receiver : Receiver} {b : Bench} :
    (reportExited .usual receiver).Answers b ↔ receiver.isRunning.Answers b := by
  refine answers_bind_of_forall fun running c => ?_
  cases running
  · exact ⟨(), rfl⟩
  · exact ⟨(), rfl⟩

/-- A visit whose stage is performed without failing goes well. -/
theorem goesWell_of_answers {v : Visit} (hv : v.Supplied)
    (h : (t.perform .usual v.progress v.stage).Answers v.bench) : t.GoesWell v := by
  obtain ⟨stage, p, b⟩ := v
  have kept {α : Type} {act : Act α} {c : Bench}
      (hact : (do let _ ← act; pure p : Act Progress).Answers c) : act.Answers c :=
    (answers_bind_of_forall fun _ _ => ⟨p, rfl⟩).1 hact
  cases stage with
  | build =>
    obtain ⟨command, c, hc, h⟩ := answers_bind_iff.1 h
    obtain ⟨hw, rfl⟩ := exec_wordsOf_eq_ok.1 hc
    have hexits := Client.runForeground_answers_iff.1 (kept h)
    cases command with
    | none => exact absurd rfl hexits.1
    | some command => exact ⟨command, hw, hexits⟩
  | cleanPriorState => exact kept h
  | startServer => exact (answers_bind_of_forall fun _ _ => ⟨_, rfl⟩).1 h
  | awaitReadiness =>
    obtain ⟨server, hs⟩ : ∃ server, p.server = some server :=
      Option.isSome_iff_exists.1 (hv.server (by simp))
    simp only [perform, hs] at h
    exact ⟨server, hs, (t.attemptsAt server).awaitReachable_answers_iff b |>.1 (kept h)⟩
  | settleServer => exact kept h
  | startReceiver =>
    obtain ⟨server, hs⟩ : ∃ server, p.server = some server :=
      Option.isSome_iff_exists.1 (hv.server (by simp))
    simp only [perform, hs] at h
    obtain ⟨command, c, hc, h⟩ := answers_bind_iff.1 h
    obtain ⟨hw, rfl⟩ := exec_wordsOf_eq_ok.1 hc
    have hrun := (answers_bind_of_forall fun _ _ => ⟨_, rfl⟩).1 h
    exact ⟨command, hw, Client.runBackground_answers_iff.1 hrun⟩
  | settleReceiver =>
    obtain ⟨receiver, hr⟩ : ∃ receiver, p.receiver = some receiver :=
      Option.isSome_iff_exists.1 (hv.receiver rfl)
    obtain ⟨_, c, hc, h⟩ := answers_bind_iff.1 h
    simp only [hr] at h
    refine ⟨t.settleReceiver_answers (answers_of_exec hc), receiver, hr, ?_⟩
    have hbench : ((t.settleReceiver .usual).exec b).2 = c := congrArg Prod.snd hc
    rw [hbench]
    exact reportExited_answers_iff.1 (kept h)
  | runSender =>
    obtain ⟨server, hs⟩ : ∃ server, p.server = some server :=
      Option.isSome_iff_exists.1 (hv.server (by simp))
    simp only [perform, hs] at h
    obtain ⟨command, c, hc, h⟩ := answers_bind_iff.1 h
    obtain ⟨hw, rfl⟩ := exec_wordsOf_eq_ok.1 hc
    exact ⟨command, hw, Client.runForeground_answers_iff.1 (kept h)⟩
  | verifyOutputs => exact (Artifact.verifyAll_answers_iff _ _ _).1 (kept h)
  | cleanup => trivial

/-- A visit that goes well is performed without failing, unless the clock stops moving. -/
theorem answers_of_goesWell {v : Visit} (h : t.GoesWell v) :
    (t.perform .usual v.progress v.stage).Answers v.bench ∨
      (t.performed .usual v).1 = .error .stalled := by
  obtain ⟨stage, p, b⟩ := v
  have kept {α : Type} {act : Act α} {c : Bench} (hact : act.Answers c) :
      (do let _ ← act; pure p : Act Progress).Answers c :=
    (answers_bind_of_forall fun _ _ => ⟨p, rfl⟩).2 hact
  have worded {α β : Type} {words : Except Text.CommandError α} {list : α} {f : α → Act β}
      {c : Bench} (hw : words = .ok list) (hf : (f list).Answers c) :
      (wordsOf words >>= f).Answers c :=
    answers_bind_iff.2 ⟨list, c, exec_wordsOf_eq_ok.2 ⟨hw, rfl⟩, hf⟩
  cases stage with
  | build =>
    obtain ⟨command, hw, hexits⟩ := h
    exact .inl (worded hw (kept (Client.runForeground_answers_iff.2 hexits)))
  | cleanPriorState => exact .inl (kept h)
  | startServer => exact .inl ((answers_bind_of_forall fun _ _ => ⟨_, rfl⟩).2 h)
  | awaitReadiness =>
    obtain ⟨server, hs, hready⟩ := h
    left
    dsimp only at hs ⊢
    simp only [perform, hs]
    exact kept (((t.attemptsAt server).awaitReachable_answers_iff b).2 hready)
  | settleServer => exact .inl (kept h)
  | startReceiver =>
    obtain ⟨command, hw, hspawns⟩ := h
    left
    dsimp only
    rcases hs : p.server with _ | server
    · simp only [perform, hs]
      exact ⟨p, rfl⟩
    · simp only [perform, hs]
      exact worded hw ((answers_bind_of_forall fun _ _ => ⟨_, rfl⟩).2
        (Client.runBackground_answers_iff.2 hspawns))
  | settleReceiver =>
    obtain ⟨hready, receiver, hr, hpoll⟩ := h
    rcases t.settleReceiver_of_ready hready with hsettled | hstalled
    · obtain ⟨_, c, hc⟩ := exec_of_answers hsettled
      have hbench : ((t.settleReceiver .usual).exec b).2 = c := congrArg Prod.snd hc
      left
      refine answers_bind_iff.2 ⟨_, c, hc, ?_⟩
      dsimp only at hr ⊢
      rw [hr]
      dsimp only at hpoll
      rw [hbench] at hpoll
      exact kept (reportExited_answers_iff.2 hpoll)
    · exact .inr (congrArg Prod.fst (exec_bind_of_error (Prod.ext hstalled rfl) _))
  | runSender =>
    obtain ⟨command, hw, hexits⟩ := h
    left
    dsimp only
    rcases hs : p.server with _ | server
    · simp only [perform, hs]
      exact ⟨p, rfl⟩
    · simp only [perform, hs]
      exact worded hw (kept (Client.runForeground_answers_iff.2 hexits))
  | verifyOutputs => exact .inl (kept ((Artifact.verifyAll_answers_iff _ _ _).2 h))
  | cleanup => exact .inl ⟨p, rfl⟩

/-! ### What visits are supplied with -/

variable (crew : Crew)

/-- Stages in an order in which each is supplied: the server is started before it is talked to, and
the receiver before it is asked.  The flags tell which of the two are there already. -/
def isSupplied : (server receiver : Bool) → List Stage → Bool
  | _, _, [] => true
  | server, receiver, stage :: rest =>
    (stage ∉ [.awaitReadiness, .startReceiver, .runSender] || server) &&
      (stage ≠ .settleReceiver || receiver) &&
      isSupplied (server || stage = .startServer) (receiver || stage = .startReceiver) rest

theorem isSome_server_of_performed {v : Visit} {p : Progress} {b : Bench}
    (h : t.performed crew v = (.ok p, b))
    (hs : v.progress.server.isSome = true ∨ v.stage = .startServer) : p.server.isSome = true := by
  have hp := congrArg Progress.server (t.progress_of_performed_ok crew h)
  rcases hs with hs | hs
  · rw [hp]
    simp [hs]
  · obtain ⟨stage, q, c⟩ := v
    dsimp only at hs
    subst hs
    obtain ⟨server, d, -, hq⟩ := exec_bind_eq_ok.1 h
    cases hq
    rfl

theorem isSome_receiver_of_performed {v : Visit} {p : Progress} {b : Bench} (hv : v.Supplied)
    (h : t.performed crew v = (.ok p, b))
    (hr : v.progress.receiver.isSome = true ∨ v.stage = .startReceiver) :
    p.receiver.isSome = true := by
  have hp := congrArg Progress.receiver (t.progress_of_performed_ok crew h)
  rcases hr with hr | hr
  · rw [hp]
    simp [hr]
  · obtain ⟨stage, q, c⟩ := v
    dsimp only at hr
    subst hr
    obtain ⟨server, hs⟩ : ∃ server, q.server = some server :=
      Option.isSome_iff_exists.1 (hv.server (by simp))
    simp only [performed, perform, hs] at h
    obtain ⟨command, d, -, h⟩ := exec_bind_eq_ok.1 h
    obtain ⟨receiver, e, -, hq⟩ := exec_bind_eq_ok.1 h
    cases hq
    rfl

/-- The visits of stages in such an order are supplied. -/
theorem supplied_journeyFrom {server receiver : Bool} {stages : List Stage} {p : Progress}
    (hstages : isSupplied server receiver stages = true)
    (hs : server = true → p.server.isSome = true)
    (hr : receiver = true → p.receiver.isSome = true) (b : Bench) :
    ∀ v ∈ (t.journeyFrom crew stages p b).visits, v.Supplied := by
  induction stages generalizing server receiver p b with
  | nil => simp [journeyFrom]
  | cons stage rest ih =>
    simp only [isSupplied, Bool.and_eq_true, Bool.or_eq_true, decide_eq_true_eq] at hstages
    obtain ⟨⟨hserver, hreceiver⟩, hrest⟩ := hstages
    have hfirst : (visit stage p b).Supplied := by
      constructor
      · intro hstage
        exact hs (hserver.resolve_left fun hn => hn hstage)
      · intro hstage
        exact hr (hreceiver.resolve_left fun hn => hn hstage)
    rcases h : t.performed crew (visit stage p b) with ⟨raised | p', b'⟩
    · simpa [journeyFrom_of_error t crew h] using hfirst
    · rw [journeyFrom_of_ok t crew h]
      intro v hv
      rcases List.mem_cons.1 hv with rfl | hv
      · exact hfirst
      · refine ih hrest ?_ ?_ b' v hv
        · intro hflag
          refine t.isSome_server_of_performed crew h ?_
          exact (Bool.or_eq_true _ _ ▸ hflag).imp hs of_decide_eq_true
        · intro hflag
          refine t.isSome_receiver_of_performed crew hfirst h ?_
          exact (Bool.or_eq_true _ _ ▸ hflag).imp hr of_decide_eq_true

theorem isSupplied_forward (build : Bool) :
    isSupplied false false (Stage.forward build) = true := by
  cases build <;> decide

/-- Every visit of a journey is supplied. -/
theorem supplied_journey (b : Bench) : ∀ v ∈ (t.journey crew b).visits, v.Supplied := by
  unfold journey
  split
  · simp
  · exact t.supplied_journeyFrom crew (isSupplied_forward _) (by simp) (by simp) b

/-! ### The verdict -/

/-- A journey goes through iff the build command can be read and every visit answers. -/
theorem journey_ended_ok_iff {b : Bench} :
    (t.journey crew b).ended = .ok () ↔
      (∃ command, t.settings.buildWords = .ok command) ∧
        ∀ v ∈ (t.journey crew b).visits, (t.perform crew v.progress v.stage).Answers v.bench := by
  unfold journey
  cases t.settings.buildWords with
  | error e => simp
  | ok command =>
    rw [show (∃ c, (Except.ok command : Except Text.CommandError _) = .ok c) ↔ True from
      iff_true_intro ⟨command, rfl⟩, true_and]
    exact t.journeyFrom_ended_ok_iff crew

/-- A journey with the usual crew that is not ended by a clock that has stopped goes through iff it
goes well in every stage of the itinerary. -/
theorem ended_ok_iff_goesWell {b : Bench}
    (hstalled : (t.journey .usual b).ended ≠ .error .stalled) :
    (t.journey .usual b).ended = .ok () ↔
      (∃ command, t.settings.buildWords = .ok command) ∧
        ∀ stage ∈ t.itinerary, ∃ v ∈ (t.journey .usual b).visits,
          v.stage = stage ∧ t.GoesWell v := by
  have hsupplied := t.supplied_journey .usual b
  constructor
  · intro hend
    obtain ⟨hwords, hanswers⟩ := (t.journey_ended_ok_iff .usual).1 hend
    refine ⟨hwords, fun stage hstage => ?_⟩
    rw [← t.stages_journey_of_ended_ok .usual hend] at hstage
    obtain ⟨v, hv, rfl⟩ := List.mem_map.1 hstage
    exact ⟨v, hv, rfl, t.goesWell_of_answers (hsupplied v hv) (hanswers v hv)⟩
  · rintro ⟨⟨command, hwords⟩, hwell⟩
    rcases hend : (t.journey .usual b).ended with raised | ⟨⟩
    · -- the visit that ended the journey would have gone well
      obtain ⟨v, hv, hraised⟩ := t.raised_in_visit .usual hwords hend
      have hstage : v.stage ∈ t.itinerary :=
        (t.isPrefix_stages_journey .usual b).subset (List.mem_map_of_mem hv)
      obtain ⟨w, hw, hwv, hwell⟩ := hwell v.stage hstage
      have hnodup := t.nodup_itinerary.sublist (t.isPrefix_stages_journey .usual b).sublist
      obtain rfl := List.inj_on_of_nodup_map hnodup hw hv hwv
      rcases t.answers_of_goesWell hwell with hanswers | hst
      · exact absurd hanswers (not_answers_of_exec (Prod.ext hraised rfl))
      · rw [hraised] at hst
        cases hst
        exact absurd hend hstalled
    · rfl

/-- **The verdict of a trial.**  A trial that comes to an outcome has made its directory.  It has
succeeded iff its build command could be read and the visits of its journey went well, with none of
the stages of the itinerary left out. -/
theorem succeeded_iff_goesWell {b b' : Bench} {o : Outcome} (h : t.run.exec b = (.ok o, b')) :
    ∃ fs, b.files.makeDir t.artifacts = .ok fs ∧
      (o.succeeded = true ↔
        (∃ command, t.settings.buildWords = .ok command) ∧
          ∀ stage ∈ t.itinerary, ∃ v ∈ (t.journey .usual (t.outset fs b)).visits,
            v.stage = stage ∧ t.GoesWell v) := by
  obtain ⟨fs, made, c, hhome, -⟩ := t.homecoming_of_run h
  refine ⟨fs, made, ?_⟩
  rcases t.verdict_of_homecoming .usual hhome with ⟨hend, hsucceeded, -⟩ | ⟨f, hend, hsucceeded, -⟩
  · have hiff := @ended_ok_iff_goesWell t (t.outset fs b) (by simp [hend])
    exact iff_of_true hsucceeded (hiff.1 hend)
  · have hiff := @ended_ok_iff_goesWell t (t.outset fs b) (by simp [hend])
    refine iff_of_false (by simp [hsucceeded]) fun hwell => ?_
    have hok := hiff.2 hwell
    rw [hend] at hok
    cases hok

/-- A trial whose first connection is refused and whose receiver writes both markers succeeds. -/
theorem goesWell_of_refused_connection :
    let t : Trial := ⟨Settings.default, "r1"⟩
    let b : Bench := { Bench.quiet with
      connections := [some (.fault ⟨.os .connectionRefused, "refused"⟩, 0.0)]
      scripts := [{ pieces := [⟨6.0, Text.toOctets "Hello World, Goodbye world"⟩] }]
      errands := [{ duration := 3.0 }] }
    ∃ o b' fs, t.run.exec b = (.ok o, b') ∧ o.succeeded = true ∧
      ∀ stage ∈ t.itinerary, ∃ v ∈ (t.journey .usual (t.outset fs b)).visits,
        v.stage = stage ∧ t.GoesWell v := by
  intro t b
  have returned : (t.run.exec b).1.toOption.map (·.succeeded) = some true := by decide +kernel
  rcases h : t.run.exec b with ⟨raised | o, b'⟩
  · rw [h] at returned
    cases returned
  · rw [h] at returned
    have hsucceeded : o.succeeded = true := Option.some.inj returned
    obtain ⟨fs, -, hiff⟩ := succeeded_iff_goesWell t h
    exact ⟨o, b', fs, rfl, hsucceeded, (hiff.1 hsucceeded).2⟩

end Trial
end ClientTrial
