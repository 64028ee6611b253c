import ClientTrial.Proofs.Settings.NormalForm
import ClientTrial.Proofs.Trial.Effects

/-!
# The order of effects

What a trial does to the outside world comes in one order.  On the way forward it has the
first of the effects of its itinerary, each stage following those that went well, and what
comes after that is part of the clean-up.  So nothing is done before what it relies on: no
connection is attempted before the server was started, no receiver is spawned before a
connection was made, no sender is run before the receiver was spawned and found ready, and
nothing is checked before the sender has exited with status zero.

## Main definitions

* `Effect.stages` — the stages that have an effect.
* `Visit.Follows` — a visit takes place after one of a certain kind.
* `Trial.InOrder` — visits each of which follows what it relies on.

## Main results

* `Sources.one_le_readinessAttempts` — settings that were read allow for a connection.
* `Trial.inOrder_journey` — the visits of a journey are in order.
* `Trial.effects_in_order` — the effects of a trial are those of its itinerary, up to some
  point, and then effects of the clean-up.
-/

namespace ClientTrial

open Act

/-! ### The budget -/

/-- Settings that were read allow for at least one attempt at a connection. -/
theorem Sources.one_le_readinessAttempts {s : Sources} {v : Settings} (h : s.load = .ok v) :
    1 ≤ (v .readinessAttempts : Int) := (isNormal_of_load h .readinessAttempts).1

/-! ### Effects and stages -/

namespace Effect

/-- A connection to the server is attempted. -/
def isAttempt : Effect → Bool
  | connect .. => true
  | _ => false

/-- A connection to the server is made, and closed again. -/
def isConnection : Effect → Bool
  | connect _ _ _ closed => closed
  | _ => false

/-- A command is started in the background. -/
def isSpawn : Effect → Bool
  | spawn .. => true
  | _ => false

/-- The stages that have an effect.  The clean-up alone kills, waits for a process and reads a
log. -/
def stages : Effect → List Stage
  | run .. => [.build, .runSender]
  | lookup _ | remove _ => [.cleanPriorState]
  | create .. | reload _ => [.startServer]
  | connect .. => [.awaitReadiness]
  | sleep _ => [.awaitReadiness, .settleServer, .settleReceiver]
  | spawn .. => [.startReceiver]
  | openDaemon | logs .. | kill _ | wait _ => []

end Effect

namespace Trial

variable (t : Trial) {w : Surroundings} {server : Server}

/-- A stage has no effects but those that are its own. -/
theorem stage_mem_stages {stage : Stage} {es : List Effect} (h : t.Canonical w server stage es) :
    ∀ e ∈ es, stage ∈ e.stages := by
  cases stage with
  | build | settleServer | startReceiver | runSender =>
    obtain rfl : es = [_] := h
    simp [Effect.stages]
  | cleanPriorState =>
    rcases h with rfl | rfl
    · simp [Effect.stages]
    · simp [Effect.stages]
  | startServer =>
    obtain rfl : es = Server.startEffects _ _ _ _ := h
    rw [Server.startEffects]
    split
    · simp [Effect.stages]
    · simp [Effect.stages]
  | awaitReadiness =>
    obtain ⟨refused, closed, -, rfl⟩ := h
    exact forall_mem_tries (fun _ => by simp [Effect.stages]) (by simp [Effect.stages]) _ _
  | settleReceiver =>
    change t.Settles es at h
    cases hm : (t.settings .readyMarker : Option String) with
    | none =>
      rw [t.settles_of_none hm] at h
      subst h
      simp [Effect.stages]
    | some marker =>
      rw [t.settles_of_some hm] at h
      obtain ⟨n, rfl⟩ := h
      intro e he
      rw [List.eq_of_mem_replicate he]
      simp [Effect.stages]
  | verifyOutputs | cleanup =>
    obtain rfl : es = [] := h
    simp

/-- A visit has no effects but those of its stage. -/
theorem stage_mem_stages_of_leaves {v : Visit} {r : Except Raised Progress}
    (h : Within (t.Canonical w server v.stage) r (t.leaves v)) :
    ∀ e ∈ t.leaves v, v.stage ∈ e.stages := by
  obtain ⟨-, full, hfull, hfirst⟩ := h
  exact fun e he => t.stage_mem_stages hfull e (hfirst.subset he)

end Trial

/-! ### What comes before -/

/-- Of two entries of a list without repetitions that stand in this order, the first stands before
the second. -/
theorem mem_before_of_sublist {α : Type} {a x : α} {before after : List α}
    (hnodup : (before ++ x :: after).Nodup) (h : [a, x].Sublist (before ++ x :: after)) :
    a ∈ before := by
  induction before with
  | nil =>
    have hx : x ∉ after := (List.nodup_cons.1 hnodup).1
    cases h with
    | cons _ h => exact absurd (h.subset (by simp)) hx
    | cons_cons _ h => exact absurd (List.singleton_sublist.1 h) hx
  | cons first before ih =>
    cases h with
    | cons _ h => exact List.mem_cons_of_mem _ (ih hnodup.of_cons h)
    | cons_cons _ _ => exact List.mem_cons_self

/-- Among some visits, one of a certain kind takes place before a visit. -/
def Visit.Follows (v : Visit) (visits : List Visit) (P : Visit → Prop) : Prop :=
  ∃ u, [u, v].Sublist visits ∧ P u

theorem Visit.Follows.mono {v : Visit} {visits : List Visit} {P Q : Visit → Prop}
    (h : v.Follows visits P) (hPQ : ∀ u ∈ visits, P u → Q u) : v.Follows visits Q := by
  obtain ⟨u, hu, hP⟩ := h
  exact ⟨u, hu, hPQ u (hu.subset List.mem_cons_self) hP⟩

namespace Trial

variable (t : Trial) {w : Surroundings} {server : Server}

/-- Before a stage is visited, every stage that comes first in the itinerary has been performed
without failing. -/
theorem follows_performed {b : Bench} {v : Visit} (hv : v ∈ (t.journey .usual b).visits)
    {stage : Stage} (hstage : [stage, v.stage].Sublist t.itinerary) :
    v.Follows (t.journey .usual b).visits fun u =>
      u.stage = stage ∧ ∃ p, (t.performed .usual u).1 = .ok p := by
  obtain ⟨before, after, hsplit⟩ := List.append_of_mem hv
  have hanswered : ∀ u ∈ before, ∃ p, (t.performed .usual u).1 = .ok p := by
    unfold journey at hsplit
    split at hsplit
    · simp at hsplit
    · exact t.answered_of_visits_eq_append .usual hsplit
  -- the visits before this one are those of the stages that come first in the itinerary
  obtain ⟨more, hmore⟩ := t.isPrefix_stages_journey .usual b
  have hitinerary : t.itinerary =
      before.map Visit.stage ++ v.stage :: (after.map Visit.stage ++ more) := by
    rw [← hmore, hsplit]
    simp
  rw [hitinerary] at hstage
  obtain ⟨u, hu, rfl⟩ := List.mem_map.1
    (mem_before_of_sublist (hitinerary ▸ t.nodup_itinerary) hstage)
  refine ⟨u, ?_, rfl, hanswered u hu⟩
  rw [hsplit]
  exact (List.singleton_sublist.2 hu).append (List.singleton_sublist.2 List.mem_cons_self)

/-- Two stages of the way forward, as they follow each other in every itinerary. -/
theorem sublist_itinerary {stages : List Stage}
    (h : stages.Sublist [.cleanPriorState, .startServer, .awaitReadiness, .settleServer,
      .startReceiver, .settleReceiver, .runSender, .verifyOutputs]) :
    stages.Sublist t.itinerary := h.trans (List.sublist_append_right _ _)

/-- Visits in order: each follows what it relies on. -/
structure InOrder (visits : List Visit) : Prop where
  /-- Before a visit, every stage that comes first in the itinerary went well. -/
  earlier : ∀ v ∈ visits, ∀ stage, [stage, v.stage].Sublist t.itinerary →
    v.Follows visits fun u => u.stage = stage ∧ t.GoesWell u
  /-- No connection is attempted before the server was started. -/
  started : ∀ v ∈ visits, (∃ e ∈ t.leaves v, e.isAttempt = true) →
    v.Follows visits fun u => u.stage = .startServer ∧ t.GoesWell u
  /-- No client is started in the background before a connection was made. -/
  connected : ∀ v ∈ visits, (∃ e ∈ t.leaves v, e.isSpawn = true) →
    v.Follows visits fun u => ∃ e ∈ t.leaves u, e.isConnection = true
  /-- The sender is not run before the receiver was started and found ready. -/
  ready : ∀ v ∈ visits, v.stage = .runSender →
    (v.Follows visits fun u => ∃ e ∈ t.leaves u, e.isSpawn = true) ∧
      v.Follows visits fun u => u.stage = .settleReceiver ∧ t.ReceiverReady u.bench
  /-- Nothing is checked before the sender has exited with status zero. -/
  sent : ∀ v ∈ visits, v.stage = .verifyOutputs →
    v.Follows visits fun u => u.stage = .runSender ∧
      ∃ command, t.settings.senderWords = .ok command ∧
        u.bench.Exits command (t.settings .senderTimeout) 0

theorem follows_goesWell {b : Bench} {v : Visit} (hv : v ∈ (t.journey .usual b).visits)
    {stage : Stage} (hstage : [stage, v.stage].Sublist t.itinerary) :
    v.Follows (t.journey .usual b).visits fun u => u.stage = stage ∧ t.GoesWell u := by
  refine (t.follows_performed hv hstage).mono fun u hu ⟨hus, p, hp⟩ => ⟨hus, ?_⟩
  exact t.goesWell_of_answers (t.supplied_journey .usual b u hu) ⟨p, hp⟩

section

variable {t} {b : Bench}
  (hvisits : ∀ v ∈ (t.journey .usual b).visits, v.bench.LiesIn w ∧
    Within (t.Canonical w server v.stage) (t.performed .usual v).1 (t.leaves v))
  {v : Visit} (hv : v ∈ (t.journey .usual b).visits)
include hvisits hv

/-- What comes after the start of the receiver comes after it was spawned. -/
theorem follows_spawn (hstage : [.startReceiver, v.stage].Sublist t.itinerary) :
    v.Follows (t.journey .usual b).visits fun u => ∃ e ∈ t.leaves u, e.isSpawn = true := by
  refine (t.follows_performed hv hstage).mono fun u hu ⟨hus, p, hp⟩ => ?_
  -- a visit that does not fail leaves all effects of its stage, which is one here
  have hwhole := (hvisits u hu).2.1 (by rw [hp]; rfl)
  rw [hus] at hwhole
  obtain ⟨e, hleaves, hspawn⟩ : ∃ e, t.leaves u = [e] ∧ e.isSpawn = true := ⟨_, hwhole, rfl⟩
  rw [hleaves]
  exact ⟨e, List.mem_singleton_self e, hspawn⟩

/-- What comes after the wait for the server comes after a connection was made. -/
theorem follows_connection (hstage : [.awaitReadiness, v.stage].Sublist t.itinerary) :
    v.Follows (t.journey .usual b).visits fun u => ∃ e ∈ t.leaves u, e.isConnection = true := by
  refine (t.follows_performed hv hstage).mono fun u hu ⟨hus, p, hp⟩ => ?_
  obtain ⟨host, port, timeout, hmem⟩ :=
    t.connect_mem_leaves (t.supplied_journey .usual b u hu) hus (hvisits u hu).1 hp
  exact ⟨_, hmem, rfl⟩

/-- Connections are attempted in the wait for the server only. -/
theorem stage_of_isAttempt {e : Effect} (he : e ∈ t.leaves v) (hattempt : e.isAttempt = true) :
    v.stage = .awaitReadiness := by
  have hstage := t.stage_mem_stages_of_leaves (hvisits v hv).2 e he
  cases e with
  | connect => exact List.mem_singleton.1 hstage
  | _ => cases hattempt

/-- Commands are started in the background with the receiver only. -/
theorem stage_of_isSpawn {e : Effect} (he : e ∈ t.leaves v) (hspawn : e.isSpawn = true) :
    v.stage = .startReceiver := by
  have hstage := t.stage_mem_stages_of_leaves (hvisits v hv).2 e he
  cases e with
  | spawn => exact List.mem_singleton.1 hstage
  | _ => cases hspawn

end

/-- The visits of a journey are in order. -/
theorem inOrder_journey {b : Bench}
    (hvisits : ∀ v ∈ (t.journey .usual b).visits, v.bench.LiesIn w ∧
      Within (t.Canonical w server v.stage) (t.performed .usual v).1 (t.leaves v)) :
    t.InOrder (t.journey .usual b).visits where
  earlier v hv stage hstage := t.follows_goesWell hv hstage
  started v hv := by
    rintro ⟨e, he, hattempt⟩
    have hstage := stage_of_isAttempt hvisits hv he hattempt
    exact t.follows_goesWell hv (hstage ▸ t.sublist_itinerary (by decide))
  connected v hv := by
    rintro ⟨e, he, hspawn⟩
    have hstage := stage_of_isSpawn hvisits hv he hspawn
    exact follows_connection hvisits hv (hstage ▸ t.sublist_itinerary (by decide))
  ready v hv hstage := by
    have hsettled : [.settleReceiver, v.stage].Sublist t.itinerary :=
      hstage ▸ t.sublist_itinerary (by decide)
    refine ⟨follows_spawn hvisits hv (hstage ▸ t.sublist_itinerary (by decide)), ?_⟩
    refine (t.follows_goesWell hv hsettled).mono fun u _ ⟨hus, hwell⟩ => ⟨hus, ?_⟩
    rw [GoesWell, hus] at hwell
    exact hwell.1
  sent v hv hstage := by
    have hsent : [.runSender, v.stage].Sublist t.itinerary :=
      hstage ▸ t.sublist_itinerary (by decide)
    refine (t.follows_goesWell hv hsent).mono fun u _ ⟨hus, hwell⟩ => ⟨hus, ?_⟩
    rw [GoesWell, hus] at hwell
    exact hwell

/-! ### The effects of a trial -/

theorem trace_run_of_makeDir_error {b : Bench} {f : Fault}
    (unmade : b.files.makeDir t.artifacts = .error f) : (t.run.exec b).2.trace = b.trace := by
  unfold run course
  rw [exec_bind_of_ok (t.exec_courseWith_of_makeDir_error .usual unmade)]
  rfl

theorem trace_run_of_makeDir_ok {b : Bench} {fs : Files}
    (made : b.files.makeDir t.artifacts = .ok fs) :
    (t.run.exec b).2.trace =
      (t.homecoming .usual (Moment.ofClock b.clock)
        (t.journey .usual (t.outset fs b))).2.trace := by
  unfold run course
  rw [exec_bind_of_ok (t.exec_courseWith .usual made), exec_release]
  exact t.trace_parting _ _

/-- **The order of effects.**  On a bench with the connection to the daemon open, a trial with a
budget of at least one attempt has no effects if its directory cannot be made.  Otherwise what it
adds to the trace is what the visits of its journey leave, and after that effects of the clean-up.

What the visits leave is the first of what is planned for the itinerary: for each stage the effects
that it has when it is performed to its end, with the server that the trial comes to hold.  It is all
of that if the journey goes through, and each visit leaves all effects of its stage unless it fails.
The clean-up has no effects but those of the calls that are due, in their order.  A container that
was left behind is removed iff it is found, and every visit follows what it relies on. -/
theorem effects_in_order {b : Bench} (hopened : b.daemon.opened = true)
    (hbudget : 1 ≤ (t.settings .readinessAttempts : Int)) :
    (∀ f, b.files.makeDir t.artifacts = .error f → (t.run.exec b).2.trace = b.trace) ∧
    ∀ fs, b.files.makeDir t.artifacts = .ok fs →
      let j := t.journey .usual (t.outset fs b)
      let calls := t.dueCalls j.progress.receiver j.progress.server (failureOf j.ended).isSome
      let onward := j.visits.flatMap t.leaves
      ∃ server plan cleaning,
        (∀ s, j.progress.server = some s → s = server) ∧
        t.Plan (t.surroundings b) server plan ∧
        (t.run.exec b).2.trace.toList = b.trace.toList ++ onward ++ cleaning ∧
        onward <+: t.itinerary.flatMap plan ∧
        (j.ended = .ok () → onward = t.itinerary.flatMap plan) ∧
        (∀ v ∈ j.visits, Within (t.Canonical (t.surroundings b) server v.stage)
          (t.performed .usual v).1 (t.leaves v)) ∧
        cleaning.Sublist (calls.flatMap CleanUpCall.effects) ∧
        (∀ v ∈ j.visits, v.stage = .cleanPriorState →
          (.remove t.serverName ∈ t.leaves v ↔ (lookup t.serverName).Answers v.bench)) ∧
        t.InOrder j.visits := by
  refine ⟨fun f unmade => t.trace_run_of_makeDir_error unmade, fun fs made => ?_⟩
  intro j calls onward
  have hset : (t.outset fs b).LiesIn (t.surroundings b) := t.outset_liesIn hopened fs
  obtain ⟨server, hheld, hserver⟩ := t.exists_server (t.outset fs b)
  obtain ⟨hvisits, hend, htrace, plan, hplan, hprefix, hall⟩ :=
    t.trace_journey hbudget hset hserver
  obtain ⟨cleaning, hmore, hcleaning⟩ := t.traces_homecoming hend (Moment.ofClock b.clock)
  refine ⟨server, plan, cleaning, hheld, hplan, ?_, hprefix, hall,
    fun v hv => (hvisits v hv).2, hcleaning, ?_, t.inOrder_journey hvisits⟩
  · rw [t.trace_run_of_makeDir_ok made]
    exact hmore.trans (congrArg (· ++ cleaning) htrace)
  · exact fun v hv hstage => t.remove_mem_leaves_iff hstage (hvisits v hv).1

/-- A trial whose first connection is refused attempts a second one, goes the rest of the way, and
cleans up. -/
theorem effects_of_refused_connection :
    let t : Trial := ⟨Settings.default, "r1"⟩
    let b : Bench := { Bench.quiet with
      connections := [some (.fault ⟨.os .connectionRefused, "refused"⟩, 0.0)]
      scripts := [{ pieces := [⟨6.0, Text.toOctets "Hello World, Goodbye world"⟩] }]
      errands := [{ duration := 3.0 }] }
    let fs := Bench.quiet.files.put ["tmp", artifactsName] .dir
    let j := t.journey .usual (t.outset fs b)
    let onward := j.visits.flatMap t.leaves
    b.daemon.opened = true ∧ 1 ≤ (t.settings .readinessAttempts : Int) ∧
      b.files.makeDir t.artifacts = .ok fs ∧
      onward.map Effect.isAttempt =
        [false, false, true, false, true, false, false, false, false] ∧
      ∃ server plan cleaning,
        t.Plan (t.surroundings b) server plan ∧ onward = t.itinerary.flatMap plan ∧
        (t.run.exec b).2.trace.toList = b.trace.toList ++ onward ++ cleaning ∧
        cleaning.length = 4 ∧ t.InOrder j.visits := by
  intro t b fs j onward
  have made : b.files.makeDir t.artifacts = .ok fs := rfl
  have hbudget : 1 ≤ (t.settings .readinessAttempts : Int) := by decide
  have hended : j.ended = .ok () := Journey.ended_ok_of_isOk (by decide +kernel)
  have hattempts : onward.map Effect.isAttempt =
      [false, false, true, false, true, false, false, false, false] := by decide +kernel
  have hlength : onward.length = 9 := by
    rw [← List.length_map (f := Effect.isAttempt), hattempts]
    rfl
  have hsize : (t.run.exec b).2.trace.toList.length = 13 := by decide +kernel
  have hbefore : b.trace.toList.length = 0 := rfl
  obtain ⟨server, plan, cleaning, -, hplan, htrace, -, hwhole, -, -, -, horder⟩ :=
    (effects_in_order t (b := b) rfl hbudget).2 fs made
  refine ⟨rfl, hbudget, made, hattempts, server, plan, cleaning, hplan, hwhole hended, htrace, ?_,
    horder⟩
  have hadded : (t.run.exec b).2.trace.toList.length =
      b.trace.toList.length + onward.length + cleaning.length := by
    rw [htrace, List.length_append, List.length_append]
  omega

end Trial
end ClientTrial
