import ClientTrial.Trial.Basic

/-!
# The journey of a trial

The way forward of a trial is a journey.  Stages are visited one after the other,
each on the bench and with the progress that the visit before has left, and the
first visit that fails is the last.  The journey knows all visits, so that what
is said of a trial can be said of what its crew was asked and what it answered.

## Main definitions

* `Visit` — a stage with the progress and the bench on which it is performed.
* `Journey`, `Trial.journey` — the visits, how far they lead and what ends them.
* `Trial.itinerary` — the stages that a trial means to visit.
* `Trial.server?`, `Trial.receiver?` — what a visit yields.

## Main results

* `Trial.exec_forward` — the way forward is the journey.
* `Trial.isPrefix_stages_journey`, `Trial.stages_journey_of_ended_ok` — no stage is
  left out, and none comes twice or out of order.
* `Trial.last_visit_of_ended_error` — what ends the journey was raised in the visit
  that is the last.
* `Trial.receiver_journey`, `Trial.server_journey` — what a trial holds was yielded
  by one of the visits.
* `Trial.invariant_journey` — what every visit keeps holds at the end of the journey.
-/

namespace ClientTrial

open Act

/-- A stage as it is visited: with the progress and on the bench on which it is performed. -/
structure Visit where
  stage : Stage
  progress : Progress
  bench : Bench

/-- The visits of a way forward, where they lead, and what ends them. -/
structure Journey where
  visits : List Visit
  progress : Progress
  ended : Except Raised Unit
  bench : Bench

/-- A journey that was ended by nothing has gone through. -/
theorem Journey.ended_ok_of_isOk {j : Journey} (h : j.ended.isOk = true) : j.ended = .ok () := by
  cases hj : j.ended with
  | ok answer => rfl
  | error raised =>
    rw [hj] at h
    cases h

namespace Trial

variable (t : Trial) (crew : Crew)

/-! ### Visits -/

/-- The visit of a stage from a progress and a bench. -/
def visit (stage : Stage) (p : Progress) (b : Bench) : Visit :=
  ⟨stage, { p with history := p.history ++ [stage] }, entering stage b⟩

@[simp] theorem stage_visit (stage : Stage) (p : Progress) (b : Bench) :
    (visit stage p b).stage = stage := rfl

@[simp] theorem history_visit (stage : Stage) (p : Progress) (b : Bench) :
    (visit stage p b).progress.history = p.history ++ [stage] := rfl

@[simp] theorem server_visit (stage : Stage) (p : Progress) (b : Bench) :
    (visit stage p b).progress.server = p.server := rfl

@[simp] theorem receiver_visit (stage : Stage) (p : Progress) (b : Bench) :
    (visit stage p b).progress.receiver = p.receiver := rfl

/-- What performing the stage of a visit comes to. -/
def performed (v : Visit) : Except Raised Progress × Bench :=
  (t.perform crew v.progress v.stage).exec v.bench

/-- The server that a visit yields. -/
def server? (v : Visit) : Option Server :=
  match v.stage with
  | .startServer =>
    ((crew.start t.serverName (t.settings .serverImage) (t.settings .containerPort)
      (t.settings .hostPort)).exec v.bench).1.toOption
  | _ => none

/-- The receiver that a visit yields. -/
def receiver? (v : Visit) : Option Receiver :=
  match v.stage, v.progress.server, t.settings.receiverWords with
  | .startReceiver, some server, .ok command =>
    ((crew.runBackground command (t.addressBinding server) t.output).exec v.bench).1.toOption
  | _, _, _ => none

theorem server?_of_ne {v : Visit} (h : v.stage ≠ .startServer) : t.server? crew v = none := by
  unfold server?
  split
  · contradiction
  · rfl

theorem receiver?_of_ne {v : Visit} (h : v.stage ≠ .startReceiver) : t.receiver? crew v = none := by
  unfold receiver?
  split
  · contradiction
  · rfl

theorem server?_start (p : Progress) (b : Bench) :
    t.server? crew ⟨.startServer, p, b⟩ =
      ((crew.start t.serverName (t.settings .serverImage) (t.settings .containerPort)
        (t.settings .hostPort)).exec b).1.toOption := rfl

theorem receiver?_start {p : Progress} {server : Server} {command : List String}
    (hs : p.server = some server) (hw : t.settings.receiverWords = .ok command) (b : Bench) :
    t.receiver? crew ⟨.startReceiver, p, b⟩ =
      ((crew.runBackground command (t.addressBinding server) t.output).exec b).1.toOption := by
  simp [receiver?, hs, hw]

theorem receiver?_of_server_eq_none {v : Visit} (h : v.progress.server = none) :
    t.receiver? crew v = none := by
  unfold receiver?
  rw [h]
  split
  · contradiction
  · rfl

/-! ### The progress that a visit makes -/

theorem exec_wordsOf_eq_ok {α : Type} {words : Except Text.CommandError α} {list : α}
    {b c : Bench} : (wordsOf words).exec b = (.ok list, c) ↔ words = .ok list ∧ b = c := by
  cases words <;> simp [wordsOf]

/-- Only the stages that start something add to the progress. -/
theorem progress_of_performed_ok_of_ne {v : Visit} {p : Progress} {b : Bench}
    (hs : v.stage ≠ .startServer) (hr : v.stage ≠ .startReceiver)
    (h : t.performed crew v = (.ok p, b)) : p = v.progress := by
  obtain ⟨stage, q, c⟩ := v
  have answered {d : Bench} (hp : ((pure q : Act Progress).exec d) = (.ok p, b)) : p = q := by
    cases hp
    rfl
  cases stage with
  | startServer => exact absurd rfl hs
  | startReceiver => exact absurd rfl hr
  | build =>
    obtain ⟨_, _, -, h⟩ := exec_bind_eq_ok.1 h
    obtain ⟨_, _, -, h⟩ := exec_bind_eq_ok.1 h
    exact answered h
  | cleanPriorState | settleServer | verifyOutputs =>
    obtain ⟨_, _, -, h⟩ := exec_bind_eq_ok.1 h
    exact answered h
  | awaitReadiness =>
    simp only [performed, perform] at h
    split at h
    · exact answered h
    · obtain ⟨_, _, -, h⟩ := exec_bind_eq_ok.1 h
      exact answered h
  | settleReceiver =>
    obtain ⟨_, _, -, h⟩ := exec_bind_eq_ok.1 h
    split at h
    · exact answered h
    · obtain ⟨_, _, -, h⟩ := exec_bind_eq_ok.1 h
      exact answered h
  | runSender =>
    simp only [performed, perform] at h
    split at h
    · exact answered h
    · obtain ⟨_, _, -, h⟩ := exec_bind_eq_ok.1 h
      obtain ⟨_, _, -, h⟩ := exec_bind_eq_ok.1 h
      exact answered h
  | cleanup => exact answered h

/-- A visit that does not fail adds to the progress what it yields. -/
theorem progress_of_performed_ok {v : Visit} {p : Progress} {b : Bench}
    (h : t.performed crew v = (.ok p, b)) :
    p = ⟨v.progress.history, (t.server? crew v).or v.progress.server,
      (t.receiver? crew v).or v.progress.receiver⟩ := by
  obtain ⟨stage, q, c⟩ := v
  by_cases hs : stage = .startServer
  · subst hs
    obtain ⟨server, d, hstart, hp⟩ := exec_bind_eq_ok.1 h
    cases hp
    rw [server?_start, hstart, receiver?_of_ne t crew (by simp)]
    rfl
  by_cases hr : stage = .startReceiver
  · subst hr
    rcases Option.eq_none_or_eq_some q.server with hq | ⟨server, hq⟩
    · simp only [performed, perform, hq] at h
      cases h
      rw [server?_of_ne t crew (by simp), receiver?_of_server_eq_none t crew hq]
      rfl
    · simp only [performed, perform, hq] at h
      obtain ⟨command, d, hc, h⟩ := exec_bind_eq_ok.1 h
      obtain ⟨hw, rfl⟩ := exec_wordsOf_eq_ok.1 hc
      obtain ⟨receiver, e, hrun, hp⟩ := exec_bind_eq_ok.1 h
      cases hp
      rw [receiver?_start t crew hq hw, hrun, server?_of_ne t crew (by simp), hq]
      rfl
  · rw [progress_of_performed_ok_of_ne t crew hs hr h, server?_of_ne t crew hs,
      receiver?_of_ne t crew hr]
    rfl

/-- A visit that fails yields nothing. -/
theorem yields_none_of_performed_error {v : Visit} {r : Raised} {b : Bench}
    (h : t.performed crew v = (.error r, b)) :
    t.server? crew v = none ∧ t.receiver? crew v = none := by
  obtain ⟨stage, q, c⟩ := v
  constructor
  · by_cases hs : stage = .startServer
    · subst hs
      rcases exec_bind_eq_error.1 h with h | ⟨_, _, -, h⟩
      · rw [server?_start, h]
        rfl
      · cases h
    · exact server?_of_ne t crew hs
  · by_cases hr : stage = .startReceiver
    · subst hr
      rcases Option.eq_none_or_eq_some q.server with hq | ⟨server, hq⟩
      · exact receiver?_of_server_eq_none t crew hq
      · simp only [performed, perform, hq] at h
        cases hw : t.settings.receiverWords with
        | error e => simp [receiver?, hq, hw]
        | ok command =>
          rw [hw] at h
          rcases exec_bind_eq_error.1 h with h | ⟨_, _, hc, h⟩
          · cases h
          · cases hc
            rcases exec_bind_eq_error.1 h with h | ⟨_, _, -, h⟩
            · rw [receiver?_start t crew hq hw, h]
              rfl
            · cases h
    · exact receiver?_of_ne t crew hr

/-! ### The journey -/

/-- The journey through some stages, up to the first that fails. -/
def journeyFrom : List Stage → Progress → Bench → Journey
  | [], p, b => ⟨[], p, .ok (), b⟩
  | stage :: rest, p, b =>
    match t.performed crew (visit stage p b) with
    | (.ok p', b') =>
      let onward := journeyFrom rest p' b'
      { onward with visits := visit stage p b :: onward.visits }
    | (.error raised, b') =>
      ⟨[visit stage p b], (visit stage p b).progress, .error raised, b'⟩

/-- The journey of a trial from the bench on which it sets out. -/
def journey (b : Bench) : Journey :=
  match t.settings.buildWords with
  | .error e => ⟨[], {}, .error (.fault ⟨.value, e.message⟩), b⟩
  | .ok command => t.journeyFrom crew (Stage.forward ((command.getD []) ≠ [])) {} b

/-- The stages that a trial means to visit: the clients are built first if there is something to
build. -/
def itinerary : List Stage :=
  (match t.settings.buildWords with
    | .ok (some (_ :: _)) => [.build]
    | _ => []) ++
  [.cleanPriorState, .startServer, .awaitReadiness, .settleServer, .startReceiver,
    .settleReceiver, .runSender, .verifyOutputs]

theorem journeyFrom_of_ok {stage : Stage} {p p' : Progress} {b b' : Bench}
    (h : t.performed crew (visit stage p b) = (.ok p', b')) (rest : List Stage) :
    t.journeyFrom crew (stage :: rest) p b =
      { t.journeyFrom crew rest p' b' with
        visits := visit stage p b :: (t.journeyFrom crew rest p' b').visits } := by
  rw [journeyFrom, h]

theorem journeyFrom_of_error {stage : Stage} {p : Progress} {b b' : Bench} {r : Raised}
    (h : t.performed crew (visit stage p b) = (.error r, b')) (rest : List Stage) :
    t.journeyFrom crew (stage :: rest) p b =
      ⟨[visit stage p b], (visit stage p b).progress, .error r, b'⟩ := by
  rw [journeyFrom, h]

theorem exec_goForward (stages : List Stage) (p : Progress) (b : Bench) :
    (t.goForward crew stages p).exec b =
      (.ok ((t.journeyFrom crew stages p b).progress, (t.journeyFrom crew stages p b).ended),
        (t.journeyFrom crew stages p b).bench) := by
  induction stages generalizing p b with
  | nil => rfl
  | cons stage rest ih =>
    have attempted : (attempt (t.perform crew (visit stage p b).progress stage)).exec
        (entering stage b) =
          (.ok (t.performed crew (visit stage p b)).1,
            (t.performed crew (visit stage p b)).2) := rfl
    rw [goForward, exec_bind_of_ok (exec_reach p stage b)]
    refine (exec_bind_of_ok attempted _).trans ?_
    rcases h : t.performed crew (visit stage p b) with ⟨raised | p', b'⟩
    · rw [journeyFrom_of_error t crew h]
      rfl
    · rw [journeyFrom_of_ok t crew h]
      exact ih p' b'

/-- The way forward is the journey. -/
theorem exec_forward (b : Bench) :
    (t.forward crew).exec b =
      (.ok ((t.journey crew b).progress, (t.journey crew b).ended), (t.journey crew b).bench) := by
  unfold forward journey
  cases t.settings.buildWords with
  | error e => rfl
  | ok command => exact t.exec_goForward crew _ _ _

/-! ### The order of the visits -/

theorem forward_eq_itinerary {command : Option (List String)}
    (h : t.settings.buildWords = .ok command) :
    Stage.forward ((command.getD []) ≠ []) = t.itinerary := by
  unfold itinerary Stage.forward
  rw [h]
  rcases command with _ | _ | ⟨word, words⟩ <;> rfl

theorem history_journeyFrom (stages : List Stage) (p : Progress) (b : Bench) :
    (t.journeyFrom crew stages p b).progress.history =
      p.history ++ (t.journeyFrom crew stages p b).visits.map Visit.stage := by
  induction stages generalizing p b with
  | nil => simp [journeyFrom]
  | cons stage rest ih =>
    rcases h : t.performed crew (visit stage p b) with ⟨raised | p', b'⟩
    · simp [journeyFrom_of_error t crew h]
    · have hp : p'.history = p.history ++ [stage] :=
        congrArg Progress.history (t.progress_of_performed_ok crew h)
      simp [journeyFrom_of_ok t crew h, ih p' b', hp]

theorem isPrefix_stages_journeyFrom (stages : List Stage) (p : Progress) (b : Bench) :
    (t.journeyFrom crew stages p b).visits.map Visit.stage <+: stages := by
  induction stages generalizing p b with
  | nil => simp [journeyFrom]
  | cons stage rest ih =>
    rcases h : t.performed crew (visit stage p b) with ⟨raised | p', b'⟩
    · simp [journeyFrom_of_error t crew h]
    · simpa [journeyFrom_of_ok t crew h] using ih p' b'

theorem stages_journeyFrom_of_ended_ok {stages : List Stage} {p : Progress} {b : Bench}
    (hend : (t.journeyFrom crew stages p b).ended = .ok ()) :
    (t.journeyFrom crew stages p b).visits.map Visit.stage = stages := by
  induction stages generalizing p b with
  | nil => rfl
  | cons stage rest ih =>
    rcases h : t.performed crew (visit stage p b) with ⟨raised | p', b'⟩
    · rw [journeyFrom_of_error t crew h] at hend
      cases hend
    · rw [journeyFrom_of_ok t crew h] at hend ⊢
      simpa using ih hend

/-- A journey through some stages visits the first of them. -/
theorem visits_journeyFrom_ne_nil {stages : List Stage} (h : stages ≠ []) (p : Progress)
    (b : Bench) : (t.journeyFrom crew stages p b).visits ≠ [] := by
  cases stages with
  | nil => exact absurd rfl h
  | cons stage rest =>
    rcases hp : t.performed crew (visit stage p b) with ⟨raised | p', b'⟩
    · rw [journeyFrom_of_error t crew hp]
      exact List.cons_ne_nil _ _
    · rw [journeyFrom_of_ok t crew hp]
      exact List.cons_ne_nil _ _

/-- A journey leads to the bench that its last visit has left. -/
theorem bench_journeyFrom {stages : List Stage} {p : Progress} {b : Bench} {v : Visit}
    (hlast : (t.journeyFrom crew stages p b).visits.getLast? = some v) :
    (t.journeyFrom crew stages p b).bench = (t.performed crew v).2 := by
  induction stages generalizing p b with
  | nil => cases hlast
  | cons stage rest ih =>
    rcases h : t.performed crew (visit stage p b) with ⟨raised | p', b'⟩
    · rw [journeyFrom_of_error t crew h] at hlast ⊢
      obtain rfl : visit stage p b = v := Option.some.inj hlast
      rw [h]
    · rw [journeyFrom_of_ok t crew h] at hlast ⊢
      dsimp only at hlast ⊢
      rcases rest with _ | ⟨next, rest⟩
      · obtain rfl : visit stage p b = v := Option.some.inj hlast
        rw [h]
        rfl
      · rw [List.getLast?_cons_of_ne_nil (t.visits_journeyFrom_ne_nil crew
          (List.cons_ne_nil _ _) _ _)] at hlast
        exact ih hlast

/-- What ends a journey was raised in the visit that is the last. -/
theorem last_visit_journeyFrom {stages : List Stage} {p : Progress} {b : Bench} {r : Raised}
    (hend : (t.journeyFrom crew stages p b).ended = .error r) :
    ∃ v, (t.journeyFrom crew stages p b).visits.getLast? = some v ∧
      (t.performed crew v).1 = .error r := by
  induction stages generalizing p b with
  | nil => cases hend
  | cons stage rest ih =>
    rcases h : t.performed crew (visit stage p b) with ⟨raised | p', b'⟩
    · rw [journeyFrom_of_error t crew h] at hend ⊢
      cases hend
      exact ⟨visit stage p b, rfl, congrArg Prod.fst h⟩
    · rw [journeyFrom_of_ok t crew h] at hend ⊢
      obtain ⟨v, hlast, hr⟩ := ih hend
      exact ⟨v, by simp [List.getLast?_cons, hlast], hr⟩

/-- A journey goes through iff no visit fails. -/
theorem journeyFrom_ended_ok_iff {stages : List Stage} {p : Progress} {b : Bench} :
    (t.journeyFrom crew stages p b).ended = .ok () ↔
      ∀ v ∈ (t.journeyFrom crew stages p b).visits, ∃ q, (t.performed crew v).1 = .ok q := by
  induction stages generalizing p b with
  | nil => simp [journeyFrom]
  | cons stage rest ih =>
    rcases h : t.performed crew (visit stage p b) with ⟨raised | p', b'⟩
    · simp [journeyFrom_of_error t crew h, h]
    · simp [journeyFrom_of_ok t crew h, h, ih]

/-- A visit after which another takes place has not failed. -/
theorem answered_of_visits_eq_append {stages : List Stage} {p : Progress} {b : Bench}
    {before after : List Visit} {v : Visit}
    (h : (t.journeyFrom crew stages p b).visits = before ++ v :: after) :
    ∀ u ∈ before, ∃ q, (t.performed crew u).1 = .ok q := by
  induction stages generalizing p b before with
  | nil => simp [journeyFrom] at h
  | cons stage rest ih =>
    rcases before with _ | ⟨first, before⟩
    · simp
    rcases hp : t.performed crew (visit stage p b) with ⟨raised | p', b'⟩
    · -- after a visit that fails there is no other
      simp [journeyFrom_of_error t crew hp] at h
    · rw [journeyFrom_of_ok t crew hp, List.cons_append, List.cons.injEq] at h
      obtain ⟨rfl, hrest⟩ := h
      rintro u (_ | ⟨_, hu⟩)
      · exact ⟨p', congrArg Prod.fst hp⟩
      · exact ih hrest u hu

/-! ### What the visits yield -/

theorem stage_mem_of_mem_visits {stages : List Stage} {p : Progress} {b : Bench} {v : Visit}
    (h : v ∈ (t.journeyFrom crew stages p b).visits) : v.stage ∈ stages :=
  (t.isPrefix_stages_journeyFrom crew stages p b).subset (List.mem_map_of_mem h)

/-- What a trial holds after a journey that comes at most once to the stage that yields it. -/
theorem held_journeyFrom {α : Type} (yield : Visit → Option α) (held : Progress → Option α)
    {source : Stage} (hne : ∀ v : Visit, v.stage ≠ source → yield v = none)
    (hvisit : ∀ stage p b, held (visit stage p b).progress = held p)
    (hok : ∀ v p b, t.performed crew v = (.ok p, b) → held p = (yield v).or (held v.progress))
    (herror : ∀ v r b, t.performed crew v = (.error r, b) → yield v = none)
    {stages : List Stage} (hnodup : stages.Nodup) (p : Progress) (b : Bench) :
    held (t.journeyFrom crew stages p b).progress =
      ((t.journeyFrom crew stages p b).visits.findSome? yield).or (held p) := by
  induction stages generalizing p b with
  | nil => rfl
  | cons stage rest ih =>
    rcases h : t.performed crew (visit stage p b) with ⟨raised | p', b'⟩
    · simp [journeyFrom_of_error t crew h, herror _ _ _ h, hvisit]
    · have hp' := hok _ _ _ h
      rw [hvisit] at hp'
      rw [journeyFrom_of_ok t crew h, List.findSome?_cons]
      rw [ih hnodup.of_cons, hp']
      cases hy : yield (visit stage p b) with
      | none => rfl
      | some a =>
        -- the stage was the source, so that no later visit yields anything
        have hs : stage = source := by
          refine Decidable.byContradiction fun hs => ?_
          rw [hne _ hs] at hy
          cases hy
        have hlater : (t.journeyFrom crew rest p' b').visits.findSome? yield = none := by
          rw [List.findSome?_eq_none_iff]
          intro v hv
          refine hne v fun hvs => (List.nodup_cons.1 hnodup).1 ?_
          rw [hs, ← hvs]
          exact t.stage_mem_of_mem_visits crew hv
        rw [hlater]
        rfl

theorem nodup_forward (build : Bool) : (Stage.forward build).Nodup := by
  cases build <;> decide

/-- A journey that does not start a server keeps the one it has. -/
theorem server_of_not_started {stages : List Stage} {p : Progress} {s : Server}
    (hstages : .startServer ∉ stages) (hp : p.server = some s) (b : Bench) :
    (t.journeyFrom crew stages p b).progress.server = some s := by
  induction stages generalizing p b with
  | nil => exact hp
  | cons stage rest ih =>
    rw [List.mem_cons, not_or] at hstages
    obtain ⟨hstage, hrest⟩ := hstages
    rcases h : t.performed crew (visit stage p b) with ⟨raised | p', b'⟩
    · rw [journeyFrom_of_error t crew h]
      exact hp
    · have hp' : p'.server = (t.server? crew (visit stage p b)).or p.server :=
        congrArg Progress.server (t.progress_of_performed_ok crew h)
      rw [t.server?_of_ne crew (Ne.symm hstage), Option.none_or, hp] at hp'
      rw [journeyFrom_of_ok t crew h]
      exact ih hrest hp' b'

/-- A server that a visit finds stays the server, if it can be started once only. -/
theorem server_of_mem_visits {stages : List Stage} {p : Progress} {b : Bench} {s : Server}
    (hnodup : stages.Nodup) (hp : p.server = some s → .startServer ∉ stages) {v : Visit}
    (hv : v ∈ (t.journeyFrom crew stages p b).visits) (hs : v.progress.server = some s) :
    (t.journeyFrom crew stages p b).progress.server = some s := by
  induction stages generalizing p b with
  | nil => simp [journeyFrom] at hv
  | cons stage rest ih =>
    rcases h : t.performed crew (visit stage p b) with ⟨raised | p', b'⟩
    · rw [journeyFrom_of_error t crew h] at hv ⊢
      obtain rfl := List.mem_singleton.1 hv
      exact hs
    · have hp' : p'.server = (t.server? crew (visit stage p b)).or p.server :=
        congrArg Progress.server (t.progress_of_performed_ok crew h)
      -- from here on the server is not started any more if there is one
      have hrest : p'.server = some s → .startServer ∉ rest := by
        intro hserver
        by_cases hstage : stage = .startServer
        · exact hstage ▸ (List.nodup_cons.1 hnodup).1
        · rw [hp', t.server?_of_ne crew hstage, Option.none_or] at hserver
          exact fun hmem => hp hserver (List.mem_cons_of_mem _ hmem)
      rw [journeyFrom_of_ok t crew h] at hv ⊢
      rcases List.mem_cons.1 hv with rfl | hv
      · have hstart := hp hs
        have hkept : p'.server = some s := by
          rw [hp', t.server?_of_ne crew fun hstage => hstart (hstage ▸ List.mem_cons_self),
            Option.none_or]
          exact hs
        exact t.server_of_not_started crew (hrest hkept) hkept b'
      · exact ih hnodup.of_cons hrest hv

/-- What a trial holds as its server was yielded by one of its visits. -/
theorem server_journey (b : Bench) :
    (t.journey crew b).progress.server = (t.journey crew b).visits.findSome? (t.server? crew) := by
  unfold journey
  split
  · rfl
  · refine (t.held_journeyFrom crew _ Progress.server (fun v => t.server?_of_ne crew)
      (fun _ _ _ => rfl) ?_ ?_ (nodup_forward _) _ _).trans (Option.or_none)
    · intro v p b h
      exact congrArg Progress.server (t.progress_of_performed_ok crew h)
    · intro v r b h
      exact (t.yields_none_of_performed_error crew h).1

/-- What a trial holds as its receiver was yielded by one of its visits. -/
theorem receiver_journey (b : Bench) :
    (t.journey crew b).progress.receiver =
      (t.journey crew b).visits.findSome? (t.receiver? crew) := by
  unfold journey
  split
  · rfl
  · refine (t.held_journeyFrom crew _ Progress.receiver (fun v => t.receiver?_of_ne crew)
      (fun _ _ _ => rfl) ?_ ?_ (nodup_forward _) _ _).trans (Option.or_none)
    · intro v p b h
      exact congrArg Progress.receiver (t.progress_of_performed_ok crew h)
    · intro v r b h
      exact (t.yields_none_of_performed_error crew h).2

/-! ### The whole journey -/

theorem nodup_itinerary : t.itinerary.Nodup := by
  unfold itinerary
  split <;> decide

theorem history_journey (b : Bench) :
    (t.journey crew b).progress.history = (t.journey crew b).visits.map Visit.stage := by
  unfold journey
  split
  · rfl
  · exact (t.history_journeyFrom crew _ _ _).trans (List.nil_append _)

/-- The stages that are visited are those of the itinerary, up to some stage. -/
theorem isPrefix_stages_journey (b : Bench) :
    (t.journey crew b).visits.map Visit.stage <+: t.itinerary := by
  unfold journey
  split
  · exact List.nil_prefix
  · next h =>
    rw [← t.forward_eq_itinerary h]
    exact t.isPrefix_stages_journeyFrom crew _ _ _

/-- A journey that goes through visits the whole itinerary. -/
theorem stages_journey_of_ended_ok {b : Bench} (hend : (t.journey crew b).ended = .ok ()) :
    (t.journey crew b).visits.map Visit.stage = t.itinerary := by
  unfold journey at hend ⊢
  split at hend
  · cases hend
  · next h =>
    rw [← t.forward_eq_itinerary h]
    exact t.stages_journeyFrom_of_ended_ok crew hend

/-- What ends a journey that was begun was raised in one of its visits. -/
theorem raised_in_visit {b : Bench} {command : Option (List String)} {r : Raised}
    (hwords : t.settings.buildWords = .ok command) (hend : (t.journey crew b).ended = .error r) :
    ∃ v ∈ (t.journey crew b).visits, (t.performed crew v).1 = .error r := by
  unfold journey at hend ⊢
  rw [hwords] at hend ⊢
  obtain ⟨v, hlast, hr⟩ := t.last_visit_journeyFrom crew hend
  exact ⟨v, List.mem_of_getLast? hlast, hr⟩

/-- What ends a journey was raised in the visit that is the last, if there is one. -/
theorem last_visit_of_ended_error {b : Bench} {r : Raised} {v : Visit}
    (hend : (t.journey crew b).ended = .error r)
    (hlast : (t.journey crew b).visits.getLast? = some v) : (t.performed crew v).1 = .error r := by
  unfold journey at hend hlast
  split at hend
  · next h =>
    rw [h] at hlast
    cases hlast
  · next h =>
    rw [h] at hlast
    obtain ⟨w, hw, hr⟩ := t.last_visit_journeyFrom crew hend
    rw [hlast] at hw
    cases hw
    exact hr

/-- A journey leads to the bench that its last visit has left, if there is one. -/
theorem bench_of_last_visit {b : Bench} {v : Visit}
    (hlast : (t.journey crew b).visits.getLast? = some v) :
    (t.journey crew b).bench = (t.performed crew v).2 := by
  unfold journey at hlast ⊢
  split at hlast
  · cases hlast
  · exact t.bench_journeyFrom crew hlast

/-! ### Invariants -/

section

variable {P : Option Receiver → Except Raised Unit → Bench → Prop}
  (henter : ∀ stage receiver b, P receiver (.ok ()) b → P receiver (.ok ()) (entering stage b))
  (hperformed : ∀ v : Visit, (v.stage = .startReceiver → v.progress.receiver = none) →
    P v.progress.receiver (.ok ()) v.bench →
    match t.performed crew v with
    | (.ok q, c) => P q.receiver (.ok ()) c
    | (.error r, c) => P v.progress.receiver (.error r) c)
include henter hperformed

/-- What holds of the receiver that is held and of the bench, and is kept by every visit, holds at
the end of a journey.  A visit that is to start the receiver finds none. -/
theorem invariant_journeyFrom {stages : List Stage} (hnodup : stages.Nodup) {p : Progress}
    {b : Bench} (hfirst : .startReceiver ∈ stages → p.receiver = none)
    (h : P p.receiver (.ok ()) b) :
    let j := t.journeyFrom crew stages p b
    P j.progress.receiver j.ended j.bench := by
  induction stages generalizing p b with
  | nil => exact h
  | cons stage rest ih =>
    have hstart : stage = .startReceiver → p.receiver = none := by
      rintro rfl
      exact hfirst List.mem_cons_self
    have hkept := hperformed (visit stage p b) hstart (henter stage p.receiver b h)
    rcases hp : t.performed crew (visit stage p b) with ⟨raised | p', b'⟩
    · rw [hp] at hkept
      rw [journeyFrom_of_error t crew hp]
      exact hkept
    · rw [hp] at hkept
      rw [journeyFrom_of_ok t crew hp]
      refine ih hnodup.of_cons (fun hmem => ?_) hkept
      -- if the receiver is still to be started, this visit has not started it
      have hne : stage ≠ .startReceiver := by
        rintro rfl
        exact (List.nodup_cons.1 hnodup).1 hmem
      rw [t.progress_of_performed_ok crew hp, t.receiver?_of_ne crew hne]
      exact hfirst (List.mem_cons_of_mem _ hmem)

theorem invariant_journey {b : Bench} (hb : ∀ ended, P none ended b) :
    let j := t.journey crew b
    P j.progress.receiver j.ended j.bench := by
  unfold journey
  split
  · exact hb _
  · exact t.invariant_journeyFrom crew henter hperformed (nodup_forward _) (fun _ => rfl) (hb _)

end

end Trial
end ClientTrial
