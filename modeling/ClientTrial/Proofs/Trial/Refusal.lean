import ClientTrial.Proofs.Server.Refusal
import ClientTrial.Proofs.Trial.Blame
import ClientTrial.Proofs.Trial.Ends
import ClientTrial.Settings.Sources

/-!
# Trials whose server is refused

A visit that is ended is the last of its journey, so that the outcome of the trial blames
its stage.  A trial for which the daemon refuses to create the container blames the error
of a server that was not started; one for which it refuses to show the ports of the new
container blames the refusal itself, as an unexpected fault.

## Main definitions

* `Trial.RefusedIn` — the request of a trial's start that the daemon refuses in a visit.

## Main results

* `Trial.ended_of_visit_error` — what ends a visit ends the journey.
* `Trial.blames_of_visit_error` — the outcome of a trial blames the visit that was ended.
* `Trial.refused_requests_of_start` — what becomes of a refused request of a start.
-/

namespace ClientTrial

open Act

namespace Trial

variable (t : Trial) (crew : Crew)

/-! ### A visit that is ended -/

theorem ended_journeyFrom_of_visit_error {stages : List Stage} {p : Progress} {b : Bench}
    {v : Visit} {r : Raised} (hv : v ∈ (t.journeyFrom crew stages p b).visits)
    (hr : (t.performed crew v).1 = .error r) :
    (t.journeyFrom crew stages p b).ended = .error r ∧
      (t.journeyFrom crew stages p b).visits.getLast? = some v := by
  induction stages generalizing p b with
  | nil => cases hv
  | cons stage rest ih =>
    rcases hp : t.performed crew (visit stage p b) with ⟨raised | p', b'⟩
    · rw [journeyFrom_of_error t crew hp] at hv ⊢
      obtain rfl := List.mem_singleton.1 hv
      rw [hp] at hr
      cases hr
      exact ⟨rfl, rfl⟩
    · rw [journeyFrom_of_ok t crew hp] at hv ⊢
      rcases List.mem_cons.1 hv with rfl | hv
      · rw [hp] at hr
        cases hr
      · obtain ⟨hend, hlast⟩ := ih hv
        exact ⟨hend, by simp [List.getLast?_cons, hlast]⟩

/-- What ends a visit ends the journey, and there is no later visit. -/
theorem ended_of_visit_error {b : Bench} {v : Visit} {r : Raised}
    (hv : v ∈ (t.journey crew b).visits) (hr : (t.performed crew v).1 = .error r) :
    (t.journey crew b).ended = .error r ∧ (t.journey crew b).visits.getLast? = some v := by
  unfold journey at hv ⊢
  split at hv
  · cases hv
  · exact t.ended_journeyFrom_of_visit_error crew hv hr

/-- The outcome of a trial blames the stage of a visit that was ended by a failure for that
failure, and the trial ends with the status of the verdict. -/
theorem blames_of_visit_error {startedAt : Moment} {b c : Bench} {v : Visit} {f : Failure}
    {o : Outcome} (hhome : t.homecoming crew startedAt (t.journey crew b) = (.ok o, c))
    (hv : v ∈ (t.journey crew b).visits) (hf : (t.performed crew v).1 = .error (.failure f)) :
    o.Blames v.stage f ∧ o.exitStatus = (verdict f).1.exitStatus := by
  obtain ⟨hended, hlast⟩ := t.ended_of_visit_error crew hv hf
  rcases t.verdict_of_homecoming crew hhome with ⟨hend, -⟩ | ⟨g, hend, hfailed, hstage, herror⟩
  · rw [hended] at hend
    cases hend
  · rw [hended] at hend
    cases hend
    refine ⟨blames_of_verdict ?_ herror, ?_⟩
    · rw [hstage, t.history_journey crew, List.getLast?_map, hlast]
      rfl
    · simp [Outcome.exitStatus, hfailed, herror]

/-! ### Requests that are refused -/

/-- In a visit of the stage that starts the server, the daemon refuses a request of the start with a
fault. -/
def RefusedIn (v : Visit) (f : Fault) (request : Request) : Prop :=
  v.stage = .startServer ∧
    ∃ c, Server.RefusedAt t.serverName (t.settings .serverImage) (t.settings .containerPort)
      (t.settings .hostPort) v.bench f c request

variable {t}

/-- A visit that starts the server is ended by what ends the start. -/
theorem performed_of_start_error {v : Visit} {c : Bench} {r : Raised} (hv : v.stage = .startServer)
    (h : (Server.start t.serverName (t.settings .serverImage) (t.settings .containerPort)
      (t.settings .hostPort)).exec v.bench = (.error r, c)) :
    (t.performed .usual v).1 = .error r := by
  obtain ⟨stage, p, b⟩ := v
  obtain rfl : stage = .startServer := hv
  exact congrArg Prod.fst (exec_bind_of_error h _)

theorem performed_of_refused_creation {v : Visit} {f : Fault} (hf : f.kind.isRefusal = true)
    (h : t.RefusedIn v f .create) :
    ∃ e, (t.performed .usual v).1 = .error (.trial e (some f)) ∧ e.sort = Server.notStartedSort := by
  obtain ⟨hstage, c, hrefused⟩ := h
  obtain ⟨e, hstart, hsort, -⟩ := Server.start_of_refused_creation hf hrefused
  exact ⟨e, performed_of_start_error hstage hstart, hsort⟩

theorem performed_of_refused_showing {v : Visit} {f : Fault} (hf : f.kind.isRefusal = true)
    (h : t.RefusedIn v f .reload) : (t.performed .usual v).1 = .error (.fault f) := by
  obtain ⟨hstage, c, hrefused⟩ := h
  exact performed_of_start_error hstage ((Server.start_eq_refusal_iff hf).2 hrefused)

/-- **Refused requests of a start.**  If the daemon refuses to create a container, the start is
ended by the error of a server that was not started, and the outcome of a trial blames the stage
that starts the server for it, with status five.  A start is ended by the refusal itself iff the
container was created, the port of the host was left to the daemon, and the daemon refuses to show
the ports of the container; the outcome of a trial then blames the same stage for an unexpected
fault, with status one. -/
theorem refused_requests_of_start {f : Fault} (hf : f.kind.isRefusal = true) :
    (∀ name image containerPort hostPort b c,
      (Server.RefusedAt name image containerPort hostPort b f c .create →
        ∃ e : TrialError,
          (Server.start name image containerPort hostPort).exec b =
            (.error (.trial e (some f)), c) ∧ e.sort = Server.notStartedSort) ∧
      ((Server.start name image containerPort hostPort).exec b = (.error (.fault f), c) ↔
        Server.RefusedAt name image containerPort hostPort b f c .reload)) ∧
    ∀ (t : Trial) (b b' : Bench) (o : Outcome) (fs : Files),
      b.files.makeDir t.artifacts = .ok fs → t.run.exec b = (.ok o, b') →
        ∀ v ∈ (t.journey .usual (t.outset fs b)).visits,
          (t.RefusedIn v f .create →
            ∃ e : TrialError, o.Blames .startServer (.trial e (some f)) ∧
              e.sort = Server.notStartedSort ∧ o.exitStatus = 5) ∧
          (t.RefusedIn v f .reload →
            o.Blames .startServer (.fault f) ∧ o.exitStatus = 1) := by
  constructor
  · intro name image containerPort hostPort b c
    refine ⟨fun h => ?_, Server.start_eq_refusal_iff hf⟩
    obtain ⟨e, hstart, hsort, -⟩ := Server.start_of_refused_creation hf h
    exact ⟨e, hstart, hsort⟩
  intro t b b' o fs made hrun v hv
  obtain ⟨fs', made', c, hhome, -⟩ := t.homecoming_of_run hrun
  obtain rfl : fs = fs' := Except.ok.inj (made.symm.trans made')
  constructor
  · intro h
    obtain ⟨e, hended, hsort⟩ := performed_of_refused_creation hf h
    obtain ⟨hblames, hstatus⟩ := t.blames_of_visit_error .usual hhome hv hended
    rw [h.1] at hblames
    exact ⟨e, hblames, hsort, hstatus.trans (congrArg (·.2.2) hsort)⟩
  · intro h
    have hended := performed_of_refused_showing hf h
    obtain ⟨hblames, hstatus⟩ := t.blames_of_visit_error .usual hhome hv hended
    rw [h.1] at hblames
    exact ⟨hblames, hstatus⟩

/-- A trial whose image is missing blames its start, with status five. -/
theorem refused_creation_of_missing_image :
    let t : Trial := ⟨Settings.default, "r1"⟩
    let f : Fault := ⟨.daemon .missingImage, "No such image"⟩
    let b : Bench := { Bench.quiet with
      daemon := { incidents := fun r => if r = .create then [some (.fault f)] else [] } }
    f.kind.isRefusal = true ∧
      ∃ o b' e, t.run.exec b = (.ok o, b') ∧ o.Blames .startServer (.trial e (some f)) ∧
        e.sort = ("ServerStartFailed", "SERVER_START_FAILED", 5) ∧ o.exitStatus = 5 := by
  intro t f b
  let fs := Bench.quiet.files.put ["tmp", artifactsName] .dir
  let creation (v : Visit) := (do
    Server.ensureDaemon
    create (t.settings .serverImage) t.serverName (Server.portKey (t.settings .containerPort))
      (t.settings .hostPort) : Act String).exec v.bench
  have answered : (t.run.exec b).1.isOk = true := by decide +kernel
  have refused : (t.journey .usual (t.outset fs b)).visits.getLast?.map
      (fun v => (v.stage, Server.refusal? (creation v).1)) = some (.startServer, some f) := by
    decide +kernel
  obtain ⟨v, hlast, hv⟩ := Option.map_eq_some_iff.1 refused
  obtain ⟨hstage, hrefusal⟩ := Prod.ext_iff.1 hv
  have hcreate : creation v = (.error (.fault f), (creation v).2) :=
    Prod.ext (Server.eq_error_of_refusal? hrefusal) rfl
  obtain ⟨o, b', hrun⟩ := exec_of_answers (answers_of_isOk answered)
  obtain ⟨e, hblames, hsort, hstatus⟩ := ((refused_requests_of_start (f := f) rfl).2 t b b' o fs rfl
    hrun v (List.mem_of_getLast? hlast)).1 ⟨hstage, _, .creation hcreate⟩
  exact ⟨rfl, o, b', e, hrun, hblames, hsort, hstatus⟩

/-- **A refusal that is not told as such.**  The daemon creates the container and refuses to show
its ports.  The start is ended by the bare refusal, and the trial by an unexpected fault with status
one. -/
theorem refused_showing_of_chosen_port :
    let sources : Sources := { overrides := [("host_port", .null)] }
    let t : Trial := ⟨sources.valueOrDefault, "run0001"⟩
    let f : Fault := ⟨.daemon .refusal, "boom"⟩
    let b : Bench := { Bench.quiet with
      daemon := { incidents := fun r => if r = .reload then [some (.fault f)] else [] } }
    sources.load = .ok t.settings ∧ f.kind.isRefusal = true ∧
      (∃ c, (Server.start t.serverName (t.settings .serverImage) (t.settings .containerPort)
        (t.settings .hostPort)).exec b = (.error (.fault f), c)) ∧
      ∃ o b' e, t.run.exec b = (.ok o, b') ∧ o.failedStage = some .startServer ∧
        o.error = some (e, none) ∧ e.code = "UNEXPECTED_ERROR" ∧
        e.message = "Unexpected APIError: boom" ∧ o.exitStatus = 1 := by
  intro sources t f b
  have accepted : sources.allIssues.isEmpty = true := by decide +kernel
  have refused : Server.refusal? ((Server.start t.serverName (t.settings .serverImage)
      (t.settings .containerPort) (t.settings .hostPort)).exec b).1 = some f := by decide +kernel
  have told : (t.run.exec b).1.toOption.map (fun o => (o.failedStage, o.exitStatus,
      o.error.map fun e => (e.1.code, e.1.message, e.2.isSome))) =
        some (some .startServer, 1,
          some ("UNEXPECTED_ERROR", "Unexpected APIError: boom", false)) := by decide +kernel
  refine ⟨Sources.load_eq_ok_iff.2 ⟨List.isEmpty_iff.1 accepted, rfl⟩, rfl,
    ⟨_, Prod.ext (Server.eq_error_of_refusal? refused) rfl⟩, ?_⟩
  rcases h : t.run.exec b with ⟨raised | o, b'⟩
  · rw [h] at told
    cases told
  · rw [h] at told
    obtain ⟨hstage, htold⟩ := Prod.ext_iff.1 (Option.some.inj told)
    obtain ⟨hstatus, htold⟩ := Prod.ext_iff.1 htold
    obtain ⟨⟨e, cause⟩, he, htold⟩ := Option.map_eq_some_iff.1 htold
    obtain ⟨hcode, htold⟩ := Prod.ext_iff.1 htold
    obtain ⟨hmessage, hcause⟩ := Prod.ext_iff.1 htold
    cases cause with
    | none => exact ⟨o, b', e, rfl, hstage, he, hcode, hmessage, hstatus⟩
    | some f => cases hcause

end Trial
end ClientTrial
