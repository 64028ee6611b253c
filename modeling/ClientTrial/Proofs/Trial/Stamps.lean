import ClientTrial.Proofs.Bench.Voice
import ClientTrial.Proofs.Trial.CleanUp
import ClientTrial.Settings.Sources

/-!
# The stamps of the records of a trial

While a trial runs, the context of its bench is its identifier and the stage that was
entered last.  Every record that is made then carries them: a line begins with the first
eight characters of the identifier and the stage, and a structured record has both as
members.  Only when the context is what it was before the trial is success reported, so
that this one record carries whatever is carried outside of trials.

## Main definitions

* `Log.Record.IsStamped` — a record carries a trial and a stage, in both forms.
* `Trial.stamp` — the context of a trial that has entered some stages.
* `Trial.Chronicle` — the records of a trial that has entered some stages.
* `Trial.passing` — what is reported once the context is what it was before.

## Main results

* `Trial.upheld_journey`, `Trial.upheld_homecoming` — what entering stages and reports uphold.
* `Trial.tells_journey`, `Trial.tells_homecoming` — the records of a journey and of what
  follows it.
* `Trial.records_stamped` — the records of a whole trial.
-/

namespace ClientTrial

open Act

/-! ### Stamps -/

namespace Log.Record

/-- A record carries the identifier of a trial, and a stage if one was entered: as a line, the first
eight characters of the identifier and the stage in brackets, and as a structured record the whole
identifier and the stage as members. -/
structure IsStamped (r : Record) (runId : String) (stage : Option Stage) : Prop where
  line : r.line =
    (Moment.ofClock r.clock).stamp ++ " " ++ padRight 8 (levelName r.level) ++ " " ++
      ("[" ++ String.ofList (runId.toList.take 8) ++
        (stage.elim "" fun stage => " " ++ stage.name) ++ "] ") ++
      r.logger ++ ": " ++ r.message ++ r.failure.elim "" fun text => "\n" ++ text
  runId : ∀ withOrigin, (r.tree withOrigin).member? "run_id" = some (.str runId)
  stage : ∀ withOrigin, (r.tree withOrigin).member? "state" = stage.map fun stage => .str stage.name

end Log.Record

namespace Trial

variable (t : Trial)

/-- The context of a trial that has entered some stages. -/
def stamp (history : List Stage) : Log.Context :=
  ⟨some t.runId, history.getLast?.map Stage.name⟩

variable {t}

/-- The context of a trial that enters one more stage. -/
theorem context_entering {history : List Stage} {b : Bench} (h : b.context = t.stamp history)
    (stage : Stage) : (entering stage b).context = t.stamp (history ++ [stage]) := by
  change { b.context with stage := some stage.name } = _
  rw [h]
  unfold stamp
  rw [List.getLast?_concat]
  rfl

/-- What is made in the context of a trial is stamped with it. -/
theorem isStamped_of_context {history : List Stage} {r : Log.Record} (hid : t.runId ≠ "")
    (h : r.context = t.stamp history) : r.IsStamped t.runId history.getLast? := by
  have hrun : Log.present? r.context.runId = some t.runId := by
    rw [h]
    exact if_neg hid
  have hstage : Log.present? r.context.stage = history.getLast?.map Stage.name := by
    rw [h]
    unfold stamp
    cases history.getLast? with
    | none => rfl
    | some stage => cases stage <;> rfl
  have hlabel : r.context.label = "[" ++ String.ofList (t.runId.toList.take 8) ++
      (history.getLast?.elim "" fun stage => " " ++ stage.name) ++ "] " := by
    unfold Log.Context.label
    rw [hrun, hstage]
    cases history.getLast? with
    | none => simp
    | some stage => simp [String.append_assoc]
  refine ⟨?_, fun withOrigin => ?_, fun withOrigin => ?_⟩
  · unfold Log.Record.line
    rw [hlabel]
    cases r.failure <;> rfl
  · unfold Log.Record.tree
    rw [hrun]
    simp [Json.member?, Log.Record.optional, List.lookup_cons]
  · unfold Log.Record.tree
    rw [hrun, hstage]
    cases history.getLast? with
    | none => cases r.failure <;> cases withOrigin <;> rfl
    | some stage => simp [Json.member?, Log.Record.optional, List.lookup_cons]

/-! ### The chronicle of a trial -/

/-- The records of a trial that has entered some stages: those that were made before the first
stage, and for each stage the record of its entry and those that were made in it.  All of them are
stamped, each with the stage that was entered last. -/
inductive Chronicle (runId : String) : List Stage → List Log.Record → Prop where
  | begun {records : List Log.Record} (h : ∀ r ∈ records, r.IsStamped runId none) :
    Chronicle runId [] records
  | entered {history : List Stage} {records more : List Log.Record} {stage : Stage}
    {clock : Float} {context : Log.Context} (before : Chronicle runId history records)
    (h : ∀ r ∈ (Log.Event.entering stage).record clock context :: more,
      r.IsStamped runId (some stage)) :
    Chronicle runId (history ++ [stage])
      (records ++ (Log.Event.entering stage).record clock context :: more)

/-- More records are made in the stage that was entered last. -/
theorem Chronicle.append {runId : String} {history : List Stage} {records more : List Log.Record}
    (h : Chronicle runId history records)
    (hmore : ∀ r ∈ more, r.IsStamped runId history.getLast?) :
    Chronicle runId history (records ++ more) := by
  cases h with
  | begun h => exact .begun (List.forall_mem_append.2 ⟨h, hmore⟩)
  | entered before h =>
    rw [List.getLast?_concat] at hmore
    rw [List.append_assoc, List.cons_append]
    exact .entered before (List.forall_mem_append.2 ⟨h, hmore⟩)

variable (t) in
/-- On a bench a trial that has entered some stages has made its records after some earlier ones,
and more would be stamped as it is due. -/
structure Tells (earlier : List Log.Record) (history : List Stage) (b : Bench) : Prop where
  context : b.context = t.stamp history
  records : ∃ log, b.records.toList = earlier ++ log ∧ Chronicle t.runId history log

variable {earlier : List Log.Record} {history : List Stage} {b c : Bench}

/-- What is reported in the context of the bench goes on with the chronicle. -/
theorem Tells.of_voices (hid : t.runId ≠ "") (h : t.Tells earlier history b) (hv : b.Voices c) :
    t.Tells earlier history c := by
  obtain ⟨log, hlog, hchronicle⟩ := h.records
  obtain ⟨told, htold, hcontext⟩ := hv.records
  refine ⟨hv.context.trans h.context, log ++ told, ?_, hchronicle.append fun r hr => ?_⟩
  · rw [htold, hlog, List.append_assoc]
  · exact isStamped_of_context hid ((hcontext r hr).trans h.context)

/-- A stage that is entered begins a part of the chronicle. -/
theorem Tells.entering (hid : t.runId ≠ "") (h : t.Tells earlier history b) (stage : Stage) :
    t.Tells earlier (history ++ [stage]) (entering stage b) := by
  have hcontext := context_entering h.context stage
  let entry := (Log.Event.entering stage).record b.clock { b.context with stage := some stage.name }
  have hentry : entry.IsStamped t.runId (some stage) := by
    have hstamped : entry.IsStamped t.runId (history ++ [stage]).getLast? :=
      isStamped_of_context hid hcontext
    rwa [List.getLast?_concat] at hstamped
  obtain ⟨log, hlog, hchronicle⟩ := h.records
  refine ⟨hcontext, log ++ [entry], ?_, .entered hchronicle (List.forall_mem_singleton.2 hentry)⟩
  rw [← List.append_assoc, ← hlog]
  exact Array.toList_push

/-! ### What a trial upholds -/

section

variable {P : List Stage → Bench → Prop}
  (henter : ∀ history b stage, P history b → P (history ++ [stage]) (Trial.entering stage b))
  (hvoices : ∀ history b c, P history b → b.Voices c → P history c)
include henter hvoices

/-- What is upheld by entering stages and by reports holds at every visit of a journey and at its
end. -/
theorem upheld_journeyFrom {stages : List Stage} {p : Progress} (h : P p.history b) :
    (∀ v ∈ (t.journeyFrom .usual stages p b).visits, P v.progress.history v.bench) ∧
      P (t.journeyFrom .usual stages p b).progress.history
        (t.journeyFrom .usual stages p b).bench := by
  induction stages generalizing p b with
  | nil => exact ⟨List.forall_mem_nil _, h⟩
  | cons stage rest ih =>
    have entered : P (p.history ++ [stage]) (visit stage p b).bench := henter _ _ stage h
    rcases hp : t.performed .usual (visit stage p b) with ⟨raised | p', b'⟩
    · rw [journeyFrom_of_error t .usual hp]
      exact ⟨List.forall_mem_singleton.2 entered,
        hvoices _ _ _ entered ((Voice.keeps_perform t _ _).holds hp)⟩
    · have left : P p'.history b' := by
        rw [t.progress_of_performed_ok .usual hp]
        exact hvoices _ _ _ entered ((Voice.keeps_perform t _ _).holds hp)
      obtain ⟨hvisits, hend⟩ := ih left
      rw [journeyFrom_of_ok t .usual hp]
      exact ⟨List.forall_mem_cons.2 ⟨entered, hvisits⟩, hend⟩

theorem upheld_journey (h : P [] b) :
    (∀ v ∈ (t.journey .usual b).visits, P v.progress.history v.bench) ∧
      P (t.journey .usual b).progress.history (t.journey .usual b).bench := by
  unfold journey
  split
  · exact ⟨List.forall_mem_nil _, h⟩
  · exact upheld_journeyFrom henter hvoices h

/-- It also holds after what follows a journey. -/
theorem upheld_homecoming (startedAt : Moment) {j : Journey}
    (h : P j.progress.history j.bench) :
    P (j.progress.history ++ [.cleanup]) (t.homecoming .usual startedAt j).2 := by
  have entered : P (j.progress.history ++ [.cleanup]) (homeBench j) := by
    refine henter _ _ .cleanup (hvoices _ _ _ h ?_)
    exact (Frame.keeps_reportFailure Voice.keeps_say _ _).holds (exec_reportFailure _ _ j.bench)
  refine hvoices _ _ _ entered (Frame.keeps_bind (Voice.keeps_cleanUp t _ _) ?_ _)
  exact fun cleaned => Voice.keeps_settle t _ _ _ _

end

/-- The records of a journey. -/
theorem tells_journey (hid : t.runId ≠ "") (h : t.Tells earlier [] b) :
    t.Tells earlier (t.journey .usual b).progress.history (t.journey .usual b).bench :=
  (upheld_journey (fun _ _ stage h => h.entering hid stage) (fun _ _ _ h hv => h.of_voices hid hv)
    h).2

/-- The records of what follows a journey. -/
theorem tells_homecoming (hid : t.runId ≠ "") (startedAt : Moment) {j : Journey}
    (h : t.Tells earlier j.progress.history j.bench) :
    t.Tells earlier (j.progress.history ++ [.cleanup]) (t.homecoming .usual startedAt j).2 :=
  upheld_homecoming (fun _ _ stage h => h.entering hid stage) (fun _ _ _ h hv => h.of_voices hid hv)
    startedAt h

/-! ### The whole trial -/

variable (t) in
/-- What is reported once the context is what it was before: that the trial passed, if it did. -/
def passing (context : Log.Context) (clock : Float) :
    Except Raised Outcome → List Log.Record
  | .ok o => if o.succeeded then [(Log.Event.passed t.runId).record clock context] else []
  | .error _ => []

theorem records_parting (context : Log.Context) (home : Except Raised Outcome × Bench) :
    (t.parting context home).records.toList =
      home.2.records.toList ++ t.passing context (t.parting context home).clock home.1 := by
  obtain ⟨raised | o, c⟩ := home
  · exact (List.append_nil _).symm
  · unfold parting passing
    dsimp only
    split
    · exact Array.toList_push
    · exact (List.append_nil _).symm

theorem context_parting (context : Log.Context) (home : Except Raised Outcome × Bench) :
    (t.parting context home).context = context := by
  obtain ⟨raised | o, c⟩ := home
  · rfl
  · unfold parting
    dsimp only
    split <;> rfl

/-- **The stamps of the records.**  However a trial goes, the records that it makes are its
chronicle: each is stamped, as a line and as a structured record, with the identifier of the trial
and the stage that was entered last.  Only that the trial passed is reported after it, and that
record carries the context that was there before the trial. -/
theorem records_stamped (hid : t.runId ≠ "") (b : Bench) :
    ∃ course b' log, t.course.exec b = (.ok course, b') ∧ b'.context = b.context ∧
      b'.records.toList =
        b.records.toList ++ log ++ t.passing b.context b'.clock course.result ∧
      Chronicle t.runId course.progress.history log := by
  rcases hmade : b.files.makeDir t.artifacts with f | fs
  · -- nothing is reported by a trial that has no directory
    refine ⟨_, _, [], t.exec_courseWith_of_makeDir_error .usual hmade, rfl, ?_,
      .begun fun _ hr => nomatch hr⟩
    exact (List.append_nil _).symm.trans (congrArg (· ++ []) (List.append_nil _).symm)
  · have begun : t.Tells b.records.toList [] (t.outset fs b) := by
      have prepared : t.Tells b.records.toList [] ((t.prepared b).withFiles fs) :=
        ⟨rfl, [], (List.append_nil _).symm, .begun fun _ hr => nomatch hr⟩
      exact prepared.of_voices hid (Bench.Voices.saying _ _)
    obtain ⟨-, log, hlog, hchronicle⟩ :=
      tells_homecoming hid (Moment.ofClock b.clock) (tells_journey hid begun)
    refine ⟨_, _, log, t.exec_courseWith .usual hmade, context_parting _ _, ?_, hchronicle⟩
    rw [records_parting, hlog]

/-- A trial whose receiver writes nothing fails, and all of its records are stamped. -/
theorem records_stamped_of_silent_receiver :
    let t : Trial := ⟨Settings.default, "0123456789ab"⟩
    t.runId ≠ "" ∧ ∃ course b', t.course.exec Bench.quiet = (.ok course, b') ∧
      course.progress.history.getLast? = some .cleanup ∧
      Chronicle "0123456789ab" course.progress.history b'.records.toList := by
  intro t
  have hid : t.runId ≠ "" := by decide
  have ended : (t.course.exec Bench.quiet).1.toOption.map (fun course =>
      (course.result.toOption.map (·.succeeded), course.progress.history.getLast?)) =
        some (some false, some .cleanup) := by decide +kernel
  obtain ⟨course, b', log, hcourse, -, hrecords, hchronicle⟩ := records_stamped hid Bench.quiet
  rw [hcourse] at ended
  obtain ⟨hfailed, hlast⟩ := Prod.ext_iff.1 (Option.some.inj ended)
  have hfailed : course.result.toOption.map (·.succeeded) = some false := hfailed
  have hnone : t.passing Bench.quiet.context b'.clock course.result = [] := by
    rcases hresult : course.result with raised | o
    · rfl
    · rw [hresult] at hfailed
      have hfailed : o.succeeded = false := Option.some.inj hfailed
      exact if_neg (by simp [hfailed])
  rw [hnone, List.append_nil, show Bench.quiet.records.toList = [] from rfl,
    List.nil_append] at hrecords
  exact ⟨hid, course, b', hcourse, hlast, hrecords ▸ hchronicle⟩

/-- **A record without a stamp.**  A trial passes, and the record of this is the one that does not
say which trial it belongs to. -/
theorem unstamped_of_success :
    let t : Trial := ⟨Settings.default, "run0001"⟩
    let b : Bench := { Bench.quiet with
      scripts := [{ pieces := [⟨3.0, Text.toOctets "Hello World, Goodbye world"⟩] }] }
    ∃ o b' r, t.run.exec b = (.ok o, b') ∧ o.succeeded = true ∧
      b'.records.toList.getLast? = some r ∧ r.message = "Run run0001 passed" ∧
      r.context.label = "" ∧ (r.tree false).member? "run_id" = none ∧
      ∀ stage, ¬r.IsStamped t.runId stage := by
  intro t b
  have succeeded : (t.run.exec b).1.toOption.map (·.succeeded) = some true := by decide +kernel
  rcases h : t.run.exec b with ⟨raised | o, b'⟩
  · rw [h] at succeeded
    cases succeeded
  · rw [h] at succeeded
    have hsucceeded : o.succeeded = true := Option.some.inj succeeded
    obtain ⟨fs, -, c, -, hparted⟩ := t.homecoming_of_run h
    -- the context is already what it was before the trial
    let r : Log.Record := (Log.Event.passed "run0001").record c.clock {}
    have hrecords : b'.records.toList = c.records.toList ++ [r] := by
      rw [hparted, parting, if_pos hsucceeded]
      exact Array.toList_push
    have hlast : b'.records.toList.getLast? = some r := by
      rw [hrecords]
      exact List.getLast?_concat
    refine ⟨o, b', r, rfl, hsucceeded, hlast, rfl, rfl, rfl, fun stage hstamped => ?_⟩
    cases hstamped.runId false

end Trial
end ClientTrial
