import ClientTrial.CommandLine.Session
import ClientTrial.Proofs.Bench.Silence
import ClientTrial.Proofs.Search
import ClientTrial.Proofs.Settings.Markers
import ClientTrial.Proofs.Tasks
import ClientTrial.Proofs.Trial.Verdict

/-!
# Trials that verify nothing

The file for the receiver's output is emptied when it is opened.  Unless something is
written to it, it is still empty when the markers are looked for, and of all texts only
the empty one stands in it.  So a trial whose receiver writes nothing fails, unless all
of its markers are empty; and they are not if they were given as a text.

## Main definitions

* `Route.Apart` — two routes that never lead to the same place.

## Main results

* `Act.Frame.holds_visit`, `Act.Frame.holds_after` — the visits of a journey in a frame.
* `Artifact.exec_verifyAll_of_blank` — markers looked for in nothing.
* `Trial.markers_empty_of_silence` — what a trial succeeds with whose receiver writes
  nothing.
* `Trial.verification_of_nothing` — the same from the sources of the settings on.
-/

namespace ClientTrial

open Act

/-! ### Journeys in a frame -/

namespace Act.Frame

variable {F : Frame} (t : Trial) {crew : Crew} (henter : ∀ stage, F.Keeps (Trial.enter stage))
  (hperform : ∀ p stage, F.Keeps (t.perform crew p stage))
include henter hperform

theorem holds_journeyFrom (stages : List Stage) (p : Progress) (b : Bench) :
    F.Holds b (t.journeyFrom crew stages p b).bench :=
  (keeps_goForward t henter hperform stages p).holds (t.exec_goForward crew stages p b)

/-- A visit takes place in the frame of all that was done before it, and is itself followed by what
is done in the frame. -/
theorem holds_visit {stages : List Stage} {p : Progress} {b : Bench} {v : Visit}
    (hv : v ∈ (t.journeyFrom crew stages p b).visits) :
    F.Holds b v.bench ∧ F.Holds v.bench (t.journeyFrom crew stages p b).bench := by
  induction stages generalizing p b with
  | nil => cases hv
  | cons stage rest ih =>
    have hentered : F.Holds b (Trial.visit stage p b).bench := henter stage b
    have hperformed : F.Holds (Trial.visit stage p b).bench
      (t.performed crew (Trial.visit stage p b)).2 := hperform _ stage _
    rcases h : t.performed crew (Trial.visit stage p b) with ⟨raised | p', b'⟩
    · rw [h] at hperformed
      rw [t.journeyFrom_of_error crew h] at hv ⊢
      obtain rfl := List.mem_singleton.1 hv
      exact ⟨hentered, hperformed⟩
    · rw [h] at hperformed
      rw [t.journeyFrom_of_ok crew h] at hv ⊢
      rcases List.mem_cons.1 hv with rfl | hv
      · exact ⟨hentered, F.trans hperformed (holds_journeyFrom t henter hperform rest p' b')⟩
      · obtain ⟨hbefore, hafter⟩ := ih hv
        exact ⟨F.trans (F.trans hentered hperformed) hbefore, hafter⟩

/-- What lies between two visits is done in the frame. -/
theorem holds_after {stages : List Stage} {p : Progress} {b : Bench} {before after : List Visit}
    {w v : Visit} (h : (t.journeyFrom crew stages p b).visits = before ++ w :: after)
    (hv : v ∈ after) : F.Holds (t.performed crew w).2 v.bench := by
  induction stages generalizing p b before with
  | nil => simp [Trial.journeyFrom] at h
  | cons stage rest ih =>
    rcases hp : t.performed crew (Trial.visit stage p b) with ⟨raised | p', b'⟩
    · rw [t.journeyFrom_of_error crew hp] at h
      rcases before with _ | ⟨first, before⟩
      · cases h
        cases hv
      · simp at h
    · rw [t.journeyFrom_of_ok crew hp] at h
      rcases before with _ | ⟨first, before⟩
      · -- the first visit is the earlier one, and the rest of the journey follows it
        obtain ⟨rfl, rfl⟩ := List.cons.inj h
        rw [hp]
        exact (holds_visit t henter hperform hv).1
      · exact ih (List.cons.inj h).2

end Act.Frame

/-! ### Silent trials -/

/-- Two routes never lead to the same place. -/
def Route.Apart (r other : Route) : Prop :=
  ∀ (fs later : Files) (place : Location), fs.locate r = .ok place →
    later.locate other ≠ .ok place

namespace Silence

open Act.Frame

variable {places : List Location} (t : Trial)

theorem keeps_enter (stage : Stage) : (silence places).Keeps (Trial.enter stage) :=
  keeps_change_of_eq (fun _ => rfl) fun _ => rfl

theorem keeps_runBackground (command : List String) (added : List (String × String))
    (route : Route) : (silence places).Keeps (Client.runBackground command added route) :=
  Frame.keeps_runBackground keeps_say (keeps_openOutput route)
    (fun b n => keeps_spawn _ _ _ _ n b) keeps_closeOutput

theorem keeps_perform (p : Progress) (stage : Stage) :
    (silence places).Keeps (t.perform .usual p stage) :=
  Frame.keeps_perform keeps_say t keeps_openDaemon (keeps_lookup _) (keeps_remove _)
    (fun _ _ _ => keeps_create _ _ _ _) (keeps_reload _) keeps_connect keeps_readClock keeps_sleep
    keeps_runErrand (fun _ _ _ => keeps_runBackground _ _ _) p

/-- What is done to the files after the clean-up is left out of account: no place is watched. -/
theorem holds_homecoming (startedAt : Moment) (j : Journey) :
    (silence []).Holds j.bench (t.homecoming .usual startedAt j).2 := by
  have unwatched (f : Files → Except Fault Files) : (silence []).Keeps (onFiles f) :=
    keeps_onFiles fun _ _ _ _ hplace => nomatch hplace
  have answered (call : CleanUpCall) : (silence []).Keeps (Crew.usual.answer call) :=
    Frame.keeps_answer keeps_say keeps_openDaemon keeps_lookup keeps_logs
      (fun name _ => keeps_remove name) keeps_kill keeps_wait fun _ _ => keeps_closeOutput
  refine Frame.trans _ (holds_homeBench keeps_say (keeps_enter _) j)
    (keeps_bind ?_ (fun cleaned => ?_) _)
  · exact Frame.keeps_cleanUp keeps_say t (fun call _ => answered call) _ _
  · exact Frame.keeps_settle keeps_say t (fun r => Frame.keeps_save (unwatched _)
      (fun _ _ => unwatched _) r) (unwatched _) _ _ _ _

/-- A receiver that is started has its file emptied, and leaves it so if it writes nothing at
once. -/
theorem emptyAt_of_runBackground {command : List String} {added : List (String × String)}
    {route : Route} {b c : Bench} {r : Receiver}
    (h : (Client.runBackground command added route).exec b = (.ok r, c)) :
    ∃ (fs : Files) (place : Location), fs.locate route = .ok place ∧
      (b.Spares [place] → c.desk.IsSilent → c.files.EmptyAt place) := by
  obtain ⟨n, d, pid, e, hopen, hspawn, rfl, -, -⟩ := Client.spawned_of_runBackground h
  obtain ⟨written, place, hwrite, hplace, -, rfl⟩ := Client.openOutput_eq_ok hopen
  refine ⟨written, place, hplace, fun hb hc => ?_⟩
  have hushed := (keeps_spawn _ _ _ _ _).holds hspawn hb
  exact hushed.desk.empty hc place (List.mem_singleton_self _)
    (Files.emptyAt_of_write hplace hwrite)

end Silence

/-! ### Markers looked for in nothing -/

theorem Text.contains_empty (m : String) : Text.contains "" m = decide (m = "") := by
  refine Bool.eq_iff_iff.2 ?_
  rw [Text.contains_iff, decide_eq_true_eq]
  simp

namespace Artifact

variable (a : Artifact) {b : Bench}

/-- An artifact that is empty, or is not there, says nothing. -/
theorem textOn_of_blank (h : b.files.read a.route = .ok [] ∨
    ∃ f : Fault, b.files.read a.route = .error f ∧ f.kind = .os .fileNotFound) :
    a.textOn b = .ok "" := by
  unfold textOn Files.readOrEmpty
  rcases h with h | ⟨f, h, hf⟩
  · rw [h]
    rfl
  · rw [h]
    dsimp only
    rw [if_pos hf]
    rfl

/-- A file that can be read where only an empty one may stand says nothing. -/
theorem textOn_of_emptyAt {s : String} {fs : Files} {place : Location}
    (hplace : fs.locate a.route = .ok place) (hempty : b.files.EmptyAt place)
    (h : a.textOn b = .ok s) : s = "" := by
  unfold textOn Files.readOrEmpty at h
  split at h
  · next content hread =>
    obtain ⟨found, hfound, hnode⟩ := Files.read_eq_ok_iff.1 hread
    cases Files.locate_unique hfound hplace
    rw [hempty content hnode] at h
    cases h
    rfl
  · split at h
    · cases h
      rfl
    · cases h

/-- Markers looked for in nothing: all are missing but the empty ones. -/
theorem exec_verifyAll_of_blank (h : a.textOn b = .ok "") {markers : List String}
    (hmarkers : ∃ m ∈ markers, m ≠ "") :
    ((a.verifyAll markers).exec b).1 =
      .error (.trial (.missingContent (markers.filter (· ≠ "")) "" a.path) none) := by
  have hmissing : missingFrom "" markers = markers.filter (· ≠ "") := by
    refine List.filter_congr fun m _ => ?_
    rw [Text.contains_empty]
    simp
  have hsome : missingFrom "" markers ≠ [] := by
    obtain ⟨m, hm, hne⟩ := hmarkers
    exact hmissing ▸ List.ne_nil_of_mem (List.mem_filter.2 ⟨hm, decide_eq_true hne⟩)
  rw [a.exec_verifyAll_of_missing h hsome, hmissing]

end Artifact

namespace Trial

variable (t : Trial)

/-- A visit on which the receiver is started leaves its output empty, if the receiver writes nothing
at once. -/
theorem emptyAt_of_performed {v : Visit} (hsupplied : v.Supplied)
    (hstage : v.stage = .startReceiver) (h : (t.perform .usual v.progress v.stage).Answers v.bench) :
    ∃ (fs : Files) (place : Location), fs.locate t.output = .ok place ∧
      (v.bench.Spares [place] → (t.performed .usual v).2.desk.IsSilent →
        (t.performed .usual v).2.files.EmptyAt place) := by
  obtain ⟨stage, q, b⟩ := v
  dsimp only at hstage
  subst hstage
  obtain ⟨p, c, h⟩ := exec_of_answers h
  have hc : (t.performed .usual ⟨.startReceiver, q, b⟩).2 = c := congrArg Prod.snd h
  obtain ⟨server, hs⟩ : ∃ server, q.server = some server :=
    Option.isSome_iff_exists.1 (hsupplied.server (by simp))
  simp only [perform, hs] at h
  obtain ⟨command, d, hwords, h⟩ := exec_bind_eq_ok.1 h
  obtain ⟨-, rfl⟩ := exec_wordsOf_eq_ok.1 hwords
  obtain ⟨receiver, e, hrun, hp⟩ := exec_bind_eq_ok.1 h
  cases hp
  rw [hc]
  exact Silence.emptyAt_of_runBackground hrun

/-- A journey that goes through starts the receiver before it looks for the markers. -/
theorem visits_of_ended_ok {b : Bench} (hend : (t.journey .usual b).ended = .ok ()) :
    ∃ before w after v, (t.journey .usual b).visits = before ++ w :: after ∧ v ∈ after ∧
      w.stage = .startReceiver ∧ v.stage = .verifyOutputs := by
  have hstages := t.stages_journey_of_ended_ok .usual hend
  have hitinerary : ∃ sooner, t.itinerary =
      sooner ++ .startReceiver :: [.settleReceiver, .runSender, .verifyOutputs] :=
    ⟨_ ++ [.cleanPriorState, .startServer, .awaitReadiness, .settleServer], by
      rw [List.append_assoc]; rfl⟩
  obtain ⟨sooner, hsooner⟩ := hitinerary
  rw [hsooner] at hstages
  obtain ⟨before, rest, hvisits, -, hrest⟩ := List.map_eq_append_iff.1 hstages
  obtain ⟨w, after, rfl, hw, hafter⟩ := List.map_eq_cons_iff.1 hrest
  obtain ⟨v, hv, hvs⟩ : ∃ v ∈ after, v.stage = .verifyOutputs :=
    List.mem_map.1 (by rw [hafter]; decide)
  exact ⟨before, w, after, v, hvisits, hv, hw, hvs⟩

/-- If nothing has been written at the end of a journey, the output of a receiver that was started
is empty still on any later visit. -/
theorem emptyAt_of_visits {stages : List Stage} {p : Progress} {b : Bench}
    {before after : List Visit} {w v : Visit} {place : Location}
    (hvisits : (t.journeyFrom .usual stages p b).visits = before ++ w :: after) (hv : v ∈ after)
    (hempty : w.bench.Spares [place] → (t.performed .usual w).2.desk.IsSilent →
      (t.performed .usual w).2.files.EmptyAt place)
    (hb : b.Spares [place])
    (hsilent : (t.journeyFrom .usual stages p b).bench.desk.IsSilent) :
    v.bench.files.EmptyAt place := by
  have kept {u : Visit} (hu : u ∈ before ++ w :: after) :
      b.Hushes [place] u.bench ∧ u.bench.desk.IsSilent := by
    obtain ⟨hsooner, hlater⟩ := Act.Frame.holds_visit (F := .silence [place]) t Silence.keeps_enter
      (Silence.keeps_perform t) (hvisits ▸ hu)
    exact ⟨hsooner hb, (hlater (hsooner hb).deposits).desk.silent hsilent⟩
  obtain ⟨hwb, -⟩ := @kept w (by simp)
  obtain ⟨-, hvsilent⟩ := @kept v (by simp [hv])
  -- what the start of the receiver does, and what is done after it
  have hstarted : w.bench.Hushes [place] (t.performed .usual w).2 :=
    Silence.keeps_perform t w.progress w.stage w.bench hwb.deposits
  have hbetween := Act.Frame.holds_after (F := .silence [place]) t Silence.keeps_enter
    (Silence.keeps_perform t) hvisits hv hstarted.deposits
  exact hbetween.desk.empty hvsilent place (List.mem_singleton_self _)
    (hempty hwb.deposits (hbetween.desk.silent hvsilent))

/-- The markers that are found on a journey at whose end nothing has been written are empty. -/
theorem markers_empty_of_journey {b : Bench} (hend : (t.journey .usual b).ended = .ok ())
    (hsilent : (t.journey .usual b).bench.desk.IsSilent)
    (hspares : ∀ d ∈ b.deposits, d.content = [] ∨ d.route.Apart t.output) :
    ∀ m ∈ (t.settings .markers : List String), m = "" := by
  obtain ⟨before, w, after, v, hvisits, hv, hw, hvs⟩ := t.visits_of_ended_ok hend
  obtain ⟨⟨command, hwords⟩, hanswers⟩ := (t.journey_ended_ok_iff .usual).1 hend
  have hsupplied := t.supplied_journey .usual b
  have hwmem : w ∈ (t.journey .usual b).visits := by rw [hvisits]; simp
  have hvmem : v ∈ (t.journey .usual b).visits := by rw [hvisits]; simp [hv]
  -- the receiver is started, and its output opened at some place
  obtain ⟨fs, place, hplace, hempty⟩ :=
    t.emptyAt_of_performed (hsupplied w hwmem) hw (hanswers w hwmem)
  have hb : b.Spares [place] := by
    intro d hd
    refine (hspares d hd).imp_right fun hapart q hq tree hlocate => ?_
    rw [List.mem_singleton.1 hq] at hlocate
    exact hapart tree fs place hlocate hplace
  -- it is empty still when the markers are looked for, so that only empty ones are found
  have hwell := t.goesWell_of_answers (hsupplied v hvmem) (hanswers v hvmem)
  unfold GoesWell at hwell
  rw [hvs] at hwell
  obtain ⟨s, hs, hmarkers⟩ := hwell
  have hjourney : t.journey .usual b =
      t.journeyFrom .usual (Stage.forward ((command.getD []) ≠ [])) {} b := by
    unfold journey
    rw [hwords]
  rw [hjourney] at hvisits hsilent
  have hstill := t.emptyAt_of_visits hvisits hv hempty hb hsilent
  rw [Artifact.textOn_of_emptyAt _ hplace hstill hs] at hmarkers
  intro m hm
  simpa using hmarkers m hm

/-- A trial that succeeds although nothing was written to its receiver's output has no marker but
empty ones. -/
theorem markers_empty_of_silence {b c : Bench} {o : Outcome} (h : t.run.exec b = (.ok o, c))
    (hsilent : c.desk.IsSilent)
    (hspares : ∀ d ∈ b.deposits, d.content = [] ∨ d.route.Apart t.output)
    (hsucceeded : o.succeeded = true) : ∀ m ∈ (t.settings .markers : List String), m = "" := by
  obtain ⟨fs, -, d, hhome, rfl⟩ := t.homecoming_of_run h
  rw [(t.parting_keeps _ o d).2.1] at hsilent
  rcases t.verdict_of_homecoming .usual hhome with ⟨hend, -⟩ | ⟨f, -, hfailed, -⟩
  · refine t.markers_empty_of_journey (b := t.outset fs b) hend ?_ hspares
    have hushed := Silence.holds_homecoming t (Moment.ofClock b.clock)
      (t.journey .usual (t.outset fs b)) fun _ _ => .inr (by simp)
    rw [hhome] at hushed
    exact hushed.desk.silent hsilent
  · rw [hsucceeded] at hfailed
    cases hfailed

/-- **Verification of nothing.**  Accepted settings have at least one marker, and all of their
markers say something unless the caller gives them as a list.  An artifact that is empty or not
there is refused, for every marker that is not empty, and a trial does not succeed if its receiver
writes nothing and no other program writes in its place -- unless the caller gives a list of nothing
but empty markers, with which such an artifact is accepted. -/
theorem verification_of_nothing {sources : Sources} {v : Settings} (h : sources.load = .ok v) :
    let markers : List String := v .markers
    markers ≠ [] ∧
      ((∀ m ∈ markers, Text.allBlank m = false) ∨ sources.GivesList markers) ∧
      (∀ (a : Artifact) (b : Bench),
        (b.files.read a.route = .ok [] ∨
          ∃ f : Fault, b.files.read a.route = .error f ∧ f.kind = .os .fileNotFound) →
        (¬sources.IsVacuous → ((a.verifyAll markers).exec b).1 =
          .error (.trial (.missingContent (markers.filter (· ≠ "")) "" a.path) none)) ∧
        (sources.IsVacuous → ((a.verifyAll markers).exec b).1 = .ok ())) ∧
      ∀ (t : Trial) (b c : Bench) (o : Outcome), t.settings = v → t.run.exec b = (.ok o, c) →
        c.desk.IsSilent → (∀ d ∈ b.deposits, d.content = [] ∨ d.route.Apart t.output) →
        o.succeeded = true → sources.IsVacuous := by
  intro markers
  have hvacuous := Sources.isVacuous_iff h
  obtain ⟨hsome, hmarkers⟩ := Sources.markers_of_load h
  refine ⟨hsome, hmarkers, fun a b hblank => ⟨fun hnot => ?_, fun hempty => ?_⟩, ?_⟩
  · refine a.exec_verifyAll_of_blank (a.textOn_of_blank hblank) ?_
    rw [hvacuous] at hnot
    simpa using hnot
  · obtain ⟨_, hanswers⟩ := (a.verifyAll_answers_iff markers b).2
      ⟨"", a.textOn_of_blank hblank, fun m hm => by rw [hvacuous.1 hempty m hm]⟩
    exact hanswers
  · rintro t b c o rfl hrun hsilent hspares hsucceeded
    exact hvacuous.2 (t.markers_empty_of_silence hrun hsilent hspares hsucceeded)

/-- A single marker among blanks is looked for in an artifact that is not there, and by a trial
whose receiver writes nothing. -/
theorem verification_of_nothing_among_blanks :
    let sources : Sources := { environ := [("IRC_HARNESS_EXPECTED_MARKERS", " , joined,")] }
    let t : Trial := ⟨sources.valueOrDefault, "r1"⟩
    let a : Artifact := .ofRoute (Route.ofText "art/recvd")
    sources.load = .ok t.settings ∧
      ((a.verifyAll (t.settings .markers)).exec Bench.quiet).1 =
        .error (.trial (.missingContent ["joined"] "" "art/recvd") none) ∧
      ∃ o c, t.run.exec Bench.quiet = (.ok o, c) ∧ c.desk.IsSilent ∧ ¬o.succeeded = true := by
  intro sources t a
  have accepted : sources.allIssues.isEmpty = true := by decide +kernel
  have loaded : sources.load = .ok t.settings :=
    Sources.load_eq_ok_iff.2 ⟨List.isEmpty_iff.1 accepted, rfl⟩
  have given : (t.settings .markers : List String) = ["joined"] := by decide +kernel
  obtain ⟨-, -, hverified, htrial⟩ := verification_of_nothing loaded
  have solid : ¬sources.IsVacuous := by
    rw [Sources.isVacuous_iff loaded, given]
    decide
  have missing : Bench.quiet.files.read a.route = .error (Fault.noSuchFile "art/recvd") := by
    decide +kernel
  have raised := (hverified a Bench.quiet (.inr ⟨_, missing, rfl⟩)).1 solid
  rw [given] at raised
  have silent : (t.run.exec Bench.quiet).2.desk.IsSilent := by decide +kernel
  have answered : (t.run.exec Bench.quiet).1.isOk = true := by decide +kernel
  obtain ⟨o, c, hrun⟩ := exec_of_answers (answers_of_isOk answered)
  rw [hrun] at silent
  rw [given]
  refine ⟨loaded, raised, o, c, hrun, silent, fun hsucceeded => solid ?_⟩
  exact htrial t Bench.quiet c o rfl hrun silent (List.forall_mem_nil _) hsucceeded

/-- **A list of one empty marker.**  The command line that gives it is accepted, and the trial
succeeds although its receiver writes nothing. -/
theorem verified_of_empty_marker :
    ∃ v, CommandLine.loadSettings ["--marker", ""] [] none = .ok v ∧
      (v .markers : List String) = [""] ∧
      ∃ o c, (⟨v, "run0001"⟩ : Trial).run.exec Bench.quiet = (.ok o, c) ∧ c.desk.IsSilent ∧
        o.succeeded = true ∧ o.receiverOutput = "" := by
  let sources : Sources := { overrides := [("expected_markers", .arr [.str ""])] }
  let t : Trial := ⟨sources.valueOrDefault, "run0001"⟩
  have accepted : sources.allIssues.isEmpty = true := by decide +kernel
  have loaded : sources.load = .ok t.settings :=
    Sources.load_eq_ok_iff.2 ⟨List.isEmpty_iff.1 accepted, rfl⟩
  have parsed : CommandLine.parse ["--marker", ""] =
      .ok (some [("expected_markers", .arr [.str ""])]) := by rfl
  have told : (t.run.exec Bench.quiet).1.toOption.map (fun o => (o.succeeded, o.receiverOutput)) =
      some (true, "") := by decide +kernel
  have silent : (t.run.exec Bench.quiet).2.desk.IsSilent := by decide +kernel
  refine ⟨t.settings, ?_, by decide +kernel, ?_⟩
  · unfold CommandLine.loadSettings
    rw [parsed]
    dsimp only
    rw [show ({ overrides := [("expected_markers", .arr [.str ""])], environ := [], file := none } :
      Sources).load = .ok t.settings from loaded]
  · rcases hrun : t.run.exec Bench.quiet with ⟨raised | o, c⟩
    · rw [hrun] at told
      cases told
    · rw [hrun] at told silent
      obtain ⟨hsucceeded, houtput⟩ := Prod.ext_iff.1 (Option.some.inj told)
      exact ⟨o, c, rfl, silent, hsucceeded, houtput⟩

end Trial
end ClientTrial
