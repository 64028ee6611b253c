import ClientTrial.Proofs.Bench.Adds
import ClientTrial.Proofs.Bench.Environ
import ClientTrial.Proofs.Server
import ClientTrial.Proofs.Trial.Order
import ClientTrial.Proofs.Trial.Reported

/-!
# The address of the server

The address of a server that was started is written down once and told to all who need it:
connections are attempted at it, both clients find it in one variable of their environment,
and the report names it.  Nothing else about the environment is changed for the clients, and
nothing at all for the command that builds them.

## Main definitions

* `Trial.Addressed` — an effect of a stage is meant for a server.

## Main results

* `Trial.adds_perform`, `Trial.adds_homecoming` — what is added in a stage and after the journey is
  meant for the server.
* `Trial.adds_journeyFrom` — what a journey adds, visit for visit.
* `Trial.one_address` — the address of a server is the same everywhere.
-/

namespace ClientTrial

open Act

namespace Trial

variable (t : Trial)

/-- An effect of a stage is meant for a server.  Connections are attempted in the wait for the server
only, and at its address.  Both clients are run with the variable for that address added to the
environment, and the command that builds them with nothing added.  No other stage runs a command. -/
def Addressed (s : Server) (stage : Stage) (environ : List (String × String)) : Effect → Prop
  | .connect host port _ _ => stage = .awaitReadiness ∧ host = t.host ∧ port = s.hostPort
  | .run _ given _ _ =>
    stage = .build ∧ given = environ ∨
      stage = .runSender ∧ given = overlay environ (t.addressBinding s)
  | .spawn _ given _ _ => stage = .startReceiver ∧ given = overlay environ (t.addressBinding s)
  | _ => True

/-! ### What a stage adds -/

section

open Act.Frame

variable {t} {s : Server}

/-- What is added in a stage is meant for the server that the trial holds, if it holds one. -/
theorem adds_perform (stage : Stage) {p : Progress} (hp : ∀ held, p.server = some held → held = s) :
    (adding (t.Addressed s stage)).Keeps (t.perform .usual p stage) := by
  have settled (deed : Act Unit) (h : (adding (t.Addressed s stage)).Keeps deed) (q : Progress) :
      (adding (t.Addressed s stage)).Keeps (do deed; pure q) :=
    keeps_bind h fun _ => keeps_pure q
  have opened : (adding (t.Addressed s stage)).Keeps openDaemon :=
    Adds.keeps_openDaemon fun _ => trivial
  have slept (seconds : Float) : (adding (t.Addressed s stage)).Keeps (sleep seconds) :=
    Adds.keeps_sleep fun _ => trivial
  cases stage with
  | build =>
    refine keeps_bind (keeps_wordsOf _) fun command => keeps_bind ?_ fun _ => keeps_pure p
    exact keeps_runForeground Adds.keeps_say fun b => Adds.adds_runErrand (.inl ⟨rfl, rfl⟩)
  | cleanPriorState =>
    refine keeps_bind (keeps_ensureClean Adds.keeps_say opened ?_ ?_) fun _ => keeps_pure p
    · exact Adds.keeps_lookup fun _ => trivial
    · exact Adds.keeps_remove fun _ => trivial
  | startServer =>
    refine keeps_bind (keeps_start Adds.keeps_say opened ?_ ?_) fun _ => keeps_pure _
    · exact Adds.keeps_create fun _ => trivial
    · exact Adds.keeps_reload fun _ => trivial
  | awaitReadiness =>
    unfold perform
    cases hheld : p.server with
    | none => exact keeps_pure p
    | some held =>
      obtain rfl := hp held hheld
      refine keeps_bind (keeps_awaitReachable Adds.keeps_say ?_ (slept _) _) fun _ => keeps_pure p
      exact Adds.keeps_connect fun _ _ => ⟨rfl, rfl, rfl⟩
  | settleServer => exact settled _ (slept _) p
  | startReceiver =>
    unfold perform
    cases hheld : p.server with
    | none => exact keeps_pure p
    | some held =>
      obtain rfl := hp held hheld
      refine keeps_bind (keeps_wordsOf _) fun command => keeps_bind ?_ fun _ => keeps_pure _
      refine keeps_runBackground Adds.keeps_say ?_ (fun b n => ?_) fun n => ?_
      · exact Adds.keeps_of_still (Still.keeps_openOutput _)
      · exact Adds.adds_spawn ⟨rfl, rfl⟩
      · exact Adds.keeps_of_still (Still.keeps_closeOutput n)
  | settleReceiver =>
    refine keeps_bind (keeps_settleReceiver Adds.keeps_say t ?_ slept) fun _ => ?_
    · exact Adds.keeps_of_still Still.keeps_readClock
    · split
      · exact keeps_pure p
      · exact settled _ (keeps_reportExited Adds.keeps_say _) p
  | runSender =>
    unfold perform
    cases hheld : p.server with
    | none => exact keeps_pure p
    | some held =>
      obtain rfl := hp held hheld
      refine keeps_bind (keeps_wordsOf _) fun command => keeps_bind ?_ fun _ => keeps_pure p
      exact keeps_runForeground Adds.keeps_say fun b => Adds.adds_runErrand (.inr ⟨rfl, rfl⟩)
  | verifyOutputs => exact settled _ (keeps_verifyAll Adds.keeps_say _ _) p
  | cleanup => exact keeps_pure p

/-- After the journey no connection is attempted and no command is run. -/
theorem adds_homecoming (startedAt : Moment) (j : Journey) :
    (adding (t.Addressed s .cleanup)).Holds j.bench (t.homecoming .usual startedAt j).2 := by
  have answered (call : CleanUpCall) :
      (adding (t.Addressed s .cleanup)).Keeps (Crew.usual.answer call) := by
    refine keeps_answer Adds.keeps_say (Adds.keeps_openDaemon fun _ => trivial) (fun name => ?_)
      (fun name tail => ?_) (fun name _ => ?_) (fun pid => ?_) (fun pid => ?_) fun _ _ n => ?_
    · exact Adds.keeps_lookup fun _ => trivial
    · exact Adds.keeps_logs fun _ => trivial
    · exact Adds.keeps_remove fun _ => trivial
    · exact Adds.keeps_kill fun _ => trivial
    · exact Adds.keeps_wait fun _ => trivial
    · exact Adds.keeps_of_still (Still.keeps_closeOutput n)
  have entered : (adding (t.Addressed s .cleanup)).Keeps (enter .cleanup) :=
    Adds.keeps_change_of_still fun _ => ⟨rfl, rfl, rfl, rfl⟩
  refine Frame.trans _ (holds_homeBench Adds.keeps_say entered j) (keeps_bind ?_ (fun _ => ?_) _)
  · exact keeps_cleanUp Adds.keeps_say t (fun call _ => answered call) _ _
  · exact Adds.keeps_of_still (t.still_settle _ _ _ _)

end

/-! ### What a journey adds -/

/-- If it is known for each visit of what kind are the effects that it adds, then it is known of what
kind are those that the journey adds.  All visits find the same environment. -/
theorem adds_journeyFrom {P : Stage → List (String × String) → Effect → Prop} {stages : List Stage}
    {p : Progress} {b : Bench}
    (hvisits : ∀ v ∈ (t.journeyFrom .usual stages p b).visits,
      (Frame.adding (P v.stage)).Keeps (t.perform .usual v.progress v.stage)) :
    let j := t.journeyFrom .usual stages p b
    (∀ v ∈ j.visits, ∀ e ∈ t.leaves v, P v.stage b.environ e) ∧
      j.bench.environ = b.environ ∧
      j.bench.trace.toList = b.trace.toList ++ j.visits.flatMap t.leaves := by
  induction stages generalizing p b with
  | nil => exact ⟨by simp [journeyFrom], rfl, by simp [journeyFrom]⟩
  | cons stage rest ih =>
    have first (hv : (Frame.adding (P stage)).Keeps
        (t.perform .usual (visit stage p b).progress stage)) :
        (t.performed .usual (visit stage p b)).2.environ = b.environ ∧
          (t.performed .usual (visit stage p b)).2.trace.toList =
            b.trace.toList ++ t.leaves (visit stage p b) ∧
          ∀ e ∈ t.leaves (visit stage p b), P stage b.environ e := by
      -- to enter a stage leaves no trace
      obtain ⟨henviron, es, htrace, hes⟩ := hv (visit stage p b).bench
      have hleaves : t.leaves (visit stage p b) = es := by
        unfold leaves performed
        rw [stage_visit, htrace, List.drop_left]
      rw [hleaves]
      exact ⟨henviron, htrace, hes⟩
    rcases h : t.performed .usual (visit stage p b) with ⟨raised | p', b'⟩
    · rw [journeyFrom_of_error t .usual h] at hvisits ⊢
      obtain ⟨henviron, htrace, hkind⟩ := first (hvisits _ (List.mem_singleton_self _))
      rw [h] at henviron htrace
      refine ⟨List.forall_mem_singleton.2 hkind, henviron, ?_⟩
      rw [List.flatMap_singleton]
      exact htrace
    · rw [journeyFrom_of_ok t .usual h] at hvisits ⊢
      obtain ⟨hv, hrest⟩ := List.forall_mem_cons.1 hvisits
      obtain ⟨henviron, htrace, hkind⟩ := first hv
      rw [h] at henviron htrace
      obtain ⟨hlater, hend, hmore⟩ := ih hrest
      dsimp only at henviron htrace
      rw [henviron] at hlater hend
      refine ⟨List.forall_mem_cons.2 ⟨hkind, hlater⟩, hend, ?_⟩
      dsimp only
      rw [List.flatMap_cons, hmore, htrace, List.append_assoc]

/-- What a journey adds is meant for the server that all its visits find. -/
theorem adds_journey {s : Server} {b : Bench}
    (hserver : ∀ v ∈ (t.journey .usual b).visits, ∀ held, v.progress.server = some held → held = s) :
    let j := t.journey .usual b
    (∀ v ∈ j.visits, ∀ e ∈ t.leaves v, t.Addressed s v.stage b.environ e) ∧
      j.bench.environ = b.environ ∧
      j.bench.trace.toList = b.trace.toList ++ j.visits.flatMap t.leaves := by
  unfold journey at hserver ⊢
  split
  · exact ⟨by simp, rfl, by simp⟩
  · next hwords =>
    rw [hwords] at hserver
    exact t.adds_journeyFrom fun v hv => adds_perform v.stage (hserver v hv)

/-! ### The server that was started -/

/-- A visit that yields a server is the one in which it is started. -/
theorem started_of_yields {v : Visit} {s : Server} (hs : t.server? .usual v = some s) :
    v.stage = .startServer ∧
      ∃ c, (Server.start t.serverName (t.settings .serverImage) (t.settings .containerPort)
        (t.settings .hostPort)).exec v.bench = (.ok s, c) := by
  have hstage : v.stage = .startServer := by
    refine Decidable.byContradiction fun hne => ?_
    rw [t.server?_of_ne .usual hne] at hs
    cases hs
  refine ⟨hstage, ?_⟩
  unfold server? at hs
  rw [hstage] at hs
  rcases h : (Server.start t.serverName (t.settings .serverImage) (t.settings .containerPort)
    (t.settings .hostPort)).exec v.bench with ⟨raised | started, c⟩
  · rw [show Crew.usual.start = Server.start from rfl, h] at hs
    cases hs
  · rw [show Crew.usual.start = Server.start from rfl, h] at hs
    cases hs
    exact ⟨c, rfl⟩

/-- A server that a visit yields is the one that the trial holds in the end. -/
theorem server_of_yields {b : Bench} {v : Visit} {s : Server}
    (hv : v ∈ (t.journey .usual b).visits) (hs : t.server? .usual v = some s) :
    (t.journey .usual b).progress.server = some s := by
  rw [t.server_journey .usual b]
  cases hfound : (t.journey .usual b).visits.findSome? (t.server? .usual) with
  | none =>
    rw [List.findSome?_eq_none_iff.1 hfound v hv] at hs
    cases hs
  | some found =>
    obtain ⟨u, hu, hus⟩ := List.exists_of_findSome?_eq_some hfound
    -- the server is started in one visit only
    have hnodup := t.nodup_itinerary.sublist (t.isPrefix_stages_journey .usual b).sublist
    have huv : u.stage = v.stage :=
      (t.started_of_yields hus).1.trans (t.started_of_yields hs).1.symm
    obtain rfl := List.inj_on_of_nodup_map hnodup hu hv huv
    exact hus.symm.trans hs

/-- **One address.**  In a trial that has started a server, however it ends, connections are attempted
at the address of that server only, the receiver and the sender are given the environment with that
address as the value of one variable, and the command that builds them is given the environment
itself.  The port of the address is the one that is configured, unless that is zero, and else the one
that the daemon publishes for the port of the container.  In the environment of the clients no other
variable is changed, and no name comes in but that of the variable.  A report that is saved names
the address. -/
theorem one_address {b : Bench} {fs : Files} (made : b.files.makeDir t.artifacts = .ok fs)
    {v : Visit} (hv : v ∈ (t.journey .usual (t.outset fs b)).visits) {s : Server}
    (started : t.server? .usual v = some s) :
    let j := t.journey .usual (t.outset fs b)
    let carrier : String := t.settings .serverVariable
    let environ := overlay b.environ [(carrier, t.address s)]
    (∃ cleaning,
      (t.run.exec b).2.trace.toList =
        b.trace.toList ++ j.visits.flatMap t.leaves ++ cleaning ∧
      (∀ u ∈ j.visits, ∀ e ∈ t.leaves u, t.Addressed s u.stage b.environ e) ∧
      ∀ e ∈ cleaning, t.Addressed s .cleanup b.environ e) ∧
    t.address s = t.host ++ ":" ++ Fault.numberText s.hostPort ∧
    Server.IsBound (t.settings .containerPort) (t.settings .hostPort) v.bench.daemon.published
      s.hostPort ∧
    (∀ name, environ.lookup name =
      if name = carrier then some (t.address s) else b.environ.lookup name) ∧
    environ.map Prod.fst =
      (if carrier ∈ b.environ.map Prod.fst then b.environ.map Prod.fst
        else b.environ.map Prod.fst ++ [carrier]) ∧
    ∀ o b' route, t.run.exec b = (.ok o, b') → o.report = some route →
      ∃ tree : Json, b'.files.read route = .ok (Text.toOctets tree.pretty) ∧
        (tree.member? "server").bind (·.member? "address") = some (.str (t.address s)) := by
  intro j carrier environ
  have hheld : j.progress.server = some s := t.server_of_yields hv started
  obtain ⟨server, hone, hfind⟩ := t.exists_server (t.outset fs b)
  obtain rfl : s = server := hone s hheld
  obtain ⟨hvisits, henviron, htrace⟩ := t.adds_journey hfind
  refine ⟨?_, rfl, ?_, lookup_overlay_single _ _ _, names_overlay_single _ _ _, ?_⟩
  · obtain ⟨-, cleaning, hmore, hcleaning⟩ :=
      adds_homecoming (t := t) (s := s) (Moment.ofClock b.clock) j
    rw [henviron] at hcleaning
    refine ⟨cleaning, ?_, hvisits, hcleaning⟩
    rw [t.trace_run_of_makeDir_ok made]
    exact hmore.trans (congrArg (· ++ cleaning) htrace)
  · obtain ⟨-, c, hstart⟩ := t.started_of_yields started
    exact Server.isBound_of_start hstart
  · intro o b' route hrun hreport
    obtain ⟨fs', made', c, hhome, rfl⟩ := t.homecoming_of_run hrun
    obtain rfl : fs = fs' := Except.ok.inj (made.symm.trans made')
    obtain ⟨rfl, logs, finishedAt, hstands⟩ := t.standsIn_of_homecoming .usual hhome hreport
    obtain ⟨tree, hread, htold⟩ := hstands.isTold
    rw [t.files_parting]
    refine ⟨tree, hread, htold.address.trans ?_⟩
    rw [reportOf, hheld]
    rfl

/-- If no port is configured, both clients are told the one that the daemon has chosen, in place of the
address that was in the environment before. -/
theorem one_address_of_chosen_port :
    let sources : Sources :=
      { overrides := [("host_port", .null), ("keep_artifacts", .bool true)] }
    let t : Trial := ⟨sources.valueOrDefault, "r1"⟩
    let published : Json := .obj [("6667/tcp", .arr [.obj [("HostPort", .str "49321")]])]
    let b : Bench := { Bench.quiet with
      environ := [("IRC_SERVER", "localhost:6667"), ("PATH", "/usr/bin")]
      daemon := { published }
      scripts := [{ pieces := [⟨3.0, Text.toOctets "Hello World, Goodbye world"⟩] }] }
    let fs := Bench.quiet.files.put ["tmp", artifactsName] .dir
    let j := t.journey .usual (t.outset fs b)
    sources.load = .ok t.settings ∧ b.files.makeDir t.artifacts = .ok fs ∧
      ∃ v ∈ j.visits, ∃ s, t.server? .usual v = some s ∧ t.address s = "localhost:49321" ∧
        overlay b.environ (t.addressBinding s) =
          [("IRC_SERVER", "localhost:49321"), ("PATH", "/usr/bin")] ∧
        (∀ u ∈ j.visits, ∀ e ∈ t.leaves u, t.Addressed s u.stage b.environ e) ∧
        (j.visits.flatMap t.leaves).countP Effect.isSpawn = 1 ∧
        ∃ o b' route, t.run.exec b = (.ok o, b') ∧ o.report = some route ∧
          ∃ tree : Json, b'.files.read route = .ok (Text.toOctets tree.pretty) ∧
            (tree.member? "server").bind (·.member? "address") = some (.str "localhost:49321") := by
  intro sources t published b fs j
  have accepted : sources.allIssues.isEmpty = true := by decide +kernel
  have hport : (j.visits.findSome? (t.server? .usual)).map (·.hostPort) = some 49321 := by
    decide +kernel
  have hspawned : (j.visits.flatMap t.leaves).countP Effect.isSpawn = 1 := by decide +kernel
  have hkept : (t.run.exec b).1.toOption.map (·.report.isSome) = some true := by decide +kernel
  obtain ⟨s, hfound, hport⟩ := Option.map_eq_some_iff.1 hport
  obtain ⟨v, hv, started⟩ := List.exists_of_findSome?_eq_some hfound
  have made : b.files.makeDir t.artifacts = .ok fs := rfl
  obtain ⟨⟨cleaning, -, hvisits, -⟩, haddress, -, -, -, htold⟩ := t.one_address made hv started
  have haddress : t.address s = "localhost:49321" := by
    rw [haddress, hport]
    decide +kernel
  have hbinding : overlay b.environ (t.addressBinding s) =
      [("IRC_SERVER", "localhost:49321"), ("PATH", "/usr/bin")] := by
    rw [addressBinding, haddress]
    decide +kernel
  rcases hrun : t.run.exec b with ⟨raised | o, b'⟩
  · rw [hrun] at hkept
    cases hkept
  · rw [hrun] at hkept
    obtain ⟨route, hreport⟩ := Option.isSome_iff_exists.1 (Option.some.inj hkept)
    obtain ⟨tree, hread, hnamed⟩ := htold o b' route hrun hreport
    rw [haddress] at hnamed
    exact ⟨Sources.load_eq_ok_iff.2 ⟨List.isEmpty_iff.1 accepted, rfl⟩, made, v, hv, s, started,
      haddress, hbinding, hvisits, hspawned, o, b', route, rfl, hreport, tree, hread, hnamed⟩

end Trial
end ClientTrial
