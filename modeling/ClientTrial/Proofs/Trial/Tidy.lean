import ClientTrial.Proofs.Server
import ClientTrial.Proofs.Trial.CleanUp
import ClientTrial.Proofs.Trial.Steady

/-!
# A clean outcome, a clean world

An outcome without errors of the clean-up promises that nothing is left of the trial:
the receiver is over and its output is closed, the server is gone unless it was to be
left running, and the directory of artifacts is there exactly if it was to be kept.

The invariant of the journey says that the processes are accounted for: those that
were not there before are the receiver that the trial holds, and there is none if it
holds none.  The clean-up then stops that receiver.  The server is removed by name, so
that it does not matter how far its start had come.

## Main definitions

* `Bench.Accounted` — the processes are accounted for.
* `Bench.NextIsFree` — the next process gets a number of its own.
* `Trial.stopBench` — the bench on which the server is removed.

## Main results

* `Trial.accounted_journey` — the processes are accounted for after any journey.
* `Trial.clean_of_cleanUp` — what a clean-up without errors has done.
* `Trial.clean_world` — what a clean outcome promises.
-/

namespace ClientTrial

open Act

/-! ### The account of the processes -/

/-- A receiver is the last of all processes, at a place and with the number for that place, and it
writes to an opened file. -/
structure Receiver.IsLast (r : Receiver) (k : Nat) (b : Bench) : Prop where
  length : b.children.length = k + 1
  pid : r.pid = 4242 + k
  process : ∃ child, b.children[k]? = some child ∧ child.pid = r.pid ∧
    r.output = some child.output ∧ child.output < b.desk.outputs.length

/-- The processes that were started since an earlier bench are accounted for: there is none but the
receiver that the trial holds. -/
structure Bench.Accounted (free : List String) (b : Bench) (receiver : Option Receiver)
    (c : Bench) : Prop extends b.Leads free c where
  processes :
    match receiver with
    | none => c.children.length = b.children.length
    | some r => r.IsLast b.children.length c

/-- No process has the number that the next one gets. -/
def Bench.NextIsFree (b : Bench) : Prop :=
  ∀ child ∈ b.children, child.pid ≠ 4242 + b.children.length

theorem Receiver.IsLast.steady {free : List String} {r : Receiver} {k : Nat} {b c : Bench}
    (h : r.IsLast k b) (hs : b.Steady free c) : r.IsLast k c := by
  obtain ⟨child, hk, hpid, houtput, hlt⟩ := h.process
  obtain ⟨later, hlater, hgoes⟩ := hs.children k child hk
  obtain ⟨o, ho, -⟩ := hs.desk.outputs child.output _ (List.getElem?_eq_getElem hlt)
  refine ⟨hs.length.trans h.length, h.pid, later, hlater, hgoes.pid.trans hpid, ?_, ?_⟩
  · rw [hgoes.output, houtput]
  · rw [hgoes.output]
    exact (List.getElem?_eq_some_iff.1 ho).1

namespace Bench.Accounted

variable {free : List String} {receiver : Option Receiver} {r : Receiver} {b c d : Bench}

theorem steady (h : b.Accounted free receiver c) (hs : c.Steady free d) :
    b.Accounted free receiver d := by
  refine ⟨h.toLeads.trans hs.toLeads, ?_⟩
  have hp := h.processes
  cases receiver with
  | none => exact hs.length.trans hp
  | some r => exact Receiver.IsLast.steady hp hs

theorem ofSteady (hs : b.Steady free c) : b.Accounted free none c := ⟨hs.toLeads, hs.length⟩

/-- The receiver that is started accounts for the process that is added. -/
theorem start {command : List String} {added : List (String × String)} {route : Route}
    (h : b.Accounted free none c)
    (hrun : (Client.runBackground command added route).exec c = (.ok r, d)) :
    b.Accounted free (some r) d := by
  obtain ⟨hleads, hpid, child, n, hchildren, hchild, rfl, houtput, hlt⟩ :=
    Client.runBackground_eq_ok hrun
  have hlength : c.children.length = b.children.length := h.processes
  refine ⟨h.toLeads.trans hleads, ?_, ?_, child, ?_, hchild, houtput, hlt⟩
  · rw [hchildren, List.length_append, hlength, List.length_singleton]
  · rw [hpid, hlength]
  · rw [hchildren, ← hlength, List.getElem?_concat_length]

/-- The receiver that a trial holds is found by its number. -/
theorem finds (h : b.Accounted free (some r) c) (hnext : b.NextIsFree) :
    c.Finds r.pid b.children.length := by
  have hlast : r.IsLast b.children.length c := h.processes
  obtain ⟨child, hk, hpid, -⟩ := hlast.process
  refine ⟨⟨child, hk, hpid⟩, fun i hi other hother => ?_⟩
  obtain ⟨same, hsame, hgoes⟩ := h.children i _ (List.getElem?_eq_getElem hi)
  rw [hother] at hsame
  cases hsame
  rw [hgoes.pid, hlast.pid]
  exact hnext _ (List.getElem_mem hi)

end Bench.Accounted

namespace Trial

variable (t : Trial) {free : List String}

/-! ### The account after a journey -/

/-- A visit that fails starts no process. -/
theorem steady_of_performed_error (hname : t.serverName ∈ free) {v : Visit} {raised : Raised}
    {c : Bench} (h : t.performed .usual v = (.error raised, c)) : v.bench.Steady free c := by
  by_cases hstage : v.stage = .startReceiver
  · obtain ⟨stage, p, b⟩ := v
    subst hstage
    simp only [performed, perform] at h
    split at h
    · cases h
    · rcases exec_bind_eq_error.1 h with h | ⟨command, d, hc, h⟩
      · exact (Frame.keeps_wordsOf (F := .steady free) _).holds h
      · obtain ⟨-, rfl⟩ := exec_wordsOf_eq_ok.1 hc
        rcases exec_bind_eq_error.1 h with h | ⟨r, e, -, h⟩
        · exact Client.runBackground_eq_error h
        · cases h
  · exact (Steady.keeps_perform t hname v.progress hstage).holds h

/-- After a visit that does not fail the processes are accounted for, if they were before.  The
receiver is not started twice. -/
theorem accounted_of_performed_ok (hname : t.serverName ∈ free) {v : Visit} {p : Progress}
    {b c : Bench} (h : t.performed .usual v = (.ok p, c))
    (hfirst : v.stage = .startReceiver → v.progress.receiver = none)
    (hacc : b.Accounted free v.progress.receiver v.bench) : b.Accounted free p.receiver c := by
  by_cases hstage : v.stage = .startReceiver
  · obtain ⟨stage, q, d⟩ := v
    dsimp only at hstage hfirst hacc
    subst hstage
    simp only [performed, perform] at h
    split at h
    · cases h
      exact hacc
    · obtain ⟨command, e, hc, h⟩ := exec_bind_eq_ok.1 h
      obtain ⟨-, rfl⟩ := exec_wordsOf_eq_ok.1 hc
      obtain ⟨r, e, hrun, h⟩ := exec_bind_eq_ok.1 h
      cases h
      rw [hfirst rfl] at hacc
      exact hacc.start hrun
  · have hsteady : v.bench.Steady free c := (Steady.keeps_perform t hname _ hstage).holds h
    have hreceiver : p.receiver = v.progress.receiver := by
      rw [t.progress_of_performed_ok .usual h, t.receiver?_of_ne .usual hstage]
      rfl
    rw [hreceiver]
    exact hacc.steady hsteady

/-- After any journey the processes are accounted for. -/
theorem accounted_journey (hname : t.serverName ∈ free) {b c : Bench} (hs : b.Steady free c) :
    b.Accounted free (t.journey .usual c).progress.receiver (t.journey .usual c).bench := by
  refine t.invariant_journey .usual (P := fun receiver _ d => b.Accounted free receiver d)
    (fun stage _ d hacc => hacc.steady (Steady.keeps_enter stage d)) ?_ fun _ => .ofSteady hs
  intro v hfirst hacc
  rcases h : t.performed .usual v with ⟨raised | q, d⟩
  · exact hacc.steady (t.steady_of_performed_error hname h)
  · exact t.accounted_of_performed_ok hname h hfirst hacc

/-! ### A clean-up without errors -/

/-- The bench on which the server is removed in the clean-up. -/
def stopBench (crew : Crew) (p : Progress) (failed : Bool) (b : Bench) : Bench :=
  (crew.makeCalls (p.receiver.toList.map .terminate ++ t.logCalls p.server failed)
    b).2

/-- A call that adds no error is answered without one. -/
theorem answered_of_makeCalls {crew : Crew} {call : CleanUpCall} {b : Bench}
    (hhandled : ∀ m ∈ (crew.makeCalls [call] b).1, m.isHandled = true)
    (hnil : MadeCall.errorsOf (crew.makeCalls [call] b).1 = []) :
    ∃ text, (crew.answer call).exec b = (.ok (.ok text), (crew.makeCalls [call] b).2) := by
  have single : crew.makeCalls [call] b =
      ([⟨call, ((crew.answer call).exec b).1⟩], ((crew.answer call).exec b).2) := rfl
  rw [single] at hhandled hnil ⊢
  rcases hanswer : (crew.answer call).exec b with ⟨raised | e | text, c⟩
  · rw [hanswer] at hhandled hnil
    rcases raised with f | _ | _
    · cases hnil
    · simp [MadeCall.isHandled] at hhandled
    · simp [MadeCall.isHandled] at hhandled
  · rw [hanswer] at hnil
    cases hnil
  · exact ⟨text, rfl⟩

theorem of_answerOf {act : Act (Option TrialError)} {text : String} {b c : Bench}
    (h : (do pure (Crew.answerOf (← act))).exec b = (.ok (.ok text), c)) :
    act.exec b = (.ok none, c) := by
  obtain ⟨failure, d, hact, hp⟩ := exec_bind_eq_ok.1 h
  cases failure with
  | none =>
    cases hp
    exact hact
  | some e => cases hp

theorem steady_makeCalls {calls : List CleanUpCall}
    (hcalls : ∀ call ∈ calls, ∀ name, call = .stop name → name ∈ free) (b : Bench) :
    b.Steady free (Crew.usual.makeCalls calls b).2 := by
  induction calls generalizing b with
  | nil => exact .refl b
  | cons call rest ih =>
    have hcall : b.Steady free (Crew.usual.makeCall call b).2 :=
      Steady.keeps_answer (hcalls call List.mem_cons_self) b
    exact hcall.trans (ih (fun c hc => hcalls c (List.mem_cons_of_mem _ hc)) _)

/-- A clean-up without errors has stopped the receiver without complaint, and has removed the server
without complaint unless it was to be left running. -/
theorem clean_of_cleanUp {p : Progress} {failed : Bool} {logs : String} {b c : Bench}
    (h : (t.cleanUp .usual p failed).exec b = (.ok ([], logs), c)) :
    (∀ r, p.receiver = some r → ∃ d, r.terminate.exec b = (.ok none, d) ∧
      d.Steady [t.serverName] c) ∧
    ((t.settings .keepServer : Bool) = false →
      ∃ d, (Server.stop t.serverName).exec (t.stopBench .usual p failed b) = (.ok none, d) ∧
        d.Steady [] c) := by
  obtain ⟨hhandled, hcleaned, hc⟩ := (t.exec_cleanUp_eq_ok_iff .usual).1 h
  have hnil := congrArg Prod.fst hcleaned
  dsimp only at hhandled hnil hc
  rw [dueCalls, Crew.makeCalls_append] at hhandled hnil hc
  rw [MadeCall.errorsOf_append, List.append_eq_nil_iff] at hnil
  rw [List.forall_mem_append] at hhandled
  -- what comes after the calls only reports
  have hsaid :
      (Crew.usual.makeCalls t.stopCalls (t.stopBench .usual p failed b)).2.Steady [] c := by
    rw [← hc]
    exact Frame.holds_sayingAll Steady.keeps_say _ _
  have hstop : (t.stopBench .usual p failed b).Steady [t.serverName] c := by
    refine (steady_makeCalls ?_ _).trans (hsaid.mono (by simp))
    intro call hcall name hname
    unfold stopCalls at hcall
    split at hcall
    · cases hcall
    · rw [List.mem_singleton.1 hcall] at hname
      cases hname
      exact List.mem_singleton_self _
  constructor
  · intro r hr
    rw [hr, Option.toList_some, List.map_singleton, Crew.makeCalls_append,
      MadeCall.errorsOf_append, List.append_eq_nil_iff] at hnil
    rw [hr, Option.toList_some, List.map_singleton, Crew.makeCalls_append,
      List.forall_mem_append] at hhandled
    obtain ⟨text, hanswer⟩ := answered_of_makeCalls hhandled.1.1 hnil.1.1
    refine ⟨_, of_answerOf hanswer, ?_⟩
    have hbench : t.stopBench .usual p failed b =
        (Crew.usual.makeCalls (t.logCalls p.server failed)
          (Crew.usual.makeCalls [.terminate r] b).2).2 := by
      rw [stopBench, hr, Crew.makeCalls_append]
      rfl
    rw [hbench] at hstop
    refine Bench.Steady.trans (steady_makeCalls ?_ _) hstop
    -- the log is all that is asked for in between
    intro call hcall name hname
    unfold logCalls at hcall
    split at hcall
    · rw [List.mem_singleton.1 hcall] at hname
      cases hname
    · cases hcall
  · intro hkeep
    have hcalls : t.stopCalls = [.stop t.serverName] := by
      rw [stopCalls, hkeep]
      rfl
    rw [hcalls] at hhandled hnil hsaid
    obtain ⟨text, hanswer⟩ := answered_of_makeCalls hhandled.2 hnil.2
    exact ⟨_, of_answerOf hanswer, hsaid⟩

/-- After a clean-up without errors no process is running that was started since. -/
theorem over_of_cleanUp {p : Progress} {failed : Bool} {logs : String} {b c d e : Bench}
    (hacc : b.Accounted [t.serverName] p.receiver c) (hnext : b.NextIsFree)
    (h : (t.cleanUp .usual p failed).exec c = (.ok ([], logs), d)) (hs : d.Steady [] e) :
    ∀ child ∈ e.children.drop b.children.length, child.isLive = false := by
  intro child hmem
  obtain ⟨i, hi⟩ := List.mem_iff_getElem?.1 hmem
  rw [List.getElem?_drop] at hi
  obtain ⟨hlt, -⟩ := List.getElem?_eq_some_iff.1 hi
  have hcleaned : c.Steady [t.serverName] d :=
    (Steady.keeps_cleanUp t (List.mem_singleton_self _) p failed).holds h
  have hlater := ((hacc.steady hcleaned).steady (hs.mono (by simp))).processes
  cases hr : p.receiver with
  | none =>
    rw [hr] at hlater
    have hlength : e.children.length = b.children.length := hlater
    omega
  | some r =>
    rw [hr] at hlater hacc
    have hlast : r.IsLast b.children.length e := hlater
    have hlength := hlast.length
    -- the process is the receiver
    have hzero : i = 0 := by omega
    subst hzero
    obtain ⟨_, _, _, houtput, -⟩ := hlast.process
    obtain ⟨f, hterminate, hf⟩ := (t.clean_of_cleanUp h).1 r hr
    obtain ⟨killed, hk, hover⟩ := Receiver.over_of_terminate (hacc.finds hnext) houtput hterminate
    obtain ⟨later, hlater, hgoes⟩ := (hf.trans (hs.mono (by simp))).children _ killed hk
    rw [Nat.add_zero, hlater] at hi
    cases hi
    exact hgoes.ended hover

/-- After a clean-up without errors the output of the receiver is closed. -/
theorem closed_of_cleanUp {p : Progress} {failed : Bool} {logs : String} {r : Receiver}
    {b c d e : Bench} (hr : p.receiver = some r) (hacc : b.Accounted [t.serverName] p.receiver c)
    (h : (t.cleanUp .usual p failed).exec c = (.ok ([], logs), d)) (hs : d.Steady [] e) :
    ∃ n o, r.output = some n ∧ e.desk.outputs[n]? = some o ∧ o.closed = true := by
  rw [hr] at hacc
  have hlast : r.IsLast b.children.length c := hacc.processes
  obtain ⟨child, -, -, houtput, hlt⟩ := hlast.process
  obtain ⟨f, hterminate, hf⟩ := (t.clean_of_cleanUp h).1 r hr
  have hstopped : c.Steady [] f := (Steady.keeps_terminate r).holds hterminate
  obtain ⟨o, ho, -⟩ := hstopped.desk.outputs _ _ (List.getElem?_eq_getElem hlt)
  obtain ⟨later, hlater, hgoes⟩ := (hf.trans (hs.mono (by simp))).desk.outputs _ o ho
  exact ⟨_, later, houtput, hlater,
    hgoes.closed (Receiver.closed_of_terminate houtput hterminate o ho)⟩

/-- After a clean-up without errors the server is gone, unless it was to be left running. -/
theorem absent_of_cleanUp {p : Progress} {failed : Bool} {logs : String} {c d e : Bench}
    (h : (t.cleanUp .usual p failed).exec c = (.ok ([], logs), d)) (hs : d.Steady [] e)
    (htruth : (t.stopBench .usual p failed c).daemon.TellsTruth t.serverName)
    (hkeep : (t.settings .keepServer : Bool) = false) : e.daemon.id? t.serverName = none := by
  obtain ⟨f, hstop, hf⟩ := (t.clean_of_cleanUp h).2 hkeep
  rw [(hf.trans hs).containers _ (List.not_mem_nil)]
  exact Server.absent_of_stop htruth hstop

/-! ### The artifacts -/

theorem removeArtifacts_eq_ok {b c : Bench} (h : t.removeArtifacts.exec b = (.ok (), c)) :
    ∃ fs, b.files.deleteTree t.artifacts = .ok fs ∧ c = b.withFiles fs := by
  unfold removeArtifacts at h
  rw [exec_bind_of_ok (exec_ask _ b)] at h
  obtain ⟨_, d, hperhaps, h⟩ := exec_bind_eq_ok.1 h
  obtain ⟨-, rfl⟩ := exec_perhaps_eq_ok.1 hperhaps
  obtain ⟨fs, hfs, rfl⟩ := exec_onFiles_eq_ok.1 h
  exact ⟨fs, hfs, rfl⟩

/-- If there is nothing to complain of in the end, there was nothing before, and the directory of
artifacts was left as it was or was removed. -/
theorem left_of_settle {startedAt : Moment} {p : Progress} {ended : Except Raised Unit}
    {cleaned : List TrialError × String} {o : Outcome} {b c : Bench}
    (h : (t.settle startedAt p ended cleaned).exec b = (.ok o, c)) (hclean : o.cleanupErrors = []) :
    cleaned.1 = [] ∧ ∃ d, b.Steady [] d ∧
      ((t.keeps o.succeeded = true ∧ c = d) ∨
        (t.keeps o.succeeded = false ∧
          ∃ fs, d.files.deleteTree t.artifacts = .ok fs ∧ c = d.withFiles fs)) := by
  obtain ⟨-, content, d, hread, hf⟩ := t.settle_eq_ok h
  have hd : b.Steady [] d := (Frame.keeps_read (F := .steady []) _).holds hread
  rcases t.finalize_eq_ok hf with ⟨hkeeps, report, e, hsave, rfl, rfl⟩ | ⟨hkeeps, hremove, rfl⟩ |
    ⟨-, e, rfl⟩
  · have he : d.Steady [] e := (Steady.keeps_save _ _).holds hsave
    exact ⟨hclean, _, (hd.trans he).trans (Steady.keeps_say _ e), .inl ⟨hkeeps, rfl⟩⟩
  · exact ⟨hclean, d, hd, .inr ⟨hkeeps, t.removeArtifacts_eq_ok hremove⟩⟩
  · cases (List.append_eq_nil_iff.1 hclean).2

/-! ### A clean outcome -/

/-- A trial whose outcome has no errors of the clean-up has cleaned up without errors, and has then
left the directory of artifacts as it was or removed it. -/
theorem clean_of_homecoming {startedAt : Moment} {j : Journey} {o : Outcome} {c : Bench}
    (h : t.homecoming .usual startedAt j = (.ok o, c)) (hclean : o.cleanupErrors = []) :
    ∃ logs d e,
      (t.cleanUp .usual j.progress (failureOf j.ended).isSome).exec (homeBench j) =
        (.ok ([], logs), d) ∧ d.Steady [] e ∧
      ((t.keeps o.succeeded = true ∧ c = e) ∨
        (t.keeps o.succeeded = false ∧
          ∃ fs, e.files.deleteTree t.artifacts = .ok fs ∧ c = e.withFiles fs)) := by
  obtain ⟨⟨errors, logs⟩, d, hcleanup, h⟩ := exec_bind_eq_ok.1 h
  obtain ⟨rfl, e, hs, hleft⟩ := t.left_of_settle h hclean
  exact ⟨logs, d, e, hcleanup, hs, hleft⟩

/-- **A clean outcome, a clean world.**  A trial, however it ends, changes no container but that of
its server.  If it comes to an outcome without errors of the clean-up, no process that it started is
running, the output of the receiver that it held is closed, the server is gone unless it was to be
left running -- however far its start had come, as long as the daemon does not deny it when it is to
be removed --, and the directory of artifacts is there iff it was to be kept. -/
theorem clean_world (b : Bench) :
    (∀ other ≠ t.serverName, (t.run.exec b).2.daemon.id? other = b.daemon.id? other) ∧
    ∀ o b', t.run.exec b = (.ok o, b') → o.cleanupErrors = [] → b.NextIsFree →
      ∃ fs place, b.files.makeDir t.artifacts = .ok fs ∧ b.files.locate t.artifacts = .ok place ∧
        let j := t.journey .usual (t.outset fs b)
        let stopped := t.stopBench .usual j.progress (failureOf j.ended).isSome (homeBench j)
        (∀ child ∈ b'.children.drop b.children.length, child.isLive = false) ∧
        (∀ r, j.visits.findSome? (t.receiver? .usual) = some r →
          ∃ n out, r.output = some n ∧ b'.desk.outputs[n]? = some out ∧ out.closed = true) ∧
        (stopped.daemon.TellsTruth t.serverName → (t.settings .keepServer : Bool) = false →
          b'.daemon.id? t.serverName = none) ∧
        b'.files.node? place =
          if (t.settings .keepArtifacts : Bool) = true ∨
            (o.succeeded = false ∧ (t.settings .keepArtifactsOnFailure : Bool) = true)
          then some .dir else none := by
  have hname : t.serverName ∈ [t.serverName] := List.mem_singleton_self _
  refine ⟨fun other hne => Containers.keeps_run t hname b other (by simpa using hne), ?_⟩
  intro o b' hrun hclean hnext
  obtain ⟨fs, made, c, hhome, rfl⟩ := t.homecoming_of_run hrun
  obtain ⟨place, hplace, hroot, hdir⟩ := Files.node?_of_makeDir made
  refine ⟨fs, place, made, hplace, ?_⟩
  intro j stopped
  -- the clean-up is without errors, and what follows it leaves the processes and the daemon alone
  obtain ⟨logs, d, e, hcleanup, hs, hleft⟩ := t.clean_of_homecoming hhome hclean
  have hacc : (t.outset fs b).Accounted [t.serverName] j.progress.receiver (homeBench j) :=
    (t.accounted_journey hname (.refl _)).steady
      (Frame.holds_homeBench Steady.keeps_say (Steady.keeps_enter _) j)
  obtain ⟨hchildren, hdesk, hdaemon⟩ := t.parting_keeps b.context o c
  have hsame : c.children = e.children ∧ c.desk.outputs = e.desk.outputs ∧ c.daemon = e.daemon := by
    rcases hleft with ⟨-, rfl⟩ | ⟨-, fs', -, rfl⟩
    · exact ⟨rfl, rfl, rfl⟩
    · exact ⟨rfl, rfl, rfl⟩
  refine ⟨?_, fun r hr => ?_, fun htruth hkeep => ?_, ?_⟩
  · rw [hchildren, hsame.1]
    have hover := t.over_of_cleanUp hacc hnext hcleanup hs
    exact hover
  · rw [hdesk, hsame.2.1]
    have hheld : j.progress.receiver = some r := (t.receiver_journey .usual _).trans hr
    exact t.closed_of_cleanUp hheld hacc hcleanup hs
  · rw [hdaemon, hsame.2.2]
    exact t.absent_of_cleanUp hcleanup hs htruth hkeep
  · have hcleaned : (homeBench j).Steady [t.serverName] d :=
      (Steady.keeps_cleanUp t hname _ _).holds hcleanup
    -- the directory stays until it is removed
    have hlater : e.files.node? place = some .dir :=
      hs.desk.dirs place (hcleaned.desk.dirs place (hacc.desk.dirs place hdir))
    have hfiles : (t.parting b.context (.ok o, c)).files = c.files := congrArg Desk.files hdesk
    have hkeeps : t.keeps o.succeeded = true ↔
        (t.settings .keepArtifacts : Bool) = true ∨
          (o.succeeded = false ∧ (t.settings .keepArtifactsOnFailure : Bool) = true) := by
      simp [keeps]
    rw [hfiles]
    rcases hleft with ⟨hkept, rfl⟩ | ⟨hremoved, fs', hdelete, rfl⟩
    · rw [if_pos (hkeeps.1 hkept), hlater]
    · rw [if_neg fun h => by rw [hkeeps.2 h] at hremoved; cases hremoved]
      exact Files.node?_of_deleteTree hplace hroot hdelete

/-- A trial whose sender fails leaves its receiver stopped, its server removed, the other container
in its place, and the directory of artifacts for whoever looks into the failure. -/
theorem clean_world_of_failing_sender :
    let t : Trial := ⟨Settings.default, "r1"⟩
    let b : Bench := { Bench.quiet with
      daemon := { containers := [("other", "id9")], created := 9 }
      errands := [{ status := 1 }] }
    ∃ o b', t.run.exec b = (.ok o, b') ∧ o.succeeded = false ∧
      b'.children.length = 1 ∧ (∀ child ∈ b'.children, child.isLive = false) ∧
      (∃ out, b'.desk.outputs[0]? = some out ∧ out.closed = true) ∧
      b'.daemon.id? t.serverName = none ∧ b'.daemon.id? "other" = some "id9" ∧
      b'.files.node? ["tmp", artifactsName] = some .dir := by
  intro t b
  let fs := b.files.put ["tmp", artifactsName] .dir
  let j := t.journey .usual (t.outset fs b)
  have returned : (t.run.exec b).1.toOption.map (fun o => (o.succeeded, o.cleanupErrors.isEmpty)) =
      some (false, true) := by decide +kernel
  have hchildren : (t.run.exec b).2.children.length = 1 := by decide +kernel
  have hdue : ∀ request ∈ [Request.lookup, Request.remove],
      ((t.stopBench .usual j.progress (failureOf j.ended).isSome (homeBench j)).daemon.due
        request).isNone = true := by decide +kernel
  have hreceiver : (j.visits.findSome? (t.receiver? .usual)).map (·.output) = some (some 0) := by
    decide +kernel
  obtain ⟨hothers, hworld⟩ := clean_world t b
  have hother := hothers "other" (by decide)
  rcases h : t.run.exec b with ⟨raised | o, b'⟩
  · rw [h] at returned
    cases returned
  rw [h] at returned hchildren hother
  obtain ⟨hsucceeded, hempty⟩ := Prod.ext_iff.1 (Option.some.inj returned)
  have hclean : o.cleanupErrors = [] := List.isEmpty_iff.1 hempty
  obtain ⟨fs', place, made, hplace, hover, hclosed, habsent, hnode⟩ :=
    hworld o b' h hclean (by simp [Bench.NextIsFree, b, Bench.quiet])
  obtain rfl : fs' = fs := Except.ok.inj (made.symm.trans rfl)
  obtain rfl : place = ["tmp", artifactsName] := Except.ok.inj (hplace.symm.trans rfl)
  obtain ⟨r, hr, houtput⟩ := Option.map_eq_some_iff.1 hreceiver
  obtain ⟨n, out, hn, hout, hoclosed⟩ := hclosed r hr
  rw [houtput] at hn
  cases hn
  refine ⟨o, b', rfl, hsucceeded, hchildren, hover, ⟨out, hout, hoclosed⟩, ?_, hother, ?_⟩
  · refine habsent (fun request hmem f hf => ?_) rfl
    have hnone := hdue request hmem
    rw [hf] at hnone
    cases hnone
  · rw [hnode, if_pos (.inr ⟨hsucceeded, rfl⟩)]

end Trial
end ClientTrial
