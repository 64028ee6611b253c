import ClientTrial.Proofs.Bench.Steady
import ClientTrial.Proofs.Client
import ClientTrial.Proofs.Tasks

/-!
# What the usual crew leaves alone

Whatever becomes of it, a task of the usual crew changes no container but the one it
is about, removes no directory, opens no closed file and lets no background process
run again.  Only a receiver that is started adds a process, and then it is answered
as the one to be stopped.  A receiver that is stopped without complaint is over and
its output is closed.

## Main definitions

* `Bench.Finds` — a process is found by its number at a place.

## Main results

* `Steady.keeps_save`, `Steady.keeps_terminate` — tasks that stay in the frame.
* `Client.runBackground_eq_ok`, `Client.runBackground_eq_error` — what a receiver that is
  started adds, and that nothing is added if it is not.
* `Receiver.over_of_terminate`, `Receiver.closed_of_terminate` — a receiver that was stopped.
-/

namespace ClientTrial

open Act

namespace Steady

open Act.Frame

variable {free : List String}

theorem keeps_save (r : Report) (dir : Route) : (steady free).Keeps (r.save dir) :=
  Frame.keeps_save (keeps_onFiles fun _ _ h => Files.keepsDirs_makeDirs h) keeps_write r

theorem keeps_terminate (r : Receiver) : (steady free).Keeps r.terminate :=
  Frame.keeps_terminate keeps_say r (keeps_kill _) (keeps_wait _) keeps_closeOutput

end Steady

/-! ### A receiver that is started -/

namespace Client

variable {free : List String}

/-- A receiver that is not started leaves nothing behind but its file. -/
theorem runBackground_eq_error {command : List String} {added : List (String × String)}
    {route : Route} {b c : Bench} {raised : Raised}
    (h : (runBackground command added route).exec b = (.error raised, c)) : b.Steady free c := by
  unfold runBackground at h
  rcases exec_bind_eq_error.1 h with h | ⟨n, d, ho, h⟩
  · exact (Steady.keeps_openOutput route).holds h
  · refine ((Steady.keeps_openOutput route).holds ho).trans ?_
    rw [exec_bind_of_ok (exec_ask _ d), exec_bind_of_ok (exec_ask _ _),
      exec_bind_of_ok (exec_attempt _ _)] at h
    rcases hs : (spawn command (overlay d.environ added) d.workingDir route n).exec d with
      ⟨r | pid, e⟩
    · have closing (f : Fault) : (Act.Frame.steady free).Keeps (do
          closeOutput n
          say (.notStarted (firstWord command) f.text)
          throw (.trial (.processFailed command spawnFailedStatus false) (some f)) :
          Act Receiver) := by
        refine Frame.keeps_bind (Steady.keeps_closeOutput n) fun _ => ?_
        exact Frame.keeps_bind (Steady.keeps_say _) fun _ => Frame.keeps_throw _
      rw [hs] at h
      refine Bench.Steady.trans (Steady.spawn_eq_error hs) ?_
      dsimp only at h
      split at h
      · cases h
        exact .refl _
      · exact (closing _).holds h
    · rw [hs] at h
      cases h

/-- A receiver that is started is the last of all processes, has the next number, and writes to a
file that was opened for it. -/
theorem runBackground_eq_ok {command : List String} {added : List (String × String)}
    {route : Route} {b c : Bench} {r : Receiver}
    (h : (runBackground command added route).exec b = (.ok r, c)) :
    b.Leads free c ∧ r.pid = 4242 + b.children.length ∧
      ∃ child n, c.children = b.children ++ [child] ∧ child.pid = r.pid ∧ child.output = n ∧
        r.output = some n ∧ n < c.desk.outputs.length := by
  obtain ⟨n, d, pid, e, ho, hs, rfl, hpid, houtput⟩ := spawned_of_runBackground h
  have hopen : b.Steady free d := (Steady.keeps_openOutput route).holds ho
  obtain ⟨fs, place, -, -, rfl, hd⟩ := openOutput_eq_ok ho
  have hchildren : d.children = b.children := by
    rw [hd]
  have houtputs : d.desk.outputs.length = b.desk.outputs.length + 1 := by
    rw [hd]
    simp
  -- the process comes after those that were there when the file was opened
  have hspawn : d.Leads free e ∧ _ := Steady.spawn_eq_ok hs
  obtain ⟨hleads, hnumber, child, hc, hchild, hwrites⟩ := hspawn
  have hsaid : e.Leads free (e.saying (.started command pid route.text)) :=
    (Steady.keeps_say _ e).toLeads
  rw [hchildren] at hc hnumber
  refine ⟨(hopen.toLeads.trans hleads).trans hsaid, hpid.trans hnumber, child, _, hc,
    hchild.trans hpid.symm, hwrites, houtput, ?_⟩
  -- the file that was opened is still one of those opened
  obtain ⟨o, ho, -⟩ := hleads.desk.outputs b.desk.outputs.length _
    (List.getElem?_eq_getElem (by omega))
  exact (List.getElem?_eq_some_iff.1 ho).1

end Client

/-! ### A receiver that is stopped -/

/-- The first process with a number stands at a place. -/
structure Bench.Finds (pid : Int) (k : Nat) (b : Bench) : Prop where
  self : ∃ child, b.children[k]? = some child ∧ child.pid = pid
  first : ∀ i < k, ∀ child, b.children[i]? = some child → child.pid ≠ pid

namespace Bench.Finds

variable {free : List String} {pid : Int} {k : Nat} {b c : Bench}

theorem of_leads (h : b.Finds pid k) (hl : b.Leads free c) : c.Finds pid k := by
  obtain ⟨child, hk, hpid⟩ := h.self
  obtain ⟨later, hlater, hgoes⟩ := hl.children k child hk
  refine ⟨⟨later, hlater, hgoes.pid.trans hpid⟩, fun i hi other hother => ?_⟩
  -- what stands before the place stood there already
  obtain ⟨hlt, -⟩ := List.getElem?_eq_some_iff.1 hk
  have hbefore : b.children[i]? = some b.children[i] := List.getElem?_eq_getElem (by omega)
  obtain ⟨same, hsame, hgoes⟩ := hl.children i _ hbefore
  rw [hother] at hsame
  cases hsame
  rw [hgoes.pid]
  exact h.first i hi _ hbefore

/-- A process is looked for by its number. -/
theorem find? (h : b.Finds pid k) :
    ∃ child, b.children[k]? = some child ∧ b.children.find? (·.pid == pid) = some child := by
  obtain ⟨child, hk, hpid⟩ := h.self
  obtain ⟨hlt, hget⟩ := List.getElem?_eq_some_iff.1 hk
  refine ⟨child, hk, ?_⟩
  rw [List.find?_eq_some_iff_getElem]
  refine ⟨by simp [hpid], k, hlt, hget, fun i hi => ?_⟩
  have hne := h.first i hi _ (List.getElem?_eq_getElem (by omega))
  simpa using hne

end Bench.Finds

/-- A process that was dealt with is answered as it is found. -/
theorem Act.dealWith_eq_ok {pid : Int} {dealing : Dealing} {child : Option Child} {b c : Bench}
    (h : (dealWith pid dealing).exec b = (.ok child, c)) :
    child = b.children.find? (·.pid == pid) ∧ c = b := by
  unfold dealWith at h
  rw [child?, exec_bind_of_ok (exec_ask _ b), exec_bind_of_ok (exec_ask _ b)] at h
  obtain ⟨_, d, hincident, h⟩ := exec_bind_eq_ok.1 h
  obtain ⟨-, rfl⟩ := exec_perhaps_eq_ok.1 hincident
  cases h
  exact ⟨rfl, rfl⟩

/-- A process that was waited for is over. -/
theorem Act.wait_eq_ok {pid status : Int} {k : Nat} {b c : Bench} (hfinds : b.Finds pid k)
    (h : (wait pid).exec b = (.ok status, c)) :
    ∃ child, c.children[k]? = some child ∧ child.isLive = false := by
  obtain ⟨child, hk, hfound⟩ := hfinds.find?
  unfold wait at h
  rw [exec_bind_of_ok (exec_note _ b)] at h
  obtain ⟨_, d, hdealt, h⟩ := exec_bind_eq_ok.1 h
  obtain ⟨rfl, rfl⟩ := dealWith_eq_ok hdealt
  rw [show (b.noting (.wait pid)).children.find? (·.pid == pid) = some child from hfound,
    Option.bind_some] at h
  cases hstatus : child.status with
  | none =>
    rw [hstatus] at h
    cases h
  | some status =>
    rw [hstatus] at h
    cases h
    exact ⟨child, hk, by rw [Child.isLive, hstatus]; rfl⟩

namespace Receiver

variable {r : Receiver} {k : Nat} {b c : Bench}

/-- A receiver that was halted is over. -/
theorem over_of_halt (hfinds : b.Finds r.pid k) (h : r.halt.exec b = (.ok (), c)) :
    ∃ child, c.children[k]? = some child ∧ child.isLive = false := by
  have waited {d : Bench} (hd : b.Steady [] d) (h : (do
      let status ← wait r.pid
      say (.stopped (Client.firstWord r.command) r.pid status)).exec d = (.ok (), c)) :
      ∃ child, c.children[k]? = some child ∧ child.isLive = false := by
    obtain ⟨status, e, hwait, hsay⟩ := exec_bind_eq_ok.1 h
    cases hsay
    obtain ⟨child, hk, hover⟩ := wait_eq_ok (hfinds.of_leads hd.toLeads) hwait
    exact ⟨child, hk, hover⟩
  unfold halt at h
  obtain ⟨running, d, hrunning, h⟩ := exec_bind_eq_ok.1 h
  have hd : b.Steady [] d := (Frame.keeps_isRunning (F := .steady []) _).holds hrunning
  cases running with
  | false => exact waited hd h
  | true =>
    obtain ⟨_, e, hkill, h⟩ := exec_bind_eq_ok.1 h
    exact waited (hd.trans ((Steady.keeps_kill _).holds hkill)) h

theorem halt_of_tryHalt (h : r.tryHalt.exec b = (.ok none, c)) : r.halt.exec b = (.ok (), c) := by
  unfold tryHalt at h
  rw [exec_bind_of_ok (exec_attempt _ b)] at h
  rcases hh : r.halt.exec b with ⟨raised | _, d⟩
  · rw [hh] at h
    dsimp only at h
    split at h
    · cases h
    · obtain ⟨_, _, -, h⟩ := exec_bind_eq_ok.1 h
      cases h
  · rw [hh] at h
    cases h
    rfl

/-- A file that was closed without complaint is closed. -/
theorem closed_of_closeOutput {n : Nat} (h : (closeOutput n).exec b = (.ok (), c)) :
    ∀ o, c.desk.outputs[n]? = some o → o.closed = true := by
  unfold closeOutput at h
  obtain ⟨_, _, -, h⟩ := exec_bind_eq_ok.1 h
  obtain ⟨_, _, -, h⟩ := exec_bind_eq_ok.1 h
  obtain ⟨_, d, -, h⟩ := exec_bind_eq_ok.1 h
  cases h
  intro o ho
  have hmodified : (d.desk.outputs.modify n fun o => { o with closed := true })[n]? = some o := ho
  rw [List.getElem?_modify_eq] at hmodified
  obtain ⟨_, -, rfl⟩ := Option.map_eq_some_iff.1 hmodified
  rfl

/-- If nothing is to be complained of once the output of a receiver is closed, there was nothing
before, and the output is closed. -/
theorem closed_of_tryClose {earlier : Option TrialError} {n : Nat} (hn : r.output = some n)
    (h : (r.tryClose earlier).exec b = (.ok none, c)) :
    earlier = none ∧ ∀ o, c.desk.outputs[n]? = some o → o.closed = true := by
  unfold tryClose at h
  rw [hn] at h
  dsimp only at h
  rw [isClosed, exec_bind_of_ok (exec_ask _ b)] at h
  split at h
  · next hclosed =>
    cases h
    refine ⟨rfl, fun o ho => ?_⟩
    rw [ho] at hclosed
    exact hclosed
  · unfold close at h
    rw [exec_bind_of_ok (exec_attempt _ b)] at h
    rcases hclose : (closeOutput n).exec b with ⟨raised | _, d⟩
    · -- an output that could not be closed is something to complain of
      rw [hclose] at h
      dsimp only at h
      split at h
      · cases h
      · obtain ⟨_, _, -, h⟩ := exec_bind_eq_ok.1 h
        cases earlier <;> cases h
    · rw [hclose] at h
      cases h
      exact ⟨rfl, closed_of_closeOutput hclose⟩

/-- A receiver that was stopped without complaint is over. -/
theorem over_of_terminate (hfinds : b.Finds r.pid k) {n : Nat} (hn : r.output = some n)
    (h : r.terminate.exec b = (.ok none, c)) :
    ∃ child, c.children[k]? = some child ∧ child.isLive = false := by
  obtain ⟨failure, d, htry, h⟩ := exec_bind_eq_ok.1 h
  obtain ⟨rfl, -⟩ := closed_of_tryClose hn h
  obtain ⟨child, hk, hover⟩ := over_of_halt hfinds (halt_of_tryHalt htry)
  have hd : d.Steady [] c :=
    (Frame.keeps_tryClose Steady.keeps_say r Steady.keeps_closeOutput none).holds h
  obtain ⟨later, hlater, hgoes⟩ := hd.children k child hk
  exact ⟨later, hlater, hgoes.ended hover⟩

/-- The output of a receiver that was stopped without complaint is closed. -/
theorem closed_of_terminate {n : Nat} (hn : r.output = some n)
    (h : r.terminate.exec b = (.ok none, c)) :
    ∀ o, c.desk.outputs[n]? = some o → o.closed = true := by
  obtain ⟨failure, d, -, h⟩ := exec_bind_eq_ok.1 h
  exact (closed_of_tryClose hn h).2

end Receiver
end ClientTrial
