import ClientTrial.Client

/-!
# What becomes of the commands of a client

## Main definitions

* `Bench.Exits` — a command is spawned, ends in time and exits with a status.
* `Bench.Spawns` — a command is spawned in the background.

## Main results

* `Client.runForeground_answers_iff`, `Client.runBackground_answers_iff` — when a command is taken
  for run, and for started.
-/

namespace ClientTrial

open Act

/-- On a bench a command that is run to its end is spawned, ends within some seconds if they are
limited, and exits with a status. -/
def Bench.Exits (command : List String) (timeout : Option Float) (status : Int) (b : Bench) :
    Prop :=
  command ≠ [] ∧ (b.errands.headD {}).spawnIncident = none ∧
    (∀ limit, timeout = some limit → ¬limit < (b.errands.headD {}).duration) ∧
    (b.errands.headD {}).status = status

/-- On a bench a file can be opened for the output of a command, and the command is spawned in the
background. -/
def Bench.Spawns (command : List String) (route : Route) (b : Bench) : Prop :=
  (openOutput route).Answers b ∧ command ≠ [] ∧
    (b.scripts.headD {}).spawnIncident = none

namespace Client

/-- A command that is run to its end answers the status that it exits with. -/
theorem runErrand_eq_ok_iff {command : List String} {environ : List (String × String)}
    {dir : Option String} {timeout : Option Float} {b : Bench} {status : Int} :
    ((runErrand command environ dir timeout).exec b).1 = .ok status ↔
      b.Exits command timeout status := by
  unfold runErrand Bench.Exits
  rw [exec_bind_of_ok (exec_ask _ b), exec_bind_of_ok (exec_change _ b),
    exec_bind_of_ok (exec_note _ _)]
  generalize b.errands.headD {} = errand
  by_cases hc : command = []
  · simp [hc]
  · simp only [hc, if_false]
    cases hs : errand.spawnIncident with
    | some raised => simp [exec_bind]
    | none =>
      rw [exec_bind_of_ok (exec_perhaps_none _)]
      cases hf : timeout.filter fun limit => decide (limit < errand.duration) with
      | some limit =>
        -- the limit is passed
        obtain ⟨hlimit, hlt⟩ := Option.filter_eq_some_iff.1 hf
        simp only [exec_bind_of_ok (exec_elapse _ _), exec_throw, reduceCtorEq, false_iff]
        rintro ⟨-, -, htime, -⟩
        exact htime limit hlimit (of_decide_eq_true hlt)
      | none =>
        have htime : ∀ limit, timeout = some limit → ¬limit < errand.duration := by
          intro limit hlimit hlt
          rw [hlimit, Option.filter_some, if_pos (decide_eq_true hlt)] at hf
          cases hf
        simp only [exec_bind_of_ok (exec_elapse _ _), exec_bind_of_ok (exec_change _ _), exec_pure,
          Except.ok.injEq]
        exact ⟨fun h => ⟨hc, trivial, htime, h⟩, fun h => h.2.2.2⟩

/-- A client counts as run iff its command exits with status zero. -/
theorem runForeground_answers_iff {command : List String} {added : List (String × String)}
    {timeout : Option Float} {b : Bench} :
    (runForeground command added timeout).Answers b ↔ b.Exits command timeout 0 := by
  unfold runForeground Answers
  rw [exec_bind_of_ok (exec_say _ b), exec_bind_of_ok (exec_ask _ _),
    exec_bind_of_ok (exec_ask _ _), exec_bind_of_ok (exec_attempt _ _)]
  have hexits (status : Int) : _ ↔ b.Exits command timeout status :=
    @runErrand_eq_ok_iff command (overlay (b.saying (.running command)).environ added)
      (b.saying (.running command)).workingDir timeout (b.saying (.running command)) status
  rcases hended : (runErrand command (overlay (b.saying (.running command)).environ added)
    (b.saying (.running command)).workingDir timeout).exec (b.saying (.running command)) with
    ⟨raised | status, c⟩
  · rw [hended] at hexits
    have hnot : ¬b.Exits command timeout 0 := fun h => nomatch (hexits 0).2 h
    refine iff_of_false ?_ hnot
    rintro ⟨status, h⟩
    dsimp only at h
    split at h
    · cases h
    · cases h
    · cases h
  · rw [hended] at hexits
    have hstatus : b.Exits command timeout 0 ↔ status = 0 := by
      rw [← hexits 0]
      simp
    rw [hstatus]
    by_cases hz : status = 0
    · subst hz
      exact iff_of_true ⟨0, rfl⟩ rfl
    · refine iff_of_false ?_ hz
      rintro ⟨_, h⟩
      dsimp only at h
      rw [if_pos hz] at h
      cases h

/-- What the opening of a file for output does: the file is emptied or made, and it is the last of
those opened. -/
theorem openOutput_eq_ok {route : Route} {b c : Bench} {n : Nat}
    (h : (openOutput route).exec b = (.ok n, c)) :
    ∃ fs place, b.files.write route [] = .ok fs ∧ fs.locate route = .ok place ∧
      n = b.desk.outputs.length ∧
      c = { b with desk := ⟨fs, b.desk.outputs ++ [{ route, place }]⟩ } := by
  unfold openOutput at h
  obtain ⟨_, d, hwrite, h⟩ := exec_bind_eq_ok.1 h
  obtain ⟨fs, hfs, rfl⟩ := exec_onFiles_eq_ok.1 hwrite
  obtain ⟨place, e, hplace, h⟩ := exec_bind_eq_ok.1 h
  rw [exec_fromFiles] at hplace
  obtain ⟨hplace, rfl⟩ := Prod.ext_iff.1 hplace
  cases hl : fs.locate route with
  | error f =>
    rw [show (b.withFiles fs).files = fs from rfl, hl] at hplace
    cases hplace
  | ok place' =>
    rw [show (b.withFiles fs).files = fs from rfl, hl] at hplace
    cases hplace
    cases h
    exact ⟨fs, place, hfs, hl, rfl, rfl⟩

/-- A command is started in the background iff it is spawned, and its number is answered. -/
theorem spawn_answers_iff {command : List String} {environ : List (String × String)}
    {dir : Option String} {route : Route} {output : Nat} {b : Bench} :
    (spawn command environ dir route output).Answers b ↔
      command ≠ [] ∧ (b.scripts.headD {}).spawnIncident = none := by
  unfold spawn Answers
  rw [exec_bind_of_ok (exec_ask _ b), exec_bind_of_ok (exec_change _ b),
    exec_bind_of_ok (exec_note _ _)]
  generalize b.scripts.headD {} = script
  by_cases hc : command = []
  · simp [hc]
  · simp only [hc, if_false]
    cases hs : script.spawnIncident with
    | some raised => simp [exec_bind]
    | none => exact iff_of_true ⟨_, rfl⟩ ⟨hc, rfl⟩

/-- A client is started iff a file can be opened for its output and its command is spawned. -/
theorem runBackground_answers_iff {command : List String} {added : List (String × String)}
    {route : Route} {b : Bench} :
    (runBackground command added route).Answers b ↔ b.Spawns command route := by
  unfold runBackground Bench.Spawns Answers
  rcases h : (openOutput route).exec b with ⟨raised | n, c⟩
  · simp [exec_bind_of_error h]
  · have hscripts : c.scripts = b.scripts := by
      obtain ⟨fs, place, -, -, -, rfl⟩ := openOutput_eq_ok h
      rfl
    rw [exec_bind_of_ok h, exec_bind_of_ok (exec_ask _ c), exec_bind_of_ok (exec_ask _ _),
      exec_bind_of_ok (exec_attempt _ _)]
    have hspawn := @spawn_answers_iff command (overlay c.environ added) c.workingDir route n c
    rw [hscripts] at hspawn
    refine Iff.trans ?_ (hspawn.trans (Iff.symm (and_iff_right ⟨n, rfl⟩)))
    rcases hs : (spawn command (overlay c.environ added) c.workingDir route n).exec c with
      ⟨raised | pid, d⟩
    · refine iff_of_false ?_ (not_answers_of_exec hs)
      rintro ⟨r, hr⟩
      dsimp only at hr
      split at hr
      · cases hr
      · -- the output is closed again, and the failure is told
        obtain ⟨_, _, -, h⟩ := exec_bind_eq_ok.1 (Prod.ext hr rfl)
        obtain ⟨_, _, -, h⟩ := exec_bind_eq_ok.1 h
        cases h
    · exact iff_of_true ⟨_, rfl⟩ (answers_of_exec hs)

/-- A client that is started has had a file opened and its command spawned, and this is reported. -/
theorem spawned_of_runBackground {command : List String} {added : List (String × String)}
    {route : Route} {b c : Bench} {r : Receiver}
    (h : (runBackground command added route).exec b = (.ok r, c)) :
    ∃ n d pid e, (openOutput route).exec b = (.ok n, d) ∧
      (spawn command (overlay d.environ added) d.workingDir route n).exec d = (.ok pid, e) ∧
      c = e.saying (.started command pid route.text) ∧ r.pid = pid ∧ r.output = some n := by
  unfold runBackground at h
  obtain ⟨n, d, hopen, h⟩ := exec_bind_eq_ok.1 h
  rw [exec_bind_of_ok (exec_ask _ d), exec_bind_of_ok (exec_ask _ _),
    exec_bind_of_ok (exec_attempt _ _)] at h
  rcases hs : (spawn command (overlay d.environ added) d.workingDir route n).exec d with
    ⟨raised | pid, e⟩
  · rw [hs] at h
    dsimp only at h
    split at h
    · cases h
    · obtain ⟨_, _, -, h⟩ := exec_bind_eq_ok.1 h
      obtain ⟨_, _, -, h⟩ := exec_bind_eq_ok.1 h
      cases h
  · rw [hs] at h
    cases h
    exact ⟨n, d, pid, e, hopen, hs, rfl, rfl, rfl⟩

end Client
end ClientTrial
