import ClientTrial.Proofs.Bench.Ends

/-!
# Benches without interrupts

On a calm bench everything that happens to a call is a failure, and nobody interrupts a
trial.  A calm action is ended by nothing but a failure there, and leaves the bench calm.
A wait may also be given up because the clock has stopped; whether this is reckoned with
is a parameter of what a calm action is.

## Main definitions

* `Bench.IsCalm` — whatever will happen on the bench is a failure.
* `Act.Calm` — an action is not interrupted on a calm bench, and leaves it calm.

## Main results

* `Bench.isCalm_iff_foresees` — a bench is calm iff it foresees nothing but failures.
* `Act.Calm.of_ends` — an action that is ended by nothing but failures is calm.
-/

namespace ClientTrial

open Act

/-! ### What happens to calls -/

/-- It is a failure that ends a step. -/
def Raised.isFailure : Raised → Bool
  | .failure _ => true
  | _ => false

/-- What ends a step is a failure, or a clock that has stopped if that is reckoned with. -/
def Raised.IsCalm (mayStall : Bool) : Raised → Prop
  | .failure _ => True
  | .stalled => mayStall = true
  | .interrupt _ => False

theorem Raised.isCalm_of_isFailure {mayStall : Bool} {r : Raised} (h : r.isFailure = true) :
    r.IsCalm mayStall := by
  cases r with
  | failure f => trivial
  | interrupt text => cases h
  | stalled => cases h

/-- An incident is a failure, if there is one. -/
def CalmIncident (incident : Option Raised) : Prop := ∀ r ∈ incident, r.isFailure = true

/-- Whatever happens to a background process is a failure. -/
structure Script.IsCalm (s : Script) : Prop where
  spawn : CalmIncident s.spawnIncident
  dealings : ∀ dealing age, CalmIncident (s.incident dealing age)
  close : CalmIncident s.closeIncident

theorem calmIncident_none : CalmIncident none := fun _ h => absurd h (Option.not_mem_none _)

theorem Script.isCalm_default : Script.IsCalm {} :=
  ⟨calmIncident_none, fun _ _ => calmIncident_none, calmIncident_none⟩

/-- Whatever happens to the opened files is a failure. -/
def Desk.IsCalm (d : Desk) : Prop := ∀ o ∈ d.outputs, CalmIncident o.closeIncident

/-- Whatever happens to requests is a failure. -/
structure Daemon.IsCalm (d : Daemon) : Prop where
  incidents : ∀ kind, (d.incidents kind).All fun r => r.isFailure = true
  openings : d.openings.All fun r => r.isFailure = true

/-- Whatever will happen on a bench is a failure. -/
structure Bench.IsCalm (b : Bench) : Prop where
  connections : b.connections.All fun incident => incident.1.isFailure = true
  pauses : b.pauses.All fun r => r.isFailure = true
  daemon : b.daemon.IsCalm
  errands : ∀ e ∈ b.errands, CalmIncident e.spawnIncident
  scripts : ∀ s ∈ b.scripts, s.IsCalm
  children : ∀ c ∈ b.children, c.script.IsCalm
  desk : b.desk.IsCalm
  removal : CalmIncident b.removal

/-- A calm bench is one that foresees nothing but failures. -/
theorem Bench.isCalm_iff_foresees {b : Bench} :
    b.IsCalm ↔ b.Foresees (fun r => r.isFailure = true) False := by
  have script {s : Script} : s.IsCalm ↔ s.Foresees fun r => r.isFailure = true :=
    ⟨fun h => ⟨h.spawn, h.dealings, h.close⟩, fun h => ⟨h.spawn, h.dealings, h.close⟩⟩
  constructor
  · intro h
    exact ⟨h.connections, h.pauses, ⟨h.daemon.incidents, h.daemon.openings, False.elim⟩, h.errands,
      fun s hs => script.1 (h.scripts s hs), fun c hc => script.1 (h.children c hc), h.desk,
      h.removal⟩
  · intro h
    exact ⟨h.connections, h.pauses, ⟨h.daemon.incidents, h.daemon.openings⟩, h.errands,
      fun s hs => script.2 (h.scripts s hs), fun c hc => script.2 (h.children c hc), h.desk,
      h.removal⟩

theorem Bench.isCalm_quiet : quiet.IsCalm := isCalm_iff_foresees.2 foresees_quiet

/-! ### Calm actions -/

/-- On a calm bench an action is ended by nothing but a failure, if it is ended at all, and the bench
stays calm. -/
def Act.Calm {α : Type} (mayStall : Bool) (act : Act α) : Prop :=
  ∀ b : Bench, b.IsCalm →
    (∀ r, (act.exec b).1 = .error r → r.IsCalm mayStall) ∧ (act.exec b).2.IsCalm

/-- What is calm covers the failures. -/
theorem Raised.covers_isCalm (mayStall : Bool) :
    Covers (fun r => r.isFailure = true) (Raised.IsCalm mayStall) :=
  ⟨fun _ h => isCalm_of_isFailure h, fun _ => trivial⟩

/-- An action is calm if what it is ended by is. -/
theorem Act.Calm.of_ends {α : Type} {mayStall : Bool} {act : Act α}
    (h : Ends (fun r => r.isFailure = true) False (Raised.IsCalm mayStall) act) :
    Calm mayStall act := by
  intro b hb
  obtain ⟨hend, hafter⟩ := h b (Bench.isCalm_iff_foresees.1 hb)
  exact ⟨hend, Bench.isCalm_iff_foresees.2 hafter⟩

end ClientTrial
