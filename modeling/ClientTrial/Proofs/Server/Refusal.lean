import ClientTrial.Proofs.Server

/-!
# Starts that the daemon refuses

To start a server the daemon is asked to create a container and, if it is to choose the
port of the host, to show the ports of the new container.  It may refuse both.  Only the
refusal to create a container is made an error of the trial; a refusal to show the ports
is passed on as it is.

## Main definitions

* `Server.RefusedAt` — the request of a start that the daemon refuses.
* `Server.notStartedSort` — the sort of the error of a server that was not started.
* `Server.refusal?` — the refusal that has ended an action.

## Main results

* `Server.start_of_refused_creation` — a refused creation is an error of the trial.
* `Server.start_eq_refusal_iff` — a start is ended by a refusal itself iff the ports could not be
  read back.
-/

namespace ClientTrial

open Act

/-! ### What is shown of a port is no refusal -/

/-- A call either answers or ends with a fault that is no refused request. -/
def NeverRefused {α : Type} (e : Except Fault α) : Prop :=
  ∀ f, e = .error f → f.kind.isRefusal = false

namespace NeverRefused

variable {α β : Type}

theorem ok (a : α) : NeverRefused (.ok a) := fun _ h => by cases h

theorem error {f : Fault} (h : f.kind.isRefusal = false) :
    NeverRefused (.error f : Except Fault α) := by
  rintro _ ⟨⟩
  exact h

theorem bind {e : Except Fault α} {next : α → Except Fault β} (h : NeverRefused e)
    (hnext : ∀ a, NeverRefused (next a)) : NeverRefused (e.bind next) := by
  cases e with
  | ok a => exact hnext a
  | error f => exact error (h f rfl)

end NeverRefused

theorem neverRefused_memberOf (name : String) (t : Json) : NeverRefused (memberOf name t) := by
  cases t with
  | obj members => exact .ok _
  | null | bool | int | float | str | arr => exact .error rfl

theorem neverRefused_bindingsIn (t : Json) : NeverRefused (bindingsIn t) := by
  cases t with
  | arr | obj | str => exact .ok _
  | null | bool | int | float => exact .error rfl

theorem neverRefused_firstPort? (bindings : List Json) : NeverRefused (firstPort? bindings) := by
  induction bindings with
  | nil => exact .ok _
  | cons binding rest ih =>
    refine (neverRefused_memberOf "HostPort" binding).bind fun port => ?_
    split
    · exact .ok _
    · exact ih

theorem neverRefused_publishedPort? (table : Json) (port : String) :
    NeverRefused (publishedPort? table port) := by
  unfold publishedPort?
  dsimp only
  split
  · refine (neverRefused_memberOf port table).bind fun bindings => ?_
    split
    · exact (neverRefused_bindingsIn _).bind neverRefused_firstPort?
    · exact .ok _
  · exact .ok _

theorem neverRefused_wholePart (x : Float) : NeverRefused (wholePart x) := by
  unfold wholePart
  split
  · exact .error rfl
  · exact .error rfl
  · exact .ok _

theorem isRefusal_unreadablePort (s : String) : (unreadablePort s).kind.isRefusal = false := by
  unfold unreadablePort
  split
  · rfl
  · rfl

theorem neverRefused_portNumber (t : Json) : NeverRefused (portNumber t) := by
  unfold portNumber
  split
  · exact .ok _
  · exact .ok _
  · exact neverRefused_wholePart _
  · split
    · exact .ok _
    · exact .error (isRefusal_unreadablePort _)
  · exact .error rfl

/-! ### The requests of a start -/

namespace Server

/-- The sort of the error of a server that was not started. -/
def notStartedSort : String × String × Int := ("ServerStartFailed", "SERVER_START_FAILED", 5)

variable (name image : String) (containerPort : Int) (hostPort : Option Int)

/-- The request of a start that the daemon refuses with a fault: the container is not created, or
the ports of the new container, whose port of the host is left to the daemon, are not shown. -/
inductive RefusedAt (b : Bench) (f : Fault) (c : Bench) : Request → Prop where
  | creation
    (hcreate : (do ensureDaemon; create image name (portKey containerPort) hostPort).exec b =
      (.error (.fault f), c)) : RefusedAt b f c .create
  | showing {id : String} {d : Bench}
    (hcreate : (do ensureDaemon; create image name (portKey containerPort) hostPort).exec b =
      (.ok id, d))
    (hport : hostPort.filter (· ≠ 0) = none)
    (hreload : (reload name).exec d = (.error (.fault f), c)) : RefusedAt b f c .reload

variable {name image containerPort hostPort} {b c : Bench} {f : Fault}

theorem isFault_fault (p : Fault.Kind → Bool) (f : Fault) :
    isFault p (.fault f) = if p f.kind then some f else none := rfl

/-- The refusal that has ended an action, if one has. -/
def refusal? {α : Type} : Except Raised α → Option Fault
  | .ok _ => none
  | .error r => isFault Fault.Kind.isRefusal r

theorem eq_error_of_refusal? {α : Type} {e : Except Raised α} (h : refusal? e = some f) :
    e = .error (.fault f) := by
  cases e with
  | ok a => cases h
  | error r => rw [(eq_fault_of_isFault h).1]

/-- A container that the daemon refuses to create is an error of the trial, caused by the refusal.
Its message names the image, and the container unless it is the image that is missing. -/
theorem start_of_refused_creation (hf : f.kind.isRefusal = true)
    (h : RefusedAt name image containerPort hostPort b f c .create) :
    ∃ e, (start name image containerPort hostPort).exec b = (.error (.trial e (some f)), c) ∧
      (e.name, e.code, e.exitStatus) = notStartedSort ∧
      e.message =
        if f.kind.isMissingImage then "Image " ++ image ++ " is not available: " ++ f.text
        else "Could not start " ++ name ++ " from " ++ image ++ ": " ++ f.text := by
  obtain ⟨hcreate⟩ := h
  unfold start
  rw [exec_bind_of_ok (exec_attempt _ b), hcreate]
  dsimp only
  rw [isFault_fault, if_pos hf]
  dsimp only
  split
  · refine ⟨_, rfl, rfl, TrialError.orElse_of_ne_empty ?_⟩
    rw [String.append_assoc, String.append_assoc]
    exact TrialError.ne_empty_append (by decide)
  · refine ⟨_, rfl, rfl, TrialError.orElse_of_ne_empty ?_⟩
    rw [String.append_assoc, String.append_assoc, String.append_assoc, String.append_assoc]
    exact TrialError.ne_empty_append (by decide)

/-- The choice of a port is ended by a refusal iff the ports of the container are not shown. -/
theorem chosenPort_eq_refusal_iff {key : String} (hf : f.kind.isRefusal = true) :
    (chosenPort name key).exec b = (.error (.fault f), c) ↔
      (reload name).exec b = (.error (.fault f), c) := by
  have refused {α : Type} {e : Except Fault α} {d : Bench} (he : NeverRefused e)
      (h : (ofExcept e).exec d = (.error (.fault f), c)) : False := by
    rw [exec_ofExcept] at h
    cases e with
    | ok a => cases h
    | error _ =>
      cases h
      rw [he f rfl] at hf
      cases hf
  constructor
  · intro h
    rcases exec_bind_eq_error.1 h with h | ⟨table, d, -, h⟩
    · exact h
    · -- once the ports are shown, there is nothing to be refused any more
      rcases exec_bind_eq_error.1 h with h | ⟨port, e, -, h⟩
      · exact (refused (neverRefused_publishedPort? _ _) h).elim
      · cases port with
        | none => cases h
        | some port => exact (refused (neverRefused_portNumber _) h).elim
  · exact fun h => exec_bind_of_error h _

/-- A start is ended by a refusal itself, and not by an error of the trial, iff the daemon refuses
to show the ports of the new container. -/
theorem start_eq_refusal_iff (hf : f.kind.isRefusal = true) :
    (start name image containerPort hostPort).exec b = (.error (.fault f), c) ↔
      RefusedAt name image containerPort hostPort b f c .reload := by
  unfold start
  rw [exec_bind_of_ok (exec_attempt _ b)]
  constructor
  · intro h
    rcases hcreate : (do ensureDaemon; create image name (portKey containerPort) hostPort).exec b
      with ⟨raised | id, d⟩
    · -- what ends the creation is passed on unless it is a refusal
      rw [hcreate] at h
      dsimp only at h
      split at h
      · next hnone =>
        cases h
        rw [isFault_fault, if_pos hf] at hnone
        cases hnone
      · split at h
        · cases h
        · cases h
    · rw [hcreate] at h
      dsimp only at h
      cases hport : hostPort.filter (· ≠ 0) with
      | some configured =>
        rw [hport] at h
        cases h
      | none =>
        rw [hport] at h
        rcases exec_bind_eq_error.1 h with h | ⟨_, _, -, h⟩
        · exact .showing hcreate hport ((chosenPort_eq_refusal_iff hf).1 h)
        · cases h
  · rintro ⟨⟩
    next id d hcreate hport hreload =>
    rw [hcreate]
    dsimp only
    rw [hport]
    exact exec_bind_of_error ((chosenPort_eq_refusal_iff hf).2 hreload) _

end Server
end ClientTrial
