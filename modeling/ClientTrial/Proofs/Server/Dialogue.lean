import ClientTrial.Proofs.Server.Law

/-!
# Dialogues with the daemon

Several trials may talk to one daemon at the same time, and then what one of them has done
between two requests of another matters.  What is done with a server is therefore taken
apart: a dialogue stops at each request, and goes on when the request has been answered.

Each call has a dialogue that mirrors it.  Held without a break, the dialogue is the call.

## Main definitions

* `Server.Question` — a request to the daemon, or the opening of a connection to it.
* `Server.Dialogue` — a program that stops at each of its questions.
* `Server.Dialogue.act` — a dialogue that is held without a break.
* `Server.Dialogue.EndsWithin` — a dialogue is over after at most some steps.
* `Server.Call.dialogue` — the dialogue of a call.

## Main results

* `Server.Dialogue.act_bind`, `Server.Dialogue.act_attempt` — dialogues are put together as
  actions are.
* `Server.Call.act_dialogue` — the dialogue of a call, held without a break, is the call.
* `Server.Call.endsWithin` — no dialogue of a call goes on for ever.
-/

namespace ClientTrial

open Act

namespace Server

/-! ### Questions -/

/-- A request to the daemon, or the opening of a connection to it. -/
inductive Question where
  | openDaemon
  | lookup (name : String)
  | create (image name port : String) (hostPort : Option Int)
  | remove (name : String)
  | reload (name : String)
  | logs (name : String) (tail : Int)

namespace Question

/-- What a question is answered. -/
abbrev Answer : Question → Type
  | .openDaemon | .lookup _ | .remove _ => Unit
  | .create .. => String
  | .reload _ => Json
  | .logs .. => Text.Octets

/-- What is done about a question. -/
def act : (q : Question) → Act q.Answer
  | .openDaemon => Act.openDaemon
  | .lookup name => Act.lookup name
  | .create image name port hostPort => Act.create image name port hostPort
  | .remove name => Act.remove name
  | .reload name => Act.reload name
  | .logs name tail => Act.logs name tail

/-- The name of the container that a question is about. -/
def name? : Question → Option String
  | .openDaemon => none
  | .lookup name | .create _ name _ _ | .remove name | .reload name | .logs name _ => some name

end Question

/-! ### Dialogues -/

/-- A program that stops at each of its questions and goes on when it has been answered.  In between
it may report events. -/
inductive Dialogue (α : Type) where
  | done (ended : Except Raised α)
  | say (event : Log.Event) (rest : Dialogue α)
  | ask (q : Question) (next : Except Raised q.Answer → Dialogue α)

namespace Dialogue

variable {α β : Type}

/-- A dialogue that is held without a break. -/
def act : Dialogue α → Act α
  | .done ended => release ended
  | .say event rest => do
    Act.say event
    rest.act
  | .ask q next => do
    let reply ← Act.attempt q.act
    (next reply).act

/-- One dialogue after another. -/
def andThen : Dialogue α → (α → Dialogue β) → Dialogue β
  | .done (.ok a), f => f a
  | .done (.error r), _ => .done (.error r)
  | .say event rest, f => .say event (rest.andThen f)
  | .ask q next, f => .ask q fun reply => (next reply).andThen f

instance : Monad Dialogue where
  pure a := .done (.ok a)
  bind := andThen

/-- A dialogue that is ended at once. -/
def fail (r : Raised) : Dialogue α := .done (.error r)

/-- A dialogue whose end is looked at instead of passed on. -/
def attempt : Dialogue α → Dialogue (Except Raised α)
  | .done ended => .done (.ok ended)
  | .say event rest => .say event rest.attempt
  | .ask q next => .ask q fun reply => (next reply).attempt

/-- The dialogue that asks one question. -/
def perform (q : Question) : Dialogue q.Answer := .ask q .done

/-- The dialogue that reports one event. -/
def tell (event : Log.Event) : Dialogue Unit := .say event (.done (.ok ()))

/-- A fault ends a dialogue. -/
def ofExcept : Except Fault α → Dialogue α
  | .ok a => .done (.ok a)
  | .error f => .done (.error (.fault f))

/-! ### Dialogues that are held without a break -/

theorem act_ofExcept (e : Except Fault α) : (ofExcept e).act = Act.ofExcept e := by
  cases e with
  | ok a => rfl
  | error f => rfl

theorem act_bind (d : Dialogue α) (f : α → Dialogue β) :
    (d >>= f).act = d.act >>= fun a => (f a).act := by
  induction d with
  | done ended =>
    cases ended with
    | ok a => rfl
    | error r => rfl
  | say event rest ih =>
    -- what is put after the whole is put after the rest
    change (Act.say event >>= fun _ => (rest >>= f).act) = _
    rw [ih]
    exact (bind_assoc _ _ _).symm
  | ask q next ih =>
    change (Act.attempt q.act >>= fun reply => (next reply >>= f).act) = _
    rw [show (fun reply => (next reply >>= f).act) =
      fun reply => (next reply).act >>= fun a => (f a).act from funext ih]
    exact (bind_assoc _ _ _).symm

theorem act_attempt (d : Dialogue α) : d.attempt.act = Act.attempt d.act := by
  -- an attempt is told by the end and the bench, so that the two are compared on every bench
  refine funext fun b => ?_
  change d.attempt.act.exec b = (Act.attempt d.act).exec b
  rw [exec_attempt]
  induction d generalizing b with
  | done ended =>
    cases ended with
    | ok a => rfl
    | error r => rfl
  | say event rest ih =>
    change (Act.say event >>= fun _ => rest.attempt.act).exec b = _
    rw [exec_bind_of_ok (exec_say event b), ih]
    rfl
  | ask q next ih =>
    change (Act.attempt q.act >>= fun reply => (next reply).attempt.act).exec b = _
    rw [exec_bind_of_ok (exec_attempt q.act b), ih]
    rfl

theorem act_perform (q : Question) : (perform q).act = q.act := by
  refine funext fun b => ?_
  change (Act.attempt q.act >>= release).exec b = q.act.exec b
  rw [exec_bind_of_ok (exec_attempt q.act b), exec_release]

/-! ### The dialogues of calls -/

/-- The daemon must be reachable. -/
def ensureDaemon : Dialogue Unit := do
  match ← attempt (perform .openDaemon) with
  | .ok () => pure ()
  | .error raised =>
    match isFault Fault.Kind.isDaemon raised with
    | none => fail raised
    | some f =>
      fail (.trial
        (.general { message := "Cannot reach the docker daemon: " ++ f.text,
                    code := "DOCKER_UNAVAILABLE" })
        (some f))

/-- Any container of a name is removed.  The answer tells whether there was one. -/
def ensureClean (name : String) : Dialogue Bool := do
  match ← attempt (do ensureDaemon; perform (.lookup name)) with
  | .error raised =>
    match isFault Fault.Kind.isRefusal raised with
    | none => fail raised
    | some f =>
      if f.kind.isAbsence then do
        tell (.nothingStale name)
        pure false
      else fail (stale ("Could not look up container " ++ name) f)
  | .ok () =>
    match ← attempt (perform (.remove name)) with
    | .error raised =>
      match isFault Fault.Kind.isRefusal raised with
      | none => fail raised
      | some f =>
        if f.kind.isAbsence then pure false
        else fail (stale ("Could not remove stale container " ++ name) f)
    | .ok () => do
      tell (.staleRemoved name)
      pure true

/-- The port of the host that the daemon has chosen for a container. -/
def chosenPort (name key : String) : Dialogue Int := do
  let table ← perform (.reload name)
  match ← ofExcept (publishedPort? table key) with
  | some port => ofExcept (portNumber port)
  | none =>
    fail (notStarted ("Container " ++ name ++ " did not publish " ++ key) [("ports", table)] none)

/-- What is raised if no container was created. -/
def notCreated (name image : String) (hostPort : Option Int) (raised : Raised) : Raised :=
  match isFault Fault.Kind.isRefusal raised with
  | none => raised
  | some f =>
    if f.kind.isMissingImage then
      notStarted ("Image " ++ image ++ " is not available: " ++ f.text)
        [("image", .str image), ("name", .str name)] (some f)
    else
      notStarted ("Could not start " ++ name ++ " from " ++ image ++ ": " ++ f.text)
        [("image", .str image), ("name", .str name), ("host_port", ofInt? hostPort)] (some f)

/-- A container is created and started that publishes a port of its own. -/
def start (name image : String) (containerPort : Int) (hostPort : Option Int) :
    Dialogue Server := do
  let key := portKey containerPort
  match ← attempt (do ensureDaemon; perform (.create image name key hostPort)) with
  | .error raised => fail (notCreated name image hostPort raised)
  | .ok id => do
    let bound ←
      match hostPort.filter (· ≠ 0) with
      | some port => pure port
      | none => chosenPort name key
    tell (.serverStarted name image containerPort bound)
    pure { name, image, containerPort, hostPort := bound, id }

/-- A container of a name is removed if there is one.  A failure is answered, not raised. -/
def stop (name : String) : Dialogue (Option TrialError) := do
  match ← attempt (do ensureDaemon; perform (.lookup name); perform (.remove name)) with
  | .ok () => do
    tell (.serverRemoved name)
    pure none
  | .error (.failure f) =>
    if f.isFaultOf Fault.Kind.isAbsence then pure none
    else do
      let failed := failedStep "stop_server" f
      tell (.serverNotStopped failed.message)
      pure (some failed)
  | .error raised => fail raised

/-- The end of the log of a container.  A failure is told in its place. -/
def logs (name : String) (tail : Int) : Dialogue String := do
  match ← attempt (do ensureDaemon; perform (.lookup name); perform (.logs name tail)) with
  | .ok content => pure (Text.ofOctets content)
  | .error (.failure f) => pure ("Error fetching logs: " ++ f.text)
  | .error raised => fail raised

/-! ### The dialogues and the calls -/

theorem act_ensureDaemon : ensureDaemon.act = Server.ensureDaemon := by
  unfold ensureDaemon Server.ensureDaemon
  rw [act_bind, act_attempt, act_perform]
  refine congrArg (Act.attempt Act.openDaemon >>= ·) (funext fun ended => ?_)
  cases ended with
  | ok a => rfl
  | error raised =>
    dsimp only
    cases isFault Fault.Kind.isDaemon raised with
    | none => rfl
    | some f => rfl

/-- A question that is asked over a connection. -/
theorem act_ensured (q : Question) :
    (do ensureDaemon; perform q : Dialogue q.Answer).act = (do Server.ensureDaemon; q.act) := by
  rw [act_bind, act_ensureDaemon, act_perform]

/-- A question that is asked about a container that was looked up. -/
theorem act_found (name : String) (q : Question) :
    (do ensureDaemon; perform (.lookup name); perform q : Dialogue q.Answer).act =
      (do Server.ensureDaemon; Act.lookup name; q.act) := by
  rw [act_bind, act_ensureDaemon]
  refine congrArg (Server.ensureDaemon >>= ·) (funext fun _ => ?_)
  rw [act_bind, act_perform, act_perform]
  rfl

theorem act_ensureClean (name : String) : (ensureClean name).act = Server.ensureClean name := by
  unfold ensureClean Server.ensureClean
  rw [act_bind, act_attempt, act_ensured]
  refine congrArg (Act.attempt (do Server.ensureDaemon; Act.lookup name) >>= ·)
    (funext fun ended => ?_)
  cases ended with
  | error raised =>
    -- the lookup failed, perhaps because there is no such container
    dsimp only
    cases isFault Fault.Kind.isRefusal raised with
    | none => rfl
    | some f => exact apply_ite act _ _ _
  | ok a =>
    dsimp only
    rw [act_bind, act_attempt, act_perform]
    refine congrArg (Act.attempt (Act.remove name) >>= ·) (funext fun ended => ?_)
    cases ended with
    | error raised =>
      dsimp only
      cases isFault Fault.Kind.isRefusal raised with
      | none => rfl
      | some f => exact apply_ite act _ _ _
    | ok a => rfl

theorem act_chosenPort (name key : String) :
    (chosenPort name key).act = Server.chosenPort name key := by
  unfold chosenPort Server.chosenPort
  rw [act_bind, act_perform]
  refine congrArg (Act.reload name >>= ·) (funext fun table => ?_)
  rw [act_bind, act_ofExcept]
  refine congrArg (Act.ofExcept (publishedPort? table key) >>= ·) (funext fun port => ?_)
  cases port with
  | none => rfl
  | some port => exact act_ofExcept _

theorem act_start (name image : String) (containerPort : Int) (hostPort : Option Int) :
    (start name image containerPort hostPort).act =
      Server.start name image containerPort hostPort := by
  unfold start Server.start
  dsimp only
  rw [act_bind, act_attempt, act_ensured]
  refine congrArg (Act.attempt (do
    Server.ensureDaemon
    Act.create image name (portKey containerPort) hostPort) >>= ·) (funext fun ended => ?_)
  cases ended with
  | error raised =>
    dsimp only [notCreated]
    cases isFault Fault.Kind.isRefusal raised with
    | none => rfl
    | some f => exact (congrArg _ (apply_ite fail _ _ _)).trans (apply_ite act _ _ _)
  | ok id =>
    dsimp only
    cases hostPort.filter (· ≠ 0) with
    | some port => rfl
    | none =>
      refine (act_bind _ _).trans ?_
      rw [act_chosenPort]
      rfl

theorem act_stop (name : String) : (stop name).act = Server.stop name := by
  unfold stop Server.stop
  rw [act_bind, act_attempt, act_found name (.remove name)]
  refine congrArg (Act.attempt (do
    Server.ensureDaemon
    Act.lookup name
    Act.remove name) >>= ·) (funext fun ended => ?_)
  rcases ended with (f | text | _) | _
  · exact apply_ite act _ _ _
  · rfl
  · rfl
  · rfl

theorem act_logs (name : String) (tail : Int) : (logs name tail).act = Server.logs name tail := by
  unfold logs Server.logs
  rw [act_bind, act_attempt, act_found name (.logs name tail)]
  refine congrArg (Act.attempt (do
    Server.ensureDaemon
    Act.lookup name
    Act.logs name tail) >>= ·) (funext fun ended => ?_)
  rcases ended with (f | text | _) | _
  · rfl
  · rfl
  · rfl
  · rfl

/-! ### The length of dialogues -/

/-- A dialogue is over after at most some steps, whatever is replied. -/
inductive EndsWithin {α : Type} : Nat → Dialogue α → Prop
  | done (n : Nat) (ended : Except Raised α) : EndsWithin n (.done ended)
  | say {n : Nat} (event : Log.Event) {rest : Dialogue α} (h : EndsWithin n rest) :
    EndsWithin (n + 1) (.say event rest)
  | ask {n : Nat} (q : Question) {next : Except Raised q.Answer → Dialogue α}
    (h : ∀ reply, EndsWithin n (next reply)) : EndsWithin (n + 1) (.ask q next)

theorem EndsWithin.of_le {m n : Nat} {d : Dialogue α} (h : EndsWithin m d) (hle : m ≤ n) :
    EndsWithin n d := by
  induction h generalizing n with
  | done _ ended => exact .done n ended
  | say event _ ih =>
    obtain ⟨k, rfl⟩ := Nat.exists_eq_add_of_le' hle
    exact .say event (ih (Nat.le_add_left _ k))
  | ask q _ ih =>
    obtain ⟨k, rfl⟩ := Nat.exists_eq_add_of_le' hle
    exact .ask q fun reply => ih reply (Nat.le_add_left _ k)

theorem endsWithin_perform (q : Question) : EndsWithin 1 (perform q) := .ask q fun _ => .done 0 _

theorem endsWithin_tell (event : Log.Event) : EndsWithin 1 (tell event) := .say event (.done 0 _)

/-- The steps of one dialogue after another add up. -/
theorem endsWithin_bind {m n : Nat} {d : Dialogue α} {f : α → Dialogue β} (h : EndsWithin m d)
    (hf : ∀ a, EndsWithin n (f a)) : EndsWithin (m + n) (d >>= f) := by
  induction h with
  | done k ended =>
    cases ended with
    | ok a => exact (hf a).of_le (Nat.le_add_left n k)
    | error r => exact .done _ _
  | say event _ ih =>
    rw [Nat.add_right_comm]
    exact .say event ih
  | ask q _ ih =>
    rw [Nat.add_right_comm]
    exact .ask q ih

theorem endsWithin_attempt {n : Nat} {d : Dialogue α} (h : EndsWithin n d) :
    EndsWithin n d.attempt := by
  induction h with
  | done n ended => exact .done n _
  | say event _ ih => exact .say event ih
  | ask q _ ih => exact .ask q ih

theorem endsWithin_ensureDaemon : EndsWithin 1 ensureDaemon := by
  refine endsWithin_bind (n := 0) (endsWithin_attempt (endsWithin_perform _)) fun ended => ?_
  cases ended with
  | ok _ => exact .done 0 _
  | error raised =>
    dsimp only
    cases isFault Fault.Kind.isDaemon raised with
    | none => exact .done 0 _
    | some f => exact .done 0 _

/-- A question that is asked over a connection takes two steps. -/
theorem endsWithin_ensured (q : Question) : EndsWithin 2 (do ensureDaemon; perform q) :=
  endsWithin_bind endsWithin_ensureDaemon fun _ => endsWithin_perform q

/-- A question that is asked about a container that was looked up takes three steps. -/
theorem endsWithin_found (name : String) (q : Question) :
    EndsWithin 3 (do ensureDaemon; perform (.lookup name); perform q) :=
  endsWithin_bind endsWithin_ensureDaemon fun _ =>
    endsWithin_bind (endsWithin_perform _) fun _ => endsWithin_perform q

theorem endsWithin_ensureClean (name : String) : EndsWithin 4 (ensureClean name) := by
  refine endsWithin_bind (n := 2) (endsWithin_attempt (endsWithin_ensured _)) fun ended => ?_
  cases ended with
  | error raised =>
    dsimp only
    cases isFault Fault.Kind.isRefusal raised with
    | none => exact .done 2 _
    | some f =>
      dsimp only
      split
      · exact endsWithin_bind (endsWithin_tell _) fun _ => .done 1 _
      · exact .done 2 _
  | ok _ =>
    refine endsWithin_bind (n := 1) (endsWithin_attempt (endsWithin_perform _)) fun ended => ?_
    cases ended with
    | error raised =>
      dsimp only
      cases isFault Fault.Kind.isRefusal raised with
      | none => exact .done 1 _
      | some f =>
        dsimp only
        split
        · exact .done 1 _
        · exact .done 1 _
    | ok _ => exact endsWithin_bind (endsWithin_tell _) fun _ => .done 0 _

theorem endsWithin_chosenPort (name key : String) : EndsWithin 1 (chosenPort name key) := by
  refine endsWithin_bind (n := 0) (endsWithin_perform _) fun table => ?_
  cases publishedPort? table key with
  | error f => exact .done 0 _
  | ok listed =>
    cases listed with
    | none => exact .done 0 _
    | some port =>
      change EndsWithin 0 (ofExcept (portNumber port))
      cases portNumber port with
      | ok bound => exact .done 0 _
      | error f => exact .done 0 _

theorem endsWithin_start (name image : String) (containerPort : Int) (hostPort : Option Int) :
    EndsWithin 4 (start name image containerPort hostPort) := by
  refine endsWithin_bind (n := 2) (endsWithin_attempt (endsWithin_ensured _)) fun ended => ?_
  cases ended with
  | error raised => exact .done 2 _
  | ok id =>
    have started (bound : Int) : EndsWithin 1 (do
        tell (.serverStarted name image containerPort bound)
        pure ({ name, image, containerPort, hostPort := bound, id } : Server)) :=
      endsWithin_bind (endsWithin_tell _) fun _ => .done 0 _
    dsimp only
    cases hostPort.filter (· ≠ 0) with
    | some port => exact (started port).of_le (Nat.le_succ 1)
    | none => exact endsWithin_bind (endsWithin_chosenPort _ _) started

theorem endsWithin_stop (name : String) : EndsWithin 4 (stop name) := by
  refine endsWithin_bind (n := 1) (endsWithin_attempt (endsWithin_found _ _)) fun ended => ?_
  rcases ended with (f | text | _) | _
  · dsimp only
    split
    · exact .done 1 _
    · exact endsWithin_bind (endsWithin_tell _) fun _ => .done 0 _
  · exact .done 1 _
  · exact .done 1 _
  · exact endsWithin_bind (endsWithin_tell _) fun _ => .done 0 _

theorem endsWithin_logs (name : String) (tail : Int) : EndsWithin 3 (logs name tail) := by
  refine endsWithin_bind (n := 0) (endsWithin_attempt (endsWithin_found _ _)) fun ended => ?_
  rcases ended with (f | text | _) | _
  · exact .done 0 _
  · exact .done 0 _
  · exact .done 0 _
  · exact .done 0 _

end Dialogue

namespace Call

/-- The dialogue of a call. -/
def dialogue : (call : Call) → Dialogue call.Answer
  | .ensureClean name => Dialogue.ensureClean name
  | .start name image containerPort hostPort =>
    Dialogue.start name image containerPort hostPort
  | .restart name image containerPort hostPort => do
    let _ ← Dialogue.ensureClean name
    Dialogue.start name image containerPort hostPort
  | .stop name => Dialogue.stop name
  | .logs name tail => Dialogue.logs name tail

/-- The dialogue of a call, held without a break, is the call. -/
theorem act_dialogue (call : Call) : call.dialogue.act = call.act := by
  cases call with
  | ensureClean name => exact Dialogue.act_ensureClean name
  | start name image containerPort hostPort => exact Dialogue.act_start name image _ _
  | restart name image containerPort hostPort =>
    refine (Dialogue.act_bind _ _).trans ?_
    rw [Dialogue.act_ensureClean, Dialogue.act_start]
    rfl
  | stop name => exact Dialogue.act_stop name
  | logs name tail => exact Dialogue.act_logs name tail

/-- Every call is over after at most eight steps. -/
theorem endsWithin (call : Call) : call.dialogue.EndsWithin 8 := by
  cases call with
  | ensureClean name => exact (Dialogue.endsWithin_ensureClean name).of_le (by decide)
  | start name image containerPort hostPort =>
    exact (Dialogue.endsWithin_start name image _ _).of_le (by decide)
  | restart name image containerPort hostPort =>
    exact Dialogue.endsWithin_bind (Dialogue.endsWithin_ensureClean name) fun _ =>
      Dialogue.endsWithin_start name image _ _
  | stop name => exact (Dialogue.endsWithin_stop name).of_le (by decide)
  | logs name tail => exact (Dialogue.endsWithin_logs name tail).of_le (by decide)

end Call
end Server
end ClientTrial
