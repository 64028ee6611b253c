import ClientTrial.Proofs.Server.Dialogue

/-!
# Dialogues that go alike

Two dialogues about one container go alike if they ask the same questions for as long as they
are answered alike, and then end alike.  Answers may differ in what a daemon that serves
others, too, chooses otherwise: the identifiers of containers and the ports of the host.
Everything that is raised has to be the same.

A call goes alike whatever the daemon has chosen, as long as the ports that it shows can be
read back.

## Main definitions

* `Server.EndsAlike` — the same is raised, or what is answered is related.
* `Server.PortsAlike` — two tables of published ports that serve a call alike.
* `Server.Dialogue.Alike` — two dialogues about one container go alike.
* `Server.Call.AnswersAlike` — the answers of a call, identifiers and chosen ports aside.

## Main results

* `Server.Call.alike` — a call goes alike whatever ports and identifiers the daemon chooses.
-/

namespace ClientTrial

namespace Server

/-! ### Ends and replies -/

/-- The same is raised, or what is answered is related. -/
inductive EndsAlike {α : Type} (R : α → α → Prop) : Except Raised α → Except Raised α → Prop
  | ok {a a' : α} (h : R a a') : EndsAlike R (.ok a) (.ok a')
  | error (r : Raised) : EndsAlike R (.error r) (.error r)

/-- A port of the host can be read off a table of published ports. -/
def ShowsPort (containerPort : Int) (table : Json) : Prop :=
  ∃ port, IsBound containerPort none table port

/-- A port can be read off a table that lists it. -/
theorem showsPort_single (containerPort : Int) {text : String} {port : Int} (htext : text ≠ "")
    (hport : portNumber (.str text) = .ok port) :
    ShowsPort containerPort
      (.obj [(portKey containerPort, .arr [.obj [("HostPort", .str text)]])]) := by
  refine ⟨port, .str text, ?_, hport⟩
  have htruthy : (Json.str text).isTruthy = true := by simpa [Json.isTruthy] using htext
  have hlisted : firstPort? [.obj [("HostPort", .str text)]] = .ok (some (.str text)) := by
    simp [firstPort?, memberOf, Except.bind, Option.filter, htruthy]
  have hmember : memberOf (portKey containerPort)
      (.obj [(portKey containerPort, .arr [.obj [("HostPort", .str text)]])]) =
        .ok (some (.arr [.obj [("HostPort", .str text)]])) := by simp [memberOf]
  unfold publishedPort?
  dsimp only
  split
  · rw [hmember]
    exact hlisted
  · next h => exact absurd rfl h

/-- Two tables of published ports are the same, or a port can be read off both. -/
def PortsAlike (containerPort : Int) (table table' : Json) : Prop :=
  table = table' ∨ ShowsPort containerPort table ∧ ShowsPort containerPort table'

/-- What a question is answered is the same, but for the identifier of a new container and for the
table of published ports. -/
def Question.AnswersAlike (P : Json → Json → Prop) : (q : Question) → q.Answer → q.Answer → Prop
  | .create .. => fun _ _ => True
  | .reload _ => P
  | .openDaemon | .lookup _ | .remove _ | .logs .. => (· = ·)

/-- A question is about no container, or about the one of a given name. -/
def Question.IsAbout (name : String) (q : Question) : Prop := q.name? = none ∨ q.name? = some name

/-! ### Dialogues -/

namespace Dialogue

/-- Two dialogues about one container go alike: they ask the same for as long as they are answered
alike, and end alike. -/
inductive Alike (name : String) (P : Json → Json → Prop) {α : Type} (R : α → α → Prop) :
    Dialogue α → Dialogue α → Prop
  | done {ended ended' : Except Raised α} (h : EndsAlike R ended ended') :
    Alike name P R (.done ended) (.done ended')
  | say (event event' : Log.Event) {rest rest' : Dialogue α} (h : Alike name P R rest rest') :
    Alike name P R (.say event rest) (.say event' rest')
  | ask {q : Question} (hq : q.IsAbout name) {next next' : Except Raised q.Answer → Dialogue α}
      (h : ∀ reply reply', EndsAlike (q.AnswersAlike P) reply reply' →
        Alike name P R (next reply) (next' reply')) :
    Alike name P R (.ask q next) (.ask q next')

section

variable {name : String} {P : Json → Json → Prop} {α β : Type} {Q : α → α → Prop}
  {R : β → β → Prop}

theorem alike_pure {a a' : α} (h : Q a a') : Alike name P Q (pure a) (pure a') := .done (.ok h)

theorem alike_fail (r : Raised) : Alike name P Q (fail r) (fail r) := .done (.error r)

theorem alike_tell (event event' : Log.Event) :
    Alike name P (· = ·) (tell event) (tell event') := .say event event' (.done (.ok rfl))

theorem alike_perform {q : Question} (hq : q.IsAbout name) :
    Alike name P (q.AnswersAlike P) (perform q) (perform q) := .ask hq fun _ _ h => .done h

theorem alike_ofExcept (hQ : ∀ a, Q a a) (e : Except Fault α) :
    Alike name P Q (ofExcept e) (ofExcept e) := by
  cases e with
  | ok a => exact .done (.ok (hQ a))
  | error f => exact .done (.error _)

/-- Dialogues go alike one after the other. -/
theorem alike_bind {d d' : Dialogue α} {f f' : α → Dialogue β} (h : Alike name P Q d d')
    (hf : ∀ a a', Q a a' → Alike name P R (f a) (f' a')) :
    Alike name P R (d >>= f) (d' >>= f') := by
  induction h with
  | done h =>
    cases h with
    | ok h => exact hf _ _ h
    | error r => exact .done (.error r)
  | say event event' _ ih => exact .say event event' ih
  | ask hq _ ih => exact .ask hq ih

/-- Dialogues that go alike may be looked at alike. -/
theorem alike_attempt {d d' : Dialogue α} (h : Alike name P Q d d') :
    Alike name P (EndsAlike Q) d.attempt d'.attempt := by
  induction h with
  | done h => exact .done (.ok h)
  | say event event' _ ih => exact .say event event' ih
  | ask hq _ ih => exact .ask hq ih

end

/-! ### The dialogues of calls -/

section

variable {name : String} {P : Json → Json → Prop}

theorem alike_ensureDaemon : Alike name P (· = ·) ensureDaemon ensureDaemon := by
  refine alike_bind (alike_attempt (alike_perform (.inl rfl))) fun ended ended' h => ?_
  cases h with
  | ok _ => exact alike_pure rfl
  | error raised =>
    dsimp only
    cases isFault Fault.Kind.isDaemon raised with
    | none => exact alike_fail raised
    | some f => exact alike_fail _

/-- A question about the container is asked alike over a connection. -/
theorem alike_ensured {q : Question} (hq : q.IsAbout name) :
    Alike name P (q.AnswersAlike P) (do ensureDaemon; perform q)
      (do ensureDaemon; perform q) :=
  alike_bind alike_ensureDaemon fun _ _ _ => alike_perform hq

/-- A question about the container is asked alike after a lookup. -/
theorem alike_found {q : Question} (hq : q.IsAbout name) :
    Alike name P (q.AnswersAlike P) (do ensureDaemon; perform (.lookup name); perform q)
      (do ensureDaemon; perform (.lookup name); perform q) := by
  refine alike_bind alike_ensureDaemon fun _ _ _ => ?_
  have looked : Alike name P (· = ·) (perform (.lookup name)) (perform (.lookup name)) :=
    alike_perform (.inr rfl)
  exact alike_bind looked fun _ _ _ => alike_perform hq

theorem alike_ensureClean : Alike name P (· = ·) (ensureClean name) (ensureClean name) := by
  refine alike_bind (alike_attempt (alike_ensured (.inr rfl))) fun ended ended' h => ?_
  cases h with
  | error raised =>
    -- the lookup failed, and what is made of that depends on what was raised alone
    dsimp only
    cases isFault Fault.Kind.isRefusal raised with
    | none => exact alike_fail raised
    | some f =>
      dsimp only
      split
      · exact alike_bind (alike_tell _ _) fun _ _ _ => alike_pure rfl
      · exact alike_fail _
  | ok _ =>
    refine alike_bind (alike_attempt (alike_perform (.inr rfl))) fun ended ended' h => ?_
    cases h with
    | error raised =>
      dsimp only
      cases isFault Fault.Kind.isRefusal raised with
      | none => exact alike_fail raised
      | some f =>
        dsimp only
        split
        · exact alike_pure rfl
        · exact alike_fail _
    | ok _ => exact alike_bind (alike_tell _ _) fun _ _ _ => alike_pure rfl

/-- The port that the daemon has chosen is read back alike: either the tables are the same, or some
port can be read off each. -/
theorem alike_chosenPort (containerPort : Int) :
    Alike name (PortsAlike containerPort) (fun _ _ => True)
      (chosenPort name (portKey containerPort)) (chosenPort name (portKey containerPort)) := by
  refine alike_bind (alike_perform (.inr rfl)) fun table table' h => ?_
  rcases h with rfl | ⟨⟨port, listed, hlisted, hport⟩, port', listed', hlisted', hport'⟩
  · -- what is raised shows the table, so that without a port it has to be the same
    refine alike_bind (alike_ofExcept (fun _ => rfl) _) fun listed _ h => ?_
    cases h
    cases listed with
    | none => exact alike_fail _
    | some listed => exact alike_ofExcept (fun _ => trivial) _
  · rw [hlisted, hlisted']
    change Alike _ _ _ (ofExcept (portNumber listed)) (ofExcept (portNumber listed'))
    rw [hport, hport']
    exact alike_pure trivial

end
end Dialogue

/-- Two servers are the same, but for the identifiers of their containers and, unless it is fixed,
the port of the host. -/
structure Alike (hostPort : Option Int) (s s' : Server) : Prop where
  name : s'.name = s.name
  image : s'.image = s.image
  containerPort : s'.containerPort = s.containerPort
  hostPort : hostPort.filter (· ≠ 0) ≠ none → s'.hostPort = s.hostPort

theorem Dialogue.alike_start {name image : String} {containerPort : Int}
    {hostPort : Option Int} :
    Dialogue.Alike name (PortsAlike containerPort) (Server.Alike hostPort)
      (Dialogue.start name image containerPort hostPort)
      (Dialogue.start name image containerPort hostPort) := by
  refine alike_bind (alike_attempt (alike_ensured (.inr rfl))) fun ended ended' h => ?_
  cases h with
  | error raised => exact alike_fail _
  | @ok id id' _ =>
    -- the two identifiers go into the answer and nowhere else
    have started (bound bound' : Int)
        (h : hostPort.filter (· ≠ 0) ≠ none → bound' = bound) :
        Dialogue.Alike name (PortsAlike containerPort) (Server.Alike hostPort)
          (do
            tell (.serverStarted name image containerPort bound)
            pure { name, image, containerPort, hostPort := bound, id })
          (do
            tell (.serverStarted name image containerPort bound')
            pure { name, image, containerPort, hostPort := bound', id := id' }) :=
      alike_bind (alike_tell _ _) fun _ _ _ => alike_pure ⟨rfl, rfl, rfl, h⟩
    dsimp only
    cases hport : hostPort.filter (· ≠ 0) with
    | some port => exact started port port fun _ => rfl
    | none =>
      exact alike_bind (alike_chosenPort containerPort) fun bound bound' _ =>
        started bound bound' fun h => absurd hport h

theorem Dialogue.alike_stop {name : String} {P : Json → Json → Prop} :
    Dialogue.Alike name P (· = ·) (Dialogue.stop name) (Dialogue.stop name) := by
  refine alike_bind (alike_attempt (alike_found (.inr rfl))) fun ended ended' h => ?_
  cases h with
  | ok _ => exact alike_bind (alike_tell _ _) fun _ _ _ => alike_pure rfl
  | error raised =>
    rcases raised with f | text | _
    · dsimp only
      split
      · exact alike_pure rfl
      · exact alike_bind (alike_tell _ _) fun _ _ _ => alike_pure rfl
    · exact alike_fail _
    · exact alike_fail _

theorem Dialogue.alike_logs {name : String} {tail : Int} {P : Json → Json → Prop} :
    Dialogue.Alike name P (· = ·) (Dialogue.logs name tail) (Dialogue.logs name tail) := by
  refine alike_bind (alike_attempt (alike_found (.inr rfl))) fun ended ended' h => ?_
  cases h with
  | ok h =>
    cases h
    exact alike_pure rfl
  | error raised =>
    rcases raised with f | text | _
    · exact alike_pure rfl
    · exact alike_fail _
    · exact alike_fail _

namespace Call

/-- Two tables of published ports serve a call alike.  Only a call that starts a server reads
them. -/
def PortsAlike : Call → Json → Json → Prop
  | .start _ _ containerPort _ | .restart _ _ containerPort _ => Server.PortsAlike containerPort
  | .ensureClean _ | .stop _ | .logs .. => fun _ _ => True

theorem portsAlike_refl (call : Call) (table : Json) : call.PortsAlike table table := by
  cases call with
  | start _ _ _ _ => exact .inl rfl
  | restart _ _ _ _ => exact .inl rfl
  | ensureClean _ => trivial
  | stop _ => trivial
  | logs _ _ => trivial

/-- What a call answers is the same, but for the identifier of a new container and for a port that
the daemon has chosen. -/
def AnswersAlike : (call : Call) → call.Answer → call.Answer → Prop
  | .start _ _ _ hostPort | .restart _ _ _ hostPort => Server.Alike hostPort
  | .ensureClean _ | .stop _ | .logs .. => (· = ·)

/-- A call goes alike whatever identifiers and ports the daemon chooses. -/
theorem alike (call : Call) :
    Dialogue.Alike call.name call.PortsAlike call.AnswersAlike call.dialogue call.dialogue := by
  cases call with
  | ensureClean name => exact Dialogue.alike_ensureClean
  | start name image containerPort hostPort => exact Dialogue.alike_start
  | restart name image containerPort hostPort =>
    exact Dialogue.alike_bind Dialogue.alike_ensureClean fun _ _ _ => Dialogue.alike_start
  | stop name => exact Dialogue.alike_stop
  | logs name tail => exact Dialogue.alike_logs

end Call
end Server
end ClientTrial
