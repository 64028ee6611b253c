import ClientTrial.Proofs.Server.Alike

/-!
# A table that is shared

Whoever talks to a daemon has a connection and incidents of its own, but the table of
containers is shared.  What a question about a container does to the table is told in one
place: the table stays, the container is created, or it is removed.  On the way it is seen
which containers are made and which are touched.

A question is answered alike on two benches that differ in no more than the other names in
the table, the identifiers, and the ports that are published.

## Main definitions

* `Bench.sharing` — a bench with the table of another daemon.
* `Deed` — a container was made or touched.
* `Daemon.Change` — what a question does to the table.
* `Bench.Alike` — two benches that answer questions about a container alike.

## Main results

* `Server.Question.changes` — a question changes the table in one of these ways.
* `Server.Question.goAlike` — a question is answered alike on benches that are alike.
-/

namespace ClientTrial

open Act Server

/-! ### Changes of the table -/

/-- The bench with the containers of a daemon that serves others, too. -/
def Bench.sharing (d : Daemon) (b : Bench) : Bench :=
  { b with daemon := { b.daemon with containers := d.containers, created := d.created } }

theorem Bench.sameTable_sharing (d : Daemon) (b : Bench) : d.SameTable (b.sharing d).daemon :=
  ⟨rfl, rfl⟩

/-- What happens to containers, each with its identifier. -/
inductive Deed where
  /-- A container is created. -/
  | made (id : String)
  /-- A container is looked up, read anew, asked for its log, or removed. -/
  | touched (id : String)
  deriving DecidableEq, Repr

namespace Daemon

variable {d later : Daemon}

theorem SameTable.create (h : d.SameTable later) (name : String) :
    (d.create name).SameTable (later.create name) := by
  constructor
  · change later.containers ++ [(name, later.nextId)] = d.containers ++ [(name, d.nextId)]
    rw [h.containers, h.nextId]
  · exact congrArg (· + 1) h.created

theorem SameTable.remove (h : d.SameTable later) (name : String) :
    (d.remove name).SameTable (later.remove name) := by
  constructor
  · exact congrArg (List.filter fun c => c.1 != name) h.containers
  · exact h.created

/-- Under its name a container that is created is there, be it the one that was there before. -/
theorem isSome_id?_create (d : Daemon) (name : String) :
    ((d.create name).id? name).isSome = true := by
  rw [id?, create, lookup_append_single, if_pos rfl, Option.isSome_or]
  exact Bool.or_true _

/-- An identifier was given out. -/
def HasGiven (d : Daemon) (id : String) : Prop := ∃ k < d.created, id = idAfter k

theorem HasGiven.of_le {id : String} (h : d.HasGiven id) (hle : d.created ≤ later.created) :
    later.HasGiven id := by
  obtain ⟨k, hk, hid⟩ := h
  exact ⟨k, Nat.lt_of_lt_of_le hk hle, hid⟩

theorem IsSound.hasGiven (h : d.IsSound) {c : String × String} (hc : c ∈ d.containers) :
    d.HasGiven c.2 := h c hc

theorem not_hasGiven_nextId (d : Daemon) : ¬d.HasGiven d.nextId := by
  rintro ⟨k, hk, hid⟩
  exact Nat.ne_of_lt hk (idAfter_inj hid).symm

/-- The deed of touching the container of a name, if there is one. -/
def touching (d : Daemon) (name : String) : Option Deed := (d.id? name).map .touched

/-- What becomes of the table at a question about a name, and the deed that is done. -/
inductive Change (name : String) (d : Daemon) : Daemon → Option Deed → Prop
  | idle {later : Daemon} (h : d.SameTable later) : Change name d later none
  | touch {later : Daemon} (h : d.SameTable later) : Change name d later (d.touching name)
  | make {later : Daemon} (hfree : d.id? name = none) (h : (d.create name).SameTable later) :
    Change name d later (some (.made d.nextId))
  | unmake {later : Daemon} (h : (d.remove name).SameTable later) :
    Change name d later (d.touching name)

namespace Change

variable {name : String} {deed : Option Deed}

/-- A change concerns no name but its own. -/
theorem id? (h : Change name d later deed) {other : String} (hother : other ≠ name) :
    later.id? other = d.id? other := by
  cases h with
  | idle h => exact h.id? other
  | touch h => exact h.id? other
  | make _ h => exact (h.id? other).trans (id?_create_of_ne hother)
  | unmake h => exact (h.id? other).trans (id?_remove_of_ne hother)

theorem isSound (h : Change name d later deed) (hd : d.IsSound) : later.IsSound := by
  cases h with
  | idle h => exact h.isSound hd
  | touch h => exact h.isSound hd
  | make _ h => exact h.isSound (hd.create name)
  | unmake h => exact h.isSound (hd.remove name)

/-- No identifier is taken back. -/
theorem created_le (h : Change name d later deed) : d.created ≤ later.created := by
  cases h with
  | idle h => exact Nat.le_of_eq h.created.symm
  | touch h => exact Nat.le_of_eq h.created.symm
  | make _ h => exact Nat.le_of_succ_le (Nat.le_of_eq h.created.symm)
  | unmake h => exact Nat.le_of_eq h.created.symm

/-- What is in the table was there before, or is the container that was made. -/
theorem mem (h : Change name d later deed) {c : String × String} (hc : c ∈ later.containers) :
    c ∈ d.containers ∨ c = (name, d.nextId) := by
  cases h with
  | idle h => exact .inl (h.containers ▸ hc)
  | touch h => exact .inl (h.containers ▸ hc)
  | make _ h =>
    rw [h.containers] at hc
    exact (List.mem_append.1 hc).imp_right List.mem_singleton.1
  | unmake h =>
    rw [h.containers] at hc
    exact .inl (List.mem_filter.1 hc).1

/-- The container that is made has the identifier that comes next, and that one is given out. -/
theorem of_made {id : String} (h : Change name d later (some (.made id))) :
    id = d.nextId ∧ later.HasGiven id := by
  generalize hdeed : some (Deed.made id) = deed at h
  -- the deeds of all other changes are those of touching
  cases h with
  | idle h => cases hdeed
  | touch h =>
    obtain ⟨_, -, h⟩ := Option.map_eq_some_iff.1 hdeed.symm
    cases h
  | make _ h =>
    cases hdeed
    exact ⟨rfl, d.created, h.created ▸ Nat.lt_succ_self _, rfl⟩
  | unmake h =>
    obtain ⟨_, -, h⟩ := Option.map_eq_some_iff.1 hdeed.symm
    cases h

/-- The container that is touched is the one of the name. -/
theorem of_touched {id : String} (h : Change name d later (some (.touched id))) :
    d.id? name = some id := by
  generalize hdeed : some (Deed.touched id) = deed at h
  have found (h : some (Deed.touched id) = d.touching name) : d.id? name = some id := by
    obtain ⟨_, hid, hsame⟩ := Option.map_eq_some_iff.1 h.symm
    cases hsame
    exact hid
  cases h with
  | idle h => cases hdeed
  | touch h => exact found hdeed
  | make _ h => cases hdeed
  | unmake h => exact found hdeed

end Change
end Daemon

namespace Server.Question

theorem IsAbout.eq_name {name other : String} {q : Question} (hq : q.IsAbout name)
    (h : q.name? = some other) : other = name := by
  rcases hq with hnone | hsome
  · rw [hnone] at h
    cases h
  · exact Option.some.inj (h.symm.trans hsome)

/-- The deed that is done by a question on a table. -/
def deed (d : Daemon) : (q : Question) → Except Raised q.Answer → Option Deed
  | .create .., .ok id => some (.made id)
  | .lookup name, _ | .remove name, _ | .reload name, _ | .logs name _, _ => d.touching name
  | .openDaemon, _ | .create .., .error _ => none

/-- What a question about a name does to the table. -/
theorem changes {name : String} {q : Question} (hq : q.IsAbout name) (d : Daemon) (b : Bench) :
    d.Change name (q.act.exec (b.sharing d)).2.daemon
      (q.deed d (q.act.exec (b.sharing d)).1) := by
  have hshared := b.sameTable_sharing d
  cases q with
  | openDaemon => exact .idle (hshared.trans (Table.keeps_openDaemon _))
  | lookup other =>
    obtain rfl := hq.eq_name rfl
    exact .touch (hshared.trans (Table.keeps_lookup _ _))
  | reload other =>
    obtain rfl := hq.eq_name rfl
    exact .touch (hshared.trans (Table.keeps_reload _ _))
  | logs other tail =>
    obtain rfl := hq.eq_name rfl
    exact .touch (hshared.trans (Table.keeps_logs _ _ _))
  | remove other =>
    obtain rfl := hq.eq_name rfl
    -- a removal touches the container even if it fails
    rcases h : (Act.remove other).exec (b.sharing d) with ⟨raised | _, c⟩
    · simp only [act, h]
      exact .touch (hshared.trans (remove_eq_error h).1)
    · obtain ⟨e, hsame, hc⟩ := remove_eq_ok h
      simp only [act, h]
      refine .unmake ?_
      rw [hc]
      exact (hshared.trans hsame).remove other
  | create image other port hostPort =>
    obtain rfl := hq.eq_name rfl
    rcases h : (Act.create image other port hostPort).exec (b.sharing d) with ⟨raised | id, c⟩
    · simp only [act, h]
      exact .idle (hshared.trans (create_eq_error h))
    · obtain ⟨hfree, rfl, e, hsame, hc⟩ := create_eq_ok h
      simp only [act, h]
      refine .make hfree ?_
      rw [hc]
      exact (hshared.trans hsame).create other

end Server.Question

/-! ### Actions that go alike -/

namespace Act

section

variable {α β : Type} {S : Bench → Bench → Prop} {Q : α → α → Prop} {R : β → β → Prop}

/-- On benches that are related two actions end alike and leave benches that are related. -/
def GoAlike (S : Bench → Bench → Prop) (Q : α → α → Prop) (act act' : Act α) : Prop :=
  ∀ b b', S b b' →
    EndsAlike Q (act.exec b).1 (act'.exec b').1 ∧ S (act.exec b).2 (act'.exec b').2

theorem goAlike_pure {a a' : α} (h : Q a a') : GoAlike S Q (pure a) (pure a') :=
  fun _ _ hb => ⟨.ok h, hb⟩

theorem goAlike_throw (r : Raised) : GoAlike S Q (throw r) (throw r) :=
  fun _ _ hb => ⟨.error r, hb⟩

theorem goAlike_perhaps (incident : Option Raised) :
    GoAlike S (· = ·) (perhaps incident) (perhaps incident) := by
  cases incident with
  | none => exact goAlike_pure rfl
  | some r => exact goAlike_throw r

theorem goAlike_ask {f f' : Bench → α} (h : ∀ b b', S b b' → Q (f b) (f' b')) :
    GoAlike S Q (ask f) (ask f') := fun b b' hb => ⟨.ok (h b b' hb), hb⟩

theorem goAlike_change {f f' : Bench → Bench} (h : ∀ b b', S b b' → S (f b) (f' b')) :
    GoAlike S (· = ·) (change f) (change f') := fun b b' hb => ⟨.ok rfl, h b b' hb⟩

theorem goAlike_bind {act act' : Act α} {f f' : α → Act β} (h : GoAlike S Q act act')
    (hf : ∀ a a', Q a a' → GoAlike S R (f a) (f' a')) :
    GoAlike S R (act >>= f) (act' >>= f') := by
  intro b b' hb
  obtain ⟨hends, hleft⟩ := h b b' hb
  rcases he : act.exec b with ⟨e, c⟩
  rcases he' : act'.exec b' with ⟨e', c'⟩
  rw [he, he'] at hends hleft
  cases hends with
  | ok ha =>
    rw [exec_bind_of_ok he, exec_bind_of_ok he']
    exact hf _ _ ha c c' hleft
  | error r =>
    rw [exec_bind_of_error he, exec_bind_of_error he']
    exact ⟨.error r, hleft⟩

end
end Act

/-! ### Benches that are alike -/

/-- Two benches that answer questions about a container alike.  The trace of what was done is the
same on both. -/
structure Bench.Alike (name : String) (P : Json → Json → Prop) (b b' : Bench) : Prop where
  there : (b'.daemon.id? name).isSome = (b.daemon.id? name).isSome
  published : P b.daemon.published b'.daemon.published
  incidents : b'.daemon.incidents = b.daemon.incidents
  opened : b'.daemon.opened = b.daemon.opened
  openings : b'.daemon.openings = b.daemon.openings
  log : b'.daemon.log = b.daemon.log
  trace : b'.trace = b.trace

section

variable {name : String} {P : Json → Json → Prop}

theorem Act.goAlike_note (e : Effect) :
    GoAlike (Bench.Alike name P) (· = ·) (note e) (note e) :=
  goAlike_change fun _ _ h => { h with trace := congrArg (·.push e) h.trace }

theorem Act.goAlike_request (kind : Request) (effect : Effect) :
    GoAlike (Bench.Alike name P) (· = ·) (request kind effect) (request kind effect) := by
  refine goAlike_bind (goAlike_note effect) fun _ _ _ => ?_
  have due (b b' : Bench) (h : b.Alike name P b') : b.daemon.due kind = b'.daemon.due kind := by
    rw [Daemon.due, Daemon.due, h.incidents]
  refine goAlike_bind (goAlike_ask due) fun incident _ h => ?_
  subst h
  have served (b b' : Bench) (h : b.Alike name P b') :
      Bench.Alike name P { b with daemon := b.daemon.served kind }
        { b' with daemon := b'.daemon.served kind } :=
    { h with incidents := by simp only [Daemon.served, h.incidents] }
  exact goAlike_bind (goAlike_change served) fun _ _ _ => goAlike_perhaps incident

theorem Act.goAlike_openDaemon :
    GoAlike (Bench.Alike name P) (· = ·) openDaemon openDaemon := by
  refine goAlike_bind (goAlike_ask fun _ _ h => h.opened.symm) fun opened _ h => ?_
  subst h
  split
  · exact goAlike_pure rfl
  · refine goAlike_bind (goAlike_note .openDaemon) fun _ _ _ => ?_
    have due (b b' : Bench) (h : b.Alike name P b') :
        b.daemon.openings.due = b'.daemon.openings.due := by rw [h.openings]
    refine goAlike_bind (goAlike_ask due) fun incident _ h => ?_
    subst h
    refine goAlike_bind (goAlike_change fun b b' h => ?_) fun _ _ _ => ?_
    · exact { h with openings := congrArg Queue.rest h.openings }
    · refine goAlike_bind (goAlike_perhaps incident) fun _ _ _ => ?_
      exact goAlike_change fun _ _ h => { h with opened := rfl }

/-- A question about a container is answered alike on benches that are alike. -/
theorem Server.Question.goAlike {q : Question} (hq : q.IsAbout name) :
    GoAlike (Bench.Alike name P) (q.AnswersAlike P) q.act q.act := by
  have there : GoAlike (Bench.Alike name P) (fun id id' => id'.isSome = id.isSome)
      (ask (·.daemon.id? name)) (ask (·.daemon.id? name)) := goAlike_ask fun _ _ h => h.there
  cases q with
  | openDaemon => exact goAlike_openDaemon
  | lookup other =>
    obtain rfl := hq.eq_name rfl
    refine goAlike_bind (goAlike_request _ _) fun _ _ _ => goAlike_bind there fun id id' h => ?_
    rw [show id'.isNone = id.isNone by rw [← Option.not_isSome, ← Option.not_isSome, h]]
    split
    · exact goAlike_throw _
    · exact goAlike_pure rfl
  | create image other port hostPort =>
    obtain rfl := hq.eq_name rfl
    refine goAlike_bind (goAlike_request _ _) fun _ _ _ => goAlike_bind there fun id id' h => ?_
    -- the identifiers differ, but afterwards there is a container of the name on both benches
    have created : GoAlike (Bench.Alike other P) (fun _ _ => True)
        (do
          let id ← ask (·.daemon.nextId)
          Act.change fun b => { b with daemon := b.daemon.create other }
          pure id)
        (do
          let id ← ask (·.daemon.nextId)
          Act.change fun b => { b with daemon := b.daemon.create other }
          pure id) := by
      refine goAlike_bind (goAlike_ask (Q := fun _ _ => True) fun _ _ _ => trivial) fun _ _ _ => ?_
      refine goAlike_bind (goAlike_change fun b b' h => ?_) fun _ _ _ => goAlike_pure trivial
      exact { h with
        there := (b'.daemon.isSome_id?_create other).trans (b.daemon.isSome_id?_create other).symm }
    rw [h]
    split
    · exact goAlike_bind (Q := (· = ·)) (goAlike_throw _) fun _ _ _ => created
    · exact created
  | remove other =>
    obtain rfl := hq.eq_name rfl
    refine goAlike_bind (goAlike_request _ _) fun _ _ _ => goAlike_change fun b b' h => ?_
    exact { h with
      there := by rw [Daemon.id?_remove_self, Daemon.id?_remove_self] }
  | reload other =>
    exact goAlike_bind (goAlike_request _ _) fun _ _ _ => goAlike_ask fun _ _ h => h.published
  | logs other tail =>
    exact goAlike_bind (goAlike_request _ _) fun _ _ _ => goAlike_ask fun _ _ h => h.log.symm

end
end ClientTrial
