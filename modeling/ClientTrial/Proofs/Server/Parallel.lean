import ClientTrial.Proofs.Server.Party
import ClientTrial.Settings.Sources
import Mathlib.Logic.Function.Basic

/-!
# Trials that run in parallel

Several parties talk to one daemon.  A schedule says who goes on next; as a step makes at most
one request, a schedule stands for any interleaving of the requests of all.

Parties whose containers have different names do not get in each other's way.  What one of
them is answered depends on the daemon in as much as there is a container of its name, and
nobody else changes that.  So each party fares as it would if it had been alone with the
daemon, but for the identifiers and ports that the daemon chooses.  Trials that add their
identifiers to the names of their servers are such parties.

## Main definitions

* `Server.World` — a daemon with its parties, and the deeds that were done.
* `Server.World.tick`, `Server.World.run` — a party goes on, and one after another along a
  schedule.
* `Server.World.IsFair` — each party makes calls about its own name.
* `Server.World.Apart` — nobody has touched a container that somebody else has made.

## Main results

* `Server.World.alike_tick_self`, `Server.World.alike_tick_of_ne`, `Server.World.alike_run` —
  a party fares as if the requests of all others were left out.
* `Server.World.Apart.tick`, `Server.World.Apart.run` — parties stay apart.
* `Server.World.ends_run` — alone with a daemon, a party makes its calls one after the other.
* `Server.World.isOver_run` — a party that goes on often enough makes all its calls.
* `Trial.parallel_trials_apart` — all of this for trials with names of their own.
-/

namespace ClientTrial

open Act

namespace Server

/-- A daemon with its parties, and what they have done to containers. -/
structure World (ι : Type) where
  daemon : Daemon
  parties : ι → Party
  deeds : List (ι × Deed) := []

namespace World

variable {ι : Type}

/-- Parties that are going to make some calls of a daemon, each on a bench of its own. -/
def begin (d : Daemon) (b : ι → Bench) (turns : ι → List Turn) : World ι where
  daemon := d
  parties i := .begin (b i) (turns i)

variable {name : ι → String} {w w' : World ι} {i j : ι}

/-- Each party makes calls about its own name. -/
def IsFair (name : ι → String) (w : World ι) : Prop :=
  ∀ i, (w.parties i).Alike (name i) w.daemon (w.parties i) w.daemon

theorem isFair_begin {d : Daemon} {b : ι → Bench} {turns : ι → List Turn}
    (hcalls : ∀ i, ∀ turn ∈ turns i, turn.call.name = name i) :
    (begin d b turns).IsFair name := by
  intro i
  refine Party.alike_begin (hcalls i) ?_ (b i) d
  exact List.forall₂_same.2 fun turn _ => ⟨turn.published, turn.call.portsAlike_refl _, rfl⟩

/-- What was made and touched was given out; a container that was made stands under the name of its
maker alone, and nobody has touched one that somebody else has made. -/
structure Apart (name : ι → String) (w : World ι) : Prop where
  sound : w.daemon.IsSound
  made : ∀ j id, (j, .made id) ∈ w.deeds →
    w.daemon.HasGiven id ∧ ∀ other, (other, id) ∈ w.daemon.containers → other = name j
  touched : ∀ i id, (i, .touched id) ∈ w.deeds → w.daemon.HasGiven id
  apart : ∀ i j id, (i, .touched id) ∈ w.deeds → (j, .made id) ∈ w.deeds → i = j

theorem apart_begin {d : Daemon} (hd : d.IsSound) (b : ι → Bench) (turns : ι → List Turn) :
    (begin d b turns).Apart name where
  sound := hd
  made _ _ h := absurd h List.not_mem_nil
  touched _ _ h := absurd h List.not_mem_nil
  apart _ _ _ h := absurd h List.not_mem_nil

/-! ### Steps -/

variable [DecidableEq ι]

/-- A party goes on. -/
def tick (w : World ι) (i : ι) : World ι :=
  let moved := (w.parties i).step w.daemon
  { daemon := moved.daemon
    parties := Function.update w.parties i moved.party
    deeds := w.deeds ++ moved.deed.toList.map fun deed => (i, deed) }

/-- Parties go on as a schedule says. -/
def run (w : World ι) (schedule : List ι) : World ι := schedule.foldl tick w

theorem tick_parties_self (w : World ι) (i : ι) :
    (w.tick i).parties i = ((w.parties i).step w.daemon).party := Function.update_self _ _ _

theorem tick_parties_of_ne (w : World ι) {i j : ι} (h : i ≠ j) :
    (w.tick j).parties i = w.parties i := Function.update_of_ne h _ _

/-! ### Parties that fare alike -/

/-- Parties that fare alike do so after a step of each. -/
theorem alike_tick_self
    (h : (w.parties i).Alike (name i) w.daemon (w'.parties i) w'.daemon) :
    ((w.tick i).parties i).Alike (name i) (w.tick i).daemon ((w'.tick i).parties i)
      (w'.tick i).daemon := by
  rw [tick_parties_self, tick_parties_self]
  exact h.step

/-- A step of one party leaves every other name alone. -/
theorem id?_tick (hw : w.IsFair name) (hne : name i ≠ name j) :
    (w.tick j).daemon.id? (name i) = w.daemon.id? (name i) := (hw j).change.id? hne

/-- Parties that fare alike do so after a step of somebody with another name. -/
theorem alike_tick_of_ne (hw : w.IsFair name) (hij : i ≠ j) (hne : name i ≠ name j)
    (h : (w.parties i).Alike (name i) w.daemon (w'.parties i) w'.daemon) :
    ((w.tick j).parties i).Alike (name i) (w.tick j).daemon (w'.parties i) w'.daemon := by
  rw [tick_parties_of_ne w hij]
  exact h.of_id? (id?_tick hw hne) rfl

section

variable (hname : Function.Injective name)
include hname

theorem IsFair.tick (hw : w.IsFair name) (j : ι) : (w.tick j).IsFair name := by
  intro i
  by_cases hij : i = j
  · subst hij
    exact alike_tick_self (hw i)
  · have hsame := id?_tick hw (hname.ne hij)
    rw [tick_parties_of_ne w hij]
    exact (hw i).of_id? hsame hsame

/-- A party fares as it would if the requests of all others were left out. -/
theorem alike_run (hw : w.IsFair name)
    (h : (w.parties i).Alike (name i) w.daemon (w'.parties i) w'.daemon) (schedule : List ι) :
    ((w.run schedule).parties i).Alike (name i) (w.run schedule).daemon
      ((w'.run (schedule.filter (· = i))).parties i)
      (w'.run (schedule.filter (· = i))).daemon := by
  induction schedule generalizing w w' with
  | nil => exact h
  | cons j rest ih =>
    by_cases hij : i = j
    · -- both go on
      subst hij
      rw [List.filter_cons_of_pos (by simp)]
      exact ih (hw.tick hname i) (alike_tick_self h)
    · -- only the party that is not alone sees somebody else go on
      rw [List.filter_cons_of_neg (by simpa using Ne.symm hij)]
      exact ih (hw.tick hname j) (alike_tick_of_ne hw hij (hname.ne hij) h)

end

/-! ### Parties that are apart -/

theorem mem_deeds_tick {deed : ι × Deed} :
    deed ∈ (w.tick j).deeds ↔
      deed ∈ w.deeds ∨ deed.1 = j ∧ ((w.parties j).step w.daemon).deed = some deed.2 := by
  rw [tick, List.mem_append]
  rcases ((w.parties j).step w.daemon).deed with _ | done
  · simp
  · obtain ⟨i, deed⟩ := deed
    simp only [Option.toList_some, List.map_cons, List.map_nil, List.mem_singleton,
      Prod.mk.injEq, Option.some.injEq]
    exact or_congr_right (and_congr_right fun _ => eq_comm)

section

variable (hname : Function.Injective name)
include hname

/-- Parties that are apart are so after a step of one of them. -/
theorem Apart.tick (h : w.Apart name) (hw : w.IsFair name) (k : ι) : (w.tick k).Apart name := by
  have hchange := (hw k).change
  have hgiven {id : String} (hid : w.daemon.HasGiven id) : (w.tick k).daemon.HasGiven id :=
    hid.of_le hchange.created_le
  -- a container that is made is new, and one that is touched is there
  have hnew {id : String} (hmade : ((w.parties k).step w.daemon).deed = some (.made id)) :
      id = w.daemon.nextId ∧ (w.tick k).daemon.HasGiven id := by
    rw [hmade] at hchange
    exact hchange.of_made
  have hthere {id : String} (htouched : ((w.parties k).step w.daemon).deed = some (.touched id)) :
      (name k, id) ∈ w.daemon.containers := by
    rw [htouched] at hchange
    exact Daemon.mem_of_id? hchange.of_touched
  refine ⟨hchange.isSound h.sound, fun j id hmade => ?_, fun i id htouched => ?_,
    fun i j id htouched hmade => ?_⟩
  · rcases mem_deeds_tick.1 hmade with hmade | ⟨rfl, hmade⟩
    · obtain ⟨hid, honly⟩ := h.made j id hmade
      refine ⟨hgiven hid, fun other hother => ?_⟩
      rcases hchange.mem hother with hold | hlast
      · exact honly other hold
      · cases hlast
        exact absurd hid (Daemon.not_hasGiven_nextId _)
    · obtain ⟨rfl, hid⟩ := hnew hmade
      refine ⟨hid, fun other hother => ?_⟩
      rcases hchange.mem hother with hold | hlast
      · exact absurd (h.sound.hasGiven hold) (Daemon.not_hasGiven_nextId _)
      · exact congrArg Prod.fst hlast
  · rcases mem_deeds_tick.1 htouched with htouched | ⟨rfl, htouched⟩
    · exact hgiven (h.touched i id htouched)
    · exact hgiven (h.sound.hasGiven (hthere htouched))
  · rcases mem_deeds_tick.1 htouched with htouched | ⟨rfl, htouched⟩
    · have hid := h.touched i id htouched
      rcases mem_deeds_tick.1 hmade with hmade | ⟨rfl, hmade⟩
      · exact h.apart i j id htouched hmade
      · obtain ⟨rfl, -⟩ := hnew hmade
        exact absurd hid (Daemon.not_hasGiven_nextId _)
    · rcases mem_deeds_tick.1 hmade with hmade | ⟨rfl, -⟩
      · exact hname ((h.made j id hmade).2 _ (hthere htouched))
      · rfl

/-- Parties that are apart are so along any schedule. -/
theorem Apart.run (h : w.Apart name) (hw : w.IsFair name) (schedule : List ι) :
    (w.run schedule).Apart name := by
  induction schedule generalizing w with
  | nil => exact h
  | cons k rest ih => exact ih (h.tick hname hw k) (hw.tick hname k)

end

/-! ### Parties that are alone -/

/-- Alone with a daemon, a party comes nearer to what it would end with anyway. -/
theorem ends_run {schedule : List ι} (h : ∀ j ∈ schedule, j = i) (w : World ι) :
    ((w.run schedule).parties i).ends (w.run schedule).daemon = (w.parties i).ends w.daemon := by
  induction schedule generalizing w with
  | nil => rfl
  | cons j rest ih =>
    obtain ⟨rfl, hrest⟩ := List.forall_mem_cons.1 h
    refine (ih hrest (w.tick j)).trans ?_
    rw [tick_parties_self]
    exact Party.ends_step _ _

/-! ### Parties that come to an end -/

/-- A party that goes on often enough makes all its calls, whatever the others do meanwhile. -/
theorem isOver_run {schedule : List ι} (h : (w.parties i).EndsWithin (schedule.count i)) :
    ((w.run schedule).parties i).IsOver := by
  induction schedule generalizing w with
  | nil => exact h.isOver
  | cons j rest ih =>
    refine ih (w := w.tick j) ?_
    by_cases hij : i = j
    · subst hij
      rw [List.count_cons_self] at h
      rw [tick_parties_self]
      exact h.step w.daemon
    · rw [List.count_cons_of_ne (Ne.symm hij)] at h
      rw [tick_parties_of_ne w hij]
      exact h

end World
end Server

/-! ### Trials -/

/-- A trial that adds its identifier to the name of its server has a name of its own. -/
theorem Settings.containerName_inj {s s' : Settings} (hs : (s .uniqueServerName : Bool) = true)
    (hs' : (s' .uniqueServerName : Bool) = true)
    (hname : (s .serverName : String) = (s' .serverName : String)) {runId runId' : String}
    (h : s.containerName runId = s'.containerName runId') : runId = runId' := by
  unfold containerName at h
  rw [if_pos hs, if_pos hs', hname] at h
  exact (String.append_right_inj _).1 h

namespace Trial

open Server

/-- **Trials that run in parallel do not collide.**  Let trials add their identifiers to the name of
their server, which is the same for all, and let no two have the same identifier.  Let the calls of
each be about its own server, with any incidents, and let them be interleaved on one daemon as any
schedule says.  Then no trial ever touches a container that another one has made.  To each call it
is replied what would have been if the requests of all others had been left out, but for the
identifiers of containers and the ports that the daemon has chosen; the trial leaves the same trace,
and in the end there is a container of its name if and only if there would have been one then.  What
is replied with all others left out is what is replied to the calls if they are made one after the
other, and a trial that goes on ten times for each of its calls has made all of them. -/
theorem parallel_trials_apart {ι : Type} [DecidableEq ι] {t : ι → Trial}
    (hunique : ∀ i, ((t i).settings .uniqueServerName : Bool) = true)
    (hname : ∀ i j, ((t i).settings .serverName : String) = ((t j).settings .serverName : String))
    (hruns : Function.Injective fun i => (t i).runId) {d : Daemon} (hd : d.IsSound)
    (b : ι → Bench) {turns turns' : ι → List Turn}
    (hcalls : ∀ i, ∀ turn ∈ turns i, turn.call.name = (t i).serverName)
    (hports : ∀ i, List.Forall₂ Turn.Alike (turns i) (turns' i)) (schedule : List ι) :
    let full := (World.begin d b turns).run schedule
    (Function.Injective fun i => (t i).serverName) ∧
      (∀ i j id, (i, Deed.touched id) ∈ full.deeds → (j, Deed.made id) ∈ full.deeds → i = j) ∧
      ∀ i,
        let alone := (World.begin d b turns').run (schedule.filter (· = i))
        List.Forall₂ Reply.Alike (full.parties i).settled (alone.parties i).settled ∧
          (alone.parties i).bench.trace = (full.parties i).bench.trace ∧
          (alone.daemon.id? (t i).serverName).isSome =
            (full.daemon.id? (t i).serverName).isSome ∧
          (alone.parties i).settled <+: replies (turns' i) ((b i).sharing d) ∧
          (10 * (turns i).length ≤ schedule.count i → (full.parties i).IsOver ∧
            (alone.parties i).settled = replies (turns' i) ((b i).sharing d)) := by
  intro full
  have hinj : Function.Injective fun i => (t i).serverName := fun i j h =>
    hruns (Settings.containerName_inj (hunique i) (hunique j) (hname i j) h)
  have hfair := World.isFair_begin (d := d) (b := b) hcalls
  refine ⟨hinj, ((World.apart_begin hd b turns).run hinj hfair schedule).apart, fun i => ?_⟩
  intro alone
  have hbegin : ((World.begin d b turns).parties i).Alike (t i).serverName d
      ((World.begin d b turns').parties i) d :=
    Party.alike_begin (hcalls i) (hports i) (b i) d
  have halike : (full.parties i).Alike (t i).serverName full.daemon (alone.parties i)
      alone.daemon := World.alike_run hinj hfair hbegin schedule
  -- alone the trial makes its calls one after the other
  have hends : (alone.parties i).ends alone.daemon = replies (turns' i) ((b i).sharing d) :=
    World.ends_run (fun j hj => by simpa using (List.mem_filter.1 hj).2) _
  refine ⟨halike.settled, halike.trace, halike.there, ?_, fun hlong => ?_⟩
  · rw [← hends]
    exact Party.settled_prefix_ends _ _
  · have hover : (full.parties i).IsOver :=
      World.isOver_run (Party.endsWithin_begin (b i) hlong)
    refine ⟨hover, ?_⟩
    rw [← hends]
    exact ((halike.isOver_iff.1 hover).ends_eq _).symm

/-- Two trials take turns at clearing away, starting and stopping their servers.  One of them has a
container to clear away, the other cannot read the log of its server.  The container beside
theirs stays, and each fares as it would if it had been alone, at another port. -/
theorem trials_in_turns_apart :
    let sources : Sources :=
      { overrides := [("unique_server_name", .bool true), ("host_port", .null)] }
    let t : Bool → Trial := fun i => ⟨sources.valueOrDefault, if i then "r2" else "r1"⟩
    let shown (port : String) : Json :=
      .obj [(portKey 6667, .arr [.obj [("HostPort", .str port)]])]
    let lost : Request → Queue Raised := fun request =>
      if request = .logs then [some (.fault ⟨.os .daemonConnection, "gone"⟩)] else []
    let turns (port : String) (i : Bool) : List Turn :=
      [{ call := .ensureClean (t i).serverName },
        { call := .start (t i).serverName "image" 6667 none, published := shown port },
        { call := .logs (t i).serverName 50, incidents := if i then lost else fun _ => [] },
        { call := .stop (t i).serverName }]
    let d := ({} : Daemon).withContainers ["tokio_test_ircd-r1", "tokio_test_ircd"]
    let b : Bool → Bench := fun _ => Bench.quiet
    let schedule := (List.replicate 40 [false, true]).flatten
    let full := (World.begin d b fun i => turns (if i then "49154" else "49153") i).run schedule
    sources.load = .ok (t true).settings ∧
      (∀ i, (full.parties i).IsOver ∧ (full.parties i).settled.length = 4) ∧
      (true, Deed.made "id3") ∈ full.deeds ∧ (false, Deed.made "id4") ∈ full.deeds ∧
      full.daemon.containers = [("tokio_test_ircd", "id2")] ∧
      (∀ i j id, (i, Deed.touched id) ∈ full.deeds → (j, Deed.made id) ∈ full.deeds → i = j) ∧
      ∀ i, List.Forall₂ Reply.Alike (full.parties i).settled
        (((World.begin d b (turns "49160")).run (schedule.filter (· = i))).parties i).settled := by
  intro sources t shown lost turns d b schedule full
  have accepted : sources.allIssues.isEmpty = true := by decide +kernel
  have shows (port : String) (n : Int) (hport : port ≠ "")
      (hn : portNumber (.str port) = .ok n) : ShowsPort 6667 (shown port) :=
    showsPort_single 6667 hport hn
  have hother : ShowsPort 6667 (shown "49160") := shows "49160" 49160 (by decide) rfl
  have same (turn : Turn) : turn.Alike turn := ⟨_, turn.call.portsAlike_refl _, rfl⟩
  have hports (i : Bool) :
      List.Forall₂ Turn.Alike (turns (if i then "49154" else "49153") i) (turns "49160" i) := by
    have hown : ShowsPort 6667 (shown (if i then "49154" else "49153")) := by
      cases i with
      | false => exact shows "49153" 49153 (by decide) rfl
      | true => exact shows "49154" 49154 (by decide) rfl
    exact .cons (same _)
      (.cons ⟨_, .inr ⟨hown, hother⟩, rfl⟩ (.cons (same _) (.cons (same _) .nil)))
  have hcalls (i : Bool) :
      ∀ turn ∈ turns (if i then "49154" else "49153") i, turn.call.name = (t i).serverName := by
    simp only [turns, List.forall_mem_cons]
    exact ⟨rfl, rfl, rfl, rfl, fun _ h => absurd h List.not_mem_nil⟩
  have hruns : ∀ i j, (t i).runId = (t j).runId → i = j := by decide +kernel
  have hd : d.IsSound := (Daemon.isSound_of_empty rfl).withContainers _
  obtain ⟨-, hapart, halike⟩ :=
    parallel_trials_apart (fun _ => rfl) (fun _ _ => rfl) (fun i j => hruns i j) hd b hcalls hports
      schedule
  have hlong : ∀ i, 10 * 4 ≤ schedule.count i := by decide
  have hsettled : ∀ i, (full.parties i).settled.length = 4 := by decide +kernel
  have hover (i : Bool) : (full.parties i).IsOver := ((halike i).2.2.2.2 (hlong i)).1
  refine ⟨?_, fun i => ⟨hover i, hsettled i⟩, ?_, ?_, ?_, hapart, fun i => (halike i).1⟩
  · exact Sources.load_eq_ok_iff.2 ⟨List.isEmpty_iff.1 accepted, rfl⟩
  · decide +kernel
  · decide +kernel
  · decide +kernel

end Trial
end ClientTrial
