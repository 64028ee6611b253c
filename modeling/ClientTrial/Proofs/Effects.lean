import ClientTrial.Proofs.Bench.Trace
import ClientTrial.Proofs.Server

/-!
# What the usual crew adds to the trace

A task of the usual crew that answers has added certain effects to the trace, and one that
is ended has added the first of them.  The effects are known but for what only the outside
world decides: whether a container is found, how often a connection is refused, and how
often a marker is looked for.

## Main definitions

* `Within` — all of certain effects if an action answers, and the first of them if it is
  ended.
* `tries` — some refused connections, each with a pause, and a last connection.

## Main results

* `Traces.start`, `Traces.awaitReachable`, … — the tasks on the way forward.
* `Server.ensureClean_effects` — a container is removed iff it is found.
* `Traces.terminate`, `Traces.stop`, … — the tasks of the clean-up.
-/

namespace ClientTrial

open Act
open Act.Frame (keeps_pure keeps_throw keeps_bind keeps_ite)

/-! ### Effects in part -/

/-- An action that answers has added certain effects, and one that is ended the first of them. -/
def Within {α : Type} (L : List Effect → Prop) (e : Except Raised α) (es : List Effect) : Prop :=
  (e.isOk = true → L es) ∧ ∃ full, L full ∧ es <+: full

section

variable {α β : Type} {L M : List Effect → Prop} {es full : List Effect}

theorem Within.whole (h : L es) (e : Except Raised α) : Within L e es :=
  ⟨fun _ => h, es, h, List.prefix_rfl⟩

theorem Within.part (h : L full) (hes : es <+: full) (r : Raised) :
    Within L (.error r : Except Raised α) es :=
  ⟨fun hr => Bool.noConfusion hr, full, h, hes⟩

/-- All effects of a task that has one way to go. -/
theorem Within.all (h : es = full) (e : Except Raised α) : Within (· = full) e es :=
  ⟨fun _ => h, full, rfl, h ▸ List.prefix_rfl⟩

/-- The first of the effects of a task that has one way to go. -/
theorem Within.start (hes : es <+: full) (r : Raised) :
    Within (· = full) (.error r : Except Raised α) es :=
  ⟨fun hr => Bool.noConfusion hr, full, rfl, hes⟩

/-- What has ended an action ends what was to follow it. -/
theorem Within.error {r : Raised} (h : Within L (.error r : Except Raised α) es) (r' : Raised) :
    Within L (.error r' : Except Raised β) es := by
  obtain ⟨-, full, hfull, hes⟩ := h
  exact part hfull hes r'

theorem Within.mono {e : Except Raised α} (h : Within L e es) (hL : ∀ es, L es → M es) :
    Within M e es := by
  obtain ⟨hok, full, hfull, hprefix⟩ := h
  exact ⟨fun he => hL es (hok he), full, hL full hfull, hprefix⟩

end

/-! ### The effects of tasks -/

/-- What starting a container adds: it is created, and its ports are read anew unless the port of
the host is given. -/
def Server.startEffects (name image : String) (containerPort : Int) (hostPort : Option Int) :
    List Effect :=
  .create image name (portKey containerPort) hostPort ::
    if (hostPort.filter (· ≠ 0)).isSome then [] else [.reload name]

/-- Some attempts that are refused, each with a pause after it, and a last attempt. -/
def tries (attempt : (closed : Bool) → Effect) (pause : Effect) :
    (refused : Nat) → (closed : Bool) → List Effect
  | 0, closed => [attempt closed]
  | refused + 1, closed => attempt false :: pause :: tries attempt pause refused closed

/-- What holds of the attempts and of the pause holds of all that is done. -/
theorem forall_mem_tries {attempt : Bool → Effect} {pause : Effect} {P : Effect → Prop}
    (hattempt : ∀ closed, P (attempt closed)) (hpause : P pause) (refused : Nat) (closed : Bool) :
    ∀ e ∈ tries attempt pause refused closed, P e := by
  induction refused with
  | zero => exact List.forall_mem_singleton.2 (hattempt closed)
  | succ refused ih =>
    exact List.forall_mem_cons.2 ⟨hattempt false, List.forall_mem_cons.2 ⟨hpause, ih⟩⟩

namespace Still

open Act.Frame

theorem keeps_sayAll (events : List Log.Event) : still.Keeps (Artifact.sayAll events) :=
  Frame.keeps_sayAll keeps_say events

theorem keeps_verifyAll (a : Artifact) (markers : List String) :
    still.Keeps (a.verifyAll markers) := Frame.keeps_verifyAll keeps_say a markers

theorem keeps_tryClose (r : Receiver) (earlier : Option TrialError) :
    still.Keeps (r.tryClose earlier) := Frame.keeps_tryClose keeps_say r keeps_closeOutput earlier

/-- A client that is run to its end leaves no trace but that of the command. -/
theorem exists_runForeground (command : List String) (added : List (String × String))
    (timeout : Option Float) :
    ∃ after : Except Raised Int → Act Int, (∀ e, still.Keeps (after e)) ∧
      Client.runForeground command added timeout = (do
        say (.running command)
        let environ ← ask fun b => overlay b.environ added
        let dir ← ask (·.workingDir)
        let ended ← attempt (runErrand command environ dir timeout)
        after ended) := by
  refine ⟨_, fun e => ?_, rfl⟩
  split
  · refine keeps_ite (keeps_bind (keeps_throw _) fun _ => ?_) ?_
    all_goals exact keeps_bind (keeps_say _) fun _ => keeps_pure _
  · split
    · exact keeps_throw _
    · exact keeps_bind (keeps_say _) fun _ => keeps_throw _
    · exact keeps_throw _

/-- A client that is started in the background leaves no trace but that of the command. -/
theorem exists_runBackground (command : List String) (added : List (String × String))
    (route : Route) :
    ∃ after : Nat → Except Raised Int → Act Receiver, (∀ n e, still.Keeps (after n e)) ∧
      Client.runBackground command added route = (do
        let output ← openOutput route
        let environ ← ask fun b => overlay b.environ added
        let dir ← ask (·.workingDir)
        let ended ← attempt (spawn command environ dir route output)
        after output ended) := by
  refine ⟨_, fun n e => ?_, rfl⟩
  split
  · exact keeps_bind (keeps_say _) fun _ => keeps_bind (keeps_ask _) fun _ => keeps_pure _
  · split
    · exact keeps_throw _
    · refine keeps_bind (keeps_closeOutput _) fun _ => ?_
      exact keeps_bind (keeps_say _) fun _ => keeps_throw _

end Still

namespace Traces

variable {w : Surroundings} {α β : Type}

/-- What comes after a task that leaves all or the first of its effects keeps still. -/
theorem bind_still {act : Act α} {f : α → Act β} {L : List Effect → Prop}
    (h : Traces w act (Within L)) (hf : ∀ a, Frame.still.Keeps (f a)) :
    Traces w (act >>= f) (Within L) := by
  refine bind h (fun a es hes => of_still (hf a) fun e => ?_) fun r es hes => hes.error r
  rw [List.append_nil]
  exact Within.whole (hes.1 rfl) e

theorem bind_sublist {act : Act α} {f : α → Act β} {l m : List Effect}
    (h : Traces w act fun _ es => es.Sublist l)
    (hf : ∀ a, Traces w (f a) fun _ es => es.Sublist m) :
    Traces w (act >>= f) fun _ es => es.Sublist (l ++ m) := by
  refine bind h (fun a es hes => mono (hf a) fun _ _ hmore => hes.append hmore) fun r es hes => ?_
  exact hes.trans (List.sublist_append_left l m)

/-! ### The server -/

theorem ensureDaemon : Traces w Server.ensureDaemon fun e es => e = .ok () ∧ es = [] := by
  refine attempt_bind openDaemon fun e es hes => ?_
  obtain ⟨rfl, rfl⟩ := hes
  exact pure ⟨rfl, rfl⟩

theorem ensureDaemon_bind {f : Unit → Act β} {T : Except Raised β → List Effect → Prop}
    (hf : Traces w (f ()) T) : Traces w (Server.ensureDaemon >>= f) T := by
  refine bind ensureDaemon (fun a es hes => ?_) fun r es hes => nomatch hes.1
  rw [hes.2]
  exact hf

end Traces

/-- A container of a name is looked up, and it is removed iff it is found. -/
theorem Server.ensureClean_effects (name : String) {w : Surroundings} {b : Bench}
    (hb : b.LiesIn w) :
    ((Server.ensureClean name).exec b).2.LiesIn w ∧
      ∃ es, ((Server.ensureClean name).exec b).2.trace.toList = b.trace.toList ++ es ∧
        (es = [.lookup name, .remove name] ∧ (lookup name).Answers b ∨
          es = [.lookup name] ∧ ¬(lookup name).Answers b) := by
  have hlooked : (do Server.ensureDaemon; lookup name).exec b = (lookup name).exec b :=
    exec_bind_of_ok (exec_ensureDaemon_of_opened hb.opened) _
  obtain ⟨hlies, _, htrace, rfl⟩ := Notes.lookup name b hb
  -- what comes next adds to what the lookup has left
  have followed {act : Act Bool} {c : Bench} {P : List Effect → Prop} (more : List Effect)
      (hact : Traces w act fun _ es => es = more) (hc : c.LiesIn w)
      (hlookup : c.trace.toList = b.trace.toList ++ [.lookup name])
      (hP : P ([.lookup name] ++ more)) :
      (act.exec c).2.LiesIn w ∧
        ∃ es, (act.exec c).2.trace.toList = b.trace.toList ++ es ∧ P es := by
    obtain ⟨hlater, _, hadded, rfl⟩ := hact c hc
    refine ⟨hlater, _, ?_, hP⟩
    rw [hadded, hlookup, List.append_assoc]
  unfold Server.ensureClean
  rw [exec_bind_of_ok (exec_attempt _ b), hlooked]
  rcases hl : (lookup name).exec b with ⟨raised | _, c⟩
  · rw [hl] at hlies htrace
    refine followed [] (Traces.of_still ?_ fun _ => rfl) hlies htrace
      (.inr ⟨rfl, not_answers_of_exec hl⟩)
    dsimp only
    split
    · exact keeps_throw _
    · exact keeps_ite (keeps_bind (Still.keeps_say _) fun _ => keeps_pure _) (keeps_throw _)
  · rw [hl] at hlies htrace
    refine followed [.remove name] ?_ hlies htrace (.inl ⟨rfl, answers_of_exec hl⟩)
    refine Traces.attempt_bind_of_still (Notes.remove name) fun e => ?_
    split
    · split
      · exact keeps_throw _
      · exact keeps_ite (keeps_pure _) (keeps_throw _)
    · exact keeps_bind (Still.keeps_say _) fun _ => keeps_pure _

namespace Traces

variable {w : Surroundings}

/-- A container may be found or not. -/
theorem ensureClean (name : String) :
    Traces w (Server.ensureClean name) fun _ es =>
      es = [.lookup name] ∨ es = [.lookup name, .remove name] := by
  intro b hb
  obtain ⟨hlies, es, htrace, hes⟩ := Server.ensureClean_effects name hb
  exact ⟨hlies, es, htrace, hes.symm.imp And.left And.left⟩

/-- A container is created, and its port is read back if the daemon has chosen it. -/
theorem start (name image : String) (containerPort : Int) (hostPort : Option Int) :
    Traces w (Server.start name image containerPort hostPort)
      (Within (· = Server.startEffects name image containerPort hostPort)) := by
  have hcreated : [.create image name (Server.portKey containerPort) hostPort] <+:
      Server.startEffects name image containerPort hostPort := List.prefix_append _ _
  refine attempt_bind (ensureDaemon_bind (Notes.create image name _ hostPort)) fun e es hes => ?_
  subst hes
  cases e with
  | error raised =>
    dsimp only
    split
    · exact throw (Within.start hcreated _)
    · refine ite (fun _ => throw (Within.start hcreated _)) fun _ => ?_
      exact throw (Within.start hcreated _)
  | ok id =>
    have reported (bound : Int) : Frame.still.Keeps (do
        say (.serverStarted name image containerPort bound)
        Pure.pure ({ name, image, containerPort, hostPort := bound, id } : Server)) :=
      keeps_bind (Still.keeps_say _) fun _ => keeps_pure _
    dsimp only
    split
    · next port hport =>
      refine of_still (keeps_bind (keeps_pure port) reported) fun e => Within.whole ?_ e
      rw [Server.startEffects, if_pos (by rw [hport]; rfl)]
      rfl
    · next hport =>
      have hall : [.create image name (Server.portKey containerPort) hostPort] ++ [.reload name] =
          Server.startEffects name image containerPort hostPort := by
        rw [Server.startEffects, if_neg (by rw [hport]; exact Bool.false_ne_true)]
        rfl
      have chosen : Notes w (Server.chosenPort name (Server.portKey containerPort))
          (.reload name) := by
        refine Notes.bind_still (Notes.reload name) fun table => ?_
        refine keeps_bind (Frame.keeps_ofExcept _) fun port => ?_
        split
        · exact Frame.keeps_ofExcept _
        · exact keeps_throw _
      refine mono (Notes.bind_still chosen reported) fun e more hmore => ?_
      rw [hmore, hall]
      exact Within.all rfl e

end Traces

/-! ### The connection to the daemon -/

namespace Server

/-- A container that was cleaned away, or found absent, was looked up over an open connection. -/
theorem opened_of_ensureClean {name : String} {found : Bool} {b c : Bench}
    (h : (ensureClean name).exec b = (.ok found, c)) : c.daemon.opened = true := by
  rcases hensure : ensureDaemon.exec b with ⟨r | _, d⟩
  · -- without a connection there is no answer
    unfold ensureClean at h
    rw [exec_bind_of_ok (exec_attempt _ b), exec_bind_of_error hensure] at h
    dsimp only at h
    rw [isFault_of_ensureDaemon hensure] at h
    cases h
  · -- with one it makes no difference where the connection was opened
    have hopened := opened_of_ensureDaemon hensure
    have hsame : (ensureClean name).exec b = (ensureClean name).exec d := by
      unfold ensureClean
      rw [exec_bind_of_ok (exec_attempt _ b), exec_bind_of_ok (exec_attempt _ d),
        exec_bind_of_ok hensure, exec_bind_of_ok (exec_ensureDaemon_of_opened hopened)]
    have hlies : d.LiesIn ⟨d.environ, d.workingDir⟩ := ⟨rfl, rfl, hopened⟩
    have hlater := (Traces.ensureClean name d hlies).1
    rw [← hsame, h] at hlater
    exact hlater.opened

end Server

namespace Traces

variable {w : Surroundings}

/-! ### Readiness -/

/-- Connections are attempted up to the first that is made, or until the budget is spent. -/
theorem attempts (host : String) (port : Int) (timeout pause : Float) (budget : Int) (left : Nat)
    (number : Int) :
    Traces w (ClientTrial.attempts host port timeout pause budget left number)
      (Within fun es => ∃ refused closed, refused ≤ left ∧
        es = tries (.connect host port timeout) (.sleep pause) refused closed) := by
  induction left generalizing number with
  | zero =>
    refine attempt_bind (connect host port timeout) fun e es hes => ?_
    subst hes
    have once (e' : Except Raised Int) :
        Within (fun es => ∃ refused closed, refused ≤ 0 ∧
          es = tries (.connect host port timeout) (.sleep pause) refused closed) e'
          ([.connect host port timeout e.isOk] ++ []) :=
      Within.whole ⟨0, e.isOk, Nat.le_refl 0, rfl⟩ e'
    split
    · exact pure (once _)
    · split
      · exact throw (once _)
      · exact say_bind (throw (once _))
  | succ left ih =>
    refine attempt_bind (connect host port timeout) fun e es hes => ?_
    subst hes
    have once (e' : Except Raised Int) :
        Within (fun es => ∃ refused closed, refused ≤ left + 1 ∧
          es = tries (.connect host port timeout) (.sleep pause) refused closed) e'
          ([.connect host port timeout e.isOk] ++ []) :=
      Within.whole ⟨0, e.isOk, Nat.zero_le _, rfl⟩ e'
    split
    · exact pure (once _)
    · next raised =>
      split
      · exact throw (once _)
      · -- the connection was refused, and the next one follows after a pause
        refine say_bind (bind (Notes.sleep pause) (fun _ es hes => ?_) fun r es hes => ?_)
        · subst hes
          refine mono (ih (number + 1)) fun e more hmore => ⟨fun he => ?_, ?_⟩
          · obtain ⟨refused, closed, hle, rfl⟩ := hmore.1 he
            exact ⟨refused + 1, closed, Nat.succ_le_succ hle, rfl⟩
          · obtain ⟨-, full, ⟨refused, closed, hle, rfl⟩, hprefix⟩ := hmore
            exact ⟨_, ⟨refused + 1, closed, Nat.succ_le_succ hle, rfl⟩,
              (List.prefix_append_right_inj [.connect host port timeout false, .sleep pause]).2
                hprefix⟩
        · subst hes
          exact Within.part ⟨1, true, Nat.succ_le_succ (Nat.zero_le _), rfl⟩
            (List.prefix_append _ [.connect host port timeout true]) r

theorem awaitReachable (host : String) (port : Int) {budget : Int} (hbudget : 1 ≤ budget)
    (timeout pause : Float) :
    Traces w (ClientTrial.awaitReachable host port budget timeout pause)
      (Within fun es => ∃ (refused : Nat) (closed : Bool), (refused : Int) + 1 ≤ budget ∧
        es = tries (.connect host port timeout) (.sleep pause) refused closed) := by
  have attempted : Traces w (ClientTrial.attempts host port timeout pause budget
      (budget - 1).toNat 1) (Within fun es => ∃ (refused : Nat) (closed : Bool), (refused : Int) + 1 ≤ budget ∧
        es = tries (.connect host port timeout) (.sleep pause) refused closed) := by
    refine mono (attempts _ _ _ _ _ _ _) fun e es hes => hes.mono ?_
    rintro es ⟨refused, closed, hle, rfl⟩
    exact ⟨refused, closed, by omega, rfl⟩
  unfold ClientTrial.awaitReachable
  rw [if_neg (by omega)]
  exact bind_still attempted fun number => keeps_bind (Still.keeps_say _) fun _ => keeps_pure _

/-- Attempts that answer have made a connection. -/
theorem attempts_connected (host : String) (port : Int) (timeout pause : Float) (budget : Int)
    (left : Nat) (number : Int) :
    Traces w (ClientTrial.attempts host port timeout pause budget left number) fun e es =>
      e.isOk = true → .connect host port timeout true ∈ es := by
  induction left generalizing number with
  | zero =>
    refine attempt_bind (connect host port timeout) fun e es hes => ?_
    subst hes
    split
    · exact pure fun _ => List.mem_singleton_self _
    · split
      · exact throw fun h => Bool.noConfusion h
      · exact say_bind (throw fun h => Bool.noConfusion h)
  | succ left ih =>
    refine attempt_bind (connect host port timeout) fun e es hes => ?_
    subst hes
    split
    · exact pure fun _ => List.mem_singleton_self _
    · split
      · exact throw fun h => Bool.noConfusion h
      · refine say_bind (bind (Notes.sleep pause) (fun _ es hes => ?_) fun r es hes h =>
          Bool.noConfusion h)
        exact mono (ih (number + 1)) fun e more hmore h =>
          List.mem_append_right _ (List.mem_append_right _ (hmore h))

/-- The connection that a server has been waited for was made. -/
theorem awaitReachable_connected (host : String) (port budget : Int) (timeout pause : Float) :
    Traces w (ClientTrial.awaitReachable host port budget timeout pause) fun e es =>
      e.isOk = true → .connect host port timeout true ∈ es := by
  refine ite (fun _ => throw fun h => Bool.noConfusion h) fun _ => ?_
  refine bind (attempts_connected host port timeout pause budget _ 1) (fun number es hes => ?_) ?_
  · refine of_still (keeps_bind (Still.keeps_say _) fun _ => keeps_pure _) fun e _ => ?_
    exact List.mem_append_left [] (hes rfl)
  · exact fun r es hes h => Bool.noConfusion h

/-! ### The marker -/

/-- Between two looks there is a pause. -/
theorem poll {look isLate : Act Bool} (hlook : Frame.still.Keeps look)
    (hlate : Frame.still.Keeps isLate) (pause : Float) (rounds : Nat) :
    Traces w (ClientTrial.poll look isLate (sleep pause) rounds) fun _ es =>
      ∃ n, es = List.replicate n (.sleep pause) := by
  induction rounds with
  | zero => exact pure ⟨0, rfl⟩
  | succ rounds ih =>
    refine still_bind hlook (fun seen => ite (fun _ => pure ⟨0, rfl⟩) fun _ => ?_) fun _ => ⟨0, rfl⟩
    refine still_bind hlate (fun late => ite (fun _ => pure ⟨0, rfl⟩) fun _ => ?_) fun _ => ⟨0, rfl⟩
    refine bind (Notes.sleep pause) (fun _ es hes => mono ih ?_) fun _ es hes => ⟨1, hes⟩
    rintro e more ⟨n, rfl⟩
    exact ⟨n + 1, by rw [hes]; rfl⟩

theorem waitFor (a : Artifact) (marker : String) (timeout pause : Float) :
    Traces w (a.waitFor marker timeout pause) fun _ es =>
      ∃ n, es = List.replicate n (.sleep pause) := by
  refine bind_of_still (still_bind Still.keeps_readClock (fun clock => poll ?_ ?_ pause _)
    fun _ => ⟨0, rfl⟩) fun seen => ?_
  · refine keeps_bind (Frame.keeps_read a) fun content => ?_
    exact keeps_ite (keeps_bind (Still.keeps_say _) fun _ => keeps_pure _) (keeps_pure _)
  · exact keeps_bind Still.keeps_readClock fun _ => keeps_pure _
  · split
    · exact keeps_pure _
    · exact keeps_throw _

/-! ### The clients -/

/-- A client that is run to its end is run once, in the surroundings and with the added
variables. -/
theorem runForeground (command : List String) (added : List (String × String))
    (timeout : Option Float) :
    Notes w (Client.runForeground command added timeout)
      (.run command (overlay w.environ added) w.dir timeout) := by
  obtain ⟨after, hafter, heq⟩ := Still.exists_runForeground command added timeout
  rw [heq]
  refine say_bind (ask_bind fun b hb => ask_bind fun c hc => ?_)
  rw [hb.environ, hc.dir]
  exact attempt_bind_of_still (Notes.runErrand _ _ _ _) hafter

/-- A client in the background is started once, unless its output cannot be opened. -/
theorem runBackground (command : List String) (added : List (String × String)) (route : Route) :
    Traces w (Client.runBackground command added route)
      (Within (· = [.spawn command (overlay w.environ added) w.dir route.text])) := by
  obtain ⟨after, hafter, heq⟩ := Still.exists_runBackground command added route
  rw [heq]
  refine still_bind (Still.keeps_openOutput route) (fun output => ?_) fun r =>
    Within.start List.nil_prefix r
  refine ask_bind fun b hb => ask_bind fun c hc => ?_
  rw [hb.environ, hc.dir]
  exact mono (attempt_bind_of_still (Notes.spawn _ _ _ _ _) (hafter output)) fun e es hes =>
    Within.all hes e

/-! ### The clean-up -/

/-- Two effects one after the other, the second only if the first has not failed. -/
theorem two_sublist {α β : Type} {act : Act α} {f : α → Act β} {e e' : Effect} (h : Notes w act e)
    (hf : ∀ a, Notes w (f a) e') : Traces w (act >>= f) fun _ es => es.Sublist [e, e'] := by
  refine bind_sublist (l := [e]) (mono h ?_) fun a => mono (hf a) ?_
  · rintro _ _ rfl
    exact List.Sublist.refl _
  · rintro _ _ rfl
    exact List.Sublist.refl _

/-- A receiver is killed, if it is running, and waited for. -/
theorem terminate (r : Receiver) :
    Traces w r.terminate fun _ es => es.Sublist [.kill r.pid, .wait r.pid] := by
  have waited : Notes w (do
      let status ← wait r.pid
      say (.stopped (Client.firstWord r.command) r.pid status)) (.wait r.pid) :=
    Notes.bind_still (Notes.wait r.pid) fun _ => Still.keeps_say _
  have halted : Traces w r.halt fun _ es => es.Sublist [.kill r.pid, .wait r.pid] := by
    refine still_bind (Frame.keeps_isRunning _) (fun running => ite (fun _ => ?_) fun _ => ?_)
      fun _ => List.nil_sublist _
    · exact two_sublist (Notes.kill r.pid) fun _ => waited
    · refine mono waited ?_
      rintro _ _ rfl
      exact List.sublist_cons_self _ _
  have tried : Traces w r.tryHalt fun _ es => es.Sublist [.kill r.pid, .wait r.pid] := by
    refine attempt_bind_of_still halted fun e => ?_
    split
    · exact keeps_pure _
    · split
      · exact keeps_throw _
      · exact keeps_bind (Still.keeps_say _) fun _ => keeps_pure _
  exact bind_of_still tried fun failure => Still.keeps_tryClose r failure

theorem logsOf (name : String) (tail : Int) :
    Traces w (Server.logs name tail) fun _ es => es.Sublist [.lookup name, .logs name tail] := by
  refine attempt_bind_of_still (ensureDaemon_bind (two_sublist (Notes.lookup name) fun _ =>
    Notes.logs name tail)) fun e => ?_
  split
  · exact keeps_pure _
  · exact keeps_pure _
  · exact keeps_throw _

theorem stop (name : String) :
    Traces w (Server.stop name) fun _ es => es.Sublist [.lookup name, .remove name] := by
  refine attempt_bind_of_still (ensureDaemon_bind (two_sublist (Notes.lookup name) fun _ =>
    Notes.remove name)) fun e => ?_
  split
  · exact keeps_bind (Still.keeps_say _) fun _ => keeps_pure _
  · exact keeps_ite (keeps_pure _) (keeps_bind (Still.keeps_say _) fun _ => keeps_pure _)
  · exact keeps_throw _

end Traces
end ClientTrial
