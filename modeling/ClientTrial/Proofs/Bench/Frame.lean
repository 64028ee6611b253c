import ClientTrial.Bench.Calls

/-!
# Frames

A frame says of two benches, one before and one after some actions, what the actions
have left alone.  An action that stays in a frame does so however it ends, so that
nothing has to be known of the incidents that may end it.

## Main definitions

* `Act.Frame` — a relation between an earlier and a later bench.
* `Act.Frame.Keeps` — an action stays in a frame.

## Main results

* `Act.Frame.keeps_bind`, `Act.Frame.keeps_attempt` — one lemma for each way of making an action
  from others.
* `Act.Frame.keeps_advance`, `Act.Frame.keeps_openDaemon`, … — the calls into the outside world, in
  any frame of what they change.
-/

namespace ClientTrial

open Act

/-- A relation between an earlier and a later bench that holds if nothing is done, and of two deeds
one after the other if it holds of both. -/
structure Act.Frame where
  Holds : Bench → Bench → Prop
  refl : ∀ b, Holds b b
  trans : ∀ {b c d}, Holds b c → Holds c d → Holds b d

namespace Act.Frame

variable (F : Frame) {α β : Type}

/-- An action stays in a frame, however it ends. -/
def Keeps (act : Act α) : Prop := ∀ b, F.Holds b (act.exec b).2

variable {F}

theorem Keeps.holds {act : Act α} (h : F.Keeps act) {b c : Bench} {e : Except Raised α}
    (he : act.exec b = (e, c)) : F.Holds b c := by
  have hb := h b
  rw [he] at hb
  exact hb

/-- An action that stays in a frame stays in any wider one. -/
theorem Keeps.mono {G : Frame} (hFG : ∀ b c, F.Holds b c → G.Holds b c) {act : Act α}
    (h : F.Keeps act) : G.Keeps act := fun b => hFG _ _ (h b)

/-! ### Actions that change nothing -/

theorem keeps_pure (a : α) : F.Keeps (pure a : Act α) := F.refl

theorem keeps_throw (r : Raised) : F.Keeps (throw r : Act α) := F.refl

theorem keeps_ask (f : Bench → α) : F.Keeps (ask f) := F.refl

theorem keeps_perhaps (incident : Option Raised) : F.Keeps (perhaps incident) := by
  cases incident with
  | none => exact F.refl
  | some r => exact F.refl

theorem keeps_release (e : Except Raised α) : F.Keeps (release e) := by
  cases e with
  | ok a => exact F.refl
  | error r => exact F.refl

theorem keeps_ofExcept (e : Except Fault α) : F.Keeps (ofExcept e) := by
  cases e with
  | ok a => exact F.refl
  | error f => exact F.refl

theorem keeps_fromFiles (f : Files → Except Fault α) : F.Keeps (fromFiles f) := by
  intro b
  rw [exec_fromFiles]
  exact F.refl b

/-! ### Actions made from others -/

theorem keeps_change {f : Bench → Bench} (h : ∀ b, F.Holds b (f b)) : F.Keeps (change f) := h

theorem keeps_attempt {act : Act α} (h : F.Keeps act) : F.Keeps (attempt act) := h

/-- What is begun in a frame and goes on in it stays there. -/
theorem holds_bind {act : Act α} {f : α → Act β} {b c : Bench} (h : F.Holds b (act.exec c).2)
    (hf : ∀ a, F.Keeps (f a)) : F.Holds b ((act >>= f).exec c).2 := by
  rcases he : act.exec c with ⟨r | a, d⟩
  · rw [exec_bind_of_error he]
    rwa [he] at h
  · rw [exec_bind_of_ok he]
    rw [he] at h
    exact F.trans h (hf a d)

theorem keeps_bind {act : Act α} {f : α → Act β} (h : F.Keeps act) (hf : ∀ a, F.Keeps (f a)) :
    F.Keeps (act >>= f) := fun b => holds_bind (h b) hf

/-- An attempt that stays in a frame on one bench is followed by what stays there on any. -/
theorem holds_attempt_bind {act : Act α} {f : Except Raised α → Act β} {b : Bench}
    (h : F.Holds b (act.exec b).2) (hf : ∀ ended, F.Keeps (f ended)) :
    F.Holds b ((attempt act >>= f).exec b).2 := by
  rw [exec_bind_of_ok (exec_attempt act b)]
  exact F.trans h (hf _ _)

theorem keeps_ite {p : Prop} [Decidable p] {act other : Act α} (h : F.Keeps act)
    (ho : F.Keeps other) : F.Keeps (if p then act else other) := by
  split
  · exact h
  · exact ho

/-! ### Files -/

/-- A file is opened in the frame of emptying it and of one more opened file. -/
theorem keeps_openOutput {route : Route} (hwrite : F.Keeps (onFiles (·.write route [])))
    (hopened : ∀ (b : Bench) (o : Output),
      F.Holds b { b with desk := { b.desk with outputs := b.desk.outputs ++ [o] } }) :
    F.Keeps (openOutput route) := by
  refine keeps_bind hwrite fun _ => keeps_bind (keeps_fromFiles _) fun place => ?_
  refine keeps_bind (keeps_ask _) fun n => ?_
  exact keeps_bind (keeps_change fun b => hopened b _) fun _ => keeps_pure n

theorem keeps_closeOutput {n : Nat}
    (hclosing : F.Keeps (changeOutput n fun o => { o with writable := false }))
    (hclosed : F.Keeps (changeOutput n fun o => { o with closed := true })) :
    F.Keeps (closeOutput n) := by
  refine keeps_bind (keeps_ask _) fun incident => keeps_bind hclosing fun _ => ?_
  exact keeps_bind (keeps_perhaps incident) fun _ => hclosed

/-! ### Time -/

/-- What other programs write is put into the files in the frame of what that does to them. -/
theorem keeps_settleDeposits
    (hwrite : ∀ d : Deposit, F.Keeps (onFiles fun fs =>
      if d.atEnd then fs.append d.route d.content else fs.write d.route d.content))
    (hdeposits : ∀ (b : Bench) (deposits : List Deposit), F.Holds b { b with deposits })
    (deposits : List Deposit) : F.Keeps (settleDeposits deposits) := by
  induction deposits with
  | nil => exact keeps_pure ()
  | cons d rest ih =>
    refine keeps_bind (keeps_ask _) fun clock => keeps_ite ?_ ?_
    · exact keeps_bind (hwrite d) fun _ => ih
    · exact keeps_bind ih fun _ => keeps_change fun b => hdeposits b _

/-- Time passes in the frame of what happens to the files and the processes meanwhile. -/
theorem keeps_advance (hclock : ∀ (b : Bench) (clock : Float), F.Holds b { b with clock })
    (hdeposits : ∀ (b : Bench) (deposits : List Deposit), F.Holds b { b with deposits })
    (hsettle : ∀ deposits, F.Keeps (settleDeposits deposits))
    (hchildren : F.Keeps (change fun b =>
      let (children, desk) := Child.each (Child.advance b.clock) b.children b.desk
      { b with children, desk }))
    (seconds : Float) : F.Keeps (advance seconds) := by
  refine keeps_bind (keeps_change fun b => hclock b _) fun _ => ?_
  refine keeps_bind (keeps_ask _) fun deposits => ?_
  refine keeps_bind (keeps_change fun b => hdeposits b _) fun _ => ?_
  exact keeps_bind (hsettle deposits) fun _ => hchildren

/-- Time that has to pass anyway stays in the frame of letting time pass. -/
theorem keeps_elapse (hadvance : ∀ seconds, F.Keeps (advance seconds)) (seconds : Float) :
    F.Keeps (elapse seconds) :=
  keeps_bind (keeps_attempt (hadvance seconds)) fun _ => keeps_pure ()

theorem keeps_readClock (hadvance : ∀ seconds, F.Keeps (advance seconds)) :
    F.Keeps readClock := by
  refine keeps_bind (keeps_ask _) fun clock => keeps_bind (keeps_ask _) fun tick => ?_
  exact keeps_bind (hadvance tick) fun _ => keeps_pure clock

theorem keeps_sleep {seconds : Float} (hnote : F.Keeps (note (.sleep seconds)))
    (hpauses : ∀ (b : Bench) (pauses : Queue Raised), F.Holds b { b with pauses })
    (hadvance : F.Keeps (advance seconds)) : F.Keeps (sleep seconds) := by
  refine keeps_bind hnote fun _ => keeps_bind (keeps_ask _) fun incident => ?_
  refine keeps_bind (keeps_change fun b => hpauses b _) fun _ => ?_
  exact keeps_bind (keeps_perhaps incident) fun _ => hadvance

theorem keeps_connect {host : String} {port : Int} {timeout : Float}
    (hnote : ∀ closed, F.Keeps (note (.connect host port timeout closed)))
    (hconnections : ∀ (b : Bench) (connections : Queue (Raised × Float)),
      F.Holds b { b with connections })
    (hadvance : ∀ seconds, F.Keeps (advance seconds)) :
    F.Keeps (connect host port timeout) := by
  refine keeps_bind (keeps_ask _) fun incident => ?_
  refine keeps_bind (keeps_change fun b => hconnections b _) fun _ => ?_
  refine keeps_bind (hnote _) fun _ => ?_
  cases incident with
  | none => exact keeps_pure ()
  | some raised => exact keeps_bind (keeps_elapse hadvance raised.2) fun _ => keeps_throw raised.1

/-! ### Processes -/

theorem keeps_dealWith (pid : Int) (dealing : Dealing) : F.Keeps (dealWith pid dealing) :=
  keeps_bind (keeps_ask _) fun _ => keeps_bind (keeps_ask _) fun _ =>
    keeps_bind (keeps_perhaps _) fun _ => keeps_pure _

theorem keeps_isRunning (pid : Int) : F.Keeps (isRunning pid) :=
  keeps_bind (keeps_dealWith pid .poll) fun _ => keeps_pure _

theorem keeps_status? (pid : Int) : F.Keeps (status? pid) :=
  keeps_bind (keeps_ask _) fun _ => keeps_pure _

/-- A command is run in the frame of the time that it takes and of what it has a process write. -/
theorem keeps_runErrand {command : List String} {environ : List (String × String)}
    {dir : Option String} {timeout : Option Float}
    (herrands : ∀ (b : Bench) (errands : List Errand), F.Holds b { b with errands })
    (hnote : F.Keeps (note (.run command environ dir timeout)))
    (hadvance : ∀ seconds, F.Keeps (advance seconds))
    (hrelay : ∀ piece, F.Keeps (change fun b =>
      let (children, desk) := Child.each (Child.relay piece) b.children b.desk
      { b with children, desk })) : F.Keeps (runErrand command environ dir timeout) := by
  refine keeps_bind (keeps_ask _) fun errand => ?_
  refine keeps_bind (keeps_change fun b => herrands b _) fun _ => keeps_bind hnote fun _ => ?_
  refine keeps_ite (keeps_bind (keeps_throw _) fun _ => ?_) ?_
  all_goals
    refine keeps_bind (keeps_perhaps _) fun _ => ?_
    split
    · exact keeps_bind (keeps_elapse hadvance _) fun _ => keeps_throw _
    · refine keeps_bind (keeps_elapse hadvance _) fun _ => ?_
      exact keeps_bind (hrelay _) fun _ => keeps_pure _

/-- A command is started in the frame of one more process and of what that writes at once. -/
theorem keeps_spawn {command : List String} {environ : List (String × String)}
    {dir : Option String} {route : Route} {n : Nat}
    (hscripts : ∀ (b : Bench) (scripts : List Script), F.Holds b { b with scripts })
    (hnote : F.Keeps (note (.spawn command environ dir route.text)))
    (hincident : ∀ closeIncident, F.Keeps (changeOutput n fun o => { o with closeIncident }))
    (hstarted : ∀ (b : Bench) (c : Child), F.Holds b { b with
      children := b.children ++ [(Child.advance b.clock c b.desk).1]
      desk := (Child.advance b.clock c b.desk).2 }) :
    F.Keeps (spawn command environ dir route n) := by
  refine keeps_bind (keeps_ask _) fun script => ?_
  refine keeps_bind (keeps_change fun b => hscripts b _) fun _ => keeps_bind hnote fun _ => ?_
  refine keeps_ite (keeps_bind (keeps_throw _) fun _ => ?_) ?_
  all_goals
    refine keeps_bind (keeps_perhaps _) fun _ => keeps_bind (hincident _) fun _ => ?_
    refine keeps_bind (keeps_ask _) fun pid => keeps_bind (fun b => ?_) fun _ => keeps_pure pid
    exact hstarted b
      { pid, command, start := b.clock, script, pending := script.pieces, output := n }

/-- A process is killed in the frame of giving some processes the status of that. -/
theorem keeps_kill {pid : Int} (hnote : F.Keeps (note (.kill pid)))
    (hkilled : ∀ (b : Bench) (f : Child → Child),
      (∀ c, f c = c ∨ f c = { c with status := some (-9) }) →
        F.Holds b { b with children := b.children.map f }) : F.Keeps (kill pid) := by
  refine keeps_bind hnote fun _ => keeps_bind (keeps_dealWith pid .kill) fun _ => ?_
  refine keeps_change fun b => hkilled b _ fun c => ?_
  split
  · exact .inr rfl
  · exact .inl rfl

theorem keeps_wait {pid : Int} (hnote : F.Keeps (note (.wait pid))) : F.Keeps (wait pid) := by
  refine keeps_bind hnote fun _ => keeps_bind (keeps_dealWith pid .wait) fun child => ?_
  cases child.bind (·.status) with
  | some status => exact keeps_pure status
  | none => exact keeps_throw _

/-! ### Requests to the daemon -/

/-- A connection is opened in the frame of what becomes of the connection. -/
theorem keeps_openDaemon (hnote : F.Keeps (note .openDaemon))
    (hopen : ∀ (b : Bench) (openings : Queue Raised) (opened : Bool),
      F.Holds b { b with daemon := { b.daemon with openings, opened } }) :
    F.Keeps openDaemon := by
  refine keeps_bind (keeps_ask _) fun opened => keeps_ite (keeps_pure ()) ?_
  refine keeps_bind hnote fun _ => keeps_bind (keeps_ask _) fun incident => ?_
  refine keeps_bind (keeps_change fun b => hopen b _ _) fun _ => ?_
  exact keeps_bind (keeps_perhaps incident) fun _ => keeps_change fun b => hopen b _ _

/-- A request is made in the frame of the incident that it takes. -/
theorem keeps_request {kind : Request} {effect : Effect} (hnote : F.Keeps (note effect))
    (hserved : ∀ b : Bench, F.Holds b { b with daemon := b.daemon.served kind }) :
    F.Keeps (request kind effect) := by
  refine keeps_bind hnote fun _ => keeps_bind (keeps_ask _) fun incident => ?_
  exact keeps_bind (keeps_change hserved) fun _ => keeps_perhaps incident

theorem keeps_lookup {name : String} (hrequest : F.Keeps (request .lookup (.lookup name))) :
    F.Keeps (lookup name) := by
  refine keeps_bind hrequest fun _ => keeps_bind (keeps_ask _) fun id => ?_
  exact keeps_ite (keeps_throw _) (keeps_pure ())

/-- A container is created in the frame of its request and of the table with it. -/
theorem keeps_create {image name port : String} {hostPort : Option Int}
    (hrequest : F.Keeps (request .create (.create image name port hostPort)))
    (hcreate : ∀ b : Bench, F.Holds b { b with daemon := b.daemon.create name }) :
    F.Keeps (create image name port hostPort) := by
  have created : F.Keeps (do
      let id ← ask (·.daemon.nextId)
      change fun b => { b with daemon := b.daemon.create name }
      pure id) :=
    keeps_bind (keeps_ask _) fun id => keeps_bind (keeps_change hcreate) fun _ => keeps_pure id
  refine keeps_bind hrequest fun _ => keeps_bind (keeps_ask _) fun taken => ?_
  exact keeps_ite (keeps_bind (keeps_throw _) fun _ => created) created

/-- A container is removed in the frame of its request and of the table without it. -/
theorem keeps_remove {name : String} (hrequest : F.Keeps (request .remove (.remove name)))
    (hremove : ∀ b : Bench, F.Holds b { b with daemon := b.daemon.remove name }) :
    F.Keeps (remove name) := keeps_bind hrequest fun _ => keeps_change hremove

theorem keeps_reload {name : String} (hrequest : F.Keeps (request .reload (.reload name))) :
    F.Keeps (reload name) := keeps_bind hrequest fun _ => keeps_ask _

theorem keeps_logs {name : String} {tail : Int}
    (hrequest : F.Keeps (request .logs (.logs name tail))) : F.Keeps (logs name tail) :=
  keeps_bind hrequest fun _ => keeps_ask _

end Act.Frame
end ClientTrial
