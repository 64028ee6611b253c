import ClientTrial.Proofs.Server

/-!
# What is done with servers, and the table of containers

What is done with servers is told by what becomes of the daemon's table of containers.  A
call about a name leaves every other name alone.  It leaves the whole table as it was if a
container could not be removed or created, and of its own name it says the truth if it
answers: there is no container of the name any more, or there is the new one.

A daemon may be given new incidents before each call, so that a run of calls reckons with
any fault of any request.  One thing is asked of the daemon: it must not deny a container
that is there.

## Main definitions

* `Server.Call` — what can be done with a server.
* `Server.Call.Law` — what a call leaves of the container of its name.
* `Server.serve` — the steps of a run of calls.

## Main results

* `Server.law_of_call` — every call obeys its law.
* `Server.keeps_beside`, `Server.keeps_sound` — every call leaves other names alone, and the
  table sound.
* `Server.table_law` — all of this along any run of calls.
-/

namespace ClientTrial

open Act

namespace Server

/-! ### Calls -/

/-- What can be done with a server. -/
inductive Call where
  /-- Any container of a name is removed. -/
  | ensureClean (name : String)
  /-- A container is created and started. -/
  | start (name image : String) (containerPort : Int) (hostPort : Option Int)
  /-- Any container of a name is replaced by a new one. -/
  | restart (name image : String) (containerPort : Int) (hostPort : Option Int)
  /-- A container of a name is removed, without raising a failure. -/
  | stop (name : String)
  /-- The end of the log of a container is told. -/
  | logs (name : String) (tail : Int)

namespace Call

/-- The name that a call is about. -/
def name : Call → String
  | .ensureClean name | .start name .. | .restart name .. | .stop name | .logs name _ => name

/-- What a call answers. -/
abbrev Answer : Call → Type
  | .ensureClean _ => Bool
  | .start .. | .restart .. => Server
  | .stop _ => Option TrialError
  | .logs .. => String

/-- What is done at a call. -/
def act : (call : Call) → Act call.Answer
  | .ensureClean name => Server.ensureClean name
  | .start name image containerPort hostPort => Server.start name image containerPort hostPort
  | .restart name image containerPort hostPort =>
    Server.restart name image containerPort hostPort
  | .stop name => Server.stop name
  | .logs name tail => Server.logs name tail

/-- What a call leaves of the container of its name. -/
def Law : (call : Call) → Bench → Except Raised call.Answer → Bench → Prop
  | .ensureClean name, b, .ok found, c =>
    c.daemon.id? name = none ∧ found = (b.daemon.id? name).isSome
  | .ensureClean _, b, .error _, c => b.daemon.SameTable c.daemon
  | .start name .., b, .ok server, c =>
    b.daemon.id? name = none ∧ b.daemon.IsNew server.id ∧ c.daemon.id? name = some server.id
  | .start name _ containerPort hostPort, b, .error raised, c =>
    -- only if the port cannot be read back is there a container in spite of the failure
    b.daemon.SameTable c.daemon ∨
      hostPort.filter (· ≠ 0) = none ∧ b.daemon.id? name = none ∧
        c.daemon.containers = b.daemon.containers ++ [(name, b.daemon.nextId)] ∧
        ∃ d : Bench, d.daemon.SameTable c.daemon ∧
          (chosenPort name (portKey containerPort)).exec d = (.error raised, c)
  | .restart name .., b, .ok server, c =>
    b.daemon.IsNew server.id ∧ c.daemon.id? name = some server.id
  | .restart name .., b, .error _, c =>
    c.daemon.id? name = b.daemon.id? name ∨ c.daemon.id? name = none ∨
      ∃ id, b.daemon.IsNew id ∧ c.daemon.id? name = some id
  | .stop name, _, .ok none, c => c.daemon.id? name = none
  | .stop _, b, .ok (some _), c => b.daemon.SameTable c.daemon
  | .stop _, b, .error _, c => b.daemon.SameTable c.daemon
  | .logs .., b, _, c => b.daemon.SameTable c.daemon

end Call

/-! ### The frames of a call -/

section

open Act.Frame

variable {F : Frame}

/-- A call stays in the frame of the requests that can be made for it. -/
theorem keeps_act (hsay : ∀ e, F.Keeps (say e)) (hopen : F.Keeps openDaemon) (call : Call)
    (hlookup : F.Keeps (lookup call.name))
    (hcreate : ∀ image port hostPort, F.Keeps (create image call.name port hostPort))
    (hremove : F.Keeps (remove call.name)) (hreload : F.Keeps (reload call.name))
    (hlogs : ∀ tail, F.Keeps (Act.logs call.name tail)) : F.Keeps call.act := by
  cases call with
  | ensureClean name => exact keeps_ensureClean hsay hopen hlookup hremove
  | start name image containerPort hostPort =>
    exact keeps_start hsay hopen (hcreate _ _ _) hreload
  | restart name image containerPort hostPort =>
    refine keeps_bind (keeps_ensureClean hsay hopen hlookup hremove) fun _ => ?_
    exact keeps_start hsay hopen (hcreate _ _ _) hreload
  | stop name => exact keeps_stop hsay hopen hlookup hremove
  | logs name tail => exact keeps_logsOf hopen hlookup (hlogs tail)

variable (hF : ∀ b c : Bench, b.daemon.SameTable c.daemon → F.Holds b c)
include hF

/-- A call stays in a frame if the creation and the removal of a container of its name do. -/
theorem keeps_call (call : Call)
    (hcreate : ∀ b : Bench, F.Holds b { b with daemon := b.daemon.create call.name })
    (hremove : ∀ b : Bench, F.Holds b { b with daemon := b.daemon.remove call.name }) :
    F.Keeps call.act :=
  keeps_act (fun e => keeps_of_table hF (Table.keeps_say e))
    (keeps_of_table hF Table.keeps_openDaemon) call
    (keeps_of_table hF (Table.keeps_lookup _)) (keeps_create_of_table hF hcreate)
    (keeps_remove_of_table hF hremove) (keeps_of_table hF (Table.keeps_reload _))
    fun tail => keeps_of_table hF (Table.keeps_logs _ tail)

end

/-- The frame of all names but one. -/
def beside (name : String) : Frame where
  Holds b c := ∀ other ≠ name, c.daemon.id? other = b.daemon.id? other
  refl _ _ _ := rfl
  trans h hl other hother := (hl other hother).trans (h other hother)

/-- The frame of sound tables. -/
def sound : Frame where
  Holds b c := b.daemon.IsSound → c.daemon.IsSound
  refl _ h := h
  trans h hl hb := hl (h hb)

/-- The frame of identifiers that stay given out. -/
def minting : Frame where
  Holds b c := b.daemon.created ≤ c.daemon.created
  refl _ := Nat.le_refl _
  trans h hl := Nat.le_trans h hl

/-- A call leaves all names alone but its own. -/
theorem keeps_beside (call : Call) : (beside call.name).Keeps call.act :=
  keeps_call (fun _ _ h other _ => h.id? other) call
    (fun _ _ hother => Daemon.id?_create_of_ne hother)
    (fun _ _ hother => Daemon.id?_remove_of_ne hother)

/-- A call leaves a sound table sound. -/
theorem keeps_sound (call : Call) : sound.Keeps call.act :=
  keeps_call (fun _ _ h hb => h.isSound hb) call (fun _ hb => hb.create _) (fun _ hb => hb.remove _)

/-- No call takes back an identifier that was given out. -/
theorem keeps_minting (call : Call) : minting.Keeps call.act :=
  keeps_call (fun _ _ h => Nat.le_of_eq h.created.symm) call (fun _ => Nat.le_succ _)
    (fun _ => Nat.le_refl _)

/-! ### The laws -/

variable {name : String} {b c : Bench}

theorem law_of_ensureClean (htruth : b.daemon.TellsTruth name) {ended : Except Raised Bool}
    (h : (ensureClean name).exec b = (ended, c)) :
    (Call.ensureClean name).Law b ended c := by
  unfold ensureClean at h
  rw [exec_bind_of_ok (exec_attempt _ b)] at h
  rcases hlooked : (do ensureDaemon; lookup name).exec b with ⟨raised | _, d⟩
  · -- the lookup failed, perhaps because there is no such container
    obtain ⟨hsame, habsence⟩ := ensured_lookup_eq_error hlooked
    rw [hlooked] at h
    dsimp only at h
    split at h
    · cases h
      exact hsame
    · next f hrefused =>
      split at h
      · next habsent =>
        have hnone := habsence htruth f hrefused habsent
        cases h
        exact ⟨(hsame.id? name).trans hnone, by rw [hnone]; rfl⟩
      · cases h
        exact hsame
  · obtain ⟨hsame, hthere, hdue⟩ := ensured_lookup_eq_ok hlooked
    rw [hlooked] at h
    dsimp only at h
    rw [exec_bind_of_ok (exec_attempt _ d)] at h
    rcases hremoved : (remove name).exec d with ⟨raised | _, e⟩
    · -- the removal failed, though not because the container were absent
      obtain ⟨hkept, hincident⟩ := remove_eq_error hremoved
      rw [hremoved] at h
      dsimp only at h
      split at h
      · cases h
        exact hsame.trans hkept
      · next f hrefused =>
        split at h
        · next habsent =>
          obtain ⟨rfl, -⟩ := eq_fault_of_isFault hrefused
          rw [hdue] at hincident
          rw [htruth .remove (by simp) f hincident habsent] at hthere
          cases hthere
        · cases h
          exact hsame.trans hkept
    · obtain ⟨removed, -, hgone⟩ := remove_eq_ok hremoved
      rw [hremoved] at h
      cases h
      exact ⟨(congrArg (·.id? name) hgone).trans (removed.id?_remove_self name), hthere.symm⟩

theorem law_of_start (hb : b.daemon.IsSound) {image : String} {containerPort : Int}
    {hostPort : Option Int} {ended : Except Raised Server}
    (h : (start name image containerPort hostPort).exec b = (ended, c)) :
    (Call.start name image containerPort hostPort).Law b ended c := by
  unfold start at h
  rw [exec_bind_of_ok (exec_attempt _ b)] at h
  rcases hcreated : (do ensureDaemon; create image name (portKey containerPort) hostPort).exec b
    with ⟨raised | id, d⟩
  · -- no container was created
    have hsame := ensured_create_eq_error hcreated
    rw [hcreated] at h
    dsimp only at h
    split at h
    · cases h
      exact .inl hsame
    · split at h
      · cases h
        exact .inl hsame
      · cases h
        exact .inl hsame
  · obtain ⟨hfree, hid, fresh, hsame, hd⟩ := ensured_create_eq_ok hcreated
    have hbound : d.daemon.id? name = some b.daemon.nextId := by
      rw [hd, Daemon.id?_create_self ((hsame.id? name).trans hfree), hsame.nextId]
    have hadded : d.daemon.containers = b.daemon.containers ++ [(name, b.daemon.nextId)] := by
      rw [hd, Daemon.create, hsame.nextId, hsame.containers]
    -- at whatever port the server is reached, its container is the one that was created
    have answered {server : Server} (hserver : server.id = id) {e : Bench}
        (he : d.daemon.SameTable e.daemon) :
        b.daemon.id? name = none ∧ b.daemon.IsNew server.id ∧
          e.daemon.id? name = some server.id := by
      rw [hserver, hid, he.id?]
      exact ⟨hfree, hb.isNew_nextId, hbound⟩
    rw [hcreated] at h
    dsimp only at h
    split at h
    · cases h
      exact answered rfl (.refl _)
    · next hport =>
      rcases hchosen : (chosenPort name (portKey containerPort)).exec d with ⟨raised | port, e⟩
      · have hkept : d.daemon.SameTable e.daemon :=
          (Act.Frame.keeps_chosenPort (Table.keeps_reload name) _).holds hchosen
        rw [exec_bind_of_error hchosen] at h
        cases h
        exact .inr ⟨hport, hfree, hkept.containers.trans hadded, d, hkept, hchosen⟩
      · have hkept : d.daemon.SameTable e.daemon :=
          (Act.Frame.keeps_chosenPort (Table.keeps_reload name) _).holds hchosen
        rw [exec_bind_of_ok hchosen] at h
        cases h
        exact answered rfl hkept

theorem law_of_restart (hb : b.daemon.IsSound) (htruth : b.daemon.TellsTruth name)
    {image : String} {containerPort : Int} {hostPort : Option Int} {ended : Except Raised Server}
    (h : (restart name image containerPort hostPort).exec b = (ended, c)) :
    (Call.restart name image containerPort hostPort).Law b ended c := by
  unfold restart at h
  rcases hclean : (ensureClean name).exec b with ⟨raised | found, d⟩
  · have hsame : b.daemon.SameTable d.daemon := law_of_ensureClean htruth hclean
    rw [exec_bind_of_error hclean] at h
    cases h
    exact .inl (hsame.id? name)
  · obtain ⟨hgone, -⟩ := law_of_ensureClean htruth hclean
    have hsound : d.daemon.IsSound := (keeps_sound (.ensureClean name)).holds hclean hb
    have hle : b.daemon.created ≤ d.daemon.created :=
      (keeps_minting (.ensureClean name)).holds hclean
    rw [exec_bind_of_ok hclean] at h
    have hstart := law_of_start hsound h
    cases ended with
    | ok server =>
      obtain ⟨-, hnew, hbound⟩ := hstart
      exact ⟨hnew.of_le hb hle, hbound⟩
    | error raised =>
      rcases hstart with hsame | ⟨-, hfree, hadded, -⟩
      · exact .inr (.inl ((hsame.id? name).trans hgone))
      · refine .inr (.inr ⟨_, hsound.isNew_nextId.of_le hb hle, ?_⟩)
        rw [Daemon.id?, hadded, Daemon.lookup_append_single]
        rw [Daemon.id?] at hfree
        simp [hfree]

theorem law_of_stop (htruth : b.daemon.TellsTruth name)
    {ended : Except Raised (Option TrialError)} (h : (stop name).exec b = (ended, c)) :
    (Call.stop name).Law b ended c := by
  have hanswer := h
  unfold stop at h
  rw [exec_bind_of_ok (exec_attempt _ b)] at h
  rcases hstop : (do ensureDaemon; lookup name; remove name).exec b with ⟨raised | _, d⟩
  · -- nothing was removed
    have hsame : b.daemon.SameTable d.daemon := by
      rw [← bind_assoc] at hstop
      rcases exec_bind_eq_error.1 hstop with hlookup | ⟨_, e, hlookup, hremove⟩
      · exact (ensured_lookup_eq_error hlookup).1
      · exact (ensured_lookup_eq_ok hlookup).1.trans (remove_eq_error hremove).1
    rw [hstop] at h
    cases raised with
    | failure f =>
      dsimp only at h
      split at h
      · cases h
        exact absent_of_stop htruth hanswer
      · cases h
        exact hsame
    | interrupt text =>
      cases h
      exact hsame
    | stalled =>
      cases h
      exact hsame
  · rw [hstop] at h
    cases h
    exact absent_of_stop htruth hanswer

theorem law_of_logs {tail : Int} {ended : Except Raised String}
    (h : (Server.logs name tail).exec b = (ended, c)) : (Call.logs name tail).Law b ended c := by
  have hkept := Act.Frame.keeps_logsOf Table.keeps_openDaemon (Table.keeps_lookup name)
    (Table.keeps_logs name tail)
  exact hkept.holds h

/-- Every call obeys its law, as long as the daemon does not deny a container that is there. -/
theorem law_of_call (call : Call) (hb : b.daemon.IsSound)
    (htruth : b.daemon.TellsTruth call.name) :
    call.Law b (call.act.exec b).1 (call.act.exec b).2 := by
  cases call with
  | ensureClean name => exact law_of_ensureClean htruth rfl
  | start name image containerPort hostPort => exact law_of_start hb rfl
  | restart name image containerPort hostPort => exact law_of_restart hb htruth rfl
  | stop name => exact law_of_stop htruth rfl
  | logs name tail => exact law_of_logs rfl

/-! ### Runs of calls -/

/-- A call, and what happens to the daemon before it: there are new incidents, and containers may
publish and log something else. -/
structure Turn where
  call : Call
  incidents : Request → Queue Raised := fun _ => []
  openings : Queue Raised := []
  published : Json := .obj []
  log : Text.Octets := []

/-- The bench on which a call is made. -/
def Turn.prepare (turn : Turn) (b : Bench) : Bench :=
  { b with daemon := { b.daemon with
      incidents := turn.incidents
      openings := turn.openings
      published := turn.published
      log := turn.log } }

/-- A call that was made, with the benches before and after it and how it ended. -/
structure Step where
  call : Call
  before : Bench
  ended : Except Raised call.Answer
  after : Bench

/-- The steps of a run of calls, and the bench that it leaves. -/
def serve : List Turn → Bench → List Step × Bench
  | [], b => ([], b)
  | turn :: rest, b =>
    let before := turn.prepare b
    let after := (turn.call.act.exec before).2
    let served := serve rest after
    (⟨turn.call, before, (turn.call.act.exec before).1, after⟩ :: served.1, served.2)

/-- What a step leaves of the table. -/
structure Step.Obeys (s : Step) : Prop where
  law : s.call.Law s.before s.ended s.after
  beside : ∀ other ≠ s.call.name, s.after.daemon.id? other = s.before.daemon.id? other
  before_sound : s.before.daemon.IsSound
  after_sound : s.after.daemon.IsSound

/-- **The law of the table.**  From a sound table, along any run of calls with any incidents, as
long as the daemon never denies a container that is there: every step obeys the law of its call,
leaves all other names alone and the table sound, and names that no call is about stand at the end
for the containers that they stood for at the beginning. -/
theorem table_law (turns : List Turn) {b : Bench} (hb : b.daemon.IsSound)
    (htruth : ∀ s ∈ (serve turns b).1, s.before.daemon.TellsTruth s.call.name) :
    (∀ s ∈ (serve turns b).1, s.Obeys) ∧ (serve turns b).2.daemon.IsSound ∧
      ∀ name, (∀ turn ∈ turns, turn.call.name ≠ name) →
        (serve turns b).2.daemon.id? name = b.daemon.id? name := by
  induction turns generalizing b with
  | nil => exact ⟨fun s hs => absurd hs List.not_mem_nil, hb, fun _ _ => rfl⟩
  | cons turn rest ih =>
    obtain ⟨hfirst, hrest⟩ := List.forall_mem_cons.1 htruth
    -- what is put before the call leaves the table alone
    have hbefore : (turn.prepare b).daemon.IsSound := hb
    have hafter : (turn.call.act.exec (turn.prepare b)).2.daemon.IsSound :=
      keeps_sound turn.call _ hbefore
    have hbeside := keeps_beside turn.call (turn.prepare b)
    obtain ⟨hsteps, hsound, hnames⟩ := ih hafter hrest
    refine ⟨List.forall_mem_cons.2 ⟨?_, hsteps⟩, hsound, fun name hname => ?_⟩
    · exact ⟨law_of_call turn.call hbefore hfirst, hbeside, hbefore, hafter⟩
    · obtain ⟨hturn, hothers⟩ := List.forall_mem_cons.1 hname
      exact (hnames name hothers).trans (hbeside name hturn.symm)

/-- The incidents that a step finds are those of one of the turns. -/
theorem exists_turn {turns : List Turn} {b : Bench} {s : Step} (hs : s ∈ (serve turns b).1) :
    ∃ turn ∈ turns, s.before.daemon.incidents = turn.incidents := by
  induction turns generalizing b with
  | nil => cases hs
  | cons turn rest ih =>
    rcases List.mem_cons.1 hs with rfl | hs
    · exact ⟨turn, List.mem_cons_self, rfl⟩
    · obtain ⟨later, hlater, hincidents⟩ := ih hs
      exact ⟨later, List.mem_cons_of_mem _ hlater, hincidents⟩

/-- A container that cannot be removed at first is replaced by one that shows no port, which is
removed in the end.  The container beside it stays. -/
theorem table_beside_replaced_container :
    let busy : Request → Queue Raised := fun request =>
      if request = .remove then [some (.fault ⟨.daemon .refusal, "busy"⟩)] else []
    let turns : List Turn :=
      [{ call := .ensureClean "ircd", incidents := busy },
        { call := .restart "ircd" "image" 6667 none },
        { call := .stop "ircd", incidents := busy }, { call := .stop "ircd" }]
    let b : Bench :=
      { Bench.quiet with daemon := ({} : Daemon).withContainers ["ircd", "beside"] }
    b.daemon.IsSound ∧ (∀ s ∈ (serve turns b).1, s.Obeys) ∧
      (serve turns b).1.map (fun s => (s.ended.isOk, s.after.daemon.id? "ircd")) =
        [(false, some "id1"), (false, some "id3"), (true, some "id3"), (true, none)] ∧
      (serve turns b).2.daemon.id? "beside" = some "id2" := by
  intro busy turns b
  have hsound : b.daemon.IsSound := (Daemon.isSound_of_empty rfl).withContainers _
  -- no incident says that a container is absent
  have present (turn : Turn) (hturn : turn ∈ turns) (request : Request) (f : Fault)
      (hdue : (turn.incidents request).due = some (.fault f)) : f.kind.isAbsence = false := by
    have hall : ∀ turn ∈ turns, ∀ request, (turn.incidents request).due = none ∨
        (turn.incidents request).due = some (.fault ⟨.daemon .refusal, "busy"⟩) := by
      intro turn hturn request
      simp only [turns, List.mem_cons, List.not_mem_nil, or_false] at hturn
      rcases hturn with rfl | rfl | rfl | rfl <;> cases request <;> simp [busy]
    rcases hall turn hturn request with h | h
    · rw [h] at hdue
      cases hdue
    · rw [h] at hdue
      cases hdue
      rfl
  have htruth : ∀ s ∈ (serve turns b).1, s.before.daemon.TellsTruth s.call.name := by
    intro s hs request _ f hdue habsent
    obtain ⟨turn, hturn, hincidents⟩ := exists_turn hs
    rw [Daemon.due, hincidents] at hdue
    rw [present turn hturn request f hdue] at habsent
    cases habsent
  obtain ⟨hobeys, -, hnames⟩ := table_law turns hsound htruth
  refine ⟨hsound, hobeys, by decide +kernel, ?_⟩
  rw [hnames "beside" (by decide)]
  decide +kernel

end Server
end ClientTrial
