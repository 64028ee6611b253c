import ClientTrial.Proofs.Bench.Files
import ClientTrial.Proofs.Bench.Frame

/-!
# What most actions leave alone

Most of what is done in a trial leaves the containers of other names as they are,
removes no directory, starts no background process and lets none that is over run
again, and opens no closed file.  This is a frame, and the calls into the outside
world stay in it, with two exceptions: a background process that is started is one
more, and a tree of files that is removed takes its directories away.

## Main definitions

* `Carries` — every entry of a list goes on in another list.
* `Bench.Leads`, `Bench.Steady` — what is left alone, with and without new processes.
* `Act.Frame.steady` — the frame of what is left alone without new processes.

## Main results

* `Steady.keeps_sleep`, `Steady.keeps_lookup`, … — the calls stay in the frame.
* `Steady.spawn_eq_ok` — what a process that is started adds.
-/

namespace ClientTrial

open Act

/-! ### Lists that go on -/

/-- Every entry of a list goes on, at its place, as an entry of another list. -/
def Carries {α : Type} (goesOn : α → α → Prop) (l later : List α) : Prop :=
  ∀ (i : Nat) (a : α), l[i]? = some a → ∃ a', later[i]? = some a' ∧ goesOn a a'

namespace Carries

variable {α : Type} {goesOn : α → α → Prop}

theorem refl (hrefl : ∀ a, goesOn a a) (l : List α) : Carries goesOn l l :=
  fun _ a h => ⟨a, h, hrefl a⟩

theorem trans {l mid later : List α} (h : Carries goesOn l mid) (hl : Carries goesOn mid later)
    (htrans : ∀ a b c, goesOn a b → goesOn b c → goesOn a c) : Carries goesOn l later := by
  intro i a ha
  obtain ⟨b, hb, hab⟩ := h i a ha
  obtain ⟨c, hc, hbc⟩ := hl i b hb
  exact ⟨c, hc, htrans a b c hab hbc⟩

theorem append (hrefl : ∀ a, goesOn a a) (l more : List α) : Carries goesOn l (l ++ more) := by
  intro i a ha
  obtain ⟨hi, -⟩ := List.getElem?_eq_some_iff.1 ha
  exact ⟨a, by rw [List.getElem?_append_left hi, ha], hrefl a⟩

theorem map {f : α → α} (hf : ∀ a, goesOn a (f a)) (l : List α) : Carries goesOn l (l.map f) := by
  intro i a ha
  exact ⟨f a, by rw [List.getElem?_map, ha, Option.map_some], hf a⟩

theorem modify (n : Nat) (l : List α) {f : α → α} (hrefl : ∀ a, goesOn a a)
    (hf : ∀ a, goesOn a (f a)) : Carries goesOn l (l.modify n f) := by
  intro i a ha
  rw [List.getElem?_modify, ha]
  by_cases h : n = i
  · exact ⟨f a, by simp [h], hf a⟩
  · exact ⟨a, by simp [h], hrefl a⟩

end Carries

/-! ### Processes and opened files -/

/-- A process at a later time: it keeps its number and its output, and does not run again once it is
over. -/
structure Child.GoesOn (c later : Child) : Prop where
  pid : later.pid = c.pid
  output : later.output = c.output
  ended : c.isLive = false → later.isLive = false

theorem Child.GoesOn.refl (c : Child) : c.GoesOn c := ⟨rfl, rfl, id⟩

theorem Child.GoesOn.trans {c mid later : Child} (h : c.GoesOn mid) (hl : mid.GoesOn later) :
    c.GoesOn later :=
  ⟨hl.pid.trans h.pid, hl.output.trans h.output, hl.ended ∘ h.ended⟩

/-- An opened file at a later time: it is not opened again once it is closed. -/
structure Output.GoesOn (o later : Output) : Prop where
  closed : o.closed = true → later.closed = true

theorem Output.GoesOn.refl (o : Output) : o.GoesOn o := ⟨id⟩

theorem Output.GoesOn.trans {o mid later : Output} (h : o.GoesOn mid) (hl : mid.GoesOn later) :
    o.GoesOn later := ⟨hl.closed ∘ h.closed⟩

/-- The files and the opened files at a later time. -/
structure Desk.GoesOn (d later : Desk) : Prop where
  dirs : d.files.KeepsDirs later.files
  outputs : Carries Output.GoesOn d.outputs later.outputs

theorem Desk.GoesOn.refl (d : Desk) : d.GoesOn d :=
  ⟨.refl _, .refl Output.GoesOn.refl _⟩

theorem Desk.GoesOn.trans {d mid later : Desk} (h : d.GoesOn mid) (hl : mid.GoesOn later) :
    d.GoesOn later :=
  ⟨h.dirs.trans hl.dirs, h.outputs.trans hl.outputs fun _ _ _ => Output.GoesOn.trans⟩

theorem Desk.goesOn_changeOutput (d : Desk) (n : Nat) {f : Output → Output}
    (hf : ∀ o : Output, o.GoesOn (f o)) : d.GoesOn (d.changeOutput n f) :=
  ⟨.refl _, .modify n _ Output.GoesOn.refl hf⟩

theorem Desk.goesOn_write (n : Nat) (d : Desk) (piece : Text.Octets) :
    d.GoesOn (d.write n piece) := by
  unfold Desk.write
  split
  · exact .refl d
  · next o _ =>
    split
    · -- a piece is put in the place of a file, never of a directory
      have moved : d.GoesOn
          (d.changeOutput n fun o => { o with position := o.position + piece.length }) :=
        goesOn_changeOutput d n fun _ => ⟨id⟩
      refine ⟨?_, moved.outputs⟩
      dsimp only [changeOutput]
      split
      · next hnode => exact Files.keepsDirs_put (by simp [hnode]) _
      · exact .refl _
    · exact .refl d

theorem Desk.goesOn_foldl_write (n : Nat) (pieces : List Text.Octets) (d : Desk) :
    d.GoesOn (pieces.foldl (Desk.write n) d) := by
  induction pieces generalizing d with
  | nil => exact .refl d
  | cons piece rest ih => exact (goesOn_write n d piece).trans (ih _)

/-- A process that acts goes on, and so do the files. -/
def Child.Steps (act : Child → Desk → Child × Desk) : Prop :=
  ∀ (c : Child) (d : Desk), c.GoesOn (act c d).1 ∧ d.GoesOn (act c d).2

theorem Child.steps_advance (clock : Float) : Steps (advance clock) := by
  intro c d
  unfold advance
  split
  · next hlive =>
    refine ⟨⟨rfl, rfl, fun h => ?_⟩, Desk.goesOn_foldl_write _ _ _⟩
    rw [hlive] at h
    cases h
  · exact ⟨.refl c, .refl d⟩

theorem Child.steps_relay (piece : Text.Octets) : Steps (relay piece) := by
  intro c d
  refine ⟨.refl c, ?_⟩
  unfold relay
  dsimp only
  split
  · exact Desk.goesOn_write _ _ _
  · exact .refl d

theorem Child.length_each (act : Child → Desk → Child × Desk) (children : List Child) (d : Desk) :
    (each act children d).1.length = children.length := by
  induction children generalizing d with
  | nil => rfl
  | cons c rest ih => simp [each, ih]

theorem Child.carries_each {act : Child → Desk → Child × Desk} (hact : Steps act)
    (children : List Child) (d : Desk) :
    Carries GoesOn children (each act children d).1 ∧ d.GoesOn (each act children d).2 := by
  induction children generalizing d with
  | nil => exact ⟨.refl Child.GoesOn.refl [], .refl d⟩
  | cons c rest ih =>
    obtain ⟨hrest, hdesk⟩ := ih (act c d).2
    refine ⟨?_, (hact c d).2.trans hdesk⟩
    intro i a ha
    cases i with
    | zero =>
      cases ha
      exact ⟨_, rfl, (hact c d).1⟩
    | succ i => exact hrest i a ha

/-! ### The frames -/

/-- What is left alone even if a background process is started: the containers of all names but
some, the directories, the processes there were, and the files that are closed. -/
structure Bench.Leads (free : List String) (b later : Bench) : Prop where
  containers : ∀ name ∉ free, later.daemon.id? name = b.daemon.id? name
  desk : b.desk.GoesOn later.desk
  children : Carries Child.GoesOn b.children later.children

/-- What is left alone if no background process is started. -/
structure Bench.Steady (free : List String) (b later : Bench) : Prop
    extends b.Leads free later where
  length : later.children.length = b.children.length

namespace Bench

variable {free : List String} {b c d : Bench}

theorem Leads.refl (b : Bench) : b.Leads free b :=
  ⟨fun _ _ => rfl, .refl _, .refl Child.GoesOn.refl _⟩

theorem Leads.trans (h : b.Leads free c) (hl : c.Leads free d) : b.Leads free d :=
  ⟨fun name hname => (hl.containers name hname).trans (h.containers name hname),
    h.desk.trans hl.desk, h.children.trans hl.children fun _ _ _ => Child.GoesOn.trans⟩

theorem Steady.refl (b : Bench) : b.Steady free b := ⟨.refl b, rfl⟩

theorem Steady.trans (h : b.Steady free c) (hl : c.Steady free d) : b.Steady free d :=
  ⟨h.toLeads.trans hl.toLeads, hl.length.trans h.length⟩

theorem Steady.mono {more : List String} (hfree : ∀ name ∈ free, name ∈ more)
    (h : b.Steady free c) : b.Steady more c :=
  ⟨⟨fun name hname => h.containers name fun hn => hname (hfree name hn), h.desk, h.children⟩,
    h.length⟩

/-- A bench on which neither containers nor files nor processes have changed. -/
theorem steady_of_eq (hdaemon : c.daemon.containers = b.daemon.containers) (hdesk : c.desk = b.desk)
    (hchildren : c.children = b.children) : b.Steady free c := by
  refine ⟨⟨fun name _ => ?_, ?_, ?_⟩, ?_⟩
  · rw [Daemon.id?, hdaemon]
    rfl
  · rw [hdesk]
    exact .refl _
  · rw [hchildren]
    exact .refl Child.GoesOn.refl _
  · rw [hchildren]

end Bench

/-- The frame of what is left alone if no background process is started. -/
def Act.Frame.steady (free : List String) : Frame where
  Holds := Bench.Steady free
  refl := Bench.Steady.refl
  trans := Bench.Steady.trans

namespace Steady

open Act.Frame

variable {free : List String}

/-- Only containers, files and processes matter to whether a change is steady. -/
theorem keeps_change_of_eq {f : Bench → Bench}
    (hdaemon : ∀ b, (f b).daemon.containers = b.daemon.containers)
    (hdesk : ∀ b, (f b).desk = b.desk) (hchildren : ∀ b, (f b).children = b.children) :
    (steady free).Keeps (change f) :=
  fun b => Bench.steady_of_eq (hdaemon b) (hdesk b) (hchildren b)

theorem keeps_note (e : Effect) : (steady free).Keeps (note e) :=
  keeps_change_of_eq (fun _ => rfl) (fun _ => rfl) fun _ => rfl

theorem keeps_say (e : Log.Event) : (steady free).Keeps (say e) :=
  keeps_change_of_eq (fun _ => rfl) (fun _ => rfl) fun _ => rfl

/-! ### Files -/

theorem keeps_onFiles {f : Files → Except Fault Files}
    (hf : ∀ fs later, f fs = .ok later → fs.KeepsDirs later) : (steady free).Keeps (onFiles f) := by
  intro b
  rw [exec_onFiles]
  rcases h : f b.files with e | fs
  · exact Bench.Steady.refl b
  · exact ⟨⟨fun _ _ => rfl, ⟨hf _ _ h, .refl Output.GoesOn.refl _⟩, .refl Child.GoesOn.refl _⟩, rfl⟩

theorem keeps_write (route : Route) (content : Text.Octets) :
    (steady free).Keeps (onFiles (·.write route content)) :=
  keeps_onFiles fun _ _ h => Files.keepsDirs_change h

/-- A change of the files and the opened files that goes on. -/
theorem keeps_change_of_desk {f : Desk → Desk} (hf : ∀ d : Desk, d.GoesOn (f d)) :
    (steady free).Keeps (change fun b => { b with desk := f b.desk }) :=
  fun b => ⟨⟨fun _ _ => rfl, hf b.desk, .refl Child.GoesOn.refl _⟩, rfl⟩

theorem keeps_openOutput (route : Route) : (steady free).Keeps (openOutput route) :=
  Frame.keeps_openOutput (keeps_write _ _) fun _ _ =>
    ⟨⟨fun _ _ => rfl, ⟨.refl _, .append Output.GoesOn.refl _ _⟩, .refl Child.GoesOn.refl _⟩, rfl⟩

theorem keeps_changeOutput (n : Nat) {f : Output → Output} (hf : ∀ o : Output, o.GoesOn (f o)) :
    (steady free).Keeps (changeOutput n f) :=
  keeps_change_of_desk fun d => d.goesOn_changeOutput n hf

theorem keeps_closeOutput (n : Nat) : (steady free).Keeps (closeOutput n) :=
  Frame.keeps_closeOutput (keeps_changeOutput n fun _ => ⟨id⟩)
    (keeps_changeOutput n fun _ => ⟨fun _ => rfl⟩)

/-! ### Time -/

theorem keeps_settleDeposits (deposits : List Deposit) :
    (steady free).Keeps (settleDeposits deposits) := by
  refine Frame.keeps_settleDeposits (fun d => ?_) (fun b _ => ?_) deposits
  · refine keeps_onFiles fun fs later h => ?_
    split at h
    · exact Files.keepsDirs_change h
    · exact Files.keepsDirs_change h
  · exact Bench.steady_of_eq rfl rfl rfl

/-- All processes act on the files. -/
theorem keeps_change_of_each {act : Bench → Child → Desk → Child × Desk}
    (hact : ∀ b, Child.Steps (act b)) :
    (steady free).Keeps (change fun b =>
      let (children, desk) := Child.each (act b) b.children b.desk
      { b with children, desk }) := by
  intro b
  obtain ⟨hchildren, hdesk⟩ := Child.carries_each (hact b) b.children b.desk
  exact ⟨⟨fun _ _ => rfl, hdesk, hchildren⟩, Child.length_each _ _ _⟩

theorem keeps_advance (seconds : Float) : (steady free).Keeps (advance seconds) := by
  refine Frame.keeps_advance (fun b _ => ?_) (fun b _ => ?_) keeps_settleDeposits
    (keeps_change_of_each fun b => Child.steps_advance b.clock) seconds
  · exact Bench.steady_of_eq rfl rfl rfl
  · exact Bench.steady_of_eq rfl rfl rfl

theorem keeps_elapse (seconds : Float) : (steady free).Keeps (elapse seconds) :=
  Frame.keeps_elapse keeps_advance seconds

theorem keeps_sleep (seconds : Float) : (steady free).Keeps (sleep seconds) :=
  Frame.keeps_sleep (keeps_note _) (fun _ _ => Bench.steady_of_eq rfl rfl rfl)
    (keeps_advance seconds)

theorem keeps_readClock : (steady free).Keeps readClock := Frame.keeps_readClock keeps_advance

theorem keeps_connect (host : String) (port : Int) (timeout : Float) :
    (steady free).Keeps (connect host port timeout) :=
  Frame.keeps_connect (fun _ => keeps_note _) (fun _ _ => Bench.steady_of_eq rfl rfl rfl)
    keeps_advance

/-! ### The daemon -/

theorem keeps_openDaemon : (steady free).Keeps openDaemon :=
  Frame.keeps_openDaemon (keeps_note _) fun _ _ _ => Bench.steady_of_eq rfl rfl rfl

theorem keeps_request (kind : Request) (effect : Effect) :
    (steady free).Keeps (request kind effect) :=
  Frame.keeps_request (keeps_note _) fun _ => Bench.steady_of_eq rfl rfl rfl

theorem keeps_lookup (name : String) : (steady free).Keeps (lookup name) :=
  Frame.keeps_lookup (keeps_request _ _)

/-- A change of the containers of one name only. -/
theorem keeps_change_of_daemon {name : String} (hname : name ∈ free) {f : Daemon → Daemon}
    (hf : ∀ d other, other ≠ name → (f d).id? other = d.id? other) :
    (steady free).Keeps (change fun b => { b with daemon := f b.daemon }) := by
  intro b
  refine ⟨⟨fun other hother => ?_, .refl _, .refl Child.GoesOn.refl _⟩, rfl⟩
  refine hf b.daemon other ?_
  rintro rfl
  exact hother hname

theorem keeps_create {name : String} (hname : name ∈ free) (image port : String)
    (hostPort : Option Int) : (steady free).Keeps (create image name port hostPort) :=
  Frame.keeps_create (keeps_request _ _)
    (keeps_change_of_daemon hname fun _ _ hother => Daemon.id?_create_of_ne hother)

theorem keeps_remove {name : String} (hname : name ∈ free) : (steady free).Keeps (remove name) :=
  Frame.keeps_remove (keeps_request _ _)
    (keeps_change_of_daemon hname fun _ _ hother => Daemon.id?_remove_of_ne hother)

theorem keeps_reload (name : String) : (steady free).Keeps (reload name) :=
  Frame.keeps_reload (keeps_request _ _)

theorem keeps_logs (name : String) (tail : Int) : (steady free).Keeps (logs name tail) :=
  Frame.keeps_logs (keeps_request _ _)

/-! ### Processes -/

theorem keeps_runErrand (command : List String) (environ : List (String × String))
    (dir : Option String) (timeout : Option Float) :
    (steady free).Keeps (runErrand command environ dir timeout) :=
  Frame.keeps_runErrand (fun _ _ => Bench.steady_of_eq rfl rfl rfl) (keeps_note _) keeps_advance
    fun _ => keeps_change_of_each fun _ => Child.steps_relay _

theorem keeps_kill (pid : Int) : (steady free).Keeps (kill pid) := by
  refine Frame.keeps_kill (keeps_note _) fun b f hf => ?_
  refine ⟨⟨fun _ _ => rfl, .refl _, .map (fun c => ?_) _⟩, List.length_map _⟩
  rcases hf c with hc | hc
  · rw [hc]
    exact .refl c
  · rw [hc]
    exact ⟨rfl, rfl, fun _ => rfl⟩

theorem keeps_wait (pid : Int) : (steady free).Keeps (wait pid) := Frame.keeps_wait (keeps_note _)

/-- A process that is not started leaves nothing behind. -/
theorem spawn_eq_error {command : List String} {environ : List (String × String)}
    {dir : Option String} {route : Route} {output : Nat} {b c : Bench} {r : Raised}
    (h : (spawn command environ dir route output).exec b = (.error r, c)) : b.Steady free c := by
  unfold spawn at h
  rw [exec_bind_of_ok (exec_ask _ b), exec_bind_of_ok (exec_change _ b),
    exec_bind_of_ok (exec_note _ _)] at h
  by_cases hc : command = []
  · rw [if_pos hc, exec_bind_of_error (exec_throw _ _)] at h
    cases h
    exact Bench.steady_of_eq rfl rfl rfl
  · rw [if_neg hc] at h
    cases hs : (b.scripts.headD {}).spawnIncident with
    | some raised =>
      rw [hs, exec_bind_of_error (exec_perhaps_some _ _)] at h
      cases h
      exact Bench.steady_of_eq rfl rfl rfl
    | none =>
      rw [hs, exec_bind_of_ok (exec_perhaps_none _)] at h
      cases h

/-- A process that is started comes last of all processes, with the next number. -/
theorem spawn_eq_ok {command : List String} {environ : List (String × String)}
    {dir : Option String} {route : Route} {output : Nat} {b c : Bench} {pid : Int}
    (h : (spawn command environ dir route output).exec b = (.ok pid, c)) :
    b.Leads free c ∧ pid = 4242 + b.children.length ∧
      ∃ child, c.children = b.children ++ [child] ∧ child.pid = pid ∧ child.output = output := by
  unfold spawn at h
  rw [exec_bind_of_ok (exec_ask _ b), exec_bind_of_ok (exec_change _ b),
    exec_bind_of_ok (exec_note _ _)] at h
  by_cases hc : command = []
  · rw [if_pos hc, exec_bind_of_error (exec_throw _ _)] at h
    cases h
  · rw [if_neg hc] at h
    cases hs : (b.scripts.headD {}).spawnIncident with
    | some raised =>
      rw [hs, exec_bind_of_error (exec_perhaps_some _ _)] at h
      cases h
    | none =>
      rw [hs, exec_bind_of_ok (exec_perhaps_none _)] at h
      cases h
      obtain ⟨hchild, hdesk⟩ := Child.steps_advance b.clock
        { pid := 4242 + b.children.length, command, start := b.clock, script := b.scripts.headD {},
          pending := (b.scripts.headD {}).pieces, output }
        (b.desk.changeOutput output fun o =>
          { o with closeIncident := (b.scripts.headD {}).closeIncident })
      have hopened : b.desk.GoesOn (b.desk.changeOutput output fun o =>
          { o with closeIncident := (b.scripts.headD {}).closeIncident }) :=
        Desk.goesOn_changeOutput _ _ fun _ => ⟨id⟩
      -- what it writes at once goes to its output, and it may be over at once
      exact ⟨⟨fun _ _ => rfl, hopened.trans hdesk, .append Child.GoesOn.refl _ _⟩, rfl, _, rfl,
        hchild.pid, hchild.output⟩

end Steady
end ClientTrial
