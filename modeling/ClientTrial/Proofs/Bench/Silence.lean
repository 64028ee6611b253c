import ClientTrial.Proofs.Bench.Files
import ClientTrial.Proofs.Bench.Frame

/-!
# Silence

An opened file counts the octets that have been written to it.  If it is at zero in the
end, nothing was written at any time before, and a file that was empty has stayed empty
unless something else has written to it: a call on the files, or another program.  This is
a frame, and the calls into the outside world stay in it.

## Main definitions

* `Desk.IsSilent` — nothing has been written to any opened file.
* `Files.EmptyAt` — whatever file stands at a place is empty.
* `Deposit.Spares` — another program writes nothing at some places.
* `Act.Frame.silence` — the frame of silence at some places.

## Main results

* `Desk.hushes_write`, `Child.hushes_each` — what processes write.
* `Silence.keeps_advance`, `Silence.keeps_spawn`, … — the calls stay in the frame.
-/

namespace ClientTrial

open Act

/-! ### Empty files -/

/-- Whatever file stands at a place is empty. -/
def Files.EmptyAt (fs : Files) (place : Location) : Prop :=
  ∀ content, fs.node? place = some (.file content) → content = []

namespace Files

variable {fs later : Files} {place other : Location}

theorem EmptyAt.put (h : fs.EmptyAt place) {content : Text.Octets}
    (hcontent : other = place → content = []) : (fs.put other (.file content)).EmptyAt place := by
  intro stored hstored
  by_cases hplace : place = other
  · subst hplace
    cases hroot : isRoot place with
    | true =>
      rw [node?, if_pos hroot] at hstored
      cases hstored
    | false =>
      rw [node?_put_self hroot] at hstored
      cases hstored
      exact hcontent rfl
  · rw [node?_put_of_ne hplace] at hstored
    exact h stored hstored

/-- A change of a file leaves a place empty if it leads elsewhere or makes nothing out of nothing.
-/
theorem EmptyAt.change (h : fs.EmptyAt place) {r : Route} {f : Text.Octets → Text.Octets}
    (hf : fs.locate r = .ok place → f [] = []) (hchange : fs.change r f = .ok later) :
    later.EmptyAt place := by
  obtain ⟨found, hfound, hchange⟩ := Except.bind_eq_ok.1 hchange
  split at hchange
  · cases hchange
  · next content hnode =>
    cases hchange
    refine h.put ?_
    rintro rfl
    rw [h content hnode, hf hfound]
  · split at hchange
    · cases hchange
      refine h.put ?_
      rintro rfl
      exact hf hfound
    · cases hchange

/-- What is emptied is empty. -/
theorem emptyAt_of_write {tree : Files} {r : Route} (hplace : tree.locate r = .ok place)
    (h : fs.write r [] = .ok later) : later.EmptyAt place := by
  obtain ⟨found, hfound, hroot, rfl⟩ := write_eq_ok h
  cases locate_unique hfound hplace
  intro content hcontent
  rw [node?_put_self hroot] at hcontent
  cases hcontent
  rfl

end Files

/-! ### Opened files -/

namespace Desk

variable {places : List Location}

/-- Nothing has been written to any opened file. -/
def IsSilent (d : Desk) : Prop := ∀ o ∈ d.outputs, o.position = 0

instance (d : Desk) : Decidable d.IsSilent :=
  inferInstanceAs (Decidable (∀ o ∈ d.outputs, o.position = 0))

/-- If nothing has been written by a later time, then nothing had been written before, and some
places that were empty are so still. -/
structure Hushes (places : List Location) (d later : Desk) : Prop where
  silent : later.IsSilent → d.IsSilent
  empty : later.IsSilent → ∀ place ∈ places, d.files.EmptyAt place → later.files.EmptyAt place

theorem Hushes.refl (d : Desk) : d.Hushes places d := ⟨id, fun _ _ _ => id⟩

theorem Hushes.trans {d mid later : Desk} (h : d.Hushes places mid) (hl : mid.Hushes places later) :
    d.Hushes places later :=
  ⟨h.silent ∘ hl.silent,
    fun hs place hp he => hl.empty hs place hp (h.empty (hl.silent hs) place hp he)⟩

theorem hushes_withFiles (d : Desk) {fs : Files}
    (h : ∀ place ∈ places, d.files.EmptyAt place → fs.EmptyAt place) :
    d.Hushes places { d with files := fs } := ⟨id, fun _ => h⟩

theorem hushes_append (d : Desk) (o : Output) :
    d.Hushes places { d with outputs := d.outputs ++ [o] } :=
  ⟨fun h o ho => h o (List.mem_append_left _ ho), fun _ _ _ => id⟩

/-- A file that is changed counts at least what it has counted. -/
theorem silent_of_changeOutput {d : Desk} {n : Nat} {f : Output → Output}
    (hf : ∀ o, (f o).position = 0 → o.position = 0) (h : (d.changeOutput n f).IsSilent) :
    d.IsSilent := by
  intro o ho
  obtain ⟨i, hi⟩ := List.mem_iff_getElem?.1 ho
  have hlater : (d.changeOutput n f).outputs[i]? = some (if n = i then f o else o) := by
    simp only [changeOutput, List.getElem?_modify, hi, Option.map_eq_map, Option.map_some]
  have hzero := h _ (List.mem_of_getElem? hlater)
  split at hzero
  · exact hf o hzero
  · exact hzero

theorem hushes_changeOutput (d : Desk) (n : Nat) {f : Output → Output}
    (hf : ∀ o, (f o).position = 0 → o.position = 0) : d.Hushes places (d.changeOutput n f) :=
  ⟨silent_of_changeOutput hf, fun _ _ _ => id⟩

/-- A piece that is written counts.  If nothing has been written afterwards, the piece is empty and
stands at the start of its file. -/
theorem hushes_write (n : Nat) (d : Desk) (piece : Text.Octets) :
    d.Hushes places (d.write n piece) := by
  unfold write
  split
  · exact .refl d
  · next o ho =>
    split
    · have grown : ∀ o : Output, o.position + piece.length = 0 → o.position = 0 := by
        intro o h
        omega
      refine ⟨silent_of_changeOutput grown, fun hs place _ he => ?_⟩
      have hcount : o.position + piece.length = 0 := by
        have hlater : (d.changeOutput n fun o =>
            { o with position := o.position + piece.length }).outputs[n]? =
              some { o with position := o.position + piece.length } := by
          simp [changeOutput, ho]
        exact hs _ (List.mem_of_getElem? hlater)
      have hpiece : piece = [] := List.length_eq_zero_iff.1 (by omega)
      have hposition : o.position = 0 := by omega
      dsimp only
      split
      · next content hnode =>
        refine he.put ?_
        rintro rfl
        rw [he content hnode, hpiece, hposition]
        rfl
      · exact he
    · exact .refl d

theorem hushes_foldl_write (n : Nat) (pieces : List Text.Octets) (d : Desk) :
    d.Hushes places (pieces.foldl (write n) d) := by
  induction pieces generalizing d with
  | nil => exact .refl d
  | cons piece rest ih => exact (hushes_write n d piece).trans (ih _)

end Desk

/-! ### Processes -/

namespace Child

variable {places : List Location}

theorem hushes_advance (clock : Float) (c : Child) (d : Desk) :
    d.Hushes places (c.advance clock d).2 := by
  unfold advance
  split
  · exact Desk.hushes_foldl_write _ _ _
  · exact .refl d

theorem hushes_relay (piece : Text.Octets) (c : Child) (d : Desk) :
    d.Hushes places (c.relay piece d).2 := by
  unfold relay
  dsimp only
  split
  · exact Desk.hushes_write _ _ _
  · exact .refl d

theorem hushes_each {act : Child → Desk → Child × Desk}
    (hact : ∀ (c : Child) (d : Desk), d.Hushes places (act c d).2) (children : List Child)
    (d : Desk) : d.Hushes places (each act children d).2 := by
  induction children generalizing d with
  | nil => exact .refl d
  | cons c rest ih => exact (hact c d).trans (ih _)

end Child

/-! ### The frame -/

/-- Another program writes nothing, or nothing at some places. -/
def Deposit.Spares (places : List Location) (d : Deposit) : Prop :=
  d.content = [] ∨ ∀ place ∈ places, ∀ fs : Files, fs.locate d.route ≠ .ok place

namespace Bench

variable {places : List Location}

/-- No other program is going to write anything at some places. -/
def Spares (places : List Location) (b : Bench) : Prop := ∀ d ∈ b.deposits, d.Spares places

/-- Nothing else is going to be written at some places at a later time, and they are empty still if
nothing has been written. -/
structure Hushes (places : List Location) (b later : Bench) : Prop where
  deposits : later.Spares places
  desk : b.desk.Hushes places later.desk

/-- A bench on which neither the files nor what will be written to them has changed. -/
theorem hushes_of_eq {b c : Bench} (hb : b.Spares places) (hdesk : c.desk = b.desk)
    (hdeposits : c.deposits = b.deposits) : b.Hushes places c := by
  refine ⟨?_, ?_⟩
  · rw [Spares, hdeposits]
    exact hb
  · rw [hdesk]
    exact .refl _

end Bench

/-- The frame of silence at some places, as long as no other program writes there. -/
def Act.Frame.silence (places : List Location) : Frame where
  Holds b later := b.Spares places → b.Hushes places later
  refl _ := fun hb => ⟨hb, .refl _⟩
  trans h hl := fun hb =>
    have hm := h hb
    have hlater := hl hm.deposits
    ⟨hlater.deposits, hm.desk.trans hlater.desk⟩

namespace Silence

open Act.Frame

variable {places : List Location}

/-- Only the files and what will be written to them matter to silence. -/
theorem keeps_change_of_eq {f : Bench → Bench} (hdesk : ∀ b, (f b).desk = b.desk)
    (hdeposits : ∀ b, (f b).deposits = b.deposits) : (silence places).Keeps (change f) :=
  fun b hb => Bench.hushes_of_eq hb (hdesk b) (hdeposits b)

theorem keeps_note (e : Effect) : (silence places).Keeps (note e) :=
  keeps_change_of_eq (fun _ => rfl) fun _ => rfl

theorem keeps_say (e : Log.Event) : (silence places).Keeps (say e) :=
  keeps_change_of_eq (fun _ => rfl) fun _ => rfl

/-! ### Files -/

theorem keeps_onFiles {f : Files → Except Fault Files}
    (hf : ∀ fs later, f fs = .ok later → ∀ place ∈ places, fs.EmptyAt place → later.EmptyAt place) :
    (silence places).Keeps (onFiles f) := by
  intro b hb
  rw [exec_onFiles]
  rcases h : f b.files with e | fs
  · exact ⟨hb, .refl _⟩
  · exact ⟨hb, b.desk.hushes_withFiles (hf _ _ h)⟩

/-- A change of the opened files. -/
theorem keeps_change_of_desk {f : Desk → Desk} (hf : ∀ d : Desk, d.Hushes places (f d)) :
    (silence places).Keeps (change fun b => { b with desk := f b.desk }) :=
  fun b hb => ⟨hb, hf b.desk⟩

theorem keeps_changeOutput (n : Nat) {f : Output → Output}
    (hf : ∀ o, (f o).position = 0 → o.position = 0) :
    (silence places).Keeps (changeOutput n f) :=
  keeps_change_of_desk fun d => d.hushes_changeOutput n hf

theorem keeps_openOutput (route : Route) : (silence places).Keeps (openOutput route) := by
  refine Frame.keeps_openOutput (keeps_onFiles fun fs later h place _ he => ?_) fun b o hb => ?_
  · exact he.change (fun _ => rfl) h
  · exact ⟨hb, b.desk.hushes_append o⟩

theorem keeps_closeOutput (n : Nat) : (silence places).Keeps (closeOutput n) :=
  Frame.keeps_closeOutput (keeps_changeOutput n fun _ => id) (keeps_changeOutput n fun _ => id)

/-! ### Time -/

/-- What other programs write is nothing, or stands elsewhere. -/
theorem keeps_settleDeposits {deposits : List Deposit} (h : ∀ d ∈ deposits, d.Spares places) :
    (silence places).Keeps (settleDeposits deposits) := by
  induction deposits with
  | nil => exact keeps_pure ()
  | cons d rest ih =>
    obtain ⟨hd, hrest⟩ := List.forall_mem_cons.1 h
    have written : (silence places).Keeps (onFiles fun fs =>
        if d.atEnd then fs.append d.route d.content else fs.write d.route d.content) := by
      refine keeps_onFiles fun fs later hlater place hplace he => ?_
      have hcontent : fs.locate d.route = .ok place → d.content = [] := fun hlocate =>
        hd.resolve_right fun hne => hne place hplace fs hlocate
      split at hlater
      · exact he.change (fun hlocate => by rw [hcontent hlocate]; rfl) hlater
      · exact he.change hcontent hlater
    refine keeps_bind (keeps_ask _) fun clock => keeps_ite ?_ ?_
    · exact keeps_bind written fun _ => ih hrest
    · refine keeps_bind (ih hrest) fun _ => keeps_change fun b hb => ⟨?_, .refl _⟩
      exact List.forall_mem_cons.2 ⟨hd, hb⟩

/-- All processes act on the files. -/
theorem keeps_change_of_each {act : Bench → Child → Desk → Child × Desk}
    (hact : ∀ (b : Bench) (c : Child) (d : Desk), d.Hushes places (act b c d).2) :
    (silence places).Keeps (change fun b =>
      let (children, desk) := Child.each (act b) b.children b.desk
      { b with children, desk }) :=
  fun b hb => ⟨hb, Child.hushes_each (hact b) b.children b.desk⟩

/-- The deposits are taken from the bench before they are settled, so that what is known of them is
known from there. -/
theorem keeps_advance (seconds : Float) : (silence places).Keeps (advance seconds) := by
  intro b hb
  have settled : (silence places).Keeps (do
      settleDeposits b.deposits
      change fun b =>
        let (children, desk) := Child.each (Child.advance b.clock) b.children b.desk
        { b with children, desk }) :=
    keeps_bind (keeps_settleDeposits hb) fun _ =>
      keeps_change_of_each fun b => Child.hushes_advance b.clock
  have hushed := settled { b with clock := b.clock + seconds, deposits := [] }
    (List.forall_mem_nil _)
  exact ⟨hushed.deposits, hushed.desk⟩

theorem keeps_elapse (seconds : Float) : (silence places).Keeps (elapse seconds) :=
  Frame.keeps_elapse keeps_advance seconds

theorem keeps_readClock : (silence places).Keeps readClock := Frame.keeps_readClock keeps_advance

theorem keeps_sleep (seconds : Float) : (silence places).Keeps (sleep seconds) :=
  Frame.keeps_sleep (keeps_note _) (fun _ _ hb => Bench.hushes_of_eq hb rfl rfl)
    (keeps_advance seconds)

theorem keeps_connect (host : String) (port : Int) (timeout : Float) :
    (silence places).Keeps (connect host port timeout) :=
  Frame.keeps_connect (fun _ => keeps_note _) (fun _ _ hb => Bench.hushes_of_eq hb rfl rfl)
    keeps_advance

/-! ### The daemon -/

theorem keeps_openDaemon : (silence places).Keeps openDaemon :=
  Frame.keeps_openDaemon (keeps_note _) fun _ _ _ hb => Bench.hushes_of_eq hb rfl rfl

theorem keeps_request (kind : Request) (effect : Effect) :
    (silence places).Keeps (request kind effect) :=
  Frame.keeps_request (keeps_note _) fun _ hb => Bench.hushes_of_eq hb rfl rfl

theorem keeps_lookup (name : String) : (silence places).Keeps (lookup name) :=
  Frame.keeps_lookup (keeps_request _ _)

theorem keeps_create (image name port : String) (hostPort : Option Int) :
    (silence places).Keeps (create image name port hostPort) :=
  Frame.keeps_create (keeps_request _ _) fun _ hb => Bench.hushes_of_eq hb rfl rfl

theorem keeps_remove (name : String) : (silence places).Keeps (remove name) :=
  Frame.keeps_remove (keeps_request _ _) fun _ hb => Bench.hushes_of_eq hb rfl rfl

theorem keeps_reload (name : String) : (silence places).Keeps (reload name) :=
  Frame.keeps_reload (keeps_request _ _)

theorem keeps_logs (name : String) (tail : Int) : (silence places).Keeps (logs name tail) :=
  Frame.keeps_logs (keeps_request _ _)

/-! ### Processes -/

theorem keeps_runErrand (command : List String) (environ : List (String × String))
    (dir : Option String) (timeout : Option Float) :
    (silence places).Keeps (runErrand command environ dir timeout) :=
  Frame.keeps_runErrand (fun _ _ hb => Bench.hushes_of_eq hb rfl rfl) (keeps_note _) keeps_advance
    fun piece => keeps_change_of_each fun _ => Child.hushes_relay piece

theorem keeps_spawn (command : List String) (environ : List (String × String))
    (dir : Option String) (route : Route) (n : Nat) :
    (silence places).Keeps (spawn command environ dir route n) :=
  Frame.keeps_spawn (fun _ _ hb => Bench.hushes_of_eq hb rfl rfl) (keeps_note _)
    (fun _ => keeps_changeOutput n fun _ => id)
    fun b c hb => ⟨hb, c.hushes_advance b.clock b.desk⟩

theorem keeps_kill (pid : Int) : (silence places).Keeps (kill pid) :=
  Frame.keeps_kill (keeps_note _) fun _ _ _ hb => Bench.hushes_of_eq hb rfl rfl

theorem keeps_wait (pid : Int) : (silence places).Keeps (wait pid) :=
  Frame.keeps_wait (keeps_note _)

end Silence
end ClientTrial
