import ClientTrial.Bench.Files
import ClientTrial.Proofs.Except

/-!
# Directories that stay, and files that are read back

Writing files and making directories leaves every directory in its place.  Where a
route leads is decided by its parts, as long as it leads anywhere.  So what was written to a
file is read back from it, also after another file has been written.

## Main definitions

* `Files.KeepsDirs` — no directory is lost between two trees.

## Main results

* `Files.keepsDirs_change`, `Files.keepsDirs_makeDirs` — calls that lose no directory.
* `Files.locate_unique` — a route leads to one place at most.
* `Files.node?_of_deleteTree` — what a removed tree leaves behind.
* `Files.read_of_write`, `Files.read_of_write_of_ne` — what is read after a file was written.
-/

namespace ClientTrial

namespace Files

/-! ### Directories -/

/-- Every directory of a tree is one of another tree too. -/
def KeepsDirs (fs later : Files) : Prop :=
  ∀ place, fs.node? place = some .dir → later.node? place = some .dir

theorem KeepsDirs.refl (fs : Files) : KeepsDirs fs fs := fun _ h => h

theorem KeepsDirs.trans {fs mid later : Files} (h : KeepsDirs fs mid) (hl : KeepsDirs mid later) :
    KeepsDirs fs later := fun place hp => hl place (h place hp)

/-- A node put where no directory stands loses none. -/
theorem keepsDirs_put {fs : Files} {place : Location} (h : fs.node? place ≠ some .dir)
    (node : Node) : KeepsDirs fs (fs.put place node) := by
  intro other ho
  have hne : other ≠ place := by
    rintro rfl
    exact h ho
  rw [node?_put_of_ne hne, ho]

theorem keepsDirs_change {fs later : Files} {r : Route} {f : Text.Octets → Text.Octets}
    (h : fs.change r f = .ok later) : KeepsDirs fs later := by
  obtain ⟨place, -, h⟩ := Except.bind_eq_ok.1 h
  split at h
  · cases h
  · next content hnode =>
    cases h
    exact keepsDirs_put (by simp [hnode]) _
  · next hnode =>
    split at h
    · cases h
      exact keepsDirs_put (by simp [hnode]) _
    · cases h

theorem makeDir_eq_ok {fs later : Files} {r : Route} (h : fs.makeDir r = .ok later) :
    ∃ place, fs.locate r = .ok place ∧ fs.node? place = none ∧ later = fs.put place .dir := by
  obtain ⟨place, hplace, h⟩ := Except.bind_eq_ok.1 h
  split at h
  · cases h
  · next hnode =>
    cases h
    exact ⟨place, hplace, hnode, rfl⟩

/-- A directory that was made is there. -/
theorem node?_of_makeDir {fs later : Files} {r : Route} (h : fs.makeDir r = .ok later) :
    ∃ place, fs.locate r = .ok place ∧ isRoot place = false ∧ later.node? place = some .dir := by
  obtain ⟨place, hplace, hnode, rfl⟩ := makeDir_eq_ok h
  have hroot : isRoot place = false := by
    refine Bool.eq_false_iff.2 fun hroot => ?_
    rw [node?, if_pos hroot] at hnode
    cases hnode
  exact ⟨place, hplace, hroot, node?_put_self hroot _⟩

theorem keepsDirs_makeDir {fs later : Files} {r : Route} (h : fs.makeDir r = .ok later) :
    KeepsDirs fs later := by
  obtain ⟨place, -, hnode, rfl⟩ := makeDir_eq_ok h
  exact keepsDirs_put (by simp [hnode]) _

theorem keepsDirs_ensureDir {fs later : Files} {r : Route} {make : Except Fault Files}
    (hmake : ∀ made, make = .ok made → KeepsDirs fs made) (h : fs.ensureDir r make = .ok later) :
    KeepsDirs fs later := by
  unfold ensureDir at h
  split at h
  · next made =>
    cases h
    exact hmake _ rfl
  · split at h
    · split at h
      · cases h
        exact .refl _
      · cases h
    · cases h

theorem keepsDirs_makeDirsUpTo {fuel : Nat} {fs later : Files} {r : Route}
    (h : makeDirsUpTo fuel fs r = .ok later) : KeepsDirs fs later := by
  induction fuel generalizing fs later r with
  | zero => exact keepsDirs_ensureDir (fun _ hmade => keepsDirs_makeDir hmade) h
  | succ fuel ih =>
    unfold makeDirsUpTo at h
    split at h
    · next made hmade =>
      cases h
      exact keepsDirs_makeDir hmade
    · split at h
      · -- the directory above is made first
        obtain ⟨above, habove, h⟩ := Except.bind_eq_ok.1 h
        exact (ih habove).trans (keepsDirs_ensureDir (fun _ hmade => keepsDirs_makeDir hmade) h)
      · refine keepsDirs_ensureDir (fun made hmade => ?_) h
        cases hmade

theorem keepsDirs_makeDirs {fs later : Files} {r : Route} (h : fs.makeDirs r = .ok later) :
    KeepsDirs fs later := keepsDirs_makeDirsUpTo h

/-! ### Where a route leads -/

/-- One part leads to one place at most, whatever the tree. -/
theorem step_unique {fs other : Files} {path : String} {place p q : Location} {part : String}
    (hp : fs.step path place part = .ok p) (hq : other.step path place part = .ok q) : p = q := by
  unfold step at hp hq
  split at hp
  · cases hp
  · cases hp
  · split at hq
    · cases hq
    · cases hq
    · by_cases hup : part = ".."
      · rw [if_pos hup] at hp hq
        cases hp
        cases hq
        rfl
      · rw [if_neg hup] at hp hq
        split at hp
        · cases hp
        · next hlong =>
          rw [if_neg hlong] at hq
          cases hp
          cases hq
          rfl

theorem foldlM_step_unique {fs other : Files} {path : String} {parts : List String}
    {place p q : Location} (hp : parts.foldlM (fs.step path) place = .ok p)
    (hq : parts.foldlM (other.step path) place = .ok q) : p = q := by
  induction parts generalizing place with
  | nil =>
    cases hp
    cases hq
    rfl
  | cons part rest ih =>
    rw [List.foldlM_cons] at hp hq
    obtain ⟨a, ha, hp⟩ := Except.bind_eq_ok.1 hp
    obtain ⟨b, hb, hq⟩ := Except.bind_eq_ok.1 hq
    obtain rfl := step_unique ha hb
    exact ih hp hq

/-- A route leads to one place at most, whatever the tree. -/
theorem locate_unique {fs other : Files} {r : Route} {p q : Location}
    (hp : fs.locate r = .ok p) (hq : other.locate r = .ok q) : p = q := by
  unfold locate at hp hq
  split at hp
  · cases hp
  · next hnull =>
    rw [if_neg hnull] at hq
    split at hp
    · cases hp
    · next hlong =>
      rw [if_neg hlong] at hq
      exact foldlM_step_unique hp hq

/-- A tree that was removed is no longer there. -/
theorem node?_of_deleteTree {fs later other : Files} {r : Route} {place : Location}
    (hplace : other.locate r = .ok place) (hroot : isRoot place = false)
    (h : fs.deleteTree r = .ok later) : later.node? place = none := by
  obtain ⟨q, hq, h⟩ := Except.bind_eq_ok.1 h
  obtain rfl := locate_unique hplace hq
  split at h
  · cases h
  · cases h
  · cases h
    rw [node?_prune hroot, if_pos (List.isPrefixOf_iff_prefix.2 List.prefix_rfl)]

/-! ### What is read back -/

section

variable {fs later : Files} {r other : Route} {place : Location} {content x : Text.Octets}

theorem step_of_keepsDirs (h : KeepsDirs fs later) {path part : String} {p : Location}
    (hp : fs.step path place part = .ok p) : later.step path place part = .ok p := by
  unfold step at hp ⊢
  split at hp
  · cases hp
  · cases hp
  · next hdir =>
    rw [h place hdir]
    exact hp

theorem foldlM_step_of_keepsDirs (h : KeepsDirs fs later) {path : String} {parts : List String}
    {p : Location} (hp : parts.foldlM (fs.step path) place = .ok p) :
    parts.foldlM (later.step path) place = .ok p := by
  induction parts generalizing place with
  | nil => exact hp
  | cons part rest ih =>
    rw [List.foldlM_cons] at hp ⊢
    obtain ⟨next, hnext, hp⟩ := Except.bind_eq_ok.1 hp
    exact Except.bind_eq_ok.2 ⟨next, step_of_keepsDirs h hnext, ih hp⟩

/-- A route leads where it led, as long as no directory is lost. -/
theorem locate_of_keepsDirs (h : KeepsDirs fs later) (hp : fs.locate r = .ok place) :
    later.locate r = .ok place := by
  unfold locate at hp ⊢
  split at hp
  · cases hp
  · next hnull =>
    rw [if_neg hnull]
    split at hp
    · cases hp
    · next hlong =>
      rw [if_neg hlong]
      exact foldlM_step_of_keepsDirs h hp

/-- One part further from a route leads to a place of that name. -/
theorem getLast?_of_locate_child {part : String} (hup : part ≠ "..")
    (h : fs.locate (r.child part) = .ok place) : place.getLast? = some part := by
  unfold locate at h
  split at h
  · cases h
  · split at h
    · cases h
    · rw [Route.child, List.foldlM_append] at h
      obtain ⟨dir, -, h⟩ := Except.bind_eq_ok.1 h
      obtain ⟨p, hstep, hp⟩ := Except.bind_eq_ok.1 h
      cases hp
      unfold step at hstep
      rw [if_neg hup] at hstep
      split at hstep
      · cases hstep
      · cases hstep
      · split at hstep
        · cases hstep
        · cases hstep
          exact List.getLast?_concat

theorem read_eq_ok_iff :
    fs.read r = .ok content ↔
      ∃ place, fs.locate r = .ok place ∧ fs.node? place = some (.file content) := by
  unfold read
  rw [Except.bind_eq_ok]
  refine exists_congr fun place => and_congr_right fun _ => ?_
  cases fs.node? place with
  | none => simp
  | some node => cases node <;> simp

theorem write_eq_ok (h : fs.write r content = .ok later) :
    ∃ place, fs.locate r = .ok place ∧ isRoot place = false ∧
      later = fs.put place (.file content) := by
  obtain ⟨place, hplace, h⟩ := Except.bind_eq_ok.1 h
  have hroot (hnode : fs.node? place ≠ some .dir) : isRoot place = false :=
    Bool.eq_false_iff.2 fun hroot => hnode (if_pos hroot)
  refine ⟨place, hplace, ?_⟩
  split at h
  · cases h
  · next hnode =>
    cases h
    exact ⟨hroot (by simp [hnode]), rfl⟩
  · next hnode =>
    split at h
    · cases h
      exact ⟨hroot (by simp [hnode]), rfl⟩
    · cases h

/-- What was written is read back. -/
theorem read_of_write (h : fs.write r content = .ok later) : later.read r = .ok content := by
  obtain ⟨place, hplace, hroot, rfl⟩ := write_eq_ok h
  exact read_eq_ok_iff.2 ⟨place, locate_of_keepsDirs (keepsDirs_change h) hplace,
    node?_put_self hroot _⟩

/-- What is written at one place is not read at another. -/
theorem read_of_write_of_ne (hread : fs.read r = .ok content)
    (hne : ∀ place, fs.locate r = .ok place → fs.locate other ≠ .ok place)
    (h : fs.write other x = .ok later) : later.read r = .ok content := by
  obtain ⟨place, hplace, hnode⟩ := read_eq_ok_iff.1 hread
  obtain ⟨q, hq, -, rfl⟩ := write_eq_ok h
  have hplaces : place ≠ q := by
    rintro rfl
    exact hne place hplace hq
  refine read_eq_ok_iff.2 ⟨place, locate_of_keepsDirs (keepsDirs_change h) hplace, ?_⟩
  rw [node?_put_of_ne hplaces, hnode]

end

end Files
end ClientTrial
