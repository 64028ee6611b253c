import ClientTrial.Proofs.Bench.Files
import ClientTrial.Proofs.Report.Numbers

/-!
# Saving a report

Whether a report can be saved, and what is raised if it cannot, is decided by the
directories and files that stand in the tree, not by what they hold nor by what the
report says, unless a number in it is too long to be written.

## Main definitions

* `Files.SameShape` — two trees differ in nothing but the contents of files.

## Main results

* `Files.locate_congr`, `Files.write_agrees` — calls on two trees of one shape.
* `Report.save_agrees` — two reports that are saved in one place.
-/

namespace ClientTrial

open Act

namespace Files

variable {fs gs : Files}

/-! ### Trees of one shape -/

/-- What stands at a place is a directory. -/
def isDirNode : Node → Bool
  | .dir => true
  | .file _ => false

/-- The same stands at every place of two trees, but for the contents of files. -/
def SameShape (fs gs : Files) : Prop :=
  ∀ place, (fs.node? place).map isDirNode = (gs.node? place).map isDirNode

theorem SameShape.refl (fs : Files) : SameShape fs fs := fun _ => rfl

/-- What stands at a place of two trees of one shape. -/
theorem SameShape.node_cases (h : SameShape fs gs) (place : Location) :
    (fs.node? place = none ∧ gs.node? place = none) ∨
      (fs.node? place = some .dir ∧ gs.node? place = some .dir) ∨
      ∃ x y, fs.node? place = some (.file x) ∧ gs.node? place = some (.file y) := by
  have hplace := h place
  cases hf : fs.node? place with
  | none =>
    rw [hf, Option.map_none] at hplace
    exact .inl ⟨rfl, Option.map_eq_none_iff.1 hplace.symm⟩
  | some node =>
    rw [hf, Option.map_some] at hplace
    obtain ⟨other, hg, hsame⟩ := Option.map_eq_some_iff.1 hplace.symm
    rw [hg]
    cases node with
    | dir =>
      cases other with
      | dir => exact .inr (.inl ⟨rfl, rfl⟩)
      | file y => cases hsame
    | file x =>
      cases other with
      | dir => cases hsame
      | file y => exact .inr (.inr ⟨x, y, rfl, rfl⟩)

/-- Files that are put at one place of two trees of one shape. -/
theorem SameShape.put (h : SameShape fs gs) (place : Location) (x y : Text.Octets) :
    SameShape (fs.put place (.file x)) (gs.put place (.file y)) := by
  intro other
  by_cases hne : other = place
  · subst hne
    by_cases hroot : isRoot other = true
    · simp [node?, hroot]
    · rw [node?_put_self (by simpa using hroot), node?_put_self (by simpa using hroot)]
      rfl
  · rw [node?_put_of_ne hne, node?_put_of_ne hne]
    exact h other

theorem step_congr (h : SameShape fs gs) (path : String) : fs.step path = gs.step path := by
  funext place part
  unfold step
  rcases h.node_cases place with ⟨hf, hg⟩ | ⟨hf, hg⟩ | ⟨x, y, hf, hg⟩ <;> rw [hf, hg]

/-- A route leads to the same place in two trees of one shape, or fails alike. -/
theorem locate_congr (h : SameShape fs gs) (r : Route) : fs.locate r = gs.locate r := by
  unfold locate
  rw [step_congr h]

/-- A file is written in two trees of one shape, or fails to be written alike. -/
theorem write_agrees (h : SameShape fs gs) (r : Route) (x y : Text.Octets) :
    (∃ f, fs.write r x = .error f ∧ gs.write r y = .error f) ∨
      ∃ fs' gs', fs.write r x = .ok fs' ∧ gs.write r y = .ok gs' ∧ SameShape fs' gs' := by
  unfold write change
  rw [locate_congr h r]
  cases gs.locate r with
  | error f => exact .inl ⟨f, rfl, rfl⟩
  | ok place =>
    dsimp only [Bind.bind, Except.bind]
    rcases h.node_cases place with ⟨hf, hg⟩ | ⟨hf, hg⟩ | ⟨_, _, hf, hg⟩
    · rw [hf, hg]
      dsimp only
      rcases h.node_cases place.dropLast with ⟨ha, hb⟩ | ⟨ha, hb⟩ | ⟨_, _, ha, hb⟩
      · rw [ha, hb]
        exact .inl ⟨_, rfl, rfl⟩
      · rw [ha, hb]
        exact .inr ⟨_, _, rfl, rfl, h.put place x y⟩
      · rw [ha, hb]
        exact .inl ⟨_, rfl, rfl⟩
    · rw [hf, hg]
      exact .inl ⟨_, rfl, rfl⟩
    · rw [hf, hg]
      exact .inr ⟨_, _, rfl, rfl, h.put place x y⟩

end Files

namespace Report

/-! ### Saving -/

/-- A file is written on two benches whose trees have one shape, or fails to be written alike. -/
theorem exec_write_agrees {b c : Bench} (h : Files.SameShape b.files c.files) (route : Route)
    (x y : Text.Octets) :
    (∃ f, (onFiles (·.write route x)).exec b = (.error (.fault f), b) ∧
        (onFiles (·.write route y)).exec c = (.error (.fault f), c)) ∨
      ∃ b' c', (onFiles (·.write route x)).exec b = (.ok (), b') ∧
        (onFiles (·.write route y)).exec c = (.ok (), c') ∧
        Files.SameShape b'.files c'.files := by
  rcases Files.write_agrees h route x y with ⟨f, hf, hg⟩ | ⟨fs, gs, hf, hg, hsame⟩
  · refine .inl ⟨f, ?_, ?_⟩
    · rw [exec_onFiles, hf]
    · rw [exec_onFiles, hg]
  · exact .inr ⟨_, _, exec_onFiles_of_ok hf, exec_onFiles_of_ok hg, hsame⟩

/-- A text that there is not ends the saving once the directory is made. -/
theorem save_of_json_error {r : Report} {dir : Route} {f : Fault} (h : r.json = .error f)
    (b : Bench) :
    ((r.save dir).exec b).1 = ((b.files.makeDirs dir).bind fun _ => .error f).mapError .fault := by
  unfold save
  rw [h, exec_bind, exec_onFiles]
  cases b.files.makeDirs dir <;> rfl

/-- Two reports that have their texts are saved in one place alike, or fail to be saved alike. -/
theorem save_agrees_of_texts {r r' : Report} {dir : Route} {b c : Bench} (hfiles : b.files = c.files)
    {json json' page page' : String} (hjson : r.json = .ok json) (hpage : r.page = .ok page)
    (hjson' : r'.json = .ok json') (hpage' : r'.page = .ok page') :
    ((r.save dir).exec b).1 = ((r'.save dir).exec c).1 := by
  have answered (text : String) (d : Bench) :
      (ofExcept (.ok text)).exec d = (.ok text, d) := rfl
  unfold save
  rw [hjson, hjson', hpage, hpage', exec_bind, exec_bind, exec_onFiles, exec_onFiles, hfiles]
  cases c.files.makeDirs dir with
  | error f => rfl
  | ok fs =>
    dsimp only
    rw [exec_bind_of_ok (answered json _), exec_bind_of_ok (answered json' _)]
    have hmade : Files.SameShape (b.withFiles fs).files (c.withFiles fs).files := .refl fs
    rcases exec_write_agrees hmade (dir.child "report.json") (Text.toOctets json)
        (Text.toOctets json') with ⟨f, hb, hc⟩ | ⟨b', c', hb, hc, hsame⟩
    · rw [exec_bind_of_error hb, exec_bind_of_error hc]
    · rw [exec_bind_of_ok hb, exec_bind_of_ok hc, exec_bind_of_ok (answered page _),
        exec_bind_of_ok (answered page' _)]
      rcases exec_write_agrees hsame (dir.child "report.md") (Text.toOctets page)
          (Text.toOctets page') with ⟨f, hb, hc⟩ | ⟨b'', c'', hb, hc, -⟩
      · rw [exec_bind_of_error hb, exec_bind_of_error hc]
      · rw [exec_bind_of_ok hb, exec_bind_of_ok hc]
        rfl

/-- Two reports of one error are saved in one place alike, or fail to be saved alike. -/
theorem save_agrees {r r' : Report} {dir : Route} {b c : Bench} (hfiles : b.files = c.files)
    {x x' : Float} (hr : r.duration = .ok x) (hr' : r'.duration = .ok x')
    (herror : r.error = r'.error) :
    ((r.save dir).exec b).1 = ((r'.save dir).exec c).1 := by
  by_cases hfits : r.Fits
  · obtain ⟨⟨json, hjson⟩, page, hpage⟩ := texts_of_fits hr hfits
    obtain ⟨⟨json', hjson'⟩, page', hpage'⟩ := texts_of_fits hr' ((fits_congr herror).1 hfits)
    exact save_agrees_of_texts hfiles hjson hpage hjson' hpage'
  · have hfits' : ¬r'.Fits := mt (fits_congr herror).2 hfits
    rw [save_of_json_error (json_of_not_fits hr hfits),
      save_of_json_error (json_of_not_fits hr' hfits'), hfiles]

end Report
end ClientTrial
