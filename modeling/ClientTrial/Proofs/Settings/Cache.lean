import Mathlib.Data.List.Induction
import Mathlib.Logic.ExistsUnique
import ClientTrial.Settings.Cache

/-!
# What kept settings answer

Settings are asked for, the environment is replaced and what is kept is dropped, in any
order and any number of times.  Each answer is what settings come to, if they are loaded
afresh, in one environment: that of the first time since the last drop that the settings
were answered, or else that of the moment.

The induction is on the steps so far, with the last step taken off: what is kept after them
is what was loaded the first time that it could be, and nothing is kept if it never could.

## Main definitions

* `SettingsCache.Step`, `step` — the three operations as steps, and what each answers.
* `SettingsCache.answers` — the answers to any number of steps.
* `SettingsCache.loadedAfter` — what settings come to in the environment that the steps leave.
* `SettingsCache.Governs` — the time whose environment counts.

## Main results

* `SettingsCache.holds_after` — what is kept after any steps.
* `SettingsCache.answers_as_loaded` — **the law of the answers**: settings stay as they were
  first answered until they are dropped, and a failure leaves nothing behind.
-/

namespace ClientTrial
namespace SettingsCache

/-! ### Steps and answers -/

/-- What is done with kept settings. -/
inductive Step where
  /-- They are asked for. -/
  | get
  /-- The environment is replaced. -/
  | replaceEnviron (environ : List (String × String))
  /-- They are dropped. -/
  | clear

/-- The answer to a step, if it asks for one, and what the step leaves. -/
def step (c : SettingsCache) : Step → Option (Except (List Issue) Settings) × SettingsCache
  | .get => (some c.get.1, c.get.2)
  | .replaceEnviron environ => (none, c.replaceEnviron environ)
  | .clear => (none, c.clear)

/-- The answers to the steps, one place for each of them. -/
def answers (c : SettingsCache) : List Step → List (Option (Except (List Issue) Settings))
  | [] => []
  | a :: rest => (c.step a).1 :: (c.step a).2.answers rest

/-- What the steps leave. -/
def after (c : SettingsCache) (steps : List Step) : SettingsCache :=
  steps.foldl (fun c a => (c.step a).2) c

variable {c : SettingsCache} {past rest : List Step}

theorem length_answers (c : SettingsCache) (steps : List Step) :
    (c.answers steps).length = steps.length := by
  induction steps generalizing c with
  | nil => rfl
  | cons a rest ih => simp [answers, ih]

theorem answers_append (c : SettingsCache) (past rest : List Step) :
    c.answers (past ++ rest) = c.answers past ++ (c.after past).answers rest := by
  induction past generalizing c with
  | nil => rfl
  | cons a past ih => simp [answers, after, ih]

theorem after_append (c : SettingsCache) (past rest : List Step) :
    c.after (past ++ rest) = (c.after past).after rest := by
  simp [after]

theorem after_cons (c : SettingsCache) (a : Step) (rest : List Step) :
    c.after (a :: rest) = (c.step a).2.after rest := rfl

theorem after_snoc (c : SettingsCache) (past : List Step) (a : Step) :
    c.after (past ++ [a]) = ((c.after past).step a).2 := by
  simp [after]

/-- The answer to a request among other steps is what is answered once the steps before it
are done. -/
theorem getElem?_answers (c : SettingsCache) (past rest : List Step) :
    (c.answers (past ++ .get :: rest))[past.length]? = some (some (c.after past).get.1) := by
  rw [answers_append, ← length_answers c past, List.getElem?_append_right (Nat.le_refl _)]
  simp [answers, step]

/-! ### One request -/

theorem get_keeps_sources (c : SettingsCache) : c.get.2.sources = c.sources := by
  unfold get
  split
  · rfl
  · split <;> rfl

/-- What is answered is kept. -/
theorem kept_of_get_eq_ok {v : Settings} (h : c.get.1 = .ok v) : c.get.2.kept = some v := by
  unfold get at h ⊢
  split at h
  · next hkept =>
    cases h
    exact hkept
  · cases hload : c.sources.load with
    | ok w =>
      simp only [hload] at h
      cases h
      rfl
    | error issues =>
      simp only [hload] at h
      cases h

/-- A failure leaves everything as it was. -/
theorem get_eq_self_of_error {issues : List Issue} (h : c.get.1 = .error issues) :
    c.get.2 = c := by
  unfold get at h ⊢
  split at h
  · cases h
  · cases hload : c.sources.load with
    | ok w =>
      simp only [hload] at h
      cases h
    | error issues => rfl

/-- Until it is dropped, what is kept stays. -/
theorem kept_after_of_kept {v : Settings} (hkept : c.kept = some v) (hclear : .clear ∉ rest) :
    (c.after rest).kept = some v := by
  induction rest generalizing c with
  | nil => exact hkept
  | cons a rest ih =>
    have hrest : .clear ∉ rest := fun hmem => hclear (List.mem_cons_of_mem _ hmem)
    refine ih ?_ hrest
    cases a with
    | get =>
      have hsame : c.get.2 = c := by rw [get_of_kept hkept]
      exact (congrArg kept hsame).trans hkept
    | replaceEnviron environ => exact hkept
    | clear => exact absurd List.mem_cons_self hclear

/-! ### The environment of an answer -/

/-- The environment that the steps leave: the last that was put in place. -/
def environAfter (environ : List (String × String)) : List Step → List (String × String)
  | [] => environ
  | .replaceEnviron replacement :: rest => environAfter replacement rest
  | _ :: rest => environAfter environ rest

/-- What settings come to, if they are loaded afresh, in the environment that the steps leave. -/
def loadedAfter (s : Sources) (past : List Step) : Except (List Issue) Settings :=
  { s with environ := environAfter s.environ past }.load

/-- What is answered to a request that follows the steps, if nothing is kept at first. -/
def answerAfter (s : Sources) (past : List Step) : Except (List Issue) Settings :=
  (after ⟨s, none⟩ past).get.1

/-- The request that came after `before` was answered with settings, and nothing has been
dropped since. -/
def Answered (s : Sources) (past before : List Step) : Prop :=
  ∃ since, past = before ++ .get :: since ∧ .clear ∉ since ∧ ∃ v, answerAfter s before = .ok v

/-- The first time that settings were answered since they were last dropped. -/
def FirstAnswered (s : Sources) (past before : List Step) : Prop :=
  Answered s past before ∧ ∀ earlier, Answered s past earlier → before.length ≤ earlier.length

/-- The time whose environment counts for the next answer: the first that settings were
answered since they were last dropped, if there is one, or else the present. -/
def Governs (s : Sources) (past before : List Step) : Prop :=
  FirstAnswered s past before ∨ before = past ∧ ∀ earlier, ¬ Answered s past earlier

variable {s : Sources} {before : List Step}

theorem Answered.isPrefix (h : Answered s past before) : before <+: past := by
  obtain ⟨since, rfl, -⟩ := h
  exact List.prefix_append ..

/-- One step more. -/
theorem answered_snoc {a : Step} :
    Answered s (past ++ [a]) before ↔
      a ≠ .clear ∧ (Answered s past before ∨
        a = .get ∧ before = past ∧ ∃ v, answerAfter s past = .ok v) := by
  constructor
  · rintro ⟨since, hsplit, hclear, hanswer⟩
    rcases List.eq_nil_or_concat since with rfl | ⟨since, last, rfl⟩
    · obtain ⟨rfl, ha⟩ := List.append_inj' hsplit rfl
      cases ha
      exact ⟨by simp, .inr ⟨rfl, rfl, hanswer⟩⟩
    · have hsplit : past ++ [a] = (before ++ .get :: since) ++ [last] := by simpa using hsplit
      obtain ⟨rfl, ha⟩ := List.append_inj' hsplit rfl
      cases ha
      simp only [List.concat_eq_append, List.mem_append, List.mem_singleton, not_or] at hclear
      exact ⟨Ne.symm hclear.2, .inl ⟨since, rfl, hclear.1, hanswer⟩⟩
  · rintro ⟨hclear, ⟨since, rfl, hsince, hanswer⟩ | ⟨rfl, rfl, hanswer⟩⟩
    · refine ⟨since ++ [a], by simp, ?_, hanswer⟩
      simpa [hsince] using hclear.symm
    · exact ⟨[], rfl, by simp, hanswer⟩

theorem environAfter_append (environ : List (String × String)) (past rest : List Step) :
    environAfter environ (past ++ rest) = environAfter (environAfter environ past) rest := by
  induction past generalizing environ with
  | nil => rfl
  | cons a past ih => cases a <;> exact ih _

/-! ### What the steps leave -/

/-- What is kept agrees with the steps so far: it was loaded the first time that it could be
since the last drop, and if nothing is kept, it never could. -/
structure Holds (s : Sources) (past : List Step) (c : SettingsCache) : Prop where
  sources : c.sources = { s with environ := environAfter s.environ past }
  empty : c.kept = none → ∀ before, ¬ Answered s past before
  full : ∀ v, c.kept = some v → ∃ before, FirstAnswered s past before ∧
    loadedAfter s before = .ok v

theorem Holds.clear (h : Holds s past c) : Holds s (past ++ [.clear]) c.clear := by
  refine ⟨by rw [environAfter_append]; exact h.sources, fun _ before hb => ?_,
    fun v hv => by cases hv⟩
  exact (answered_snoc.1 hb).1 rfl

theorem Holds.replaceEnviron (h : Holds s past c) (environ : List (String × String)) :
    Holds s (past ++ [.replaceEnviron environ]) (c.replaceEnviron environ) := by
  have hsame : ∀ before,
      Answered s (past ++ [.replaceEnviron environ]) before ↔ Answered s past before :=
    fun before => by rw [answered_snoc]; simp
  refine ⟨?_, fun hkept before hb => h.empty hkept before ((hsame before).1 hb),
    fun v hkept => ?_⟩
  · rw [environAfter_append, SettingsCache.replaceEnviron, h.sources]
    rfl
  · obtain ⟨before, ⟨hb, hfirst⟩, hload⟩ := h.full v hkept
    exact ⟨before, ⟨(hsame before).2 hb, fun earlier he => hfirst earlier ((hsame earlier).1 he)⟩,
      hload⟩

/-- One request more. -/
theorem Holds.get (h : Holds s past c) (hanswer : answerAfter s past = c.get.1) :
    Holds s (past ++ [.get]) c.get.2 := by
  have hsources : c.get.2.sources
      = { s with environ := environAfter s.environ (past ++ [.get]) } := by
    rw [environAfter_append]
    exact (get_keeps_sources c).trans h.sources
  cases hkept : c.kept with
  | some w =>
    -- what is kept stays, and this answer is not the first
    have hleft : c.get.2 = c := by rw [get_of_kept hkept]
    rw [hleft] at hsources ⊢
    refine ⟨hsources, fun hn => absurd (hkept.symm.trans hn) (by simp), fun v hv => ?_⟩
    obtain ⟨before, ⟨hb, hfirst⟩, hload⟩ := h.full v hv
    refine ⟨before, ⟨answered_snoc.2 ⟨by simp, .inl hb⟩, fun earlier he => ?_⟩, hload⟩
    rcases (answered_snoc.1 he).2 with he | ⟨-, rfl, -⟩
    · exact hfirst earlier he
    · exact hb.isPrefix.length_le
  | none =>
    have hnow : c.get.1 = loadedAfter s past := by
      rw [get_of_empty hkept, h.sources, loadedAfter]
    cases hload : loadedAfter s past with
    | ok w =>
      -- this answer is the first
      have hget : c.get.1 = .ok w := hnow.trans hload
      have hw : c.get.2.kept = some w := kept_of_get_eq_ok hget
      refine ⟨hsources, fun hn => absurd (hw.symm.trans hn) (by simp), fun v hv => ?_⟩
      obtain rfl : w = v := Option.some.inj (hw.symm.trans hv)
      refine ⟨past, ⟨answered_snoc.2 ⟨by simp, .inr ⟨rfl, rfl, w, hanswer.trans hget⟩⟩,
        fun earlier he => ?_⟩, hload⟩
      rcases (answered_snoc.1 he).2 with he | ⟨-, rfl, -⟩
      · exact absurd he (h.empty hkept earlier)
      · exact Nat.le_refl _
    | error issues =>
      have hget : c.get.1 = .error issues := hnow.trans hload
      rw [get_eq_self_of_error hget] at hsources ⊢
      refine ⟨hsources, fun _ before hb => ?_, fun v hv => absurd (hkept.symm.trans hv) (by simp)⟩
      rcases (answered_snoc.1 hb).2 with hb | ⟨-, -, v, hv⟩
      · exact h.empty hkept before hb
      · rw [hanswer, hget] at hv
        cases hv

/-- What is kept after any steps. -/
theorem holds_after (s : Sources) (past : List Step) : Holds s past (after ⟨s, none⟩ past) := by
  induction past using List.reverseRecOn with
  | nil =>
    refine ⟨rfl, fun _ before hb => ?_, fun v hv => by cases hv⟩
    obtain ⟨since, hsplit, -⟩ := hb
    simp at hsplit
  | append_singleton past a ih =>
    rw [after_snoc]
    cases a with
    | get => exact ih.get rfl
    | replaceEnviron environ => exact ih.replaceEnviron environ
    | clear => exact ih.clear

/-- One time only counts. -/
theorem Governs.unique {before before' : List Step} (h : Governs s past before)
    (h' : Governs s past before') : before = before' := by
  rcases h with ⟨hb, hfirst⟩ | ⟨rfl, hnever⟩ <;> rcases h' with ⟨hb', hfirst'⟩ | ⟨rfl, hnever'⟩
  · have hle : before.length ≤ before'.length := hfirst before' hb'
    exact (List.prefix_of_prefix_length_le hb.isPrefix hb'.isPrefix hle).eq_of_length
      (Nat.le_antisymm hle (hfirst' before hb))
  · exact absurd hb (hnever' before)
  · exact absurd hb' (hnever before')
  · rfl

/-- Some time counts, and the answer is what settings come to in its environment. -/
theorem governs_of_answerAfter (s : Sources) (past : List Step) :
    ∃ before, Governs s past before ∧ answerAfter s past = loadedAfter s before := by
  have h := holds_after s past
  cases hkept : (after ⟨s, none⟩ past).kept with
  | none =>
    refine ⟨past, .inr ⟨rfl, h.empty hkept⟩, ?_⟩
    rw [answerAfter, get_of_empty hkept, h.sources, loadedAfter]
  | some v =>
    obtain ⟨before, hfirst, hload⟩ := h.full v hkept
    refine ⟨before, .inl hfirst, ?_⟩
    rw [answerAfter, get_of_kept hkept, hload]

/-- **The law of the answers.**  Whatever is done before and after, settings that are asked for
are those of one environment: that of the first answer since they were last dropped, if there
is one, or else the present.  Once answered they are answered again, however the environment
changes, until they are dropped; and a failure changes none of the other answers. -/
theorem answers_as_loaded (s : Sources) (past rest : List Step) :
    (∃! before, Governs s past before ∧
        (answers ⟨s, none⟩ (past ++ .get :: rest))[past.length]?
          = some (some (loadedAfter s before))) ∧
      (∀ v, answerAfter s past = .ok v → ∀ between, .clear ∉ between →
        (answers ⟨s, none⟩ (past ++ .get :: (between ++ .get :: rest)))[
          past.length + 1 + between.length]? = some (some (.ok v))) ∧
      ∀ issues, answerAfter s past = .error issues →
        (answers ⟨s, none⟩ (past ++ .get :: rest)).eraseIdx past.length
          = answers ⟨s, none⟩ (past ++ rest) := by
  refine ⟨?_, fun v hv between hclear => ?_, fun issues hissues => ?_⟩
  · obtain ⟨before, hgoverns, hanswer⟩ := governs_of_answerAfter s past
    refine ⟨before, ⟨hgoverns, ?_⟩, fun other hother => hother.1.unique hgoverns⟩
    rw [getElem?_answers, ← hanswer, answerAfter]
  · have hkept : (after ⟨s, none⟩ (past ++ .get :: between)).kept = some v := by
      have hget : ((after ⟨s, none⟩ past).step .get).2.kept = some v := kept_of_get_eq_ok hv
      rw [after_append, after_cons]
      exact kept_after_of_kept hget hclear
    have hplace := getElem?_answers ⟨s, none⟩ (past ++ .get :: between) rest
    rw [get_of_kept hkept] at hplace
    simpa [Nat.add_assoc, Nat.add_comm, Nat.add_left_comm] using hplace
  · have hleft : ((after ⟨s, none⟩ past).step .get).2 = after ⟨s, none⟩ past :=
      get_eq_self_of_error hissues
    rw [answers_append, answers_append, ← length_answers ⟨s, none⟩ past,
      List.eraseIdx_append_of_length_le (Nat.le_refl _), Nat.sub_self, answers, hleft,
      List.eraseIdx_cons_zero]

end SettingsCache
end ClientTrial
