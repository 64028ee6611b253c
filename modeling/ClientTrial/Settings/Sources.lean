import ClientTrial.Settings.EnvFile
import ClientTrial.Settings.Field

/-!
# Where settings come from

A field takes its value from the first source that names it: what is given by the
caller, then the environment, then a file of variables, then its default.  In the
environment and in the file the names have a prefix, and are compared without regard
to case; of several names that differ in case only, the last counts.  An empty value
counts as given, and names that stand for no field are left alone.

The sources are read by a library, and what is said of them here is what is assumed of
it.  Its documentation tells the order of the sources and that variables are compared
without regard to case.  It was seen to compare the names that the caller gives in the
same way: `LOG_LEVEL` from the caller is the level, and the first counts of several names
that differ in case only.  As that is not documented, it is left to a `Naming`, which can
as well take these names as they are written.

## Main definitions

* `Naming` — which fields the names that the caller gives stand for.
* `Sources` — the three sources.
* `Sources.given?` — what the first source that names a field gives for it.
* `Sources.value` — the value of a field, or the reasons to refuse it.
* `Sources.load` — the settings, or every issue in the order of the fields.

## Main results

* `Sources.given?_of_override` — what the caller gives is taken, whatever the other
  sources hold.
* `Sources.override?_eq_lookup` — what is given under names in small letters is found as it
  is written.
-/

namespace ClientTrial

/-! ### Names -/

/-- Which fields the names that the caller gives stand for.  The name of a field stands for it, and
no other name does but one that differs in the case of its letters. -/
structure Naming where
  /-- A name stands for a field. -/
  means : Field → String → Bool
  means_name : ∀ f : Field, means f f.name = true
  lower_of_means : ∀ {f : Field} {name : String}, means f name = true → Text.lower name = f.name

/-- Names are compared without regard to case. -/
def Naming.folded : Naming where
  means f name := Text.lower name = f.name
  means_name f := decide_eq_true f.lower_name
  lower_of_means := of_decide_eq_true

/-- A name in small letters stands for a field as it is written. -/
theorem Naming.means_iff_of_lower (naming : Naming) {f : Field} {name : String}
    (h : Text.lower name = name) : naming.means f name = true ↔ name = f.name := by
  constructor
  · exact fun hmeans => h.symm.trans (naming.lower_of_means hmeans)
  · rintro rfl
    exact naming.means_name f

/-! ### Sources -/

/-- The sources of settings. -/
structure Sources where
  /-- What the caller gives, by name. -/
  overrides : List (String × Json) := []
  /-- The environment. -/
  environ : List (String × String) := []
  /-- The text of the file of variables, if there is one. -/
  file : Option String := none
  /-- What the names that the caller gives stand for. -/
  naming : Naming := .folded

namespace Sources

/-- What names of settings begin with outside the program. -/
def variableStart : String := "irc_harness_"

/-- The first entry with a name of some kind. -/
def firstNamed? {α : Type} (named : String → Bool) (entries : List (String × α)) : Option α :=
  (entries.find? fun entry => named entry.1).map (·.2)

/-- The last entry with a name of some kind. -/
def lastNamed? {α : Type} (named : String → Bool) (entries : List (String × α)) : Option α :=
  firstNamed? named entries.reverse

/-- A name is that of the variable that a field is read from. -/
def isVariable (f : Field) (name : String) : Bool := Text.lower name = variableStart ++ f.name

/-- What the caller gives for a field. -/
def override? (s : Sources) (f : Field) : Option Json :=
  firstNamed? (s.naming.means f) s.overrides

/-- What the environment gives for a field. -/
def inEnviron? (s : Sources) (f : Field) : Option String := lastNamed? (isVariable f) s.environ

/-- What the file of variables gives for a field. -/
def inFile? (s : Sources) (f : Field) : Option String :=
  match s.file with
  | none => none
  | some file => (lastNamed? (isVariable f) (EnvFile.bindings s.environ file)).join

/-- What the first source that names a field gives for it. -/
def given? (s : Sources) (f : Field) : Option Json :=
  (s.override? f).or (((s.inEnviron? f).map Json.str).or ((s.inFile? f).map Json.str))

theorem given?_of_override {s : Sources} {f : Field} {t : Json} (h : s.override? f = some t) :
    s.given? f = some t := by
  simp [given?, h]

/-- What is given under names in small letters is found as it is written, however names are
compared. -/
theorem override?_eq_lookup {s : Sources} (h : ∀ entry ∈ s.overrides, Text.lower entry.1 = entry.1)
    (f : Field) : s.override? f = s.overrides.lookup f.name := by
  unfold override? firstNamed?
  generalize s.overrides = entries at h
  induction entries with
  | nil => rfl
  | cons entry rest ih =>
    have hrest := ih fun entry' hentry' => h entry' (List.mem_cons_of_mem _ hentry')
    have hmeans := s.naming.means_iff_of_lower (f := f) (h entry List.mem_cons_self)
    rw [List.find?_cons, List.lookup_cons]
    by_cases hname : entry.1 = f.name
    · rw [hmeans.2 hname, hname, beq_self_eq_true]
      rfl
    · rw [Bool.eq_false_iff.2 (mt hmeans.1 hname), beq_false_of_ne (Ne.symm hname), ← hrest]

/-- The value of a field, or the reasons to refuse what is given for it. -/
def value (s : Sources) (f : Field) : Except Kind.Refusal f.kind.Value :=
  match s.given? f with
  | none => .ok f.default
  | some t => f.kind.read t

/-- The issues with a field. -/
def issues (s : Sources) (f : Field) : List Issue :=
  match s.value f with
  | .ok _ => []
  | .error reasons => reasons.map fun (item, problem) => ⟨f.name, item, problem⟩

/-- Every issue, in the order of the fields. -/
def allIssues (s : Sources) : List Issue := Field.all.flatMap s.issues

/-- A value that is there, or else a default. -/
def valueOrDefault (s : Sources) (f : Field) : f.kind.Value :=
  match s.value f with
  | .ok v => v
  | .error _ => f.default

/-- The settings, or every issue. -/
def load (s : Sources) : Except (List Issue) Settings :=
  match s.allIssues with
  | [] => .ok s.valueOrDefault
  | issues => .error issues

theorem load_eq_ok_iff {s : Sources} {v : Settings} :
    s.load = .ok v ↔ s.allIssues = [] ∧ v = s.valueOrDefault := by
  unfold load
  split
  · next h => simp [h, eq_comm]
  · next h =>
    constructor
    · intro he
      cases he
    · exact fun he => absurd he.1 h

end Sources
end ClientTrial
