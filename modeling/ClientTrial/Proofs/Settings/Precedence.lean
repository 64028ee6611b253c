import Mathlib.Logic.ExistsUnique
import ClientTrial.Proofs.Settings.NormalForm

/-!
# Which source a field is read from

A field is read from the first source that names it: what the caller gives, then the
environment, then the file of variables.  What stands there counts even if it is empty or is
refused, and nothing that a later source holds for the field makes a difference.  A field
that no source names has its default.

What a field comes to is told here from the entries of the sources alone: `FirstNamed` and
`LastNamed` say which entry counts where several have a name of the field, and `Sources.Takes`
says which source it is taken from.  Settings are accepted iff every field is, and otherwise the
issues are those of the fields that are refused, in their order.

Variables are named without regard to case.  Which names of the caller's stand for a field is
left to the naming: all of this holds in every one, of names that are compared without regard to
case and of names that count as they are written.  If the caller's names are in small letters, as
those of fields are, the naming makes no difference.

The environment matters through the variables that name a field, and through the references
in the file of variables; if the file has none, it matters through the former only.

## Main definitions

* `Text.SameName` — two names that differ at most in the case of their letters.
* `Naming.exact` — names that stand for a field as they are written only.
* `Unnamed`, `FirstNamed`, `LastNamed` — the entries of a source that name a field.
* `Sources.Takes` — the value that a field takes, and the source that it is taken from.
* `Sources.ComesTo` — what is read from it.
* `Sources.Reports` — issues that are those of the refused fields.
* `EnvFile.IsPlain` — a file of variables without references.

## Main results

* `Sources.takes_iff` — `Takes` is what the lookup through the sources finds.
* `Sources.takes_of_overrides`, `takes_of_environ` — later sources do not count.
* `Sources.load_of_naming` — fields that are given by their names in small letters.
* `EnvFile.bindings_of_isPlain` — a file without references does not depend on the environment.
* `Sources.load_by_precedence` — where settings come from.
-/

namespace ClientTrial

/-! ### Names and entries -/

/-- Two names that differ at most in the case of their letters. -/
def Text.SameName (a b : String) : Prop := Text.lower a = Text.lower b

open Text (SameName)

instance (a b : String) : Decidable (SameName a b) :=
  inferInstanceAs (Decidable (Text.lower a = Text.lower b))

/-- Without regard to case, a field is meant by the names that differ from its own at most in the
case of their letters. -/
theorem Naming.folded_means_iff {f : Field} {name : String} :
    folded.means f name = true ↔ SameName f.name name := by
  unfold SameName
  rw [f.lower_name]
  exact decide_eq_true_iff.trans eq_comm

/-- Names are compared as they are written. -/
def Naming.exact : Naming where
  means f name := name = f.name
  means_name f := decide_eq_true rfl
  lower_of_means := by
    intro f name h
    rw [of_decide_eq_true h, f.lower_name]

section Entries

variable {α : Type} {named : String → Prop} {entries : List (String × α)} {a : α}

/-- No entry has a name of the kind. -/
def Unnamed (named : String → Prop) (entries : List (String × α)) : Prop :=
  ∀ entry ∈ entries, ¬ named entry.1

/-- The value of the first entry that has a name of the kind. -/
def FirstNamed (named : String → Prop) (entries : List (String × α)) (a : α) : Prop :=
  ∃ before n after, entries = before ++ (n, a) :: after ∧ named n ∧ Unnamed named before

/-- The value of the last entry that has a name of the kind. -/
def LastNamed (named : String → Prop) (entries : List (String × α)) (a : α) : Prop :=
  ∃ before n after, entries = before ++ (n, a) :: after ∧ named n ∧ Unnamed named after

theorem unnamed_reverse : Unnamed named entries.reverse ↔ Unnamed named entries := by
  simp [Unnamed]

/-- The last entry of a name is the first from behind. -/
theorem firstNamed_reverse : FirstNamed named entries.reverse a ↔ LastNamed named entries a := by
  constructor
  · rintro ⟨before, n, after, h, hn, hunnamed⟩
    refine ⟨after.reverse, n, before.reverse, ?_, hn, unnamed_reverse.2 hunnamed⟩
    rw [← List.reverse_reverse entries, h]
    simp
  · rintro ⟨before, n, after, rfl, hn, hunnamed⟩
    refine ⟨after.reverse, n, before.reverse, ?_, hn, unnamed_reverse.2 hunnamed⟩
    simp

/-- An entry of another name in front makes no difference. -/
theorem lastNamed_cons {entry : String × α} (h : ¬ named entry.1) :
    LastNamed named (entry :: entries) a ↔ LastNamed named entries a := by
  constructor
  · rintro ⟨before, n, after, hsplit, hn, hunnamed⟩
    cases before with
    | nil =>
      cases hsplit
      exact absurd hn h
    | cons first before =>
      cases hsplit
      exact ⟨before, n, after, rfl, hn, hunnamed⟩
  · rintro ⟨before, n, after, rfl, hn, hunnamed⟩
    exact ⟨entry :: before, n, after, rfl, hn, hunnamed⟩

namespace Sources

variable {p : String → Bool}

theorem firstNamed?_eq_none_iff (hp : ∀ n, p n = true ↔ named n) :
    firstNamed? p entries = none ↔ Unnamed named entries := by
  simp [firstNamed?, Unnamed, ← hp]

theorem firstNamed?_eq_some_iff (hp : ∀ n, p n = true ↔ named n) :
    firstNamed? p entries = some a ↔ FirstNamed named entries a := by
  unfold firstNamed?
  rw [Option.map_eq_some_iff]
  constructor
  · rintro ⟨⟨n, _⟩, hfind, rfl⟩
    obtain ⟨hn, before, after, hsplit, hbefore⟩ := List.find?_eq_some_iff_append.1 hfind
    exact ⟨before, n, after, hsplit, (hp n).1 hn, fun entry hmem => by
      simpa [← hp] using hbefore entry hmem⟩
  · rintro ⟨before, n, after, hsplit, hn, hunnamed⟩
    refine ⟨(n, a), List.find?_eq_some_iff_append.2 ⟨(hp n).2 hn, before, after, hsplit, ?_⟩, rfl⟩
    intro entry hmem
    simpa [← hp] using hunnamed entry hmem

theorem lastNamed?_eq_none_iff (hp : ∀ n, p n = true ↔ named n) :
    lastNamed? p entries = none ↔ Unnamed named entries :=
  (firstNamed?_eq_none_iff hp).trans unnamed_reverse

theorem lastNamed?_eq_some_iff (hp : ∀ n, p n = true ↔ named n) :
    lastNamed? p entries = some a ↔ LastNamed named entries a :=
  (firstNamed?_eq_some_iff hp).trans firstNamed_reverse

end Sources
end Entries

/-! ### What a field takes -/

/-- The name of the variable that a field is read from. -/
def Field.variableName (f : Field) : String := "IRC_HARNESS_" ++ f.name

theorem Field.lower_variableName (f : Field) :
    Text.lower f.variableName = Sources.variableStart ++ f.name := by
  have listed : ∀ f ∈ Field.all,
      Text.lower f.variableName = Sources.variableStart ++ f.name := by decide +kernel
  exact listed f f.mem_all

namespace Sources

/-- The variables of the file, with what each stands for once its references are replaced.  A
variable that is only declared stands for nothing. -/
def fileVariables (s : Sources) : List (String × Option String) :=
  match s.file with
  | none => []
  | some file => EnvFile.bindings s.environ file

/-- The caller means a field by a name. -/
def Means (s : Sources) (f : Field) (name : String) : Prop := s.naming.means f name = true

/-- The value that a field takes, if it takes one. -/
inductive Takes (s : Sources) (f : Field) : Option Json → Prop
  /-- The caller names the field. -/
  | caller {t : Json} (given : FirstNamed (s.Means f) s.overrides t) : Takes s f (some t)
  /-- The caller does not, but the environment does. -/
  | environ {text : String} (unnamed : Unnamed (s.Means f) s.overrides)
      (given : LastNamed (SameName f.variableName) s.environ text) : Takes s f (some (.str text))
  /-- Neither of them does, but the file of variables assigns a text. -/
  | file {text : String} (unnamed : Unnamed (s.Means f) s.overrides)
      (unset : Unnamed (SameName f.variableName) s.environ)
      (given : LastNamed (SameName f.variableName) s.fileVariables (some text)) :
      Takes s f (some (.str text))
  /-- Nor does the file. -/
  | nothing (unnamed : Unnamed (s.Means f) s.overrides)
      (unset : Unnamed (SameName f.variableName) s.environ)
      (unassigned : ∀ text, ¬ LastNamed (SameName f.variableName) s.fileVariables (some text)) :
      Takes s f none

/-- What a field comes to: the value that it takes is read, and it has its default if it takes
none. -/
inductive ComesTo (s : Sources) (f : Field) : Except Kind.Refusal f.kind.Value → Prop
  | taken {t : Json} (h : Takes s f (some t)) : ComesTo s f (f.kind.read t)
  | default (h : Takes s f none) : ComesTo s f (.ok f.default)

/-- Field by field, in their order, the reasons for which the field is refused. -/
def Reports (s : Sources) (issues : List Issue) : Prop :=
  ∃ reasons : Field → Kind.Refusal,
    (∀ f, (∃ v, s.ComesTo f (.ok v)) ∧ reasons f = [] ∨
      s.ComesTo f (.error (reasons f)) ∧ reasons f ≠ []) ∧
    issues = Field.all.flatMap fun f =>
      (reasons f).map fun (item, problem) => ⟨f.name, item, problem⟩

variable {s : Sources} {f : Field}

theorem override?_eq_none_iff : s.override? f = none ↔ Unnamed (s.Means f) s.overrides :=
  firstNamed?_eq_none_iff fun _ => .rfl

theorem override?_eq_some_iff {t : Json} :
    s.override? f = some t ↔ FirstNamed (s.Means f) s.overrides t :=
  firstNamed?_eq_some_iff fun _ => .rfl

theorem isVariable_iff (name : String) :
    isVariable f name = true ↔ SameName f.variableName name := by
  unfold isVariable SameName
  rw [f.lower_variableName, decide_eq_true_iff, eq_comm]

theorem inEnviron?_eq_none_iff :
    s.inEnviron? f = none ↔ Unnamed (SameName f.variableName) s.environ :=
  lastNamed?_eq_none_iff isVariable_iff

theorem inEnviron?_eq_some_iff {text : String} :
    s.inEnviron? f = some text ↔ LastNamed (SameName f.variableName) s.environ text :=
  lastNamed?_eq_some_iff isVariable_iff

theorem inFile?_eq_some_iff {text : String} :
    s.inFile? f = some text ↔
      LastNamed (SameName f.variableName) s.fileVariables (some text) := by
  rw [← lastNamed?_eq_some_iff isVariable_iff, ← Option.join_eq_some_iff]
  unfold inFile? fileVariables
  cases s.file <;> rfl

/-- What a field takes is what the lookup through the sources finds. -/
theorem takes_iff {t? : Option Json} : s.Takes f t? ↔ s.given? f = t? := by
  constructor
  · intro h
    cases h with
    | caller given => exact given?_of_override (override?_eq_some_iff.2 given)
    | environ unnamed given =>
      simp [given?, override?_eq_none_iff.2 unnamed, inEnviron?_eq_some_iff.2 given]
    | file unnamed unset given =>
      simp [given?, override?_eq_none_iff.2 unnamed, inEnviron?_eq_none_iff.2 unset,
        inFile?_eq_some_iff.2 given]
    | nothing unnamed unset unassigned =>
      have hnone : s.inFile? f = none :=
        Option.eq_none_iff_forall_ne_some.2 fun text h =>
          unassigned text (inFile?_eq_some_iff.1 h)
      simp [given?, override?_eq_none_iff.2 unnamed, inEnviron?_eq_none_iff.2 unset, hnone]
  · rintro rfl
    -- source by source, as the lookup goes
    cases hoverride : s.override? f with
    | some t =>
      rw [given?_of_override hoverride]
      exact .caller (override?_eq_some_iff.1 hoverride)
    | none =>
      have unnamed := override?_eq_none_iff.1 hoverride
      unfold given?
      rw [hoverride, Option.none_or]
      cases henviron : s.inEnviron? f with
      | some text => exact .environ unnamed (inEnviron?_eq_some_iff.1 henviron)
      | none =>
        have unset := inEnviron?_eq_none_iff.1 henviron
        cases hfile : s.inFile? f with
        | some text => exact .file unnamed unset (inFile?_eq_some_iff.1 hfile)
        | none =>
          refine .nothing unnamed unset fun text h => ?_
          rw [inFile?_eq_some_iff.2 h] at hfile
          cases hfile

/-- What a field comes to is the value that is made of it, or its refusal. -/
theorem comesTo_iff {r : Except Kind.Refusal f.kind.Value} :
    s.ComesTo f r ↔ s.value f = r := by
  unfold value
  constructor
  · intro h
    cases h with
    | taken h => rw [takes_iff.1 h]
    | default h => rw [takes_iff.1 h]
  · rintro rfl
    cases hgiven : s.given? f with
    | some t => exact .taken (takes_iff.2 hgiven)
    | none => exact .default (takes_iff.2 hgiven)

/-! ### Sources that do not count -/

variable {s' : Sources} {t? : Option Json}

theorem override?_congr (hoverrides : s'.overrides = s.overrides) (hnaming : s'.naming = s.naming)
    (f : Field) : s'.override? f = s.override? f := by
  unfold override?
  rw [hoverrides, hnaming]

/-- What the caller gives for a field is taken, whatever the other sources hold. -/
theorem takes_of_overrides (hoverrides : s'.overrides = s.overrides)
    (hnaming : s'.naming = s.naming) (hnamed : ¬ Unnamed (s.Means f) s.overrides) :
    s'.Takes f t? ↔ s.Takes f t? := by
  obtain ⟨t, ht⟩ := Option.ne_none_iff_exists'.1 (mt override?_eq_none_iff.1 hnamed)
  have ht' : s'.override? f = some t := (override?_congr hoverrides hnaming f).trans ht
  rw [takes_iff, takes_iff, given?_of_override ht, given?_of_override ht']

/-- What the environment gives for a field is taken if the caller gives nothing, whatever the file
holds. -/
theorem takes_of_environ (hoverrides : s'.overrides = s.overrides)
    (hnaming : s'.naming = s.naming) (henviron : s'.environ = s.environ)
    (hnamed : ¬ Unnamed (SameName f.variableName) s.environ) : s'.Takes f t? ↔ s.Takes f t? := by
  obtain ⟨text, htext⟩ := Option.ne_none_iff_exists'.1 (mt inEnviron?_eq_none_iff.1 hnamed)
  have htext' : s'.inEnviron? f = some text := by
    unfold inEnviron?
    rw [henviron]
    exact htext
  rw [takes_iff, takes_iff]
  simp [given?, htext, htext', override?_congr hoverrides hnaming f]

/-- A field comes to the same where it takes the same. -/
theorem comesTo_congr (h : ∀ t?, s'.Takes f t? ↔ s.Takes f t?)
    {r : Except Kind.Refusal f.kind.Value} : s'.ComesTo f r ↔ s.ComesTo f r := by
  have hgiven : s'.given? f = s.given? f := takes_iff.1 ((h _).2 (takes_iff.2 rfl))
  rw [comesTo_iff, comesTo_iff]
  unfold value
  rw [hgiven]

end Sources

/-! ### A file without references -/

namespace EnvFile

/-- A text with a reference in it. -/
def Refers (text : List Char) : Prop :=
  ∃ before after, text = before ++ '$' :: '\x7b' :: after ∧ (reference? after).isSome

/-- A file in which no text has a reference. -/
def IsPlain (file : String) : Prop :=
  ∀ name text, (name, some text) ∈ assignments file → ¬ Refers text

variable {value? : String → Option String}

theorem Refers.cons {text : List Char} (h : Refers text) (c : Char) : Refers (c :: text) := by
  obtain ⟨before, after, rfl, href⟩ := h
  exact ⟨c :: before, after, rfl, href⟩

/-- There is no reference where there is no sign of one. -/
theorem not_refers_of_notMem {text : List Char} (h : '$' ∉ text) : ¬ Refers text := by
  rintro ⟨before, after, rfl, -⟩
  simp at h

/-- A text without references is not changed when they are replaced. -/
theorem expandUpTo_of_not_refers {fuel : Nat} {text : List Char} (h : ¬ Refers text) :
    expandUpTo value? fuel text = text := by
  fun_induction expandUpTo value? fuel text with
  | case1 => rfl
  | case2 => rfl
  | case3 fuel rest name default after href ih =>
    exact absurd ⟨[], rest, rfl, by rw [href]; rfl⟩ h
  | case4 fuel rest href ih => rw [ih (mt (Refers.cons · _) h)]
  | case5 fuel c rest hc ih => rw [ih (mt (Refers.cons · _) h)]

theorem expand_of_not_refers {text : List Char} (h : ¬ Refers text) :
    expand value? text = String.ofList text :=
  congrArg String.ofList (expandUpTo_of_not_refers h)

/-- Texts without references stand for themselves in every environment. -/
theorem resolve_of_not_refers {environ environ' : List (String × String)}
    {list : List (List Char × Option (List Char))}
    (h : ∀ name text, (name, some text) ∈ list → ¬ Refers text)
    (known : List (String × Option String)) :
    resolve environ known list = resolve environ' known list := by
  induction list generalizing known with
  | nil => rfl
  | cons entry rest ih =>
    obtain ⟨name, text?⟩ := entry
    have hrest (name : List Char) (text : List Char) (hmem : (name, some text) ∈ rest) :
        ¬ Refers text := h name text (List.mem_cons_of_mem _ hmem)
    have hhead : text?.map (expand (valueOf? environ known)) =
        text?.map (expand (valueOf? environ' known)) := by
      cases text? with
      | none => rfl
      | some text =>
        have hplain := h name text List.mem_cons_self
        rw [Option.map_some, Option.map_some, expand_of_not_refers hplain,
          expand_of_not_refers hplain]
    unfold resolve
    rw [hhead, ih hrest]

/-- A file without references does not depend on the environment. -/
theorem bindings_of_isPlain {file : String} (h : IsPlain file)
    (environ environ' : List (String × String)) : bindings environ file = bindings environ' file :=
  resolve_of_not_refers h []

end EnvFile

namespace Sources

variable {s : Sources} {environ : List (String × String)}

theorem fileVariables_of_isPlain (h : ∀ file ∈ s.file, EnvFile.IsPlain file)
    (environ : List (String × String)) : fileVariables { s with environ } = s.fileVariables := by
  unfold fileVariables
  cases hfile : s.file with
  | none => rfl
  | some file => exact EnvFile.bindings_of_isPlain (h file hfile) _ _

/-- If no text of the file has a reference, what a field takes depends on the environment through
the variable that names it. -/
theorem given?_of_environ {f : Field} (hplain : ∀ file ∈ s.file, EnvFile.IsPlain file)
    (hagree : ∀ text, LastNamed (SameName f.variableName) environ text ↔
      LastNamed (SameName f.variableName) s.environ text) :
    given? { s with environ } f = s.given? f := by
  have henviron : inEnviron? { s with environ } f = s.inEnviron? f :=
    Option.ext fun text =>
      inEnviron?_eq_some_iff.trans ((hagree text).trans inEnviron?_eq_some_iff.symm)
  have hfile : inFile? { s with environ } f = s.inFile? f := by
    refine Option.ext fun text => ?_
    rw [inFile?_eq_some_iff, inFile?_eq_some_iff, fileVariables_of_isPlain hplain]
  unfold given?
  rw [henviron, hfile]
  rfl

/-! ### Where settings come from -/

/-- Sources in which every field has the same value, or is refused for the same reasons, lead to the
same settings, or to the same issues. -/
theorem load_congr_value {s s' : Sources} (h : ∀ f, s'.value f = s.value f) :
    s'.load = s.load := by
  have hissues : s'.issues = s.issues := funext fun f => by
    unfold issues
    rw [h f]
  have hdefaults : s'.valueOrDefault = s.valueOrDefault := funext fun f => by
    unfold valueOrDefault
    rw [h f]
  unfold load allIssues
  rw [hissues, hdefaults]

theorem value_congr {s s' : Sources} {f : Field} (h : s'.given? f = s.given? f) :
    s'.value f = s.value f := by
  unfold value
  rw [h]

/-- Sources that give the same for every field lead to the same settings, or to the same issues. -/
theorem load_congr {s s' : Sources} (h : ∀ f, s'.given? f = s.given? f) : s'.load = s.load :=
  load_congr_value fun f => value_congr (h f)

/-- If all names that the caller gives are in small letters, it makes no difference how names are
compared. -/
theorem load_of_naming (h : ∀ entry ∈ s.overrides, Text.lower entry.1 = entry.1)
    (naming : Naming) : load { s with naming } = s.load := by
  refine load_congr fun f => ?_
  have hoverride : override? { s with naming } f = s.override? f :=
    (override?_eq_lookup (s := { s with naming }) h f).trans (override?_eq_lookup h f).symm
  unfold given?
  rw [hoverride]
  rfl

/-- The reasons for which a field is refused. -/
def reasons (s : Sources) (f : Field) : Kind.Refusal :=
  match s.value f with
  | .ok _ => []
  | .error reasons => reasons

theorem issues_eq (s : Sources) : s.issues = fun f =>
    (s.reasons f).map fun (item, problem) => ⟨f.name, item, problem⟩ := by
  funext f
  unfold issues reasons
  cases s.value f <;> rfl

theorem ne_nil_of_value_eq_error {f : Field} {refusal : Kind.Refusal}
    (h : s.value f = .error refusal) : refusal ≠ [] := by
  unfold value at h
  split at h
  · cases h
  · exact Kind.ne_nil_of_read_eq_error h

/-- Every issue that there is, and nothing else, is reported. -/
theorem reports_iff {issues : List Issue} : s.Reports issues ↔ issues = s.allIssues := by
  constructor
  · rintro ⟨reasons', hreasons, rfl⟩
    obtain rfl : reasons' = s.reasons := by
      funext f
      unfold reasons
      rcases hreasons f with ⟨⟨v, hv⟩, hnil⟩ | ⟨herror, -⟩
      · rw [comesTo_iff.1 hv, hnil]
      · rw [comesTo_iff.1 herror]
    unfold allIssues
    rw [issues_eq]
  · rintro rfl
    refine ⟨s.reasons, fun f => ?_, by unfold allIssues; rw [issues_eq]⟩
    unfold reasons
    cases hvalue : s.value f with
    | ok v => exact .inl ⟨⟨v, comesTo_iff.2 hvalue⟩, rfl⟩
    | error refusal => exact .inr ⟨comesTo_iff.2 hvalue, ne_nil_of_value_eq_error hvalue⟩

/-- There is no issue iff every field is accepted. -/
theorem allIssues_eq_nil_iff : s.allIssues = [] ↔ ∀ f, ∃ v, s.ComesTo f (.ok v) := by
  unfold allIssues
  rw [List.flatMap_eq_nil_iff]
  constructor
  · intro h f
    have hissues := h f f.mem_all
    unfold issues at hissues
    cases hvalue : s.value f with
    | ok v => exact ⟨v, comesTo_iff.2 hvalue⟩
    | error refusal =>
      rw [hvalue] at hissues
      exact absurd (List.map_eq_nil_iff.1 hissues) (ne_nil_of_value_eq_error hvalue)
  · intro h f _
    obtain ⟨v, hv⟩ := h f
    unfold issues
    rw [comesTo_iff.1 hv]

/-- Settings are accepted iff every field is, and have what the fields come to. -/
theorem load_eq_ok_iff_comesTo {v : Settings} :
    s.load = .ok v ↔ ∀ f, s.ComesTo f (.ok (v f)) := by
  rw [load_eq_ok_iff, allIssues_eq_nil_iff]
  constructor
  · rintro ⟨haccepted, rfl⟩ f
    obtain ⟨v, hv⟩ := haccepted f
    unfold valueOrDefault
    rw [comesTo_iff.1 hv]
    exact hv
  · intro h
    refine ⟨fun f => ⟨v f, h f⟩, funext fun f => ?_⟩
    unfold valueOrDefault
    rw [comesTo_iff.1 (h f)]

/-- Otherwise the issues are reported. -/
theorem load_eq_error_iff {issues : List Issue} :
    s.load = .error issues ↔
      (∃ f reasons, s.ComesTo f (.error reasons)) ∧ s.Reports issues := by
  have hload : s.load = .error issues ↔ s.allIssues ≠ [] ∧ issues = s.allIssues := by
    unfold load
    cases s.allIssues with
    | nil => simp
    | cons issue rest => simp [eq_comm]
  have hrefused : s.allIssues ≠ [] ↔ ∃ f reasons, s.ComesTo f (.error reasons) := by
    rw [Ne, allIssues_eq_nil_iff, Classical.not_forall]
    refine exists_congr fun f => ?_
    simp only [comesTo_iff]
    cases s.value f <;> simp
  rw [hload, hrefused, reports_iff]

/-- **Where settings come from.**  Every field takes one value or none, from the first source that
names it, and comes to what is read from it, or to its default.  Settings are accepted iff every
field is, and they have what the fields come to; otherwise the issues are those of the fields that
are refused, in their order.  Once the caller names a field, neither the environment nor the file
counts for it; once the environment does, the file does not.  If the file has no references, any
other environment in which the variables that name fields have the same values leads to the same.
All of this holds however the caller's names are compared.  Without regard to case, the caller means
a field by the names that differ from its own at most in the case of their letters; and if the names
are in small letters, as those of fields are, it makes no difference how they are compared. -/
theorem load_by_precedence (s : Sources) :
    (∀ f, (∃! t?, s.Takes f t?) ∧ ∃! r, s.ComesTo f r) ∧
      (∀ v : Settings, s.load = .ok v ↔ ∀ f, s.ComesTo f (.ok (v f))) ∧
      (∀ issues, s.load = .error issues ↔
        (∃ f reasons, s.ComesTo f (.error reasons)) ∧ s.Reports issues) ∧
      (∀ (s' : Sources) (f : Field), s'.overrides = s.overrides → s'.naming = s.naming →
        ¬ Unnamed (s.Means f) s.overrides → ∀ r, s'.ComesTo f r ↔ s.ComesTo f r) ∧
      (∀ (s' : Sources) (f : Field), s'.overrides = s.overrides → s'.naming = s.naming →
        s'.environ = s.environ → ¬ Unnamed (SameName f.variableName) s.environ →
        ∀ r, s'.ComesTo f r ↔ s.ComesTo f r) ∧
      ((∀ file ∈ s.file, EnvFile.IsPlain file) → ∀ environ,
        (∀ f : Field, ∀ text, LastNamed (SameName f.variableName) environ text ↔
          LastNamed (SameName f.variableName) s.environ text) →
        load { s with environ } = s.load) ∧
      (s.naming = .folded → ∀ (f : Field) (name : String), s.Means f name ↔ SameName f.name name) ∧
      ((∀ entry ∈ s.overrides, Text.lower entry.1 = entry.1) → ∀ naming,
        load { s with naming } = s.load) := by
  refine ⟨fun f => ⟨?_, ?_⟩, fun v => ?_, fun issues => ?_,
    fun s' f hoverrides hnaming hnamed r => ?_, fun s' f hoverrides hnaming henviron hnamed r => ?_,
    fun hplain environ hagree => ?_, fun hfolded f name => ?_, fun hnames naming => ?_⟩
  · exact ⟨s.given? f, takes_iff.2 rfl, fun t? h => (takes_iff.1 h).symm⟩
  · exact ⟨s.value f, comesTo_iff.2 rfl, fun r h => (comesTo_iff.1 h).symm⟩
  · exact load_eq_ok_iff_comesTo
  · exact load_eq_error_iff
  · exact comesTo_congr fun t? => takes_of_overrides hoverrides hnaming hnamed
  · exact comesTo_congr fun t? => takes_of_environ hoverrides hnaming henviron hnamed
  · exact load_congr fun f => given?_of_environ hplain (hagree f)
  · unfold Means
    rw [hfolded]
    exact Naming.folded_means_iff
  · exact load_of_naming hnames naming

/-- A level that the caller gives is refused, although the environment and the file hold one that
would be accepted; the empty name in the environment is refused, although the file holds another;
and neither a variable that names no field nor the way in which the caller's names are compared
makes a difference. -/
theorem load_by_precedence_of_refused :
    let s : Sources :=
      { overrides := [("log_level", .str "loud")]
        environ := [("irc_harness_log_level", "debug"), ("IRC_HARNESS_SERVER_NAME", "")]
        file := some "IRC_HARNESS_SERVER_NAME=irc\nIRC_HARNESS_LOG_LEVEL=info\n" }
    s.load = .error [⟨"server_name", none, .tooShort 1⟩, ⟨"log_level", none, .unknownLevel⟩] ∧
      load { s with environ := ("HOME", "/root") :: s.environ } = s.load ∧
      load { s with naming := .exact } = s.load := by
  intro s
  have plain : ∀ file ∈ s.file, EnvFile.IsPlain file := by
    intro file hfile name text hmem
    have assigned : EnvFile.assignments file =
        [("IRC_HARNESS_SERVER_NAME".toList, some "irc".toList),
          ("IRC_HARNESS_LOG_LEVEL".toList, some "info".toList)] := by
      cases hfile
      decide +kernel
    rw [assigned] at hmem
    refine EnvFile.not_refers_of_notMem ?_
    simp only [List.mem_cons, List.not_mem_nil, or_false, Prod.mk.injEq, Option.some.injEq] at hmem
    rcases hmem with ⟨-, rfl⟩ | ⟨-, rfl⟩ <;> decide
  have unrelated : ∀ f ∈ Field.all, ¬ SameName f.variableName "HOME" := by decide +kernel
  have issues : s.allIssues =
      [⟨"server_name", none, .tooShort 1⟩, ⟨"log_level", none, .unknownLevel⟩] := by decide +kernel
  have names : ∀ entry ∈ s.overrides, Text.lower entry.1 = entry.1 := by decide +kernel
  obtain ⟨-, -, -, -, -, henviron, -, hnaming⟩ := load_by_precedence s
  refine ⟨?_, henviron plain _ fun f text => lastNamed_cons (unrelated f f.mem_all),
    hnaming names _⟩
  unfold load
  rw [issues]

end Sources
end ClientTrial
