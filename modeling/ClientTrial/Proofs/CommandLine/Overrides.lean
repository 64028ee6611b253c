import ClientTrial.CommandLine.Session
import ClientTrial.Proofs.CommandLine.Spelling
import ClientTrial.Proofs.Settings.Precedence
import Mathlib.Data.List.Induction

/-!
# What a command line overrides

A command line of options is another way to write what the caller gives for settings.  It does
not matter how an option is spelled, nor whether its value is the next argument or stands after
an equals sign, nor in which order different options stand.  If an option is given more than
once, the last value counts; the values of markers are collected.  A flag gives the value true.
An option that is not there gives nothing, so that its field is read from the other sources.

There is one value that is not taken as it is written: two dashes after an equals sign are no
text but an empty list, which is then refused.

## Main definitions

* `Mention` — an option as it is written on a command line, and the value that it gives.
* `Mention.IsProper` — it is an option, and its value is one that it takes.
* `overridesOf` — what the caller gives who writes a command line.

## Main results

* `collect_of_mention` — what one option adds to what is given.
* `parse_of_mentions` — what a command line gives.
* `loadSettings_of_mentions` — settings that are loaded with a command line.
* `dashes_are_no_text` — two dashes that are not taken as they are written.
-/

namespace ClientTrial
namespace CommandLine

/-! ### Options as they are written -/

/-- The value that a text is for an option, if it is one. -/
def Declared.value? (d : Declared) (text : String) : Option Json :=
  match d.takes with
  | .text | .texts => some (.str text)
  | .whole => (Decimal.whole? text).map .int
  | .real => (Decimal.real? text).map .float
  | .choice words => if text ∈ words then some (.str text) else none
  | .presence | .help => none

/-- An option on a command line. -/
inductive Mention where
  /-- With a value as the next argument. -/
  | apart (option : Declared) (spelling text : String)
  /-- With a value after an equals sign. -/
  | joined (option : Declared) (spelling text : String)
  /-- Without a value. -/
  | alone (option : Declared) (spelling : String)

namespace Mention

/-- The option that is mentioned. -/
def option : Mention → Declared
  | apart d _ _ | joined d _ _ | alone d _ => d

/-- The way in which its name is written. -/
def spelling : Mention → String
  | apart _ s _ | joined _ s _ | alone _ s => s

/-- A value that is an argument of its own. -/
def next? : Mention → Option String
  | apart _ _ text => some text
  | joined _ _ _ | alone _ _ => none

/-- The arguments that it is written in. -/
def arguments : Mention → List String
  | apart _ spelling text => [spelling, text]
  | joined _ spelling text => [spelling ++ "=" ++ text]
  | alone _ spelling => [spelling]

/-- The value that it gives.  Two dashes after an equals sign are no text but an empty list. -/
def value? : Mention → Option Json
  | apart d _ text => d.value? text
  | joined d _ text => (d.value? text).map fun t => if text = "--" then .arr [] else t
  | alone d _ => if d.takes = .presence then some (.bool true) else none

/-- It is an option, however it is spelled, with a value that the option takes; a value that is an
argument of its own does not begin with a dash. -/
structure IsProper (m : Mention) : Prop where
  declared : m.option ∈ declared
  spelled : Spells m.spelling m.option
  valued : m.value?.isSome
  undashed : ∀ text ∈ m.next?, text.toList.head? ≠ some '-'

instance (m : Mention) : Decidable m.IsProper :=
  decidable_of_iff (m.option ∈ CommandLine.declared ∧ Spells m.spelling m.option ∧
      m.value?.isSome ∧ ∀ text ∈ m.next?, text.toList.head? ≠ some '-')
    ⟨fun ⟨hd, hs, hv, hu⟩ => ⟨hd, hs, hv, hu⟩, fun ⟨hd, hs, hv, hu⟩ => ⟨hd, hs, hv, hu⟩⟩

end Mention

/-- The values that are given for an option, in order. -/
def valuesOf (d : Declared) (ms : List Mention) : List Json :=
  (ms.filter (·.option = d)).filterMap Mention.value?

/-- What the values of an option come to: a list of them all, if it may be given any number of
times, and else the last. -/
def Declared.combined? (d : Declared) (values : List Json) : Option Json :=
  if d.takes = .texts then if values = [] then none else some (.arr values)
  else values.getLast?

/-- What the caller gives who writes a command line: the options that are there, each under the name
of its field. -/
def overridesOf (ms : List Mention) : List (String × Json) :=
  declared.filterMap fun d => (d.combined? (valuesOf d ms)).map fun t => (d.field, t)

/-! ### The values of a command line -/

section

variable {d : Declared} {text : String} {t : Json}

theorem valueOf_of_value? (h : d.value? text = some t) :
    valueOf d text = .ok (if text = "--" then .arr [] else t) := by
  unfold Declared.value? at h
  unfold valueOf
  by_cases hdashes : text = "--"
  · rw [if_pos hdashes, if_pos hdashes]
  rw [if_neg hdashes, if_neg hdashes]
  cases htakes : d.takes with
  | text | texts =>
    rw [htakes] at h
    cases h
    rfl
  | whole =>
    rw [htakes] at h
    obtain ⟨n, hn, rfl⟩ := Option.map_eq_some_iff.1 h
    simp only [hn]
  | real =>
    rw [htakes] at h
    obtain ⟨x, hx, rfl⟩ := Option.map_eq_some_iff.1 h
    simp only [hx]
  | choice words =>
    rw [htakes] at h
    obtain ⟨hmem, ⟨⟩⟩ := Option.ite_none_right_eq_some.1 h
    exact if_pos hmem
  | presence | help =>
    rw [htakes] at h
    cases h

theorem takesValue_of_value? (h : d.value? text = some t) : d.takesValue = true := by
  unfold Declared.value? at h
  unfold Declared.takesValue
  cases htakes : d.takes with
  | presence | help =>
    rw [htakes] at h
    cases h
  | text | texts | whole | real | choice => rfl

/-- To ask for help is to give no value. -/
theorem takes_ne_help_of_takesValue (h : d.takesValue = true) : d.takes ≠ .help := by
  intro hhelp
  unfold Declared.takesValue at h
  rw [hhelp] at h
  cases h

end

/-! ### One option -/

section

variable {argument spelling text : String} {d : Declared} {t : Json} {rest : List String}
  {list : List Argument}

theorem classifyAll_cons {a : Argument} (hne : argument ≠ "--") (h : classify argument = .ok a)
    (hrest : classifyAll rest = .ok list) : classifyAll (argument :: rest) = .ok (a :: list) := by
  unfold classifyAll
  split
  · next heq => cases heq
  · next heq =>
    cases heq
    exact absurd rfl hne
  · next heq =>
    cases heq
    rw [h, hrest]
    rfl

/-- An option takes the next argument as its value. -/
theorem collect_apart (hd : d ∈ declared) (h : Spells spelling d) (ht : d.value? text = some t)
    (hhead : text.toList.head? ≠ some '-') (hrest : classifyAll rest = .ok list) :
    ∃ list', classifyAll (spelling :: text :: rest) = .ok list' ∧
      ∀ g : Given, g.help = false → collect g list' = collect (g.take d t) list := by
  have htakes := takesValue_of_value? ht
  have hhelp := takes_ne_help_of_takesValue htakes
  have htext : text ≠ "--" := by
    rintro rfl
    exact hhead (by decide)
  obtain ⟨name, hname⟩ := classify_spelling h hd hhelp
  refine ⟨_, classifyAll_cons (h.ne_dashes hd hhelp) hname
    (classifyAll_cons htext (classify_value hhead) hrest), ?_⟩
  intro g hg
  rw [collect, if_neg (by simp [hg]), if_pos htakes, valueOf_of_value? ht, if_neg htext]
  rfl

/-- An option takes what stands after an equals sign as its value. -/
theorem collect_joined (hd : d ∈ declared) (h : Spells spelling d) (ht : d.value? text = some t)
    (hrest : classifyAll rest = .ok list) :
    ∃ list', classifyAll ((spelling ++ "=" ++ text) :: rest) = .ok list' ∧
      ∀ g : Given, g.help = false →
        collect g list' = collect (g.take d (if text = "--" then .arr [] else t)) list := by
  have htakes := takesValue_of_value? ht
  obtain ⟨name, hname⟩ := classify_joined h hd (takes_ne_help_of_takesValue htakes) text
  -- an argument with an equals sign is not the end of the options
  have hjoined : spelling ++ "=" ++ text ≠ "--" := by
    intro heq
    have hmem : '=' ∈ (spelling ++ "=" ++ text).toList := by simp
    rw [heq] at hmem
    exact absurd hmem (by decide)
  refine ⟨_, classifyAll_cons hjoined hname hrest, ?_⟩
  intro g hg
  rw [collect, if_neg (by simp [hg]), if_pos htakes, valueOf_of_value? ht]
  rfl

/-- A flag takes no value, and gives the value true. -/
theorem collect_alone (hd : d ∈ declared) (h : Spells spelling d) (ht : d.takes = .presence)
    (hrest : classifyAll rest = .ok list) :
    ∃ list', classifyAll (spelling :: rest) = .ok list' ∧
      ∀ g : Given, g.help = false → collect g list' = collect (g.take d (.bool true)) list := by
  have hhelp : d.takes ≠ .help := by simp [ht]
  have htakes : ¬ d.takesValue = true := by
    unfold Declared.takesValue
    rw [ht]
    exact Bool.false_ne_true
  obtain ⟨name, hname⟩ := classify_spelling h hd hhelp
  refine ⟨_, classifyAll_cons (h.ne_dashes hd hhelp) hname hrest, ?_⟩
  intro g hg
  -- the equation for an option that may be followed by its value does not apply
  rw [collect.eq_def]
  dsimp only
  rw [if_neg (by simp [hg]), if_neg htakes]
  exact congrArg (collect · list) (if_neg hhelp)

end

variable {m : Mention} {ms : List Mention}

/-- What is given once one more option is mentioned; a mention without a value is never proper. -/
def Given.note (g : Given) (m : Mention) : Given := g.take m.option (m.value?.getD .null)

/-- **One option.**  A mention is recognised, whatever comes after it, and its value is taken. -/
theorem collect_of_mention (h : m.IsProper) {rest : List String} {list : List Argument}
    (hrest : classifyAll rest = .ok list) :
    ∃ list', classifyAll (m.arguments ++ rest) = .ok list' ∧
      ∀ g : Given, g.help = false → collect g list' = collect (g.note m) list := by
  obtain ⟨hdeclared, hspelled, hvalued, hundashed⟩ := h
  obtain ⟨t, ht⟩ := Option.isSome_iff_exists.1 hvalued
  have hnote (g : Given) : g.note m = g.take m.option t := by
    rw [Given.note, ht]
    rfl
  simp only [hnote]
  cases m with
  | apart d spelling text => exact collect_apart hdeclared hspelled ht (hundashed text rfl) hrest
  | joined d spelling text =>
    obtain ⟨t, htext, rfl⟩ := Option.map_eq_some_iff.1 ht
    exact collect_joined hdeclared hspelled htext hrest
  | alone d spelling =>
    obtain ⟨hpresence, ⟨⟩⟩ := Option.ite_none_right_eq_some.1 ht
    exact collect_alone hdeclared hspelled hpresence hrest

/-- The options of a command line, one after the other. -/
theorem collect_of_mentions (h : ∀ m ∈ ms, m.IsProper) :
    ∃ list, classifyAll (ms.flatMap Mention.arguments) = .ok list ∧
      ∀ g : Given, g.help = false → collect g list = .ok (ms.foldl Given.note g) := by
  -- from the front, as arguments are looked at; what is given so far is left open
  induction ms with
  | nil => exact ⟨[], by simp [classifyAll], fun g _ => by simp [collect]⟩
  | cons m ms ih =>
    obtain ⟨list, hlist, hcollect⟩ := ih fun m' hm' => h m' (List.mem_cons_of_mem _ hm')
    obtain ⟨list', hlist', hmention⟩ := collect_of_mention (h m List.mem_cons_self) hlist
    refine ⟨list', by rw [List.flatMap_cons, hlist'], ?_⟩
    intro g hg
    rw [hmention g hg, List.foldl_cons]
    exact hcollect (g.note m) hg

/-- Nothing is left over, and nobody asks for help. -/
theorem extras_of_notes (ms : List Mention) (g : Given) :
    (ms.foldl Given.note g).extras = g.extras ∧ (ms.foldl Given.note g).help = g.help := by
  induction ms generalizing g with
  | nil => exact ⟨rfl, rfl⟩
  | cons m ms ih => exact ih (g.note m)

/-- What a command line gives is what its options have noted. -/
theorem parse_of_mentions (h : ∀ m ∈ ms, m.IsProper) :
    parse (ms.flatMap Mention.arguments) = .ok (some (ms.foldl Given.note {}).values) := by
  obtain ⟨list, hlist, hcollect⟩ := collect_of_mentions h
  obtain ⟨hextras, hhelp⟩ := extras_of_notes ms {}
  simp [parse, hlist, hcollect {} rfl, hextras, hhelp, bind, Except.bind, pure, Except.pure]

/-! ### What the options have noted -/

theorem lookup_assign (name n : String) (t : Json) (values : List (String × Json)) :
    (assign name t values).lookup n = if n = name then some t else values.lookup n := by
  induction values with
  | nil =>
    rw [assign, List.lookup_cons]
    by_cases h : n = name
    · simp [h]
    · simp [h, beq_false_of_ne h]
  | cons entry rest ih =>
    rw [assign]
    by_cases hname : entry.1 = name
    · rw [if_pos hname, List.lookup_cons, List.lookup_cons]
      by_cases h : n = name
      · simp [h, hname]
      · simp [h, beq_false_of_ne (hname ▸ h : n ≠ entry.1)]
    · rw [if_neg hname, List.lookup_cons, List.lookup_cons, ih]
      by_cases h : n = entry.1
      · simp [h, hname]
      · simp [beq_false_of_ne h]

theorem mem_assign {name : String} {t : Json} {values : List (String × Json)}
    {entry : String × Json} (h : entry ∈ assign name t values) :
    entry.1 = name ∨ entry ∈ values := by
  induction values with
  | nil => exact .inl (congrArg Prod.fst (List.mem_singleton.1 h))
  | cons first rest ih =>
    rw [assign] at h
    split at h
    · next hname =>
      rcases List.mem_cons.1 h with rfl | hmem
      · exact .inl hname
      · exact .inr (List.mem_cons_of_mem _ hmem)
    · rcases List.mem_cons.1 h with rfl | hmem
      · exact .inr List.mem_cons_self
      · exact (ih hmem).imp_right (List.mem_cons_of_mem _)

/-- No two options set the same field. -/
theorem nodup_fields : (declared.map Declared.field).Nodup := by decide +kernel

theorem eq_of_field_eq {d d' : Declared} (hd : d ∈ declared) (hd' : d' ∈ declared)
    (h : d.field = d'.field) : d = d' :=
  List.inj_on_of_nodup_map nodup_fields hd hd' h

theorem combined?_append (d : Declared) (values : List Json) (t : Json) :
    d.combined? (values ++ [t]) = some (if d.takes = .texts then .arr (values ++ [t]) else t) := by
  unfold Declared.combined?
  split
  · simp
  · simp

/-- One more value of an option is combined with those that it has. -/
theorem lookup_take_self {g : Given} {d : Declared} {values : List Json}
    (h : g.values.lookup d.field = d.combined? values) (t : Json) :
    (g.take d t).values.lookup d.field = d.combined? (values ++ [t]) := by
  rw [combined?_append]
  unfold Given.take
  dsimp only
  rw [lookup_assign, if_pos rfl, h]
  refine congrArg some ?_
  cases htakes : d.takes with
  | texts =>
    unfold Declared.combined?
    rw [if_pos htakes, if_pos rfl]
    cases values with
    | nil => rfl
    | cons first rest => rfl
  | text | whole | real | choice | presence | help => rfl

theorem lookup_take_of_ne {g : Given} {d : Declared} {name : String} (h : name ≠ d.field)
    (t : Json) : (g.take d t).values.lookup name = g.values.lookup name := by
  unfold Given.take
  dsimp only
  rw [lookup_assign, if_neg h]

theorem valuesOf_append_self (h : m.IsProper) :
    valuesOf m.option (ms ++ [m]) = valuesOf m.option ms ++ [m.value?.getD .null] := by
  obtain ⟨t, ht⟩ := Option.isSome_iff_exists.1 h.valued
  simp [valuesOf, List.filter_append, ht]

theorem valuesOf_append_of_ne {d : Declared} (h : m.option ≠ d) :
    valuesOf d (ms ++ [m]) = valuesOf d ms := by
  simp [valuesOf, List.filter_append, h]

/-- **What an option has come to.**  After a command line the field of an option has the values of
that option, combined. -/
theorem lookup_notes {d : Declared} (hd : d ∈ declared) (h : ∀ m ∈ ms, m.IsProper) :
    (ms.foldl Given.note {}).values.lookup d.field = d.combined? (valuesOf d ms) := by
  -- from the end, where the value stands that counts
  induction ms using List.reverseRecOn with
  | nil =>
    unfold Declared.combined?
    split <;> rfl
  | append_singleton ms m ih =>
    have hm : m.IsProper := h m (by simp)
    have ih := ih fun m' hm' => h m' (List.mem_append_left _ hm')
    rw [List.foldl_append]
    by_cases hoption : m.option = d
    · subst hoption
      rw [valuesOf_append_self hm]
      exact lookup_take_self ih _
    · rw [valuesOf_append_of_ne hoption, ← ih]
      exact lookup_take_of_ne (fun heq => hoption (eq_of_field_eq hm.declared hd heq.symm)) _

/-- Nothing but the fields of options has a value. -/
theorem field_of_mem_notes (h : ∀ m ∈ ms, m.IsProper) :
    ∀ entry ∈ (ms.foldl Given.note {}).values, ∃ d ∈ declared, d.field = entry.1 := by
  induction ms using List.reverseRecOn with
  | nil => exact nofun
  | append_singleton ms m ih =>
    intro entry hentry
    rw [List.foldl_append] at hentry
    rcases mem_assign hentry with hfield | hmem
    · exact ⟨m.option, (h m (by simp)).declared, hfield.symm⟩
    · exact ih (fun m' hm' => h m' (List.mem_append_left _ hm')) entry hmem

/-! ### What the caller gives -/

theorem mem_overridesOf {name : String} {t : Json} :
    (name, t) ∈ overridesOf ms ↔
      ∃ d ∈ declared, d.field = name ∧ d.combined? (valuesOf d ms) = some t := by
  unfold overridesOf
  rw [List.mem_filterMap]
  refine exists_congr fun d => and_congr_right fun _ => ?_
  rw [Option.map_eq_some_iff]
  constructor
  · rintro ⟨_, ht, ⟨⟩⟩
    exact ⟨rfl, ht⟩
  · rintro ⟨rfl, ht⟩
    exact ⟨t, ht, rfl⟩

theorem field_of_mem_overridesOf :
    ∀ entry ∈ overridesOf ms, ∃ d ∈ declared, d.field = entry.1 := by
  intro entry hentry
  obtain ⟨d, hd, hfield, -⟩ := mem_overridesOf.1 hentry
  exact ⟨d, hd, hfield⟩

/-- Each field is given once. -/
theorem nodup_overridesOf : ((overridesOf ms).map Prod.fst).Nodup := by
  have sublist (value? : Declared → Option Json) (list : List Declared) :
      ((list.filterMap fun d => (value? d).map fun t => (d.field, t)).map Prod.fst).Sublist
        (list.map Declared.field) := by
    induction list with
    | nil => exact .slnil
    | cons d rest ih =>
      rw [List.filterMap_cons, List.map_cons]
      cases value? d with
      | none => exact ih.cons _
      | some t => exact ih.cons_cons _
  exact (sublist _ declared).nodup nodup_fields

theorem lookup_overridesOf {d : Declared} (hd : d ∈ declared) :
    (overridesOf ms).lookup d.field = d.combined? (valuesOf d ms) := by
  refine Option.ext fun t => ?_
  rw [Entries.lookup_eq_some_iff_mem nodup_overridesOf, mem_overridesOf]
  constructor
  · rintro ⟨d', hd', hfield, ht⟩
    rwa [eq_of_field_eq hd' hd hfield] at ht
  · exact fun ht => ⟨d, hd, rfl, ht⟩

/-- Options note what they give under names in small letters. -/
theorem lower_of_declared {entries : List (String × Json)}
    (h : ∀ entry ∈ entries, ∃ d ∈ declared, d.field = entry.1) :
    ∀ entry ∈ entries, Text.lower entry.1 = entry.1 := by
  have small : ∀ d ∈ declared, Text.lower d.field = d.field := by decide +kernel
  intro entry hentry
  obtain ⟨d, hd, hfield⟩ := h entry hentry
  exact hfield ▸ small d hd

theorem lookup_eq_none {name : String} {entries : List (String × Json)}
    (h : ∀ entry ∈ entries, ∃ d ∈ declared, d.field = entry.1)
    (hname : ¬ ∃ d ∈ declared, d.field = name) : entries.lookup name = none := by
  refine List.lookup_eq_none_iff.2 fun entry hentry => bne_iff_ne.2 ?_
  rintro rfl
  exact hname (h entry hentry)

/-- What the options have noted is what the caller gives. -/
theorem lookup_notes_eq (h : ∀ m ∈ ms, m.IsProper) (name : String) :
    (ms.foldl Given.note {}).values.lookup name = (overridesOf ms).lookup name := by
  by_cases hname : ∃ d ∈ declared, d.field = name
  · obtain ⟨d, hd, rfl⟩ := hname
    rw [lookup_notes hd h, lookup_overridesOf hd]
  · rw [lookup_eq_none (field_of_mem_notes h) hname, lookup_eq_none field_of_mem_overridesOf hname]

/-- A field whose option is absent is given nothing. -/
theorem lookup_of_absent {name : String} (h : ∀ m ∈ ms, m.option.field ≠ name) :
    (overridesOf ms).lookup name = none := by
  have hnone {d : Declared} (hfield : d.field = name) : d.combined? (valuesOf d ms) = none := by
    have hempty : ms.filter (·.option = d) = [] := by
      refine List.filter_eq_nil_iff.2 fun m hm => ?_
      rw [decide_eq_true_iff]
      rintro rfl
      exact h m hm hfield
    unfold Declared.combined? valuesOf
    rw [hempty]
    split <;> rfl
  refine List.lookup_eq_none_iff.2 fun entry hentry => bne_iff_ne.2 ?_
  rintro rfl
  obtain ⟨d, -, hfield, ht⟩ := mem_overridesOf.1 hentry
  rw [hnone hfield] at ht
  cases ht

/-! ### Settings -/

variable (environ : List (String × String)) (file : Option String)

/-- A command line loads what its overrides load. -/
theorem loadSettings_eq (h : ∀ m ∈ ms, m.IsProper) :
    loadSettings (ms.flatMap Mention.arguments) environ file =
      (Sources.load { overrides := overridesOf ms, environ, file }).mapError .invalid := by
  have hload : Sources.load { overrides := (ms.foldl Given.note {}).values, environ, file } =
      Sources.load { overrides := overridesOf ms, environ, file } := by
    refine Sources.load_congr fun f => ?_
    have hoverride : Sources.override? ⟨(ms.foldl Given.note {}).values, environ, file, .folded⟩ f =
        Sources.override? ⟨overridesOf ms, environ, file, .folded⟩ f := by
      rw [Sources.override?_eq_lookup (lower_of_declared (field_of_mem_notes h)),
        Sources.override?_eq_lookup (lower_of_declared field_of_mem_overridesOf),
        lookup_notes_eq h]
    -- the other sources are looked at in the same way
    unfold Sources.given?
    rw [hoverride]
    rfl
  unfold loadSettings
  rw [parse_of_mentions h]
  dsimp only
  rw [hload]
  cases Sources.load { overrides := overridesOf ms, environ, file } <;> rfl

/-- **Settings of a command line.**  A command line of options loads the same settings as a caller
who gives for each option that is there its last value, or all its values if it is one for markers,
or true if it is a flag; or it is refused for the same issues.  The order of different options does
not matter, nor how they are spelled.  A field whose option is absent has the value that it has
without the command line. -/
theorem loadSettings_of_mentions (h : ∀ m ∈ ms, m.IsProper) :
    loadSettings (ms.flatMap Mention.arguments) environ file =
        (Sources.load { overrides := overridesOf ms, environ, file }).mapError .invalid ∧
      (∀ ms' : List Mention, (∀ m ∈ ms', m.IsProper) →
        (∀ d ∈ declared, valuesOf d ms' = valuesOf d ms) →
        loadSettings (ms'.flatMap Mention.arguments) environ file =
          loadSettings (ms.flatMap Mention.arguments) environ file) ∧
      ∀ f : Field, (∀ m ∈ ms, m.option.field ≠ f.name) →
        Sources.value { overrides := overridesOf ms, environ, file } f =
          Sources.value { environ, file } f := by
  refine ⟨loadSettings_eq environ file h, fun ms' h' hvalues => ?_, fun f habsent => ?_⟩
  · have hsame : overridesOf ms' = overridesOf ms :=
      List.filterMap_congr fun d hd => by rw [hvalues d hd]
    rw [loadSettings_eq environ file h', loadSettings_eq environ file h, hsame]
  · have hgiven : Sources.given? { overrides := overridesOf ms, environ, file } f =
        Sources.given? { environ, file } f := by
      unfold Sources.given?
      rw [Sources.override?_eq_lookup (lower_of_declared field_of_mem_overridesOf),
        lookup_of_absent habsent]
      rfl
    unfold Sources.value
    rw [hgiven]

/-- Markers on either side of other options, names that are cut short, and a name that a longer one
goes on from; the environment holds a truth value that is none, but the flag is there. -/
theorem loadSettings_of_shuffled_markers :
    loadSettings ["--mark", "a", "--sender=./s", "--host-port", "0", "--keep-s", "--marker=b"]
        [("IRC_HARNESS_KEEP_SERVER", "maybe")] none =
      (Sources.load {
        overrides := [("sender_command", .str "./s"),
          ("expected_markers", .arr [.str "a", .str "b"]), ("host_port", .int 0),
          ("keep_server", .bool true)]
        environ := [("IRC_HARNESS_KEEP_SERVER", "maybe")] }).mapError .invalid := by
  let marker : Declared := ⟨["--marker"], "expected_markers", .texts⟩
  let sender : Declared := ⟨["--sender"], "sender_command", .text⟩
  let port : Declared := ⟨["--host-port"], "host_port", .whole⟩
  let keep : Declared := ⟨["--keep-server"], "keep_server", .presence⟩
  let ms : List Mention := [.apart marker "--mark" "a", .joined sender "--sender" "./s",
    .apart port "--host-port" "0", .alone keep "--keep-s", .joined marker "--marker" "b"]
  have proper : ∀ m ∈ ms, m.IsProper := by decide +kernel
  have overrides : overridesOf ms = [("sender_command", .str "./s"),
      ("expected_markers", .arr [.str "a", .str "b"]), ("host_port", .int 0),
      ("keep_server", .bool true)] := rfl
  rw [← overrides]
  exact (loadSettings_of_mentions [("IRC_HARNESS_KEEP_SERVER", "maybe")] none proper).1

/-- **Two dashes are no text.**  A name of two dashes that the caller gives is accepted.  After an
equals sign on the command line the dashes are no text, and are refused. -/
theorem dashes_are_no_text :
    loadSettings ["--name=--"] [] none ≠
      (Sources.load { overrides := [("server_name", .str "--")] }).mapError .invalid := by
  intro h
  have haccepted := congrArg Except.isOk h
  revert haccepted
  decide +kernel

end CommandLine
end ClientTrial
