import ClientTrial.Proofs.Decimal.Packed
import ClientTrial.Proofs.Except
import ClientTrial.Proofs.Route
import ClientTrial.Settings.Sources

/-!
# The normal form of settings

Settings that are accepted can be written down, field by field, and be given again.  For
every field but one that leads to the same value: what a value has to satisfy is checked
when it is read, and what is read from what was written is the value itself.

The exception is the port of the host.  Zero stands for a port that the daemon is to
choose, and is read as no port, but a text that denotes zero in any other way than by a
single digit is read as the number.  Only when it is given again is it read as no port.

## Main definitions

* `Kind.IsNormal` — what the values of a kind satisfy.
* `Kind.settled` — what a value is when it is read again.
* `Settings.sources` — the sources that give every field as it is written.
* `Settings.settled` — the settings as they are when they are given again.

## Main results

* `Kind.isNormal_of_read`, `Field.isNormal_default` — what is read, and every default, is
  normal.
* `Kind.read_write` — a normal value is accepted as it is written.
* `Kind.readHostPort_eq_zero_iff` — what is read as port zero.
* `Sources.value_of_load` — where the value of a field comes from.
* `Sources.normal_form` — accepted settings, given again.
-/

namespace ClientTrial

/-! ### What is read is normal -/

namespace Kind

/-- The names of log levels, as they are read. -/
def levels : List String := ["DEBUG", "INFO", "WARNING", "ERROR", "CRITICAL"]

/-- The names of log formats, as they are read. -/
def formats : List String := ["json", "text"]

/-- What the values of a kind satisfy. -/
def IsNormal : (kind : Kind) → kind.Value → Prop
  | .text least, s => least ≤ s.length
  | .optionalText, s => ∀ text ∈ s, Text.allBlank text = false
  | .flag, _ => True
  | .whole least greatest, n => least ≤ n ∧ ∀ bound ∈ greatest, n ≤ bound
  | .hostPort, port => ∀ n ∈ port, 0 ≤ n ∧ n ≤ 65535
  | .real strict, x => if strict then 0.0 < x else 0.0 ≤ x
  | .optionalReal, x => ∀ seconds ∈ x, 0.0 < seconds
  | .directory, r => ∀ route ∈ r, route.IsPlain
  | .markers, list => list ≠ []
  | .level, s => s ∈ levels
  | .format, s => s ∈ formats

variable {t : Json}

theorem single_eq_ok {α : Type} {e : Except Problem α} {a : α} : single e = .ok a ↔ e = .ok a := by
  cases e with
  | ok x => simp [single]
  | error p => simp [single, refuse]

theorem readLongText_eq_ok {least : Nat} {s : String} :
    readLongText least t = .ok s ↔ readText t = .ok s ∧ least ≤ s.length := by
  unfold readLongText
  rw [Except.bind_eq_ok]
  constructor
  · rintro ⟨text, hread, h⟩
    obtain ⟨hlong, rfl⟩ := Except.ite_error_eq_ok.1 h
    exact ⟨hread, Nat.not_lt.1 hlong⟩
  · rintro ⟨hread, hlong⟩
    exact ⟨s, hread, Except.ite_error_eq_ok.2 ⟨Nat.not_lt.2 hlong, rfl⟩⟩

/-- What is read between bounds is a whole number that keeps to them. -/
theorem readBounded_eq_ok {least n : Int} {greatest : Option Int} :
    readBounded least greatest t = .ok n ↔
      readWhole t = .ok n ∧ least ≤ n ∧ ∀ bound ∈ greatest, n ≤ bound := by
  have within (m : Int) : greatest.filter (· < m) = none ↔ ∀ bound ∈ greatest, m ≤ bound := by
    simp [Option.filter_eq_none_iff]
  unfold readBounded
  rw [Except.bind_eq_ok]
  constructor
  · rintro ⟨m, hread, h⟩
    split at h
    · cases h
    · next hnone =>
      obtain ⟨hleast, rfl⟩ := Except.ite_error_eq_ok.1 h
      exact ⟨hread, Int.not_lt.1 hleast, (within m).1 hnone⟩
  · rintro ⟨hread, hleast, hgreatest⟩
    refine ⟨n, hread, ?_⟩
    rw [(within n).2 hgreatest]
    exact Except.ite_error_eq_ok.2 ⟨Int.not_lt.2 hleast, rfl⟩

theorem readHostPort_eq_ok {port : Option Int} :
    readHostPort t = .ok port ↔
      (isUnset t = true ∧ port = none) ∨
        isUnset t = false ∧ ∃ n, readBounded 0 (some 65535) t = .ok n ∧ port = some n := by
  unfold readHostPort
  cases isUnset t with
  | true => simp [eq_comm]
  | false =>
    rw [if_neg Bool.false_ne_true, Except.map_eq_ok]
    simp [eq_comm]

theorem readPositive_eq_ok {strict : Bool} {x : Float} :
    readPositive strict t = .ok x ↔
      readReal t = .ok x ∧ if strict then 0.0 < x else 0.0 ≤ x := by
  unfold readPositive
  rw [Except.bind_eq_ok]
  cases strict with
  | true => simp [Except.ite_ok_eq_ok]
  | false => simp [Except.ite_ok_eq_ok]

/-- The name of a level is read without regard to case. -/
theorem readLevel_eq_ok {s : String} :
    readLevel t = .ok s ↔ ∃ text, readText t = .ok text ∧ Text.upper text = s ∧ s ∈ levels := by
  unfold readLevel
  rw [Except.bind_eq_ok]
  refine exists_congr fun text => and_congr_right fun _ => ?_
  rw [Except.ite_ok_eq_ok, and_comm]
  exact and_congr_right fun h => h ▸ Iff.rfl

theorem readFormat_eq_ok {s : String} :
    readFormat t = .ok s ↔ ∃ text, readText t = .ok text ∧ Text.lower text = s ∧ s ∈ formats := by
  unfold readFormat
  rw [Except.bind_eq_ok]
  refine exists_congr fun text => and_congr_right fun _ => ?_
  rw [Except.ite_ok_eq_ok, and_comm]
  exact and_congr_right fun h => h ▸ Iff.rfl

theorem nonempty_eq_ok {given list : List String} :
    nonempty given = .ok list ↔ given ≠ [] ∧ given = list := by
  unfold nonempty refuse
  rw [Except.ite_error_eq_ok]
  simp

/-- Markers are read from a text or from a list of texts. -/
theorem readMarkers_eq_ok {list : List String} :
    readMarkers t = .ok list ↔
      list ≠ [] ∧ ((∃ s, t = .str s ∧ markersOfText s = list) ∨
        ∃ items, t = .arr items ∧ readItems 0 items = .ok list) := by
  cases t with
  | str s => simp [readMarkers, nonempty_eq_ok]; grind
  | arr items => simp [readMarkers, Except.bind_eq_ok, nonempty_eq_ok]; grind
  | null | bool | int | float | obj => simp [readMarkers, refuse]

/-- What is read is normal. -/
theorem isNormal_of_read {kind : Kind} {v : kind.Value} (h : kind.read t = .ok v) :
    kind.IsNormal v := by
  cases kind with
  | text least => exact (readLongText_eq_ok.1 (single_eq_ok.1 h)).2
  | optionalText =>
    have h := single_eq_ok.1 h
    unfold readOptionalText at h
    split at h
    · cases h
      rintro _ ⟨⟩
    · next s _ =>
      cases h
      intro text htext
      split at htext
      · cases htext
      · next hkept =>
        cases htext
        simpa using hkept
    · cases h
  | flag => trivial
  | whole least greatest => exact (readBounded_eq_ok.1 (single_eq_ok.1 h)).2
  | hostPort =>
    rcases readHostPort_eq_ok.1 (single_eq_ok.1 h) with ⟨-, rfl⟩ | ⟨-, n, hn, rfl⟩
    · rintro _ ⟨⟩
    · obtain ⟨-, hleast, hgreatest⟩ := readBounded_eq_ok.1 hn
      rintro _ ⟨⟩
      exact ⟨hleast, hgreatest _ rfl⟩
  | real strict => exact (readPositive_eq_ok.1 (single_eq_ok.1 h)).2
  | optionalReal =>
    have h := single_eq_ok.1 h
    unfold readOptionalReal at h
    split at h
    · cases h
      rintro _ ⟨⟩
    · obtain ⟨x, hx, rfl⟩ := Except.map_eq_ok.1 h
      rintro _ ⟨⟩
      exact (readPositive_eq_ok.1 hx).2
  | directory =>
    have h := single_eq_ok.1 h
    unfold readPath at h
    split at h
    · cases h
      rintro _ ⟨⟩
    · next path _ =>
      cases h
      rintro _ ⟨⟩
      exact Route.isPlain_ofText path
    · cases h
  | markers => exact (readMarkers_eq_ok.1 h).1
  | level =>
    obtain ⟨_, -, -, hmem⟩ := readLevel_eq_ok.1 (single_eq_ok.1 h)
    exact hmem
  | format =>
    obtain ⟨_, -, -, hmem⟩ := readFormat_eq_ok.1 (single_eq_ok.1 h)
    exact hmem

/-! ### What is refused -/

theorem ne_nil_of_single_eq_error {α : Type} {e : Except Problem α} {reasons : Refusal}
    (h : single e = .error reasons) : reasons ≠ [] := by
  cases e with
  | ok a => cases h
  | error p =>
    cases h
    exact List.cons_ne_nil _ _

theorem ne_nil_of_readItems_eq_error {index : Nat} {items : List Json} {reasons : Refusal}
    (h : readItems index items = .error reasons) : reasons ≠ [] := by
  induction items generalizing index reasons with
  | nil => cases h
  | cons t rest ih =>
    unfold readItems at h
    split at h
    · cases h
    · next hrest =>
      cases h
      exact ih hrest
    · cases h
      exact List.cons_ne_nil _ _
    · cases h
      exact List.cons_ne_nil _ _

/-- What is refused is refused for a reason. -/
theorem ne_nil_of_read_eq_error {kind : Kind} {reasons : Refusal}
    (h : kind.read t = .error reasons) : reasons ≠ [] := by
  have refused {list : List String} (hlist : nonempty list = .error reasons) : reasons ≠ [] := by
    unfold nonempty refuse at hlist
    split at hlist
    · cases hlist
      exact List.cons_ne_nil _ _
    · cases hlist
  cases kind with
  | markers =>
    cases t with
    | str s => exact refused h
    | arr items =>
      rcases hitems : readItems 0 items with reasons' | list
      · rw [read, readMarkers, hitems] at h
        cases h
        exact ne_nil_of_readItems_eq_error hitems
      · rw [read, readMarkers, hitems] at h
        exact refused h
    | null | bool | int | float | obj =>
      cases h
      exact List.cons_ne_nil _ _
  | text | optionalText | flag | whole | hostPort | real | optionalReal | directory | level
  | format => exact ne_nil_of_single_eq_error h

end Kind

/-- Every default is normal. -/
theorem Field.isNormal_default (f : Field) : f.kind.IsNormal f.default := by
  cases f with
  | serverName =>
    change 1 ≤ "tokio_test_ircd".length
    decide
  | readinessTimeout | readinessPause | serverSettle | receiverSettle | readyTimeout | readyPause =>
    simp [Kind.IsNormal, Field.default]
    decide +kernel
  | _ => simp [Kind.IsNormal, Field.default, Kind.levels, Kind.formats]

/-! ### What is written is read -/

namespace Kind

/-- What a value is when it is read again: port zero is no port. -/
def settled : (kind : Kind) → kind.Value → kind.Value
  | .hostPort, port => port.filter (· ≠ 0)
  | _, v => v

theorem settled_of_ne {kind : Kind} (h : kind ≠ .hostPort) (v : kind.Value) :
    kind.settled v = v := by
  cases kind <;> first | rfl | exact absurd rfl h

theorem settled_settled (kind : Kind) (v : kind.Value) :
    kind.settled (kind.settled v) = kind.settled v := by
  cases kind with
  | hostPort => simp [settled, Option.filter_filter]
  | text | optionalText | flag | whole | real | optionalReal | directory | markers | level
  | format => rfl

theorem readItems_strings (index : Nat) (list : List String) :
    readItems index (list.map .str) = .ok list := by
  induction list generalizing index with
  | nil => rfl
  | cons s rest ih => rw [List.map_cons, readItems, ih]; rfl

/-- A normal value is accepted as it is written, and is settled then. -/
theorem read_write {kind : Kind} {v : kind.Value} (h : kind.IsNormal v) :
    kind.read (kind.write v) = .ok (kind.settled v) := by
  cases kind with
  | text least => exact read_write_text h
  | optionalText =>
    cases v with
    | none => rfl
    | some text =>
      refine single_eq_ok.2 (congrArg Except.ok (if_neg ?_))
      simp [h text rfl]
  | flag => rfl
  | whole least greatest => exact single_eq_ok.2 (readBounded_eq_ok.2 ⟨rfl, h⟩)
  | hostPort =>
    refine single_eq_ok.2 (readHostPort_eq_ok.2 ?_)
    cases v with
    | none => exact .inl ⟨rfl, rfl⟩
    | some n =>
      by_cases hn : n = 0
      · exact .inl ⟨decide_eq_true hn, by simp [settled, hn]⟩
      · obtain ⟨hleast, hgreatest⟩ := h n rfl
        refine .inr ⟨decide_eq_false hn, n, readBounded_eq_ok.2 ⟨rfl, hleast, ?_⟩, ?_⟩
        · rintro _ ⟨⟩
          exact hgreatest
        · simp [settled, hn]
  | real strict => exact single_eq_ok.2 (readPositive_eq_ok.2 ⟨rfl, h⟩)
  | optionalReal =>
    refine single_eq_ok.2 ?_
    cases v with
    | none => rfl
    | some x => exact Except.map_eq_ok.2 ⟨x, readPositive_eq_ok.2 ⟨rfl, h x rfl⟩, rfl⟩
  | directory =>
    refine single_eq_ok.2 ?_
    cases v with
    | none => rfl
    | some r => exact congrArg (Except.ok ∘ some) (Route.ofText_text (h r rfl))
  | markers =>
    exact readMarkers_eq_ok.2 ⟨h, .inr ⟨_, rfl, readItems_strings 0 v⟩⟩
  | level =>
    have hupper : ∀ s ∈ levels, Text.upper s = s := by decide
    exact single_eq_ok.2 (readLevel_eq_ok.2 ⟨v, rfl, hupper v h, h⟩)
  | format =>
    have hlower : ∀ s ∈ formats, Text.lower s = s := by decide
    exact single_eq_ok.2 (readFormat_eq_ok.2 ⟨v, rfl, hlower v h, h⟩)

/-! ### What is read as port zero -/

open Decimal (Binary)

/-- A floating-point number is the whole number zero only if it is zero. -/
theorem beq_zero_of_wholeOfFloat {x : Float} (h : wholeOfFloat x = .ok 0) : (x == 0.0) = true := by
  unfold wholeOfFloat at h
  split at h
  · cases h
  · cases h
  · next negative significand exponent hof =>
    dsimp only at h
    split at h
    · cases h
    · next hwhole =>
      obtain ⟨-, hzero⟩ := Except.ite_ok_eq_ok.1 h
      have hquotient : Binary.numerator significand exponent / Binary.denominator exponent = 0 := by
        split at hzero <;> omega
      have hnumerator : Binary.numerator significand exponent = 0 := by
        have hdivided := Nat.div_add_mod (Binary.numerator significand exponent)
          (Binary.denominator exponent)
        rw [hquotient, Decidable.not_not.1 hwhole] at hdivided
        simpa using hdivided.symm
      rw [Binary.significand_eq_zero hnumerator] at hof
      exact Binary.beq_zero_of_ofFloat hof

/-- Port zero is read from a text that denotes zero, unless the text is empty or a single digit, and
from nothing else. -/
theorem readHostPort_eq_zero_iff {t : Json} :
    readHostPort t = .ok (some 0) ↔
      ∃ s, t = .str s ∧ s ≠ "" ∧ s ≠ "0" ∧ wholeOfText (trimmed s) = .ok 0 := by
  rw [readHostPort_eq_ok]
  constructor
  · rintro (⟨-, hnone⟩ | ⟨hset, n, hread, hn⟩)
    · cases hnone
    cases hn
    have hread := (readBounded_eq_ok.1 hread).1
    cases t with
    | str s =>
      obtain ⟨hempty, hdigit⟩ : s ≠ "" ∧ s ≠ "0" := by simpa [isUnset] using hset
      exact ⟨s, rfl, hempty, hdigit, hread⟩
    | int n =>
      cases hread
      cases hset
    | bool b =>
      cases b with
      | true => cases hread
      | false => cases hset
    | float x =>
      rw [show isUnset (.float x) = (x == 0.0) from rfl, beq_zero_of_wholeOfFloat hread] at hset
      cases hset
    | null => cases hset
    | arr | obj => cases hread
  · rintro ⟨s, rfl, hempty, hdigit, hread⟩
    refine .inr ⟨by simp [isUnset, hempty, hdigit], 0, readBounded_eq_ok.2 ⟨hread, ?_⟩, rfl⟩
    simp

end Kind

/-! ### Settings that are given again -/

/-- Only the port of the host is of its kind. -/
theorem Field.eq_hostPort_of_kind {f : Field} (h : f.kind = .hostPort) : f = .hostPort := by
  cases f <;> first | rfl | cases h

/-- The sources that give every field as it is written. -/
def Settings.sources (v : Settings) : Sources where
  overrides := Field.all.map fun f => (f.name, v.tree f)

/-- The settings as they are when they are given again. -/
def Settings.settled (v : Settings) : Settings := fun f => f.kind.settled (v f)

namespace Sources

theorem given?_sources (v : Settings) (f : Field) : v.sources.given? f = some (v.tree f) := by
  refine given?_of_override ?_
  unfold override? firstNamed? Settings.sources
  rw [List.find?_map]
  have hfind : Field.all.find? (fun g => Naming.folded.means f g.name) = some f := by
    rw [show (fun g : Field => Naming.folded.means f g.name) = fun g => decide (g.name = f.name) from
      funext fun g => by simp [Naming.folded, g.lower_name]]
    exact f.ofName?_name
  exact congrArg (Option.map Prod.snd) (congrArg (Option.map _) hfind)

/-- Normal settings are accepted as they are written, and are settled then. -/
theorem load_sources {v : Settings} (h : ∀ f : Field, f.kind.IsNormal (v f)) :
    v.sources.load = .ok v.settled := by
  have hvalue (f : Field) : v.sources.value f = .ok (v.settled f) := by
    unfold value
    rw [given?_sources]
    exact Kind.read_write (h f)
  rw [load_eq_ok_iff]
  constructor
  · refine List.flatMap_eq_nil_iff.2 fun f _ => ?_
    unfold issues
    rw [hvalue f]
  · funext f
    unfold valueOrDefault
    rw [hvalue f]

variable {s : Sources} {v : Settings}

/-- A field of accepted settings has its default if nothing is given for it, and else the value that
is read from what is given. -/
theorem value_of_load (h : s.load = .ok v) (f : Field) :
    (s.given? f = none ∧ v f = f.default) ∨
      ∃ t, s.given? f = some t ∧ f.kind.read t = .ok (v f) := by
  obtain ⟨hissues, rfl⟩ := load_eq_ok_iff.1 h
  have hissues : s.issues f = [] := List.flatMap_eq_nil_iff.1 hissues f f.mem_all
  unfold issues at hissues
  unfold valueOrDefault
  unfold value at hissues ⊢
  cases hgiven : s.given? f with
  | none => exact .inl ⟨rfl, rfl⟩
  | some t =>
    rw [hgiven] at hissues
    dsimp only at hissues ⊢
    cases hread : f.kind.read t with
    | ok a => exact .inr ⟨t, rfl, hread⟩
    | error reasons =>
      rw [hread] at hissues
      exact absurd (List.map_eq_nil_iff.1 hissues) (Kind.ne_nil_of_read_eq_error hread)

/-- Settings that are accepted are normal. -/
theorem isNormal_of_load (h : s.load = .ok v) (f : Field) : f.kind.IsNormal (v f) := by
  rcases value_of_load h f with ⟨-, hdefault⟩ | ⟨t, -, hread⟩
  · rw [hdefault]
    exact f.isNormal_default
  · exact Kind.isNormal_of_read hread

/-- Accepted settings have port zero iff a text is given for it that denotes zero and is neither
empty nor a single digit. -/
theorem hostPort_eq_zero_iff (h : s.load = .ok v) :
    (v .hostPort : Option Int) = some 0 ↔
      ∃ text, s.given? .hostPort = some (.str text) ∧ text ≠ "" ∧ text ≠ "0" ∧
        Kind.wholeOfText (Kind.trimmed text) = .ok 0 := by
  rcases value_of_load h .hostPort with ⟨hnone, hdefault⟩ | ⟨t, hgiven, hread⟩
  · rw [hnone, hdefault]
    simp [Field.default]
  · have hzero : (v .hostPort : Option Int) = some 0 ↔ Kind.readHostPort t = .ok (some 0) := by
      rw [Kind.single_eq_ok.1 hread]
      exact ⟨congrArg Except.ok, Except.ok.inj⟩
    rw [hzero, Kind.readHostPort_eq_zero_iff, hgiven]
    simp only [Option.some.injEq]

/-- A text that is not blank holds a character that is none. -/
theorem exists_of_not_allBlank {text : String} (h : Text.allBlank text = false) :
    ∃ c ∈ text.toList, Text.isBlank c = false := by
  simpa [Text.allBlank] using h

/-- **The normal form of settings.**  Accepted settings that are written down and given again, field
by field and from no other source, are accepted; the settings that come of it are their own normal
form.  They are the same settings, but for a port zero of the host, which is then no port.  Settings
have that port iff a text is given for it that denotes zero and is neither empty nor a single digit;
any other port is one from 1 to 65535.  Level and format are as they are normalised, and what may be
left out is not blank if it is there. -/
theorem normal_form (h : s.load = .ok v) :
    ∃ w, v.sources.load = .ok w ∧ w.sources.load = .ok w ∧
      (∀ f, f ≠ .hostPort → w f = v f) ∧
      (w .hostPort : Option Int) = (v .hostPort : Option Int).filter (· ≠ 0) ∧
      ((v .hostPort : Option Int) = some 0 ↔
        ∃ text, s.given? .hostPort = some (.str text) ∧ text ≠ "" ∧ text ≠ "0" ∧
          Kind.wholeOfText (Kind.trimmed text) = .ok 0) ∧
      (∀ n ∈ (v .hostPort : Option Int), n = 0 ∨ 1 ≤ n ∧ n ≤ 65535) ∧
      Kind.readLevel (.str (v .logLevel)) = .ok (v .logLevel) ∧
      Kind.readFormat (.str (v .logFormat)) = .ok (v .logFormat) ∧
      (∀ command ∈ (v .buildCommand : Option String),
        ∃ c ∈ command.toList, Text.isBlank c = false) ∧
      ∀ marker ∈ (v .readyMarker : Option String),
        ∃ c ∈ marker.toList, Text.isBlank c = false := by
  have normal := isNormal_of_load h
  have hload := load_sources normal
  refine ⟨_, hload, ?_, fun f hf => ?_, rfl, hostPort_eq_zero_iff h, fun n hn => ?_,
    Kind.single_eq_ok.1 (Kind.read_write (normal .logLevel)),
    Kind.single_eq_ok.1 (Kind.read_write (normal .logFormat)),
    fun command hcommand => exists_of_not_allBlank (normal .buildCommand command hcommand),
    fun marker hmarker => exists_of_not_allBlank (normal .readyMarker marker hmarker)⟩
  · -- what is settled is not changed when it is settled once more
    rw [load_sources (isNormal_of_load hload)]
    exact congrArg Except.ok (funext fun f => f.kind.settled_settled (v f))
  · exact Kind.settled_of_ne (fun hkind => hf (Field.eq_hostPort_of_kind hkind)) (v f)
  · obtain ⟨hleast, hgreatest⟩ := normal .hostPort n hn
    omega

/-- Settings with a level in small letters and a port zero that is a single digit are their own
normal form. -/
theorem normal_form_of_zero_digit :
    let s : Sources :=
      { overrides := [("host_port", .str "0")]
        environ := [("IRC_HARNESS_LOG_LEVEL", "debug"), ("IRC_HARNESS_BUILD_COMMAND", " ")] }
    ∃ v, s.load = .ok v ∧ v.sources.load = .ok v ∧ (v .hostPort : Option Int) = none ∧
      (v .logLevel : String) = "DEBUG" ∧ (v .buildCommand : Option String) = none := by
  intro s
  have accepted : s.allIssues.isEmpty = true := by decide +kernel
  have loaded : s.load = .ok s.valueOrDefault :=
    load_eq_ok_iff.2 ⟨List.isEmpty_iff.1 accepted, rfl⟩
  have hport : (s.valueOrDefault .hostPort : Option Int) = none := by decide +kernel
  obtain ⟨w, hw, -, hsame, hsettled, -⟩ := normal_form loaded
  obtain rfl : w = s.valueOrDefault := by
    funext f
    by_cases hf : f = .hostPort
    · subst hf
      exact hsettled.trans (by rw [hport]; rfl)
    · exact hsame f hf
  exact ⟨_, loaded, hw, hport, by decide +kernel, by decide +kernel⟩

/-- **A zero that is not recognised.**  Two digits zero are accepted as port zero.  Given again, it
is no port, so that the settings are not their own normal form. -/
theorem settings_changed_of_double_zero :
    let s : Sources := { overrides := [("host_port", .str "00")] }
    ∃ v w, s.load = .ok v ∧ v.sources.load = .ok w ∧ (v .hostPort : Option Int) = some 0 ∧
      (w .hostPort : Option Int) = none ∧ w ≠ v := by
  intro s
  have accepted : s.allIssues.isEmpty = true := by decide +kernel
  have loaded : s.load = .ok s.valueOrDefault :=
    load_eq_ok_iff.2 ⟨List.isEmpty_iff.1 accepted, rfl⟩
  have hport : (s.valueOrDefault .hostPort : Option Int) = some 0 := by decide +kernel
  have hnone : (Kind.settled .hostPort (s.valueOrDefault .hostPort) : Option Int) = none := by
    rw [hport]
    rfl
  refine ⟨_, _, loaded, load_sources (isNormal_of_load loaded), hport, hnone, fun hsame => ?_⟩
  have hchanged := congrFun hsame .hostPort
  rw [hport] at hchanged
  cases hchanged

end Sources
end ClientTrial
