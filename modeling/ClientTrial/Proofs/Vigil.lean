import Mathlib.Algebra.Order.Floor.Semiring
import Mathlib.Algebra.Order.Field.Rat
import Mathlib.Data.Rat.Floor
import Mathlib.Tactic.Linarith
import Mathlib.Tactic.Ring
import ClientTrial.Proofs.Search

/-!
# A wait in exact time

A wait for a marker looks, then reads the clock, then pauses.  In exact time, where clock
readings, the timeout and the pause are rationals, some time may pass after each of these, and
what is watched may grow between any two of them.  The wait always ends, and it never sees a
marker that is not there.  It may miss one that comes in time, though: before a "no" the clock
has reached the deadline, but the look before that reading may have been made sooner.  What is
there early enough for the last look is found, and if looks take no time, that is all that is
there by the deadline.

## Main definitions

* `Timeline` — what stands in a file at every instant, and the time that passes in between.
* `Vigil` — what a wait has done so far.
* `Timeline.lookout` — what a wait works with on a timeline.
* `Timeline.rounds` — the rounds of a wait.

## Main results

* `Timeline.run_looks_of_stopsAt` — the looks end in the first round that need not go on.
* `Timeline.exists_stopsAt` — there is such a round before more pauses than the time allows for.
* **`Timeline.vigil_of_wait`** — what a wait answers, and the instants of its looks.
-/

namespace ClientTrial

open Text (Octets)

/-- What stands in a file at every instant, where nothing is ever taken back, and the time that
passes after each look, after each reading of the clock and after each pause, before the next thing
is done. -/
structure Timeline where
  file : ℚ → Octets
  grows : ∀ {s t : ℚ}, s ≤ t → file s <+: file t
  afterLook : ℕ → ℚ
  afterReading : ℕ → ℚ
  afterPause : ℕ → ℚ
  afterLook_nonneg : ∀ i, 0 ≤ afterLook i
  afterReading_nonneg : ∀ i, 0 ≤ afterReading i
  afterPause_nonneg : ∀ i, 0 ≤ afterPause i

/-- What a wait has done by some instant. -/
structure Vigil where
  /-- The instant. -/
  now : ℚ
  /-- The instants that the clock has shown. -/
  readings : List ℚ := []
  /-- The instants of the looks. -/
  looks : List ℚ := []
  /-- The times that were let pass. -/
  sleeps : List ℚ := []

namespace Timeline

variable (w : Timeline)

/-- After a look. -/
def looking (v : Vigil) : Vigil :=
  { v with now := v.now + w.afterLook v.looks.length, looks := v.looks ++ [v.now] }

/-- After the clock was read. -/
def reading (v : Vigil) : Vigil :=
  { v with now := v.now + w.afterReading v.readings.length, readings := v.readings ++ [v.now] }

/-- After some time was let pass. -/
def sleeping (pause : ℚ) (v : Vigil) : Vigil :=
  { v with now := v.now + pause + w.afterPause v.sleeps.length, sleeps := v.sleeps ++ [pause] }

/-- What a wait works with on a timeline. -/
def lookout : Lookout (StateM Vigil) ℚ where
  readClock := modifyGet fun v => (v.now, w.reading v)
  sleep pause := modifyGet fun v => ((), w.sleeping pause v)
  read := modifyGet fun v => (Text.ofOctets (w.file v.now), w.looking v)
  report _ := pure ()

/-- A look at an instant finds a marker. -/
def Shows (marker : String) (t : ℚ) : Prop :=
  Text.contains (Text.ofOctets (w.file t)) marker = true

variable {w} {marker : String}

theorem shows_iff (hplain : Text.Utf8.replacement ∉ marker.toList) (t : ℚ) :
    w.Shows marker t ↔ Text.toOctets marker <:+: w.file t :=
  Text.contains_ofOctets_iff hplain (w.file t)

/-- A marker that stands in the file once stands there ever after. -/
theorem infix_of_le {s t : ℚ} (h : Text.toOctets marker <:+: w.file s) (hle : s ≤ t) :
    Text.toOctets marker <:+: w.file t :=
  h.trans (w.grows hle).isInfix

/-! ### Rounds -/

variable (w) (marker : String) (deadline pause : ℚ)

/-- The rounds of a wait.  A round need not go on if it finds the marker or if the clock, once it is
read after the look, has reached the deadline. -/
def rounds : Rounds Vigil where
  stops v := w.Shows marker v.now ∨ deadline ≤ (w.looking v).now
  goesOn v := ¬w.Shows marker v.now ∧ (w.looking v).now < deadline
  next v := w.sleeping pause (w.reading (w.looking v))

/-- The looks from some point on. -/
def looks (rounds : ℕ) : StateM Vigil (Option Bool) :=
  poll (w.lookout.look marker) (w.lookout.isLate deadline) (w.lookout.sleep pause) rounds

variable {w marker deadline pause}

theorem run_look (v : Vigil) :
    (w.lookout.look marker).run v =
      (Text.contains (Text.ofOctets (w.file v.now)) marker, w.looking v) := by
  have hread : (w.lookout.look marker).run v =
      (if Text.contains (Text.ofOctets (w.file v.now)) marker then do
        w.lookout.report marker
        pure true
      else pure false : StateM Vigil Bool).run (w.looking v) := rfl
  rw [hread]
  cases Text.contains (Text.ofOctets (w.file v.now)) marker <;> rfl

theorem run_isLate (v : Vigil) :
    (w.lookout.isLate deadline).run v = (decide (deadline ≤ v.now), w.reading v) := rfl

/-- A round that finds the marker ends the looks. -/
theorem run_looks_of_shows {v : Vigil} (h : w.Shows marker v.now) (n : ℕ) :
    (w.looks marker deadline pause (n + 1)).run v = (some true, w.looking v) := by
  unfold looks poll
  rw [StateT.run_bind, run_look, h]
  rfl

/-- A round that comes too late ends the looks. -/
theorem run_looks_of_late {v : Vigil} (h : ¬w.Shows marker v.now)
    (hlate : deadline ≤ (w.looking v).now) (n : ℕ) :
    (w.looks marker deadline pause (n + 1)).run v = (some false, w.reading (w.looking v)) := by
  unfold looks poll
  rw [StateT.run_bind, run_look, Bool.eq_false_iff.2 h]
  change (StateT.run (w.lookout.isLate deadline >>= _) (w.looking v)) = _
  rw [StateT.run_bind, run_isLate, decide_eq_true hlate]
  rfl

/-- Any other round is followed by the next. -/
theorem run_looks_of_goesOn {v : Vigil} (h : ¬w.Shows marker v.now)
    (hearly : (w.looking v).now < deadline) (n : ℕ) :
    (w.looks marker deadline pause (n + 1)).run v =
      (w.looks marker deadline pause n).run ((w.rounds marker deadline pause).next v) := by
  rw [looks, poll, StateT.run_bind, run_look, Bool.eq_false_iff.2 h]
  change (StateT.run (w.lookout.isLate deadline >>= _) (w.looking v)) = _
  rw [StateT.run_bind, run_isLate, decide_eq_false (not_le.2 hearly)]
  rfl

/-! ### All rounds -/

/-- What the looks come to in a round that need not go on, and what they leave. -/
def ending (w : Timeline) (marker : String) (v : Vigil) : Option Bool × Vigil :=
  match Text.contains (Text.ofOctets (w.file v.now)) marker with
  | true => (some true, w.looking v)
  | false => (some false, w.reading (w.looking v))

/-- The looks end in the first round that need not go on, however many more there could be. -/
theorem run_looks_of_stopsAt {n : ℕ} {v : Vigil}
    (h : (w.rounds marker deadline pause).StopsAt n v) (more : ℕ) :
    (w.looks marker deadline pause (n + more + 1)).run v =
      w.ending marker ((w.rounds marker deadline pause).after n v) := by
  induction n generalizing v with
  | zero =>
    have hstops := (Rounds.stopsAt_zero _).1 h
    rw [Nat.zero_add, Rounds.after, ending]
    cases hfound : Text.contains (Text.ofOctets (w.file v.now)) marker with
    | true => exact run_looks_of_shows hfound more
    | false =>
      have hlacks : ¬w.Shows marker v.now := Bool.eq_false_iff.1 hfound
      have hlate : deadline ≤ (w.looking v).now := hstops.resolve_left hlacks
      exact run_looks_of_late hlacks hlate more
  | succ n ih =>
    obtain ⟨⟨hlacks, hearly⟩, hstops⟩ := (Rounds.stopsAt_succ _).1 h
    have hcount : n + 1 + more + 1 = (n + more + 1) + 1 := by omega
    rw [hcount, run_looks_of_goesOn hlacks hearly, ih hstops, Rounds.after]

/-- A round takes what passes after its look, its reading and its pause, and the pause. -/
theorem now_next (v : Vigil) :
    ((w.rounds marker deadline pause).next v).now =
      v.now + w.afterLook v.looks.length + w.afterReading v.readings.length + pause +
        w.afterPause v.sleeps.length := rfl

/-- Each round takes at least its pause, so some round need not go on. -/
theorem exists_stopsAt {n : ℕ} {v : Vigil}
    (hdeadline : deadline ≤ v.now + n * pause) :
    ∃ k ≤ n, (w.rounds marker deadline pause).StopsAt k v := by
  induction n generalizing v with
  | zero =>
    have hlooked : v.now ≤ (w.looking v).now :=
      le_add_of_nonneg_right (w.afterLook_nonneg v.looks.length)
    have hlate : deadline ≤ v.now := by simpa using hdeadline
    exact ⟨0, le_rfl, (Rounds.stopsAt_zero _).2 (.inr (hlate.trans hlooked))⟩
  | succ n ih =>
    by_cases hstops : w.Shows marker v.now ∨ deadline ≤ (w.looking v).now
    · exact ⟨0, Nat.zero_le _, (Rounds.stopsAt_zero _).2 hstops⟩
    · rw [not_or, not_le] at hstops
      have hlook := w.afterLook_nonneg v.looks.length
      have hreading := w.afterReading_nonneg v.readings.length
      have hpaused := w.afterPause_nonneg v.sleeps.length
      push_cast at hdeadline
      have hleft : deadline ≤ ((w.rounds marker deadline pause).next v).now + n * pause := by
        rw [now_next]
        linarith
      obtain ⟨k, hk, hlater⟩ := ih hleft
      exact ⟨k + 1, Nat.succ_le_succ hk, (Rounds.stopsAt_succ _).2 ⟨hstops, hlater⟩⟩

/-- The instants of the looks that some rounds make. -/
theorem looks_after (n : ℕ) (v : Vigil) :
    ((w.rounds marker deadline pause).after n v).looks =
      v.looks ++ (List.range n).map fun i => ((w.rounds marker deadline pause).after i v).now := by
  induction n generalizing v with
  | zero => simp [Rounds.after]
  | succ n ih =>
    have hnext : ((w.rounds marker deadline pause).next v).looks = v.looks ++ [v.now] := rfl
    rw [Rounds.after, ih, hnext, List.range_succ_eq_map]
    simp [Rounds.after]

theorem sleeps_after (n : ℕ) (v : Vigil) :
    ((w.rounds marker deadline pause).after n v).sleeps = v.sleeps ++ List.replicate n pause := by
  induction n generalizing v with
  | zero => simp [Rounds.after]
  | succ n ih =>
    have hnext : ((w.rounds marker deadline pause).next v).sleeps = v.sleeps ++ [pause] := rfl
    rw [Rounds.after, ih, hnext, List.append_assoc]
    rfl

variable (w) in
/-- No time passes but in pauses. -/
structure IsPrompt : Prop where
  look : ∀ i, w.afterLook i = 0
  reading : ∀ i, w.afterReading i = 0
  pause : ∀ i, w.afterPause i = 0

/-- If no time passes but in pauses, the rounds are made one pause after the other. -/
theorem now_after (hprompt : w.IsPrompt) (n : ℕ) (v : Vigil) :
    ((w.rounds marker deadline pause).after n v).now = v.now + n * pause := by
  induction n generalizing v with
  | zero => simp [Rounds.after]
  | succ n ih =>
    rw [Rounds.after, ih, now_next, hprompt.look, hprompt.reading, hprompt.pause]
    push_cast
    ring

/-! ### The wait -/

/-- The wait that starts at an instant, after its first reading of the clock. -/
theorem run_wait (timeout start : ℚ) (rounds : ℕ) :
    (w.lookout.wait marker timeout pause rounds).run { now := start } =
      (w.looks marker (start + timeout) pause rounds).run (w.reading { now := start }) := rfl

/-- What the looks come to in a round, told by the marker at its instant. -/
theorem ending_eq (w : Timeline) (marker : String) (v : Vigil) :
    ∃ found e, w.ending marker v = (some found, e) ∧ (found = true ↔ w.Shows marker v.now) ∧
      e.looks = v.looks ++ [v.now] ∧ e.sleeps = v.sleeps ∧
      (found = true → e.now = (w.looking v).now) ∧
      (found = false → e.now = (w.reading (w.looking v)).now ∧
        e.readings.getLast? = some (w.looking v).now) := by
  unfold ending Shows
  cases Text.contains (Text.ofOctets (w.file v.now)) marker with
  | true => exact ⟨true, _, rfl, by simp, rfl, rfl, fun _ => rfl, fun h => nomatch h⟩
  | false =>
    exact ⟨false, _, rfl, by simp, rfl, rfl, (fun h => nomatch h),
      fun _ => ⟨rfl, List.getLast?_concat⟩⟩

/-- A wait ends before more pauses than the time allows for. -/
theorem exists_stopsAt_wait (w : Timeline) (marker : String) (timeout : ℚ) {pause : ℚ}
    (hpause : 0 < pause) (start : ℚ) :
    ∃ n ≤ ⌈timeout / pause⌉₊,
      (w.rounds marker (start + timeout) pause).StopsAt n (w.reading { now := start }) := by
  have hstart : (w.reading { now := start }).now = start + w.afterReading 0 := rfl
  have hcost := w.afterReading_nonneg 0
  have hceil := Nat.le_ceil (timeout / pause)
  rw [div_le_iff₀ hpause] at hceil
  refine exists_stopsAt ?_
  rw [hstart]
  linarith

/-- **A wait always ends, and it sees no marker that is not there.**  However many rounds there could
be, its answer is the same, and there are no more pauses than the time allows for.  It is "yes" iff
the last look finds the marker; before a "no" the clock has been read once more after that look, and
has reached the deadline.  So a marker is found that stands in the file by the deadline less the time
that passes between a look and the reading after it.  If no time passes but in pauses, the looks are
made one pause after the other, the first that finds the marker is the last, and a "no" comes less
than one pause after the deadline. -/
theorem vigil_of_wait (w : Timeline) {marker : String}
    (hplain : Text.Utf8.replacement ∉ marker.toList) {timeout pause : ℚ} (htimeout : 0 ≤ timeout)
    (hpause : 0 < pause) (start : ℚ) :
    ∃ found v, ∃ n ≤ ⌈timeout / pause⌉₊,
      (∀ rounds > ⌈timeout / pause⌉₊,
        (w.lookout.wait marker timeout pause rounds).run { now := start } = (some found, v)) ∧
      v.looks.length = n + 1 ∧ v.sleeps = List.replicate n pause ∧
      (∃ last, v.looks.getLast? = some last ∧ (found = true → w.Shows marker last) ∧
        (found = false → ¬w.Shows marker last ∧
          v.readings.getLast? = some (last + w.afterLook n) ∧
          start + timeout ≤ last + w.afterLook n)) ∧
      (∀ gap, (∀ i, w.afterLook i ≤ gap) →
        ∀ t ≤ start + timeout - gap, Text.toOctets marker <:+: w.file t → found = true) ∧
      (w.IsPrompt →
        v.looks = ((List.range (n + 1)).map fun i : ℕ => start + i * pause) ∧
        v.now = start + n * pause ∧
        (∀ i < n, ¬w.Shows marker (start + i * pause)) ∧
        (found = true → w.Shows marker (start + n * pause)) ∧
        (found = false → n = ⌈timeout / pause⌉₊ ∧ v.now < start + timeout + pause)) := by
  set first := w.reading { now := start } with hfirst
  set r := w.rounds marker (start + timeout) pause with hr
  obtain ⟨n, hn, hstops⟩ : ∃ n ≤ ⌈timeout / pause⌉₊, r.StopsAt n first :=
    w.exists_stopsAt_wait marker timeout hpause start
  obtain ⟨found, v, hending, hfound, hlooks, hsleeps, hyes, hno⟩ :=
    w.ending_eq marker (r.after n first)
  have hbefore : (r.after n first).looks =
      (List.range n).map fun i => (r.after i first).now := looks_after n first
  have hlooked : (w.looking (r.after n first)).now = (r.after n first).now + w.afterLook n := by
    change _ + w.afterLook (r.after n first).looks.length = _
    rw [hbefore, List.length_map, List.length_range]
  have hlate : found = false → ¬w.Shows marker (r.after n first).now ∧
      start + timeout ≤ (r.after n first).now + w.afterLook n := by
    intro h
    have hlacks : ¬w.Shows marker (r.after n first).now := by
      rw [← hfound, h]
      exact Bool.false_ne_true
    refine ⟨hlacks, ?_⟩
    rw [← hlooked]
    exact hstops.1.resolve_left hlacks
  refine ⟨found, v, n, hn, fun rounds hrounds => ?_, ?_, ?_,
    ⟨_, ?_, hfound.1, fun h => ⟨(hlate h).1, ?_, (hlate h).2⟩⟩, fun gap hgap t ht hmarker => ?_,
    fun hprompt => ?_⟩
  · obtain ⟨more, rfl⟩ : ∃ more, rounds = n + more + 1 := ⟨rounds - n - 1, by omega⟩
    rw [run_wait, run_looks_of_stopsAt hstops, ← hending]
  · rw [hlooks, hbefore, List.length_append, List.length_map, List.length_range]
    rfl
  · rw [hsleeps, hr, sleeps_after]
    rfl
  · rw [hlooks, List.getLast?_concat]
  · rw [(hno h).2, hlooked]
  · -- a marker that stands there early enough still stands there at the last look
    by_contra h
    obtain ⟨hlacks, hreached⟩ := hlate (Bool.eq_false_iff.2 h)
    have hlast := hgap n
    exact hlacks ((shows_iff hplain _).2 (infix_of_le hmarker (by linarith)))
  · have hinstant (i : ℕ) : (r.after i first).now = start + i * pause := by
      rw [hr, now_after hprompt, hfirst]
      change start + w.afterReading 0 + _ = _
      rw [hprompt.reading, add_zero]
    have hend : v.now = start + n * pause := by
      rw [← hinstant]
      cases hanswer : found with
      | true => rw [hyes hanswer, hlooked, hprompt.look, add_zero]
      | false =>
        rw [(hno hanswer).1]
        change (w.looking (r.after n first)).now + w.afterReading _ = _
        rw [hprompt.reading, hlooked, hprompt.look, add_zero, add_zero]
    refine ⟨?_, hend, fun i hi => ?_, ?_, fun h => ?_⟩
    · rw [hlooks, hbefore, List.range_succ, List.map_append]
      simp only [hinstant, List.map_cons, List.map_nil]
    · rw [← hinstant]
      exact (hstops.2 i hi).1
    · rw [← hinstant]
      exact hfound.1
    · obtain ⟨-, hreached⟩ := hlate h
      rw [hinstant, hprompt.look, add_zero] at hreached
      have henough : ⌈timeout / pause⌉₊ ≤ n := by
        rw [Nat.ceil_le, div_le_iff₀ hpause]
        linarith
      have hcount : n = ⌈timeout / pause⌉₊ := le_antisymm hn henough
      have hover : (⌈timeout / pause⌉₊ : ℚ) < timeout / pause + 1 :=
        Nat.ceil_lt_add_one (div_nonneg htimeout hpause.le)
      have hpauses := mul_lt_mul_of_pos_right hover hpause
      rw [add_mul, div_mul_cancel₀ timeout hpause.ne', one_mul] at hpauses
      refine ⟨hcount, ?_⟩
      rw [hend, hcount]
      linarith

/-! ### A word that comes late -/

/-- A file that a word is written to at some instant, while some time passes after each look. -/
def lateWord (word : String) (instant : ℚ) {lag : ℚ} (hlag : 0 ≤ lag) : Timeline where
  file t := if t < instant then [] else Text.toOctets word
  grows := by
    intro s t hle
    by_cases ht : t < instant
    · rw [if_pos (lt_of_le_of_lt hle ht), if_pos ht]
    · rw [if_neg ht]
      split
      · exact List.nil_prefix
      · exact List.prefix_rfl
  afterLook _ := lag
  afterReading _ := 0
  afterPause _ := 0
  afterLook_nonneg _ := hlag
  afterReading_nonneg _ := le_rfl
  afterPause_nonneg _ := le_rfl

variable {word : String} {instant lag : ℚ} {hlag : 0 ≤ lag} {t : ℚ}

theorem file_lateWord_of_le (h : instant ≤ t) :
    (lateWord word instant hlag).file t = Text.toOctets word := if_neg (not_lt.2 h)

/-- Before its instant the word is not there. -/
theorem not_shows_lateWord (hword : Text.contains (Text.ofOctets []) word = false)
    (h : t < instant) : ¬(lateWord word instant hlag).Shows word t := by
  have hempty : (lateWord word instant hlag).file t = [] := if_pos h
  rw [Shows, hempty, hword]
  exact Bool.false_ne_true

theorem vigil_of_lateWord :
    Text.Utf8.replacement ∉ "joined".toList ∧ (0 : ℚ) ≤ 5 ∧ (0 : ℚ) < 1 / 4 ∧
      ∃ v, (∀ rounds > 20, ((lateWord "joined" (1 / 2) le_rfl).lookout.wait "joined" 5 (1 / 4)
        rounds).run { now := 0 } = (some true, v)) ∧ v.sleeps = [1 / 4, 1 / 4] := by
  have hplain : Text.Utf8.replacement ∉ "joined".toList := by decide
  have hrounds : ⌈(5 : ℚ) / (1 / 4)⌉₊ = 20 := by norm_num
  obtain ⟨found, v, n, -, hrun, -, hsleeps, -, hfound, hprompt⟩ :=
    vigil_of_wait (lateWord "joined" (1 / 2) le_rfl) hplain (show (0 : ℚ) ≤ 5 by norm_num)
      (show (0 : ℚ) < 1 / 4 by norm_num) 0
  obtain ⟨-, -, hbefore, hshows, -⟩ := hprompt ⟨fun _ => rfl, fun _ => rfl, fun _ => rfl⟩
  have hyes : found = true := by
    refine hfound 0 (fun _ => le_rfl) 5 (by norm_num) ?_
    rw [file_lateWord_of_le (by norm_num)]
  have habsent {t : ℚ} (ht : t < 1 / 2) : ¬(lateWord "joined" (1 / 2) le_rfl).Shows "joined" t :=
    not_shows_lateWord (by decide) ht
  have hpresent : (lateWord "joined" (1 / 2) le_rfl).Shows "joined" (1 / 2) := by
    rw [shows_iff hplain, file_lateWord_of_le le_rfl]
  have htwo : n = 2 := by
    rcases Nat.lt_trichotomy n 2 with hlt | heq | hgt
    · have hn : (n : ℚ) < 2 := by exact_mod_cast hlt
      exact absurd (hshows hyes) (habsent (by linarith))
    · exact heq
    · refine absurd ?_ (hbefore 2 hgt)
      convert hpresent using 1
      norm_num
  refine ⟨hplain, by norm_num, by norm_num, v, ?_, ?_⟩
  · rw [hrounds, hyes] at hrun
    exact hrun
  · rw [hsleeps, htwo]
    rfl

/-- A quarter of a second passes after each look.  The last look is made after three quarters of a
second, before the word is written, and the clock is read when the second is over, after the word
has been written: the wait answers "no", though the word stood in the file before the deadline. -/
theorem lateWord_missed :
    let w := lateWord "joined" (7 / 8) (show (0 : ℚ) ≤ 1 / 4 by norm_num)
    ∃ v, (∀ rounds > 2, (w.lookout.wait "joined" 1 (1 / 2) rounds).run { now := 0 } =
        (some false, v)) ∧
      v.looks.getLast? = some (3 / 4) ∧ (3 / 4 : ℚ) < 0 + 1 ∧
      (7 / 8 : ℚ) ≤ 0 + 1 ∧ Text.toOctets "joined" <:+: w.file (7 / 8) := by
  intro w
  set r := w.rounds "joined" (0 + 1) (1 / 2) with hr
  set first : Vigil := w.reading { now := 0 } with hfirst
  have hzero : first.now = 0 := add_zero 0
  have hthree : (r.next first).now = 3 / 4 := by
    change (0 + 0 + 1 / 4 + 0 + 1 / 2 + 0 : ℚ) = 3 / 4
    norm_num
  have hfirstLook : (w.looking first).now = 1 / 4 := by
    change (0 + 0 + 1 / 4 : ℚ) = 1 / 4
    norm_num
  have hlastLook : (w.looking (r.next first)).now = 1 := by
    change (r.next first).now + 1 / 4 = 1
    rw [hthree]
    norm_num
  have habsent {t : ℚ} (ht : t < 7 / 8) : ¬w.Shows "joined" t := not_shows_lateWord (by decide) ht
  have hstops : r.StopsAt 1 first := by
    refine (Rounds.stopsAt_succ _).2 ⟨⟨?_, ?_⟩, (Rounds.stopsAt_zero _).2 (.inr ?_)⟩
    · rw [hzero]
      exact habsent (by norm_num)
    · rw [hfirstLook]
      norm_num
    · rw [hlastLook]
      norm_num
  have hending : w.ending "joined" (r.next first) =
      (some false, w.reading (w.looking (r.next first))) := by
    have hlacks : ¬w.Shows "joined" (r.next first).now := by
      rw [hthree]
      exact habsent (by norm_num)
    unfold ending
    rw [Bool.eq_false_iff.2 hlacks]
  refine ⟨w.reading (w.looking (r.next first)), fun rounds hrounds => ?_, ?_, by norm_num,
    by norm_num, ?_⟩
  · obtain ⟨more, rfl⟩ : ∃ more, rounds = 1 + more + 1 := ⟨rounds - 2, by omega⟩
    rw [run_wait, run_looks_of_stopsAt hstops, ← hending]
    rfl
  · change ((r.next first).looks ++ [(r.next first).now]).getLast? = _
    rw [List.getLast?_concat, hthree]
  · rw [file_lateWord_of_le le_rfl]

end Timeline
end ClientTrial
