import ClientTrial.Proofs.Text.Words
import ClientTrial.Proofs.Trial.Address

/-!
# The commands of a trial

A trial runs the commands that it is configured with, in their words, and no others: the
build and the sender are run to their end and the receiver is started in the background, each
in its stage and once.  The receiver is not started if its output cannot be opened.  A command
that has no words is a fault, which is raised when its stage comes to it.

Words that are written as a command come through unchanged, whatever characters they are made
of: settings are accepted with that command, have these words for it, and these are the words
of the process.

## Main definitions

* `Effect.command?` — the command of an effect.
* `Trial.commands` — the commands that are run or started in a visit.
* `Trial.OpensOutput` — the file for the receiver's output can be opened.

## Main results

* `Client.trace_runForeground`, `Client.trace_runBackground` — a client leaves one effect.
* `Trial.commands_startReceiver`, `commands_runSender`, `commands_build` — what each visit
  runs.
* `Trial.commands_of_run` — what a whole trial runs.
* `Trial.words_reach_processes` — **the words of a command are those of its process, and a
  command has none iff it is malformed**.
-/

namespace ClientTrial

open Act

/-- The command of an effect, if the effect is to run it or to start it. -/
def Effect.command? : Effect → Option (List String)
  | .run command _ _ _ => some command
  | .spawn command _ _ _ => some command
  | _ => none

/-! ### What a client leaves -/

namespace Still

open Act.Frame

variable {α β : Type}

/-- What follows keeps still. -/
theorem trace_bind {act : Act α} {f : α → Act β} (hf : ∀ a, still.Keeps (f a)) (b : Bench) :
    ((act >>= f).exec b).2.trace = (act.exec b).2.trace := by
  rcases h : act.exec b with ⟨r | a, c⟩
  · rw [exec_bind_of_error h]
  · rw [exec_bind_of_ok h]
    exact (hf a c).trace

/-- One effect is noted, and what follows keeps still. -/
theorem trace_note_bind {e : Effect} {f : Unit → Act β} (hf : still.Keeps (f ())) (b : Bench) :
    ((note e >>= f).exec b).2.trace = b.trace.push e := by
  rw [exec_bind_of_ok (exec_note e b)]
  exact (hf _).trace

theorem trace_runErrand (command : List String) (environ : List (String × String))
    (dir : Option String) (timeout : Option Float) (b : Bench) :
    ((runErrand command environ dir timeout).exec b).2.trace
      = b.trace.push (.run command environ dir timeout) := by
  obtain ⟨rest, hrest, heq⟩ := exists_runErrand command environ dir timeout
  rw [heq, exec_bind_of_ok (exec_ask _ b), exec_bind_of_ok (exec_change _ b)]
  exact trace_note_bind (hrest _) _

theorem trace_spawn (command : List String) (environ : List (String × String))
    (dir : Option String) (route : Route) (n : Nat) (b : Bench) :
    ((spawn command environ dir route n).exec b).2.trace
      = b.trace.push (.spawn command environ dir route.text) := by
  obtain ⟨rest, hrest, heq⟩ := exists_spawn command environ dir route n
  rw [heq, exec_bind_of_ok (exec_ask _ b), exec_bind_of_ok (exec_change _ b)]
  exact trace_note_bind (hrest _) _

end Still

namespace Client

variable {command : List String} {added : List (String × String)}

/-- A client that is run to its end leaves one effect, whatever becomes of it. -/
theorem trace_runForeground (timeout : Option Float) (b : Bench) :
    ((runForeground command added timeout).exec b).2.trace
      = b.trace.push (.run command (overlay b.environ added) b.workingDir timeout) := by
  obtain ⟨after, hafter, heq⟩ := Still.exists_runForeground command added timeout
  rw [heq, exec_bind_of_ok (exec_say _ b), exec_bind_of_ok (exec_ask _ _),
    exec_bind_of_ok (exec_ask _ _), Still.trace_bind hafter]
  exact Still.trace_runErrand _ _ _ _ _

/-- A client that is started in the background leaves one effect, whatever becomes of it, and none
if its output cannot be opened. -/
theorem trace_runBackground (route : Route) (b : Bench) :
    ((runBackground command added route).exec b).2.trace
      = match (openOutput route).exec b with
        | (.ok _, _) =>
          b.trace.push (.spawn command (overlay b.environ added) b.workingDir route.text)
        | (.error _, _) => b.trace := by
  obtain ⟨after, hafter, heq⟩ := Still.exists_runBackground command added route
  have hstill := Still.keeps_openOutput route b
  rw [heq]
  rcases hopen : (openOutput route).exec b with ⟨r | n, c⟩
  · rw [hopen] at hstill
    rw [exec_bind_of_error hopen]
    exact hstill.trace
  · rw [hopen] at hstill
    rw [exec_bind_of_ok hopen, exec_bind_of_ok (exec_ask _ c), exec_bind_of_ok (exec_ask _ c),
      Still.trace_bind (hafter n)]
    refine (Still.trace_spawn _ _ _ _ _ _).trans ?_
    rw [hstill.trace, hstill.environ, hstill.dir]

end Client

namespace Trial

variable (t : Trial)

/-! ### What a visit runs -/

/-- The commands that are run or started in a visit. -/
def commands (v : Visit) : List (List String) := (t.leaves v).filterMap Effect.command?

/-- The file for the receiver's output can be opened. -/
def OpensOutput (b : Bench) : Prop := (openOutput t.output).Answers b

variable {t}

/-- What is added to the trace is what the visit leaves. -/
theorem commands_of_trace {v : Visit} {e : Effect}
    (h : (t.performed .usual v).2.trace = v.bench.trace.push e) :
    t.commands v = [e].filterMap Effect.command? := by
  rw [commands, leaves, h, Array.toList_push, List.drop_left]

/-- What follows the split of a command into words. -/
theorem trace_wordsOf_bind {α β : Type} {words : Except Text.CommandError α} {list : α}
    (hwords : words = .ok list) (f : α → Act β) (b : Bench) :
    ((wordsOf words >>= f).exec b).2.trace = ((f list).exec b).2.trace := by
  rw [exec_bind_of_ok (exec_wordsOf_eq_ok.2 ⟨hwords, rfl⟩)]

section

variable {b : Bench} {v : Visit} {list : List String}

/-- The build is run once, in its words. -/
theorem commands_build (hstage : v.stage = .build)
    (hwords : t.settings.buildWords = .ok (some list)) : t.commands v = [list] := by
  obtain ⟨stage, p, c⟩ := v
  subst hstage
  refine commands_of_trace (e := .run list (overlay c.environ []) c.workingDir none) ?_
  unfold performed perform
  rw [trace_wordsOf_bind hwords]
  exact (Still.trace_bind (fun _ => Frame.keeps_pure p) c).trans (Client.trace_runForeground none c)

variable (hv : v ∈ (t.journey .usual b).visits)
include hv

/-- A stage that a client is run or started in is visited with a server. -/
theorem exists_server_of_mem_visits
    (hstage : v.stage ∈ [.awaitReadiness, .startReceiver, .runSender]) :
    ∃ s, v.progress.server = some s :=
  Option.isSome_iff_exists.1 ((t.supplied_journey .usual b v hv).server hstage)

/-- The sender is run once, in its words. -/
theorem commands_runSender (hstage : v.stage = .runSender)
    (hwords : t.settings.senderWords = .ok list) : t.commands v = [list] := by
  obtain ⟨s, hs⟩ := exists_server_of_mem_visits hv (by simp [hstage])
  obtain ⟨stage, p, c⟩ := v
  subst hstage
  dsimp only at hs
  refine commands_of_trace (e := .run list (overlay c.environ (t.addressBinding s)) c.workingDir
    (t.settings .senderTimeout)) ?_
  simp only [performed, perform, hs]
  rw [trace_wordsOf_bind hwords]
  exact (Still.trace_bind (fun _ => Frame.keeps_pure p) c).trans (Client.trace_runForeground _ c)

/-- The receiver is started once, in its words, if its output can be opened. -/
theorem commands_startReceiver (hstage : v.stage = .startReceiver)
    (hwords : t.settings.receiverWords = .ok list) :
    t.OpensOutput v.bench ∧ t.commands v = [list] ∨
      ¬ t.OpensOutput v.bench ∧ t.commands v = [] := by
  obtain ⟨s, hs⟩ := exists_server_of_mem_visits hv (by simp [hstage])
  obtain ⟨stage, p, c⟩ := v
  subst hstage
  dsimp only at hs
  have htrace : (t.performed .usual ⟨.startReceiver, p, c⟩).2.trace
      = ((Client.runBackground list (t.addressBinding s) t.output).exec c).2.trace := by
    simp only [performed, perform, hs]
    rw [trace_wordsOf_bind hwords]
    exact Still.trace_bind (fun _ => Frame.keeps_pure _) c
  rw [Client.trace_runBackground] at htrace
  rcases hopen : (openOutput t.output).exec c with ⟨r | n, d⟩
  · rw [hopen] at htrace
    refine .inr ⟨not_answers_of_exec hopen, ?_⟩
    rw [commands, leaves, htrace, List.drop_length]
    rfl
  · rw [hopen] at htrace
    exact .inl ⟨answers_of_exec hopen, commands_of_trace htrace⟩

end

/-! ### What a trial runs -/

/-- Effects that are meant for a server run commands in three stages only. -/
theorem command?_of_addressed {s : Server} {stage : Stage} {environ : List (String × String)}
    {e : Effect} (h : t.Addressed s stage environ e)
    (hstage : stage ∉ [.build, .startReceiver, .runSender]) : e.command? = none := by
  cases e with
  | run => rcases h with ⟨rfl, -⟩ | ⟨rfl, -⟩ <;> simp at hstage
  | spawn =>
    obtain ⟨rfl, -⟩ := h
    simp at hstage
  | _ => rfl

/-- What a whole trial runs is what its visits run, and nothing after them. -/
theorem commands_of_run (t : Trial) {b : Bench} {fs : Files}
    (made : b.files.makeDir t.artifacts = .ok fs) :
    let j := t.journey .usual (t.outset fs b)
    (t.run.exec b).2.trace.toList.filterMap Effect.command?
        = b.trace.toList.filterMap Effect.command? ++ j.visits.flatMap t.commands ∧
      ∀ v ∈ j.visits, v.stage ∉ [.build, .startReceiver, .runSender] → t.commands v = [] := by
  intro j
  obtain ⟨server, -, hfind⟩ := t.exists_server (t.outset fs b)
  obtain ⟨hvisits, -, htrace⟩ := t.adds_journey hfind
  obtain ⟨-, cleaning, hmore, hcleaning⟩ :=
    adds_homecoming (t := t) (s := server) (Moment.ofClock b.clock) j
  have hquiet : cleaning.filterMap Effect.command? = [] := by
    rw [List.filterMap_eq_nil_iff]
    intro e he
    exact command?_of_addressed (hcleaning e he) (by simp)
  constructor
  · rw [t.trace_run_of_makeDir_ok made]
    have hall := hmore.trans (congrArg (· ++ cleaning) htrace)
    rw [hall, List.filterMap_append, List.filterMap_append, hquiet, List.append_nil,
      List.filterMap_flatMap]
    rfl
  · intro v hv hstage
    rw [commands, List.filterMap_eq_nil_iff]
    intro e he
    exact command?_of_addressed (hvisits v hv e he) hstage

/-! ### Malformed commands -/

/-- To split a command into words raises a fault of its value. -/
def RaisesValue {α : Type} (words : Except Text.CommandError α) : Prop :=
  ∀ b : Bench, ∃ f : Fault, f.kind = .value ∧ (wordsOf words).exec b = (.error (.fault f), b)

theorem raisesValue_iff {α : Type} {words : Except Text.CommandError α} :
    RaisesValue words ↔ ∃ e, words = .error e := by
  constructor
  · intro h
    obtain ⟨f, -, hf⟩ := h Bench.quiet
    cases words with
    | error e => exact ⟨e, rfl⟩
    | ok list => cases hf
  · rintro ⟨e, rfl⟩ b
    exact ⟨_, rfl, rfl⟩

theorem raisesValue_words_iff {command : String} :
    RaisesValue (Text.words command) ↔ Text.IsMalformed command := by
  rw [raisesValue_iff, Text.IsMalformed, ← Text.words_eq_openQuote_iff,
    ← Text.words_eq_danglingEscape_iff]
  constructor
  · rintro ⟨_ | _, h⟩
    · exact .inl h
    · exact .inr h
  · rintro (h | h)
    · exact ⟨_, h⟩
    · exact ⟨_, h⟩

theorem raisesValue_buildWords_iff {s : Settings} :
    RaisesValue s.buildWords ↔
      ∃ command, (s .buildCommand : Option String) = some command ∧ Text.IsMalformed command := by
  unfold Settings.buildWords
  cases h : (s .buildCommand : Option String) with
  | none => simp [raisesValue_iff]
  | some command =>
    have hmap : RaisesValue ((Text.words command).map some) ↔ RaisesValue (Text.words command) := by
      rw [raisesValue_iff, raisesValue_iff]
      cases Text.words command <;> simp [Except.map]
    by_cases hempty : command = ""
    · subst hempty
      have hnone : ¬ Text.IsMalformed "" := by
        rw [← raisesValue_words_iff, raisesValue_iff]
        rintro ⟨e, he⟩
        cases he
      simp [raisesValue_iff, hnone]
    · simp [hempty, hmap, raisesValue_words_iff]

/-! ### Words that are written as a command -/

theorem not_allBlank_commandOf {list : List String} (hne : list ≠ []) :
    Text.allBlank (Text.commandOf list) = false := by
  obtain ⟨word, list, rfl⟩ := List.exists_cons_of_ne_nil hne
  obtain ⟨rest, hrest⟩ := Text.toList_commandOf word list
  have hquote : Text.isBlank '\x27' = false := by decide
  rw [Text.allBlank, hrest, List.all_cons, hquote, Bool.false_and]

theorem buildWords_commandOf {s : Settings} {list : List String} (hne : list ≠ [])
    (hs : (s .buildCommand : Option String) = some (Text.commandOf list)) :
    s.buildWords = .ok (some list) := by
  have hempty : Text.commandOf list ≠ "" := by
    intro h
    have hblank := not_allBlank_commandOf hne
    rw [h] at hblank
    cases hblank
  unfold Settings.buildWords
  rw [hs]
  dsimp only
  rw [if_neg hempty, Text.words_commandOf]
  rfl

/-- **Words reach their processes.**  A command that is written for some words is accepted as it is
for the receiver, the sender and the build.  It has these words, and a trial that comes to the
stage of the command runs it in these words and in no others; the receiver is started unless its
output cannot be opened.  Nothing else is run.  A command raises a fault of its value iff it leaves
a quote open or ends in an unfinished escape. -/
theorem words_reach_processes :
    (∀ list : List String, list ≠ [] →
      let command := Text.commandOf list
      (∀ s : Sources,
        (s.given? .receiverCommand = some (.str command) → s.value .receiverCommand = .ok command) ∧
        (s.given? .senderCommand = some (.str command) → s.value .senderCommand = .ok command) ∧
        (s.given? .buildCommand = some (.str command) →
          s.value .buildCommand = .ok (some command))) ∧
      (∀ s : Settings,
        (s .receiverCommand = command → s.receiverWords = .ok list) ∧
        (s .senderCommand = command → s.senderWords = .ok list) ∧
        (s .buildCommand = some command → s.buildWords = .ok (some list))) ∧
      ∀ (t : Trial) (b : Bench), ∀ v ∈ (t.journey .usual b).visits,
        (v.stage = .startReceiver → t.settings .receiverCommand = command →
          t.OpensOutput v.bench ∧ t.commands v = [list] ∨
            ¬ t.OpensOutput v.bench ∧ t.commands v = []) ∧
        (v.stage = .runSender → t.settings .senderCommand = command → t.commands v = [list]) ∧
        (v.stage = .build → t.settings .buildCommand = some command → t.commands v = [list])) ∧
    (∀ (t : Trial) (b : Bench) (fs : Files), b.files.makeDir t.artifacts = .ok fs →
      let j := t.journey .usual (t.outset fs b)
      (t.run.exec b).2.trace.toList.filterMap Effect.command?
          = b.trace.toList.filterMap Effect.command? ++ j.visits.flatMap t.commands ∧
        ∀ v ∈ j.visits, v.stage ∉ [.build, .startReceiver, .runSender] → t.commands v = []) ∧
    ∀ s : Settings,
      (RaisesValue s.receiverWords ↔ Text.IsMalformed (s .receiverCommand)) ∧
      (RaisesValue s.senderWords ↔ Text.IsMalformed (s .senderCommand)) ∧
      (RaisesValue s.buildWords ↔
        ∃ command, s .buildCommand = some command ∧ Text.IsMalformed command) := by
  refine ⟨?_, fun t b fs made => t.commands_of_run made, ?_⟩
  · intro list hne command
    have hreceiver {s : Settings} (hs : s .receiverCommand = command) :
        s.receiverWords = .ok list := by
      rw [Settings.receiverWords, hs, Text.words_commandOf]
    have hsender {s : Settings} (hs : s .senderCommand = command) : s.senderWords = .ok list := by
      rw [Settings.senderWords, hs, Text.words_commandOf]
    refine ⟨fun s => ⟨?_, ?_, ?_⟩, fun s => ⟨hreceiver, hsender, buildWords_commandOf hne⟩, ?_⟩
    · intro hgiven
      rw [Sources.value, hgiven]
      rfl
    · intro hgiven
      rw [Sources.value, hgiven]
      rfl
    · intro hgiven
      have hread : Kind.readOptionalText (.str command) = .ok (some command) := by
        simp [Kind.readOptionalText, command, not_allBlank_commandOf hne]
      rw [Sources.value, hgiven]
      show Kind.single (Kind.readOptionalText (.str command)) = .ok (some command)
      rw [hread]
      rfl
    · intro t b v hv
      exact ⟨fun hstage hs => commands_startReceiver hv hstage (hreceiver hs),
        fun hstage hs => commands_runSender hv hstage (hsender hs),
        fun hstage hs => commands_build hstage (buildWords_commandOf hne hs)⟩
  · intro s
    exact ⟨raisesValue_words_iff, raisesValue_words_iff, raisesValue_buildWords_iff⟩

/-- Words with quotes, backslashes, line breaks and no characters at all come through to all three
processes. -/
theorem words_reach_processes_of_odd_words :
    let list := ["./it's here", "", "a\\b \"c\"", "#\n'é"]
    let command := Text.commandOf list
    let sources : Sources :=
      { overrides := [("build_command", .str command), ("receiver_command", .str command),
          ("sender_command", .str command)] }
    let t : Trial := ⟨sources.valueOrDefault, "r1"⟩
    let fs := Bench.quiet.files.put ["tmp", artifactsName] .dir
    let j := t.journey .usual (t.outset fs Bench.quiet)
    sources.load = .ok t.settings ∧ t.settings.receiverWords = .ok list ∧
      (∀ v ∈ j.visits, v.stage ∈ [.build, .runSender] → t.commands v = [list]) ∧
      (∃ v ∈ j.visits, v.stage = .startReceiver ∧ t.commands v = [list]) ∧
      (t.run.exec Bench.quiet).2.trace.toList.filterMap Effect.command? = [list, list, list] := by
  intro list command sources t fs j
  have accepted : sources.allIssues.isEmpty = true := by decide +kernel
  have hran : j.visits.flatMap t.commands = [list, list, list] := by decide +kernel
  have hstarted : (j.visits.filter (·.stage = .startReceiver)).map t.commands = [[list]] := by
    decide +kernel
  have hroot : (t.settings .artifactsRoot : Option Route) = none := by decide +kernel
  have made : Bench.quiet.files.makeDir t.artifacts = .ok fs := by
    rw [artifacts, hroot]
    rfl
  obtain ⟨hwords, hruns, -⟩ := words_reach_processes
  obtain ⟨haccepted, hlist, hvisits⟩ := hwords list (by decide)
  have hreceiver : t.settings .receiverCommand = command := by decide +kernel
  have hsender : t.settings .senderCommand = command := by decide +kernel
  have hbuild : t.settings .buildCommand = some command := by decide +kernel
  refine ⟨Sources.load_eq_ok_iff.2 ⟨List.isEmpty_iff.1 accepted, rfl⟩,
    (hlist t.settings).1 hreceiver, ?_, ?_, ?_⟩
  · intro v hv hstage
    obtain ⟨-, hsent, hbuilt⟩ := hvisits t _ v hv
    simp only [List.mem_cons, List.not_mem_nil, or_false] at hstage
    rcases hstage with hstage | hstage
    · exact hbuilt hstage hbuild
    · exact hsent hstage hsender
  · have hmem : [list] ∈ (j.visits.filter (·.stage = .startReceiver)).map t.commands := by
      rw [hstarted]
      exact List.mem_singleton_self _
    obtain ⟨v, hv, hcommands⟩ := List.mem_map.1 hmem
    obtain ⟨hv, hstage⟩ := List.mem_filter.1 hv
    exact ⟨v, hv, of_decide_eq_true hstage, hcommands⟩
  · rw [(hruns t Bench.quiet fs made).1, hran]
    rfl

end Trial
end ClientTrial
