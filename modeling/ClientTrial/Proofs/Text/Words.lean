import Mathlib.Data.List.Basic
import ClientTrial.Text.Words

/-!
# Commands and their words

Any words can be written as a command: each between single quotes, and a single quote within
it between double quotes.  The command has just these words.

Which commands have words is told without the scanner.  A command is whole if it is made of
plain characters, characters after a backslash, and quoted parts that are closed.  Every
other command breaks off after a whole one: within quotes, or after a backslash.  These are
the two ways in which a command is malformed.

## Main definitions

* `Text.IsWithin` — what may stand between double quotes.
* `Text.IsWhole`, `LeavesQuoteOpen`, `EndsInEscape` — whole commands, and those that break off.
* `Text.Scans` — how a part of a command is scanned, whatever follows.
* `Text.commandOf` — the command with the given words.

## Main results

* `Text.scans_whole` — a whole command is scanned, whatever follows.
* `Text.whole_or_broken` — every command is of one of the three kinds.
* `Text.words_commandOf` — **a command that was written for some words has these words**.
* `Text.words_eq_openQuote_iff`, `words_eq_danglingEscape_iff` — the malformed commands.
-/

namespace ClientTrial
namespace Text

/-! ### The three kinds of commands -/

/-- What may stand between double quotes. -/
inductive IsWithin : List Char → Prop
  | nil : IsWithin []
  | plain {c : Char} {s : List Char} (hquote : c ≠ '\x22') (hbackslash : c ≠ '\x5c')
    (hs : IsWithin s) : IsWithin (c :: s)
  | escaped {s : List Char} (c : Char) (hs : IsWithin s) : IsWithin ('\x5c' :: c :: s)

/-- A command that does not break off. -/
inductive IsWhole : List Char → Prop
  | nil : IsWhole []
  | plain {c : Char} {s : List Char} (hsingle : c ≠ '\x27') (hdouble : c ≠ '\x22')
    (hbackslash : c ≠ '\x5c') (hs : IsWhole s) : IsWhole (c :: s)
  | escaped {s : List Char} (c : Char) (hs : IsWhole s) : IsWhole ('\x5c' :: c :: s)
  | single {body s : List Char} (hbody : '\x27' ∉ body) (hs : IsWhole s) :
    IsWhole ('\x27' :: (body ++ '\x27' :: s))
  | double {body s : List Char} (hbody : IsWithin body) (hs : IsWhole s) :
    IsWhole ('\x22' :: (body ++ '\x22' :: s))

/-- A quote is opened after a whole command and never closed. -/
def LeavesQuoteOpen (s : List Char) : Prop :=
  ∃ whole body, IsWhole whole ∧
    (s = whole ++ '\x27' :: body ∧ '\x27' ∉ body ∨ s = whole ++ '\x22' :: body ∧ IsWithin body)

/-- A backslash stands at the end, and is not itself escaped or between single quotes. -/
def EndsInEscape (s : List Char) : Prop :=
  ∃ whole, IsWhole whole ∧
    (s = whole ++ ['\x5c'] ∨ ∃ body, IsWithin body ∧ s = whole ++ '\x22' :: (body ++ ['\x5c']))

/-- A command has no words. -/
def IsMalformed (command : String) : Prop :=
  LeavesQuoteOpen command.toList ∨ EndsInEscape command.toList

variable {w : List Char} {word : Option (List Char)} {s p body rest : List Char}

theorem IsWhole.append (hp : IsWhole p) (hs : IsWhole s) : IsWhole (p ++ s) := by
  induction hp with
  | nil => exact hs
  | plain hsingle hdouble hbackslash _ ih => exact .plain hsingle hdouble hbackslash ih
  | escaped c _ ih => exact .escaped c ih
  | single hbody _ ih =>
    rw [List.cons_append, List.append_assoc, List.cons_append]
    exact .single hbody ih
  | double hbody _ ih =>
    rw [List.cons_append, List.append_assoc, List.cons_append]
    exact .double hbody ih

/-- What follows a double quote is closed, or goes on to the end, or breaks off after a
backslash. -/
theorem within_or_broken : ∀ s : List Char,
    (∃ body rest, IsWithin body ∧ s = body ++ '\x22' :: rest) ∨ IsWithin s ∨
      ∃ body, IsWithin body ∧ s = body ++ ['\x5c']
  | [] => .inr (.inl .nil)
  | c :: s => by
    by_cases hquote : c = '\x22'
    · exact .inl ⟨[], s, .nil, by rw [hquote]; rfl⟩
    by_cases hbackslash : c = '\x5c'
    · subst hbackslash
      rcases s with _ | ⟨d, s⟩
      · exact .inr (.inr ⟨[], .nil, rfl⟩)
      · rcases within_or_broken s with ⟨body, rest, hbody, rfl⟩ | hs | ⟨body, hbody, rfl⟩
        · exact .inl ⟨_, rest, hbody.escaped d, rfl⟩
        · exact .inr (.inl (hs.escaped d))
        · exact .inr (.inr ⟨_, hbody.escaped d, rfl⟩)
    · rcases within_or_broken s with ⟨body, rest, hbody, rfl⟩ | hs | ⟨body, hbody, rfl⟩
      · exact .inl ⟨_, rest, hbody.plain hquote hbackslash, rfl⟩
      · exact .inr (.inl (hs.plain hquote hbackslash))
      · exact .inr (.inr ⟨_, hbody.plain hquote hbackslash, rfl⟩)
termination_by s => s.length

/-- What a command is after a whole part, it is altogether. -/
theorem IsWhole.prepend (hp : IsWhole p) (h : IsWhole s ∨ LeavesQuoteOpen s ∨ EndsInEscape s) :
    IsWhole (p ++ s) ∨ LeavesQuoteOpen (p ++ s) ∨ EndsInEscape (p ++ s) := by
  rcases h with hs | ⟨whole, body, hwhole, hs⟩ | ⟨whole, hwhole, hs⟩
  · exact .inl (hp.append hs)
  · refine .inr (.inl ⟨p ++ whole, body, hp.append hwhole, ?_⟩)
    rcases hs with ⟨rfl, hbody⟩ | ⟨rfl, hbody⟩
    · exact .inl ⟨(List.append_assoc ..).symm, hbody⟩
    · exact .inr ⟨(List.append_assoc ..).symm, hbody⟩
  · refine .inr (.inr ⟨p ++ whole, hp.append hwhole, ?_⟩)
    rcases hs with rfl | ⟨body, hbody, rfl⟩
    · exact .inl (List.append_assoc ..).symm
    · exact .inr ⟨body, hbody, (List.append_assoc ..).symm⟩

/-- Every command is whole or breaks off within quotes or after a backslash. -/
theorem whole_or_broken (s : List Char) : IsWhole s ∨ LeavesQuoteOpen s ∨ EndsInEscape s := by
  -- what follows the first part is shorter
  induction hn : s.length using Nat.strongRecOn generalizing s with
  | ind n ih =>
    subst hn
    rcases s with _ | ⟨c, s⟩
    · exact .inl .nil
    by_cases hsingle : c = '\x27'
    · subst hsingle
      by_cases hclosed : '\x27' ∈ s
      · obtain ⟨body, rest, rfl, hbody⟩ := List.eq_append_cons_of_mem hclosed
        have hpart : IsWhole ('\x27' :: (body ++ ['\x27'])) := .single hbody .nil
        have hrest := ih rest.length (by simp; omega) rest rfl
        simpa using hpart.prepend hrest
      · exact .inr (.inl ⟨[], s, .nil, .inl ⟨rfl, hclosed⟩⟩)
    by_cases hdouble : c = '\x22'
    · subst hdouble
      rcases within_or_broken s with ⟨body, rest, hbody, rfl⟩ | hs | ⟨body, hbody, rfl⟩
      · have hpart : IsWhole ('\x22' :: (body ++ ['\x22'])) := .double hbody .nil
        have hrest := ih rest.length (by simp; omega) rest rfl
        simpa using hpart.prepend hrest
      · exact .inr (.inl ⟨[], s, .nil, .inr ⟨rfl, hs⟩⟩)
      · exact .inr (.inr ⟨[], .nil, .inr ⟨body, hbody, rfl⟩⟩)
    by_cases hbackslash : c = '\x5c'
    · subst hbackslash
      rcases s with _ | ⟨d, s⟩
      · exact .inr (.inr ⟨[], .nil, .inl rfl⟩)
      · have hpart : IsWhole ['\x5c', d] := .escaped d .nil
        exact hpart.prepend (ih s.length (by simp only [List.length_cons]; omega) s rfl)
    · have hpart : IsWhole [c] := .plain hsingle hdouble hbackslash .nil
      exact hpart.prepend (ih s.length (by simp) s rfl)

/-! ### How the parts of a command are scanned -/

/-- A quote begins a word, if none has begun. -/
theorem scan_plain_single (word : Option (List Char)) (rest : List Char) :
    scan .plain word ('\x27' :: rest) = scan .single (some (word.getD [])) rest := by
  cases word <;> rfl

theorem scan_plain_double (word : Option (List Char)) (rest : List Char) :
    scan .plain word ('\x22' :: rest) = scan .double (some (word.getD [])) rest := by
  cases word <;> rfl

theorem scan_single (hbody : '\x27' ∉ body) (rest : List Char) :
    scan .single (some w) (body ++ '\x27' :: rest) = scan .plain (some (w ++ body)) rest := by
  induction body generalizing w with
  | nil => rw [List.nil_append, scan, if_pos rfl, List.append_nil]
  | cons c body ih =>
    rw [List.mem_cons, not_or] at hbody
    rw [List.cons_append, scan, if_neg (Ne.symm hbody.1), Option.getD_some, ih hbody.2,
      List.append_assoc, List.singleton_append]

theorem scan_single_open (hbody : '\x27' ∉ body) :
    scan .single word body = .error .openQuote := by
  induction body generalizing word with
  | nil => rw [scan]
  | cons c body ih =>
    rw [List.mem_cons, not_or] at hbody
    rw [scan, if_neg (Ne.symm hbody.1), ih hbody.2]

/-- What may stand between double quotes adds to the word, whatever follows. -/
theorem scan_within (hbody : IsWithin body) (w : List Char) :
    ∃ w', ∀ rest, scan .double (some w) (body ++ rest) = scan .double (some w') rest := by
  induction hbody generalizing w with
  | nil => exact ⟨w, fun _ => rfl⟩
  | @plain c s hquote hbackslash _ ih =>
    obtain ⟨w', hw'⟩ := ih (w ++ [c])
    refine ⟨w', fun rest => ?_⟩
    rw [List.cons_append, scan, if_neg hquote, if_neg hbackslash, Option.getD_some, hw']
  | @escaped s c _ ih =>
    have hstep : ∃ w₁, ∀ rest, scan .double (some w) ('\x5c' :: c :: rest)
        = scan .double (some w₁) rest := by
      by_cases hc : c = '\x22' ∨ c = '\x5c'
      · refine ⟨w ++ [c], fun rest => ?_⟩
        rw [scan, if_neg (by decide), if_pos rfl, scan, if_pos hc, Option.getD_some]
      · refine ⟨w ++ ['\x5c', c], fun rest => ?_⟩
        rw [scan, if_neg (by decide), if_pos rfl, scan, if_neg hc, Option.getD_some]
    obtain ⟨w₁, hw₁⟩ := hstep
    obtain ⟨w', hw'⟩ := ih w₁
    exact ⟨w', fun rest => (hw₁ _).trans (hw' rest)⟩

/-- A part of a command is scanned whatever follows: it ends some words, and begins another or
none. -/
def Scans (p : List Char) (word : Option (List Char)) (done : List (List Char))
    (word' : Option (List Char)) : Prop :=
  ∀ rest, scan .plain word (p ++ rest) = (scan .plain word' rest).map (done ++ ·)

theorem Scans.append {q : List Char} {done done' : List (List Char)}
    {word' word'' : Option (List Char)} (hp : Scans p word done word')
    (hq : Scans q word' done' word'') : Scans (p ++ q) word (done ++ done') word'' := by
  intro rest
  rw [List.append_assoc, hp, hq]
  cases scan .plain word'' rest <;> simp [Except.map]

/-- A part that only adds to the word. -/
theorem scans_of_eq {word' : Option (List Char)}
    (h : ∀ rest, scan .plain word (p ++ rest) = scan .plain word' rest) :
    Scans p word [] word' := by
  intro rest
  rw [h]
  cases scan .plain word' rest <;> rfl

/-- A separator ends a word, if one has begun. -/
theorem scans_separator {c : Char} (hc : isSeparator c = true) (word : Option (List Char)) :
    Scans [c] word word.toList none := by
  intro rest
  cases word with
  | none =>
    have hscan : scan .plain none (c :: rest) = scan .plain none rest := by
      simp only [scan, if_pos hc]
    rw [List.singleton_append, hscan]
    cases scan .plain none rest <;> rfl
  | some w => simp only [List.singleton_append, scan, if_pos hc, Option.toList_some]

theorem scans_plain {c : Char} (hc : ¬ isSeparator c = true) (hsingle : c ≠ '\x27')
    (hdouble : c ≠ '\x22') (hbackslash : c ≠ '\x5c') (word : Option (List Char)) :
    Scans [c] word [] (some (word.getD [] ++ [c])) := by
  refine scans_of_eq fun rest => ?_
  cases word <;> simp only [List.singleton_append, scan, if_neg hc, if_neg hsingle,
    if_neg hdouble, if_neg hbackslash]

theorem scans_escaped (c : Char) (word : Option (List Char)) :
    Scans ['\x5c', c] word [] (some (word.getD [] ++ [c])) :=
  scans_of_eq fun rest => by cases word <;> rfl

theorem scans_single (hbody : '\x27' ∉ body) (word : Option (List Char)) :
    Scans ('\x27' :: (body ++ ['\x27'])) word [] (some (word.getD [] ++ body)) := by
  refine scans_of_eq fun rest => ?_
  simp only [List.cons_append, List.append_assoc, List.nil_append]
  rw [scan_plain_single, scan_single hbody]

theorem scans_double (hbody : IsWithin body) (word : Option (List Char)) :
    ∃ w, Scans ('\x22' :: (body ++ ['\x22'])) word [] (some w) := by
  obtain ⟨w, hw⟩ := scan_within hbody (word.getD [])
  refine ⟨w, scans_of_eq fun rest => ?_⟩
  simp only [List.cons_append, List.append_assoc, List.nil_append]
  rw [scan_plain_double, hw, scan, if_pos rfl]

/-- **A whole command is scanned whatever follows.** -/
theorem scans_whole (hp : IsWhole p) (word : Option (List Char)) :
    ∃ done word', Scans p word done word' := by
  induction hp generalizing word with
  | nil => exact ⟨[], word, scans_of_eq fun _ => rfl⟩
  | @plain c s hsingle hdouble hbackslash _ ih =>
    by_cases hc : isSeparator c = true
    · obtain ⟨done, word', h⟩ := ih none
      exact ⟨_, _, (scans_separator hc word).append h⟩
    · obtain ⟨done, word', h⟩ := ih (some (word.getD [] ++ [c]))
      exact ⟨_, _, (scans_plain hc hsingle hdouble hbackslash word).append h⟩
  | @escaped s c _ ih =>
    obtain ⟨done, word', h⟩ := ih (some (word.getD [] ++ [c]))
    exact ⟨_, _, (scans_escaped c word).append h⟩
  | @single body s hbody _ ih =>
    obtain ⟨done, word', h⟩ := ih (some (word.getD [] ++ body))
    exact ⟨done, word', by simpa using (scans_single hbody word).append h⟩
  | @double body s hbody _ ih =>
    obtain ⟨w, hw⟩ := scans_double hbody word
    obtain ⟨done, word', h⟩ := ih (some w)
    exact ⟨done, word', by simpa using hw.append h⟩

/-! ### Which commands have words -/

theorem scan_of_isWhole (hs : IsWhole s) : ∃ list, scan .plain none s = .ok list := by
  obtain ⟨done, word', h⟩ := scans_whole hs none
  have hend := h []
  rw [List.append_nil, scan] at hend
  exact ⟨_, hend⟩

theorem scan_of_leavesQuoteOpen (hs : LeavesQuoteOpen s) :
    scan .plain none s = .error .openQuote := by
  obtain ⟨whole, body, hwhole, hs⟩ := hs
  obtain ⟨done, word', h⟩ := scans_whole hwhole none
  rcases hs with ⟨rfl, hbody⟩ | ⟨rfl, hbody⟩
  · rw [h, scan_plain_single, scan_single_open hbody]
    rfl
  · obtain ⟨w, hw⟩ := scan_within hbody (word'.getD [])
    have hend := hw []
    rw [List.append_nil, scan] at hend
    rw [h, scan_plain_double, hend]
    rfl

theorem scan_of_endsInEscape (hs : EndsInEscape s) :
    scan .plain none s = .error .danglingEscape := by
  obtain ⟨whole, hwhole, hs⟩ := hs
  obtain ⟨done, word', h⟩ := scans_whole hwhole none
  rcases hs with rfl | ⟨body, hbody, rfl⟩
  · rw [h]
    cases word' <;> rfl
  · obtain ⟨w, hw⟩ := scan_within hbody (word'.getD [])
    rw [h, scan_plain_double, hw]
    rfl

theorem words_eq_error_iff {command : String} {e : CommandError} :
    words command = .error e ↔ scan .plain none command.toList = .error e := by
  unfold words
  cases scan .plain none command.toList <;> simp [Except.map]

/-- A quote is reported as open iff one is left open. -/
theorem words_eq_openQuote_iff {command : String} :
    words command = .error .openQuote ↔ LeavesQuoteOpen command.toList := by
  rw [words_eq_error_iff]
  refine ⟨fun h => ?_, scan_of_leavesQuoteOpen⟩
  rcases whole_or_broken command.toList with hs | hs | hs
  · obtain ⟨list, hlist⟩ := scan_of_isWhole hs
    rw [hlist] at h
    cases h
  · exact hs
  · rw [scan_of_endsInEscape hs] at h
    cases h

/-- An escape is reported as unfinished iff the command ends in one. -/
theorem words_eq_danglingEscape_iff {command : String} :
    words command = .error .danglingEscape ↔ EndsInEscape command.toList := by
  rw [words_eq_error_iff]
  refine ⟨fun h => ?_, scan_of_endsInEscape⟩
  rcases whole_or_broken command.toList with hs | hs | hs
  · obtain ⟨list, hlist⟩ := scan_of_isWhole hs
    rw [hlist] at h
    cases h
  · rw [scan_of_leavesQuoteOpen hs] at h
    cases h
  · exact hs

/-! ### Commands for given words -/

/-- The command with the given words: each in quotes, with a space between each two. -/
def commandOf (list : List String) : String :=
  String.ofList (quoteWords (list.map String.toList))

/-- A quoted word is scanned as that word. -/
theorem scans_quoteWord (word : List Char) : Scans (quoteWord word) none [] (some word) := by
  have within (w : List Char) (rest : List Char) :
      scan .single (some w) (word.flatMap (fun c => if c = '\x27' then
        ['\x27', '\x22', '\x27', '\x22', '\x27'] else [c]) ++ '\x27' :: rest)
        = scan .plain (some (w ++ word)) rest := by
    induction word generalizing w with
    | nil => simp [scan]
    | cons c word ih =>
      by_cases hc : c = '\x27'
      · -- the quote is left, the character comes between double quotes, the quote is entered again
        subst hc
        have hquoted := ih (w ++ ['\x27'])
        rw [List.append_assoc] at hquoted
        exact hquoted
      · have hplain := ih (w ++ [c])
        rw [List.append_assoc] at hplain
        rw [List.flatMap_cons, if_neg hc, List.append_assoc, List.singleton_append, scan,
          if_neg hc]
        exact hplain
  refine scans_of_eq fun rest => ?_
  rw [quoteWord, List.append_assoc, List.cons_append, List.cons_append]
  exact within [] rest

theorem scan_quoteWords (list : List (List Char)) :
    scan .plain none (quoteWords list) = .ok list := by
  induction list with
  | nil => rfl
  | cons word list ih =>
    cases list with
    | nil =>
      have hword := scans_quoteWord word []
      rw [List.append_nil] at hword
      simpa [quoteWords, List.intercalate, scan, Except.map] using hword
    | cons next list =>
      have hscans := (scans_quoteWord word).append (scans_separator (c := ' ') rfl (some word))
      have htext : quoteWords (word :: next :: list)
          = quoteWord word ++ [' '] ++ quoteWords (next :: list) := by
        simp [quoteWords, List.intercalate]
      rw [htext, hscans, ih]
      rfl

/-- A command for some words begins with a quote. -/
theorem toList_commandOf (word : String) (list : List String) :
    ∃ rest, (commandOf (word :: list)).toList = '\x27' :: rest := by
  rw [commandOf, String.toList_ofList]
  cases list with
  | nil => exact ⟨_, by simp [quoteWords, quoteWord, List.intercalate]; rfl⟩
  | cons next list => exact ⟨_, by simp [quoteWords, quoteWord, List.intercalate]; rfl⟩

/-- **A command that was written for some words has these words.** -/
theorem words_commandOf (list : List String) : words (commandOf list) = .ok list := by
  rw [words, commandOf, String.toList_ofList, scan_quoteWords]
  simp [Except.map, List.map_map]

end Text
end ClientTrial
