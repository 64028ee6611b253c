import ClientTrial.CommandLine.Options
import ClientTrial.Proofs.Decimal.Written
import ClientTrial.Proofs.Entries

/-!
# Ways to write an option

The name of an option may be cut short as long as no other name begins that way.  A name
that another one goes on from, as `--sender` and `--sender-timeout`, is no ambiguity when it
is written in full.  Whichever way an option is written, it is recognised, alone and with a
value after an equals sign; what does not begin with a dash is a value.

## Main definitions

* `Spells` — a way to write an option.

## Main results

* `beginning_eq` — only one name begins with a name that is cut short.
* `classify_spelling`, `classify_joined`, `classify_value` — what arguments are.
-/

namespace ClientTrial
namespace CommandLine

/-- A text is a way to write an option: one of its names, or the beginning of one of them and of no
other name. -/
def Spells (spelling : String) (d : Declared) : Prop :=
  spelling ∈ d.names ∨
    ∃ name ∈ d.names, ∀ entry ∈ spellings,
      (spelling.toList <+: entry.1.toList ↔ entry.1 = name)

instance (spelling : String) (d : Declared) : Decidable (Spells spelling d) :=
  inferInstanceAs (Decidable (_ ∨ _))

/-! ### Names -/

/-- Two dashes and something after them, without an equals sign. -/
structure IsLong (s : List Char) : Prop where
  dashes : ['-', '-'] <+: s
  more : 2 < s.length
  unsigned : '=' ∉ s

theorem head_of_dashes {s : List Char} (h : ['-', '-'] <+: s) : s.head? = some '-' := by
  obtain ⟨rest, rfl⟩ := h
  rfl

namespace IsLong

variable {s : List Char}

theorem head (h : IsLong s) : s.head? = some '-' := head_of_dashes h.dashes

theorem length_ne_one (h : IsLong s) : s.length ≠ 1 := Nat.ne_of_gt (Nat.lt_of_succ_lt h.more)

/-- What follows a name does not hide it. -/
theorem append (h : IsLong s) (rest : List Char) :
    ['-', '-'] <+: s ++ rest ∧ (s ++ rest).length ≠ 1 := by
  refine ⟨h.dashes.trans (List.prefix_append _ _), ?_⟩
  have := h.more
  rw [List.length_append]
  omega

end IsLong

theorem mem_spellings {name : String} {d : Declared} :
    (name, d) ∈ spellings ↔ d ∈ declared ∧ name ∈ d.names := by
  simp [spellings]

/-- No two options share a name. -/
theorem nodup_names : (spellings.map Prod.fst).Nodup := by decide +kernel

theorem lookup_spellings {name : String} {d : Declared} :
    spellings.lookup name = some d ↔ d ∈ declared ∧ name ∈ d.names :=
  (Entries.lookup_eq_some_iff_mem nodup_names).trans mem_spellings

theorem isLong_of_mem_names {d : Declared} (hd : d ∈ declared) (hhelp : d.takes ≠ .help)
    {name : String} (hname : name ∈ d.names) : IsLong name.toList := by
  have listed : ∀ d ∈ declared, d.takes ≠ .help → ∀ name ∈ d.names,
      ['-', '-'] <+: name.toList ∧ 2 < name.toList.length ∧ '=' ∉ name.toList := by
    decide +kernel
  obtain ⟨hdashes, hmore, hunsigned⟩ := listed d hd hhelp name hname
  exact ⟨hdashes, hmore, hunsigned⟩

variable {spelling : String} {d : Declared}

/-- However an option is written, two dashes alone are not enough. -/
theorem Spells.isLong (h : Spells spelling d) (hd : d ∈ declared) (hhelp : d.takes ≠ .help) :
    IsLong spelling.toList := by
  rcases h with hname | ⟨name, hname, honly⟩
  · exact isLong_of_mem_names hd hhelp hname
  · have hlong := isLong_of_mem_names hd hhelp hname
    have hbegins : spelling.toList <+: name.toList :=
      (honly (name, d) (mem_spellings.2 ⟨hd, hname⟩)).2 rfl
    have hmore : 2 < spelling.toList.length := by
      by_contra hshort
      have hdashes : spelling.toList <+: ['-', '-'] :=
        List.prefix_of_prefix_length_le hbegins hlong.dashes (Nat.not_lt.1 hshort)
      -- both of two names would be the only one that begins so
      have hreceiver := (honly ("--receiver", ⟨["--receiver"], "receiver_command", .text⟩)
        (by decide +kernel)).1 (hdashes.trans (by decide))
      have hsender := (honly ("--sender", ⟨["--sender"], "sender_command", .text⟩)
        (by decide +kernel)).1 (hdashes.trans (by decide))
      exact absurd (hreceiver.trans hsender.symm) (by decide)
    exact ⟨List.prefix_of_prefix_length_le hlong.dashes hbegins (Nat.le_of_lt hmore), hmore,
      fun hmem => hlong.unsigned (hbegins.subset hmem)⟩

theorem Spells.ne_dashes (h : Spells spelling d) (hd : d ∈ declared) (hhelp : d.takes ≠ .help) :
    spelling ≠ "--" := by
  rintro rfl
  exact absurd (h.isLong hd hhelp).more (by decide)

/-- Only one name begins with a name that is cut short. -/
theorem beginning_eq {s : List Char} {name : String} (hd : d ∈ declared) (hname : name ∈ d.names)
    (honly : ∀ entry ∈ spellings, (s <+: entry.1.toList ↔ entry.1 = name)) :
    beginning s = [(name, d)] := by
  have hmem : (name, d) ∈ spellings := mem_spellings.2 ⟨hd, hname⟩
  have hfilter : beginning s = spellings.filter (· = (name, d)) := by
    refine List.filter_congr fun entry hentry => ?_
    rw [Bool.eq_iff_iff, List.isPrefixOf_iff_prefix, decide_eq_true_iff, honly entry hentry]
    refine ⟨fun h => ?_, fun h => congrArg Prod.fst h⟩
    exact List.inj_on_of_nodup_map nodup_names hentry hmem h
  rw [hfilter, List.filter_eq, List.count_eq_one_of_mem (List.Nodup.of_map _ nodup_names) hmem]
  rfl

/-! ### Arguments -/

theorem cut?_of_unsigned {s : List Char} (h : '=' ∉ s) : cut? s = none := by
  have hspan : (s ++ []).span (· ≠ '=') = (s, []) :=
    Decimal.span_append (fun c hc => decide_eq_true fun heq => h (heq ▸ hc)) nofun
  unfold cut?
  rw [← List.append_nil s, hspan]

theorem cut?_append {s : List Char} (h : '=' ∉ s) (text : List Char) :
    cut? (s ++ '=' :: text) = some (s, text) := by
  have hspan : (s ++ '=' :: text).span (· ≠ '=') = (s, '=' :: text) :=
    Decimal.span_append (fun c hc => decide_eq_true fun heq => h (heq ▸ hc)) (by simp)
  unfold cut?
  rw [hspan]

/-- No option has a name with an equals sign. -/
theorem lookup_of_signed {argument : String} (h : '=' ∈ argument.toList) :
    spellings.lookup argument = none := by
  have listed : ∀ entry ∈ spellings, '=' ∉ entry.1.toList := by decide +kernel
  refine List.lookup_eq_none_iff.2 fun entry hentry => bne_iff_ne.2 ?_
  rintro rfl
  exact listed entry hentry h

/-- What does not begin with a dash is a value. -/
theorem classify_value {text : String} (h : text.toList.head? ≠ some '-') :
    classify text = .ok (.value text) := by
  unfold classify
  exact if_pos h

/-- A name that is cut short is the beginning of one name only, and is none itself. -/
theorem Spells.cut (h : Spells spelling d) (hd : d ∈ declared) (hfull : spelling ∉ d.names) :
    spellings.lookup spelling = none ∧ ∃ name, beginning spelling.toList = [(name, d)] := by
  rcases h with hname | ⟨name, hname, honly⟩
  · exact absurd hname hfull
  · refine ⟨Option.eq_none_iff_forall_ne_some.2 fun d' hlookup => hfull ?_,
      name, beginning_eq hd hname honly⟩
    have hmem := mem_spellings.2 (lookup_spellings.1 hlookup)
    rw [show spelling = name from (honly _ hmem).1 (List.prefix_refl _)]
    exact hname

theorem meanings_of_uncut {s : List Char} (h : ['-', '-'] <+: s) (hcut : cut? s = none) :
    meanings s = (beginning s).map fun (name, d) => .option d name none := by
  obtain ⟨rest, rfl⟩ := h
  rw [List.cons_append, List.cons_append, List.nil_append] at hcut ⊢
  unfold meanings
  rw [hcut]
  rfl

theorem meanings_of_cut {s before after : List Char} (h : ['-', '-'] <+: s)
    (hcut : cut? s = some (before, after)) :
    meanings s =
      (beginning before).map fun (name, d) => .option d name (some (String.ofList after)) := by
  obtain ⟨rest, rfl⟩ := h
  rw [List.cons_append, List.cons_append, List.nil_append] at hcut ⊢
  unfold meanings
  rw [hcut]
  rfl

/-- An option is recognised, whichever way it is written. -/
theorem classify_spelling (h : Spells spelling d) (hd : d ∈ declared) (hhelp : d.takes ≠ .help) :
    ∃ name, classify spelling = .ok (.option d name none) := by
  have hlong := h.isLong hd hhelp
  unfold classify
  dsimp only
  rw [if_neg (not_not_intro hlong.head)]
  -- a name in full is found at once, even if another one goes on from it
  by_cases hfull : spelling ∈ d.names
  · rw [lookup_spellings.2 ⟨hd, hfull⟩]
    exact ⟨spelling, rfl⟩
  · obtain ⟨hlookup, name, hbeginning⟩ := h.cut hd hfull
    refine ⟨name, ?_⟩
    have hcut := cut?_of_unsigned hlong.unsigned
    rw [hlookup, if_neg hlong.length_ne_one, hcut, meanings_of_uncut hlong.dashes hcut, hbeginning]
    rfl

/-- So it is with a value after an equals sign. -/
theorem classify_joined (h : Spells spelling d) (hd : d ∈ declared) (hhelp : d.takes ≠ .help)
    (text : String) :
    ∃ name, classify (spelling ++ "=" ++ text) = .ok (.option d name (some text)) := by
  have hlong := h.isLong hd hhelp
  have htext : (spelling ++ "=" ++ text).toList = spelling.toList ++ '=' :: text.toList := by
    simp
  obtain ⟨hdashes, hlength⟩ := hlong.append ('=' :: text.toList)
  have hcut := cut?_append hlong.unsigned text.toList
  unfold classify
  dsimp only
  rw [lookup_of_signed (by simp), htext, if_neg (not_not_intro (head_of_dashes hdashes)),
    if_neg hlength, hcut, meanings_of_cut hdashes hcut, Option.bind_some, String.ofList_toList,
    String.ofList_toList]
  by_cases hfull : spelling ∈ d.names
  · rw [lookup_spellings.2 ⟨hd, hfull⟩]
    exact ⟨spelling, rfl⟩
  · obtain ⟨hlookup, name, hbeginning⟩ := h.cut hd hfull
    rw [hlookup, hbeginning]
    exact ⟨name, rfl⟩

end CommandLine
end ClientTrial
