import ClientTrial.Bench.Calls

/-!
# Variables added to an environment

A command sees the variables of the environment with one added or replaced.  The variable has
the value that was added; every variable of another name is what it was, and no name comes
twice that did not do so before.

## Main results

* `Act.lookup_overlay_single` — the value of a variable.
* `Act.names_overlay_single` — the names, if one variable is added.
-/

namespace ClientTrial
namespace Act

variable (environ : List (String × String)) (name value : String)

/-! ### One variable replaced -/

/-- The variables with those of a name replaced. -/
def replaceIn : List (String × String) :=
  environ.map fun entry => if entry.1 = name then (name, value) else entry

theorem names_replaceIn :
    (replaceIn environ name value).map Prod.fst = environ.map Prod.fst := by
  rw [replaceIn, List.map_map]
  refine List.map_congr_left fun entry _ => ?_
  by_cases h : entry.1 = name
  · simp [h]
  · simp [h]

theorem lookup_replaceIn (other : String) :
    (replaceIn environ name value).lookup other =
      if other = name then (environ.lookup name).map fun _ => value else environ.lookup other := by
  induction environ with
  | nil => simp [replaceIn]
  | cons entry rest ih =>
    obtain ⟨n, v⟩ := entry
    have hcons : replaceIn ((n, v) :: rest) name value =
        (if n = name then (name, value) else (n, v)) :: replaceIn rest name value := rfl
    rw [hcons]
    by_cases hn : n = name
    · subst hn
      by_cases ho : other = n
      · simp [ho]
      · have hne : (other == n) = false := by simpa using ho
        simp [List.lookup_cons, ho, hne, ih]
    · have hname : (name == n) = false := by simpa using Ne.symm hn
      by_cases ho : other = n
      · subst ho
        simp [hn]
      · have hne : (other == n) = false := by simpa using ho
        simp [List.lookup_cons, hn, hne, hname, ih]

/-! ### Variables added -/

/-- A variable is replaced if there is one of its name, and else it comes last. -/
theorem overlay_single :
    overlay environ [(name, value)] =
      if name ∈ environ.map Prod.fst then replaceIn environ name value
      else environ ++ [(name, value)] := by
  have hiff : environ.any (·.1 == name) = true ↔ name ∈ environ.map Prod.fst := by
    simp [List.any_eq_true]
  by_cases h : name ∈ environ.map Prod.fst
  · rw [if_pos h, overlay, if_pos (hiff.2 h)]
    rfl
  · rw [if_neg h, overlay, if_neg fun hany => h (hiff.1 hany)]
    rfl

theorem lookup_overlay_single (other : String) :
    (overlay environ [(name, value)]).lookup other =
      if other = name then some value else environ.lookup other := by
  rw [overlay_single]
  by_cases h : name ∈ environ.map Prod.fst
  · rw [if_pos h, lookup_replaceIn]
    by_cases ho : other = name
    · -- the name is one of those that are looked up with success
      obtain ⟨old, hold⟩ : ∃ old, environ.lookup name = some old := by
        refine Option.isSome_iff_exists.1 ?_
        simpa using h
      rw [if_pos ho, if_pos ho, hold]
      rfl
    · rw [if_neg ho, if_neg ho]
  · rw [if_neg h, Daemon.lookup_append_single]
    by_cases ho : other = name
    · have hnone : environ.lookup name = none := by
        rw [← Option.not_isSome_iff_eq_none]
        simpa using h
      rw [if_pos ho, ho, hnone, if_pos rfl]
      rfl
    · rw [if_neg ho, if_neg ho, Option.or_none]

/-- The names are those that were there, and the one that is added if it was not. -/
theorem names_overlay_single :
    (overlay environ [(name, value)]).map Prod.fst =
      if name ∈ environ.map Prod.fst then environ.map Prod.fst
      else environ.map Prod.fst ++ [name] := by
  rw [overlay_single]
  split
  · exact names_replaceIn environ name value
  · rw [List.map_append]
    rfl

end Act
end ClientTrial
