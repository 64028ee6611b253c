/-!
# Tables as lists of entries

A table is a list of entries, each a name with what stands under it.  What is found under a
name is that of its first entry; if no name has two entries, it is that of its only one.

## Main results

* `Entries.lookup_map` — a table whose entries are changed, but not their names.
* `Entries.lookup_eq_some_iff_mem` — what is found in a table where no name has two entries.
-/

namespace ClientTrial
namespace Entries

variable {α β : Type} {name : String}

/-- What is found in a table whose entries are changed, but not their names. -/
theorem lookup_map (f : α → β) (entries : List (String × α)) (name : String) :
    (entries.map fun entry => (entry.1, f entry.2)).lookup name = (entries.lookup name).map f := by
  induction entries with
  | nil => rfl
  | cons entry rest ih =>
    rw [List.map_cons, List.lookup_cons, List.lookup_cons]
    cases name == entry.1 with
    | true => rfl
    | false => exact ih

/-- Where no name has two entries, what is found under a name is what stands there. -/
theorem lookup_eq_some_iff_mem {entries : List (String × α)} (h : (entries.map Prod.fst).Nodup)
    {a : α} : entries.lookup name = some a ↔ (name, a) ∈ entries := by
  induction entries with
  | nil => simp
  | cons entry rest ih =>
    obtain ⟨hnew, hrest⟩ := List.nodup_cons.1 h
    rw [List.lookup_cons, List.mem_cons]
    by_cases hname : name = entry.1
    · subst hname
      have hnone (a : α) : (entry.1, a) ∉ rest := fun hmem =>
        hnew (List.mem_map.2 ⟨_, hmem, rfl⟩)
      simp [hnone, Prod.ext_iff, eq_comm]
    · have hfalse : (name == entry.1) = false := beq_false_of_ne hname
      simp [hfalse, ih hrest, Prod.ext_iff, hname]

end Entries
end ClientTrial
