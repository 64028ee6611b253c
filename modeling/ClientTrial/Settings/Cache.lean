import ClientTrial.Settings.Sources

/-!
# Settings kept for later

Settings that are asked for again and again are loaded once and kept, until they
are dropped.  Settings that cannot be loaded are not kept: the next one to ask
loads them anew.

## Main definitions

* `SettingsCache` — what is kept, and the sources to load from.
* `SettingsCache.get`, `replaceEnviron`, `clear` — the three operations.

## Main results

* `SettingsCache.get_of_kept` — what is kept is answered, whatever the sources hold.
* `SettingsCache.get_of_empty` — otherwise what the sources hold is answered.
-/

namespace ClientTrial

/-- Settings kept for later. -/
structure SettingsCache where
  /-- The sources to load from. -/
  sources : Sources
  /-- The settings that are kept. -/
  kept : Option Settings := none

namespace SettingsCache

/-- The settings that are kept, or else those that are loaded now. -/
def get (c : SettingsCache) : Except (List Issue) Settings × SettingsCache :=
  match c.kept with
  | some s => (.ok s, c)
  | none =>
    match c.sources.load with
    | .ok s => (.ok s, { c with kept := some s })
    | .error issues => (.error issues, c)

/-- The environment is replaced. -/
def replaceEnviron (c : SettingsCache) (environ : List (String × String)) : SettingsCache :=
  { c with sources := { c.sources with environ } }

/-- What is kept is dropped. -/
def clear (c : SettingsCache) : SettingsCache := { c with kept := none }

theorem get_of_kept {c : SettingsCache} {s : Settings} (h : c.kept = some s) :
    c.get = (.ok s, c) := by
  simp [get, h]

theorem get_of_empty {c : SettingsCache} (h : c.kept = none) : c.get.1 = c.sources.load := by
  unfold get
  rw [h]
  cases c.sources.load <;> rfl

end SettingsCache
end ClientTrial
