import ClientTrial.Proofs.Bench.Frame

/-!
# The table of containers

The daemon keeps its containers in a table, each with an identifier of its own.  Requests
but two leave the table alone; a container is created under a name that is free, and a
container that was looked up is removed.

The identifiers in a sound table were given out, so that what is given out next stands for
no container that there has ever been.

## Main definitions

* `Daemon.IsSound` — every identifier in the table was given out.
* `Daemon.IsNew` — an identifier has never been given out.
* `Daemon.TellsTruth` — the daemon does not deny a container that is there.
* `Act.Frame.table` — the frame of the table.

## Main results

* `Daemon.IsSound.isNew_nextId` — what is given out next is new.
* `Act.lookup_eq_ok`, `Act.create_eq_ok`, `Act.remove_eq_ok`, … — what requests do to the
  table, however they end.
-/

namespace ClientTrial

open Act

/-! ### Tables -/

namespace Daemon

/-- The identifier that is given out after some others. -/
def idAfter (created : Nat) : String := "id" ++ String.ofList (Decimal.digits (created + 1))

theorem nextId_eq (d : Daemon) : d.nextId = idAfter d.created := rfl

/-- No identifier is given out twice. -/
theorem idAfter_inj {k l : Nat} (h : idAfter k = idAfter l) : k = l := by
  have hdigits : Decimal.digits (k + 1) = Decimal.digits (l + 1) := by
    have hlist := congrArg String.toList h
    simpa [idAfter, String.toList_append] using hlist
  have hvalue := congrArg Decimal.ofDigits? hdigits
  rw [Decimal.ofDigits?_digits, Decimal.ofDigits?_digits] at hvalue
  exact Nat.succ.inj (Option.some.inj hvalue)

/-- Every container in the table has an identifier that was given out. -/
def IsSound (d : Daemon) : Prop := ∀ c ∈ d.containers, ∃ k < d.created, c.2 = idAfter k

/-- An identifier has never been given out, and stands for no container. -/
def IsNew (d : Daemon) (id : String) : Prop :=
  (∀ k < d.created, id ≠ idAfter k) ∧ ∀ name, d.id? name ≠ some id

/-- The containers are the same, and none has been created. -/
structure SameTable (d later : Daemon) : Prop where
  containers : later.containers = d.containers
  created : later.created = d.created

namespace SameTable

variable {d later last : Daemon}

theorem refl (d : Daemon) : d.SameTable d := ⟨rfl, rfl⟩

theorem trans (h : d.SameTable later) (hl : later.SameTable last) : d.SameTable last :=
  ⟨hl.containers.trans h.containers, hl.created.trans h.created⟩

theorem id? (h : d.SameTable later) (name : String) : later.id? name = d.id? name := by
  rw [Daemon.id?, h.containers]
  rfl

theorem nextId (h : d.SameTable later) : later.nextId = d.nextId := by
  rw [nextId_eq, nextId_eq, h.created]

theorem isSound (h : d.SameTable later) (hd : d.IsSound) : later.IsSound := by
  intro c hc
  rw [h.containers] at hc
  rw [h.created]
  exact hd c hc

end SameTable

variable {d : Daemon}

theorem isSound_of_empty (h : d.containers = []) : d.IsSound := by
  intro c hc
  rw [h] at hc
  cases hc

theorem IsSound.create (h : d.IsSound) (name : String) : (d.create name).IsSound := by
  intro c hc
  rcases List.mem_append.1 hc with hc | hc
  · obtain ⟨k, hk, hid⟩ := h c hc
    exact ⟨k, Nat.lt_succ_of_lt hk, hid⟩
  · obtain rfl := List.mem_singleton.1 hc
    exact ⟨d.created, Nat.lt_succ_self _, rfl⟩

theorem IsSound.remove (h : d.IsSound) (name : String) : (d.remove name).IsSound :=
  fun c hc => h c (List.mem_filter.1 hc).1

theorem IsSound.withContainers (h : d.IsSound) (names : List String) :
    (d.withContainers names).IsSound := by
  induction names generalizing d with
  | nil => exact h
  | cons name rest ih =>
    refine ih ?_
    dsimp only
    split
    · exact h
    · exact h.create name

theorem mem_of_id? {name id : String} (h : d.id? name = some id) : (name, id) ∈ d.containers := by
  obtain ⟨l, l', heq, -⟩ := List.lookup_eq_some_iff.1 h
  rw [heq]
  exact List.mem_append_right _ List.mem_cons_self

/-- What was never given out stands for no container in a sound table. -/
theorem IsSound.isNew (h : d.IsSound) {id : String} (hid : ∀ k < d.created, id ≠ idAfter k) :
    d.IsNew id := by
  refine ⟨hid, fun name hname => ?_⟩
  obtain ⟨k, hk, hk'⟩ := h _ (mem_of_id? hname)
  exact hid k hk hk'

/-- What is given out next was never given out. -/
theorem IsSound.isNew_nextId (h : d.IsSound) : d.IsNew d.nextId := by
  refine h.isNew fun k hk heq => ?_
  have := idAfter_inj heq
  omega

/-- What is new was new before, too. -/
theorem IsNew.of_le {later : Daemon} {id : String} (h : later.IsNew id) (hd : d.IsSound)
    (hle : d.created ≤ later.created) : d.IsNew id :=
  hd.isNew fun k hk => h.1 k (Nat.lt_of_lt_of_le hk hle)

/-- The daemon does not deny a container that is there: neither the lookup nor the removal that
comes next says that it is absent. -/
def TellsTruth (name : String) (d : Daemon) : Prop :=
  ∀ request ∈ [Request.lookup, Request.remove], ∀ f, d.due request = some (.fault f) →
    f.kind.isAbsence = true → d.id? name = none

/-- Whether a daemon tells the truth depends on its table and on what is going to happen. -/
theorem TellsTruth.of_same {name : String} {later : Daemon} (h : d.TellsTruth name)
    (htable : d.SameTable later) (hincidents : later.incidents = d.incidents) :
    later.TellsTruth name := by
  intro request hrequest f hdue habsent
  rw [htable.id?]
  refine h request hrequest f ?_ habsent
  rw [Daemon.due, ← hincidents]
  exact hdue

end Daemon
/-! ### Requests -/

/-- The frame of the table. -/
def Act.Frame.table : Frame where
  Holds b c := b.daemon.SameTable c.daemon
  refl b := .refl b.daemon
  trans h hl := h.trans hl

section

open Act.Frame

variable {F : Frame}

/-- What needs only the table to stay is kept by whatever leaves the table alone. -/
theorem Act.Frame.keeps_of_table (hF : ∀ b c : Bench, b.daemon.SameTable c.daemon → F.Holds b c)
    {α : Type} {act : Act α} (h : table.Keeps act) : F.Keeps act := h.mono hF

namespace Table

theorem keeps_say (e : Log.Event) : table.Keeps (say e) := keeps_change fun b => .refl b.daemon

theorem keeps_note (e : Effect) : table.Keeps (note e) := keeps_change fun b => .refl b.daemon

theorem keeps_openDaemon : table.Keeps openDaemon :=
  Frame.keeps_openDaemon (keeps_note _) fun _ _ _ => ⟨rfl, rfl⟩

theorem keeps_request (kind : Request) (effect : Effect) : table.Keeps (request kind effect) :=
  Frame.keeps_request (keeps_note _) fun _ => ⟨rfl, rfl⟩

theorem keeps_lookup (name : String) : table.Keeps (lookup name) :=
  Frame.keeps_lookup (keeps_request _ _)

theorem keeps_reload (name : String) : table.Keeps (reload name) :=
  Frame.keeps_reload (keeps_request _ _)

theorem keeps_logs (name : String) (tail : Int) : table.Keeps (logs name tail) :=
  Frame.keeps_logs (keeps_request _ _)

end Table

theorem Act.Frame.keeps_remove_of_table
    (hF : ∀ b c : Bench, b.daemon.SameTable c.daemon → F.Holds b c) {name : String}
    (hremove : ∀ b : Bench, F.Holds b { b with daemon := b.daemon.remove name }) :
    F.Keeps (remove name) :=
  Frame.keeps_remove (keeps_of_table hF (Table.keeps_request _ _)) hremove

theorem Act.Frame.keeps_create_of_table
    (hF : ∀ b c : Bench, b.daemon.SameTable c.daemon → F.Holds b c) {name : String}
    (hcreate : ∀ b : Bench, F.Holds b { b with daemon := b.daemon.create name })
    (image port : String) (hostPort : Option Int) : F.Keeps (create image name port hostPort) :=
  Frame.keeps_create (keeps_of_table hF (Table.keeps_request _ _)) hcreate

end

variable {name : String} {b c : Bench}

/-- A request is ended by the incident that was due, and it changes no container. -/
theorem Act.request_eq_error {kind : Request} {effect : Effect} {r : Raised}
    (h : (request kind effect).exec b = (.error r, c)) :
    b.daemon.due kind = some r ∧ ∀ name, c.daemon.id? name = b.daemon.id? name := by
  cases hdue : b.daemon.due kind with
  | none =>
    rw [exec_request_of_none hdue] at h
    cases h
  | some r' =>
    rw [exec_request_of_some hdue] at h
    cases h
    exact ⟨rfl, fun _ => rfl⟩

/-- A request that is answered changes no container, and uses up no incident of another kind. -/
theorem Act.request_eq_ok {kind : Request} {effect : Effect}
    (h : (request kind effect).exec b = (.ok (), c)) :
    (∀ name, c.daemon.id? name = b.daemon.id? name) ∧
      ∀ other ≠ kind, c.daemon.due other = b.daemon.due other := by
  cases hdue : b.daemon.due kind with
  | none =>
    rw [exec_request_of_none hdue] at h
    cases h
    refine ⟨fun _ => rfl, fun other hother => ?_⟩
    simp [Daemon.due, Daemon.served, hother]
  | some r =>
    rw [exec_request_of_some hdue] at h
    cases h

/-- A container that was looked up is there, and only a lookup was used up. -/
theorem Act.lookup_eq_ok (h : (lookup name).exec b = (.ok (), c)) :
    (b.daemon.id? name).isSome = true ∧
      ∀ other ≠ Request.lookup, c.daemon.due other = b.daemon.due other := by
  obtain ⟨_, d, hrequest, h⟩ := exec_bind_eq_ok.1 h
  obtain ⟨hsame, hdue⟩ := request_eq_ok hrequest
  rw [exec_bind_of_ok (exec_ask _ d), hsame] at h
  split at h
  · cases h
  · next hthere =>
    cases h
    refine ⟨?_, hdue⟩
    simpa [Option.isSome_iff_ne_none] using hthere

/-- A container that is said to be absent at its lookup is, if the daemon tells the truth. -/
theorem Act.absent_of_lookup (htruth : b.daemon.TellsTruth name) {f : Fault}
    (habsent : f.kind.isAbsence = true) (h : (lookup name).exec b = (.error (.fault f), c)) :
    b.daemon.id? name = none := by
  rcases exec_bind_eq_error.1 h with h | ⟨_, d, hrequest, h⟩
  · exact htruth .lookup (by simp) f (request_eq_error h).1 habsent
  · rw [exec_bind_of_ok (exec_ask _ d), (request_eq_ok hrequest).1] at h
    split at h
    · next hnone => simpa using hnone
    · cases h

/-- A container that was removed is gone from the table. -/
theorem Act.remove_eq_ok (h : (remove name).exec b = (.ok (), c)) :
    ∃ d : Daemon, b.daemon.SameTable d ∧ c.daemon = d.remove name := by
  obtain ⟨_, d, hrequest, h⟩ := exec_bind_eq_ok.1 h
  cases h
  exact ⟨d.daemon, (Table.keeps_request _ _).holds hrequest, rfl⟩

/-- A removal that fails is a request that fails. -/
theorem Act.remove_eq_error {r : Raised} (h : (remove name).exec b = (.error r, c)) :
    b.daemon.SameTable c.daemon ∧ b.daemon.due .remove = some r := by
  rcases exec_bind_eq_error.1 h with h | ⟨_, d, -, h⟩
  · exact ⟨(Table.keeps_request _ _).holds h, (request_eq_error h).1⟩
  · cases h

/-- A container is only created under a name that is free. -/
theorem Act.create_eq_ok {image port id : String} {hostPort : Option Int}
    (h : (create image name port hostPort).exec b = (.ok id, c)) :
    b.daemon.id? name = none ∧ id = b.daemon.nextId ∧
      ∃ d : Daemon, b.daemon.SameTable d ∧ c.daemon = d.create name := by
  obtain ⟨_, d, hrequest, h⟩ := exec_bind_eq_ok.1 h
  have hsame : b.daemon.SameTable d.daemon := (Table.keeps_request _ _).holds hrequest
  rw [exec_bind_of_ok (exec_ask _ d), hsame.id?] at h
  split at h
  · cases h
  · next hfree =>
    cases h
    refine ⟨by simpa using hfree, hsame.nextId, d.daemon, hsame, rfl⟩

theorem Act.create_eq_error {image port : String} {hostPort : Option Int} {r : Raised}
    (h : (create image name port hostPort).exec b = (.error r, c)) :
    b.daemon.SameTable c.daemon := by
  rcases exec_bind_eq_error.1 h with h | ⟨_, d, hrequest, h⟩
  · exact (Table.keeps_request _ _).holds h
  · rw [exec_bind_of_ok (exec_ask _ d)] at h
    split at h
    · cases h
      exact (Table.keeps_request _ _).holds hrequest
    · cases h

end ClientTrial
