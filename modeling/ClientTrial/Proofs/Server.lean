import ClientTrial.Proofs.Bench.Table
import ClientTrial.Proofs.Tasks

/-!
# Servers that are started and removed

A server that is started is reached at the port of the host that is configured, or at the
one that the daemon has chosen and shows in its table of published ports.

A server counts as removed if the daemon says that there is no container of its
name, be it at the lookup or at the removal.  It is gone, then, unless the daemon
denies a container that is there.

## Main definitions

* `Server.IsBound` — a port of the host is the one that a server is reached at.

## Main results

* `Server.opened_of_ensureDaemon`, `Server.isFault_of_ensureDaemon` — the daemon is reached
  over an open connection, or something is raised that is no refused request.
* `Server.isBound_of_start` — a server that was started is reached at its port.
* `Server.absent_of_stop` — a server that was removed without complaint is gone.
-/

namespace ClientTrial

open Act

/-! ### The connection to the daemon -/

namespace Server

/-- The connection to the daemon is at hand. -/
theorem exec_ensureDaemon_of_opened {b : Bench} (h : b.daemon.opened = true) :
    Server.ensureDaemon.exec b = (.ok (), b) := by
  have opened : openDaemon.exec b = (.ok (), b) := by
    unfold openDaemon
    rw [exec_bind_of_ok (exec_ask _ b), if_pos h]
    rfl
  unfold ensureDaemon
  rw [exec_bind_of_ok (exec_attempt _ b), opened]
  rfl

/-- A connection to the daemon that was ensured is open. -/
theorem opened_of_ensureDaemon {b c : Bench} (h : ensureDaemon.exec b = (.ok (), c)) :
    c.daemon.opened = true := by
  cases hopened : b.daemon.opened with
  | true =>
    rw [exec_ensureDaemon_of_opened hopened] at h
    cases h
    exact hopened
  | false =>
    unfold ensureDaemon at h
    rw [exec_bind_of_ok (exec_attempt _ b)] at h
    rcases hopen : openDaemon.exec b with ⟨raised | _, d⟩
    · rw [hopen] at h
      dsimp only at h
      split at h
      · cases h
      · cases h
    · rw [hopen] at h
      cases h
      unfold openDaemon at hopen
      rw [exec_bind_of_ok (exec_ask _ b), if_neg (by simp [hopened])] at hopen
      -- the last thing that is done opens the connection
      obtain ⟨_, _, -, hopen⟩ := exec_bind_eq_ok.1 hopen
      obtain ⟨_, _, -, hopen⟩ := exec_bind_eq_ok.1 hopen
      obtain ⟨_, _, -, hopen⟩ := exec_bind_eq_ok.1 hopen
      obtain ⟨_, _, -, hopen⟩ := exec_bind_eq_ok.1 hopen
      cases hopen
      rfl

theorem eq_fault_of_isFault {p : Fault.Kind → Bool} {r : Raised} {f : Fault}
    (h : isFault p r = some f) : r = .fault f ∧ p f.kind = true := by
  rcases r with (⟨e, cause⟩ | g) | text | _
  · cases h
  · unfold isFault at h
    dsimp only at h
    split at h
    · next hp =>
      cases h
      exact ⟨rfl, hp⟩
    · cases h
  · cases h
  · cases h

/-- What ends an attempt at reaching the daemon is never taken for a request that was refused. -/
theorem isFault_of_ensureDaemon {b c : Bench} {r : Raised}
    (h : ensureDaemon.exec b = (.error r, c)) : isFault Fault.Kind.isRefusal r = none := by
  unfold ensureDaemon at h
  rw [exec_bind_of_ok (exec_attempt _ b)] at h
  rcases hopen : openDaemon.exec b with ⟨raised | _, d⟩
  · rw [hopen] at h
    dsimp only at h
    split at h
    · next hnone =>
      cases h
      rcases r with (⟨e, cause⟩ | f) | text | _
      · rfl
      · -- a refused request would be a fault of the daemon
        unfold isFault at hnone ⊢
        dsimp only at hnone ⊢
        split at hnone
        · cases hnone
        · next hdaemon =>
          refine if_neg fun hrefusal => hdaemon ?_
          exact Fault.Kind.isDaemon_of_isRefusal hrefusal
      · rfl
      · rfl
    · cases h
      rfl
  · rw [hopen] at h
    cases h

end Server

/-! ### A server that is started -/

namespace Server

/-- The port of the host that a server is reached at: the one that is configured, unless that is
zero, and else the one that a table of published ports shows for the port of the container. -/
def IsBound (containerPort : Int) (hostPort : Option Int) (table : Json) (port : Int) : Prop :=
  match hostPort.filter (· ≠ 0) with
  | some configured => port = configured
  | none =>
    ∃ listed, publishedPort? table (portKey containerPort) = .ok (some listed) ∧
      portNumber listed = .ok port

/-- The frame of the table of published ports. -/
def publishing : Frame where
  Holds b c := c.daemon.published = b.daemon.published
  refl _ := rfl
  trans h hl := hl.trans h

theorem publishing_request (kind : Request) (effect : Effect) :
    publishing.Keeps (request kind effect) :=
  Frame.keeps_request (Frame.keeps_change fun _ => rfl) fun _ => rfl

theorem publishing_create (image name port : String) (hostPort : Option Int) :
    publishing.Keeps (do ensureDaemon; create image name port hostPort) := by
  have opens : publishing.Keeps openDaemon :=
    Frame.keeps_openDaemon (Frame.keeps_change fun _ => rfl) fun _ _ _ => rfl
  refine Frame.keeps_bind (Frame.keeps_ensureDaemon opens) fun _ => ?_
  exact Frame.keeps_create (publishing_request _ _) fun _ => rfl

/-- What is answered when a container is read anew is the table of the daemon. -/
theorem reload_eq_ok {name : String} {b c : Bench} {table : Json}
    (h : (reload name).exec b = (.ok table, c)) : table = b.daemon.published := by
  obtain ⟨_, d, hrequest, hask⟩ := exec_bind_eq_ok.1 h
  cases hask
  exact (publishing_request _ _).holds hrequest

/-- A server that was started is reached at the port that is configured, or at the one that the
daemon publishes. -/
theorem isBound_of_start {name image : String} {containerPort : Int} {hostPort : Option Int}
    {s : Server} {b c : Bench}
    (h : (start name image containerPort hostPort).exec b = (.ok s, c)) :
    IsBound containerPort hostPort b.daemon.published s.hostPort := by
  unfold start at h
  rw [exec_bind_of_ok (exec_attempt _ b)] at h
  rcases hcreate : (do ensureDaemon; create image name (portKey containerPort) hostPort).exec b
    with ⟨raised | id, d⟩
  · -- a container that was not created leads to no server
    rw [hcreate] at h
    dsimp only at h
    split at h
    · cases h
    · split at h
      · cases h
      · cases h
  · have hpublished : d.daemon.published = b.daemon.published :=
      (publishing_create _ _ _ _).holds hcreate
    rw [hcreate] at h
    unfold IsBound
    dsimp only at h
    cases hport : hostPort.filter (· ≠ 0) with
    | some configured =>
      rw [hport] at h
      cases h
      rfl
    | none =>
      rw [hport] at h
      obtain ⟨bound, e, hbound, h⟩ := exec_bind_eq_ok.1 h
      cases h
      obtain ⟨table, _, hreload, hbound⟩ := exec_bind_eq_ok.1 hbound
      rw [reload_eq_ok hreload, hpublished] at hbound
      obtain ⟨listed, _, hlisted, hbound⟩ := exec_bind_eq_ok.1 hbound
      obtain ⟨hshown, rfl⟩ := exec_ofExcept_eq_ok.1 hlisted
      cases listed with
      | none => cases hbound
      | some port => exact ⟨port, hshown, (exec_ofExcept_eq_ok.1 hbound).1⟩

end Server

/-! ### A server that is removed -/

namespace Server

variable {name : String} {b c : Bench}

/-- The frame of what a connection to the daemon leaves alone. -/
def connecting : Frame where
  Holds b c := c.daemon.containers = b.daemon.containers ∧ c.daemon.incidents = b.daemon.incidents
  refl _ := ⟨rfl, rfl⟩
  trans h hl := ⟨hl.1.trans h.1, hl.2.trans h.2⟩

theorem keeps_ensureDaemon : connecting.Keeps ensureDaemon := by
  have opens : connecting.Keeps openDaemon :=
    Frame.keeps_openDaemon (Frame.keeps_change fun _ => ⟨rfl, rfl⟩) fun _ _ _ => ⟨rfl, rfl⟩
  exact Frame.keeps_ensureDaemon opens

/-- What is done over a connection to the daemon is ended before the first request by something that
is no refused request, or else finds the table and the incidents as they were. -/
theorem ensured_eq {α : Type} {act : Act α} {e : Except Raised α}
    (h : (do ensureDaemon; act).exec b = (e, c)) :
    (∃ r, e = .error r ∧ isFault Fault.Kind.isRefusal r = none ∧ b.daemon.SameTable c.daemon) ∨
      ∃ d : Bench, b.daemon.SameTable d.daemon ∧ d.daemon.incidents = b.daemon.incidents ∧
        act.exec d = (e, c) := by
  have htable := Act.Frame.keeps_ensureDaemon Table.keeps_openDaemon
  rcases hensure : ensureDaemon.exec b with ⟨r | _, d⟩
  · rw [exec_bind_of_error hensure] at h
    cases h
    exact .inl ⟨r, rfl, isFault_of_ensureDaemon hensure, htable.holds hensure⟩
  · rw [exec_bind_of_ok hensure] at h
    exact .inr ⟨d, htable.holds hensure, (keeps_ensureDaemon.holds hensure).2, h⟩

/-- A container that was looked up over a connection is there. -/
theorem ensured_lookup_eq_ok (h : (do ensureDaemon; lookup name).exec b = (.ok (), c)) :
    b.daemon.SameTable c.daemon ∧ (b.daemon.id? name).isSome = true ∧
      c.daemon.due .remove = b.daemon.due .remove := by
  rcases ensured_eq h with ⟨_, hr, -⟩ | ⟨d, hsame, hincidents, hl⟩
  · cases hr
  · obtain ⟨hthere, hdue⟩ := lookup_eq_ok hl
    refine ⟨hsame.trans ((Table.keeps_lookup name).holds hl), (hsame.id? name) ▸ hthere, ?_⟩
    rw [hdue .remove (by decide), Daemon.due, hincidents]
    rfl

/-- A container that was looked up in vain is absent if the daemon says so. -/
theorem ensured_lookup_eq_error {r : Raised}
    (h : (do ensureDaemon; lookup name).exec b = (.error r, c)) :
    b.daemon.SameTable c.daemon ∧
      (b.daemon.TellsTruth name → ∀ f, isFault Fault.Kind.isRefusal r = some f →
        f.kind.isAbsence = true → b.daemon.id? name = none) := by
  rcases ensured_eq h with ⟨r', hr, hnot, hsame⟩ | ⟨d, hsame, hincidents, hl⟩
  · cases hr
    refine ⟨hsame, fun _ f hrefused => ?_⟩
    rw [hnot] at hrefused
    cases hrefused
  · refine ⟨hsame.trans ((Table.keeps_lookup name).holds hl), fun htruth f hrefused habsent => ?_⟩
    obtain ⟨rfl, -⟩ := eq_fault_of_isFault hrefused
    rw [← hsame.id?]
    exact absent_of_lookup (htruth.of_same hsame hincidents) habsent hl

/-- A container is created over a connection under a name that is free. -/
theorem ensured_create_eq_ok {image port id : String} {hostPort : Option Int}
    (h : (do ensureDaemon; create image name port hostPort).exec b = (.ok id, c)) :
    b.daemon.id? name = none ∧ id = b.daemon.nextId ∧
      ∃ d : Daemon, b.daemon.SameTable d ∧ c.daemon = d.create name := by
  rcases ensured_eq h with ⟨_, hr, -⟩ | ⟨e, hsame, -, hc⟩
  · cases hr
  · obtain ⟨hfree, hid, d, hd, hcreated⟩ := create_eq_ok hc
    exact ⟨(hsame.id? name).symm.trans hfree, hid.trans hsame.nextId, d, hsame.trans hd, hcreated⟩

theorem ensured_create_eq_error {image port : String} {hostPort : Option Int} {r : Raised}
    (h : (do ensureDaemon; create image name port hostPort).exec b = (.error r, c)) :
    b.daemon.SameTable c.daemon := by
  rcases ensured_eq h with ⟨_, -, -, hsame⟩ | ⟨_, hsame, -, hc⟩
  · exact hsame
  · exact hsame.trans (create_eq_error hc)

/-- If the removal of a server is ended because the container is said to be absent, it is, as long
as the daemon tells the truth. -/
theorem absent_of_fault (htruth : b.daemon.TellsTruth name) {f : Fault}
    (habsent : f.kind.isAbsence = true)
    (h : (do ensureDaemon; lookup name; remove name).exec b = (.error (.fault f), c)) :
    c.daemon.id? name = none := by
  rw [← bind_assoc] at h
  rcases exec_bind_eq_error.1 h with h | ⟨_, d, hlookup, h⟩
  · obtain ⟨hsame, hnone⟩ := ensured_lookup_eq_error h
    have hrefused : isFault Fault.Kind.isRefusal (.fault f) = some f :=
      if_pos (Fault.Kind.isRefusal_of_isAbsence habsent)
    exact (hsame.id? name).trans (hnone htruth f hrefused habsent)
  · -- a container that was found is not said to be absent
    obtain ⟨-, hthere, hdue⟩ := ensured_lookup_eq_ok hlookup
    obtain ⟨-, hincident⟩ := remove_eq_error h
    rw [hdue] at hincident
    rw [htruth .remove (by simp) f hincident habsent] at hthere
    cases hthere

/-- A server that was removed without complaint is gone, as long as the daemon tells the truth. -/
theorem absent_of_stop (htruth : b.daemon.TellsTruth name)
    (h : (stop name).exec b = (.ok none, c)) : c.daemon.id? name = none := by
  unfold stop at h
  rw [exec_bind_of_ok (exec_attempt _ b)] at h
  rcases hstop : (do ensureDaemon; lookup name; remove name).exec b with ⟨raised | _, d⟩
  · rw [hstop] at h
    rcases raised with (⟨e, cause⟩ | f) | _ | _
    · cases h
    · dsimp only at h
      split at h
      · next habsent =>
        cases h
        exact absent_of_fault htruth habsent hstop
      · cases h
    · cases h
    · cases h
  · rw [hstop] at h
    cases h
    obtain ⟨_, _, -, hlater⟩ := exec_bind_eq_ok.1 hstop
    obtain ⟨_, _, -, hremove⟩ := exec_bind_eq_ok.1 hlater
    obtain ⟨removed, -, hgone⟩ := remove_eq_ok hremove
    exact (congrArg (·.id? name) hgone).trans (removed.id?_remove_self name)

end Server
end ClientTrial
