import ClientTrial.Proofs.Decimal.Whole
import ClientTrial.Proofs.Entries
import ClientTrial.Proofs.Server.Connection

/-!
# The port that the daemon has chosen

A daemon that is to choose the port of the host for a container shows it in its table of
published ports.  The table lists bindings for each port of the container; it may also list
none, or nothing at all.  A binding may name a port of the host.  The first that is named
under the port of the container counts, whatever stands under other ports.

The name of a port is a numeral, and is read as the number that it denotes, unless it has
more digits than a text may have from which a number is read.

## Main definitions

* `Binding`, `PortTable` — what is shown of the ports of a container.
* `PortTable.Lists` — the first port of the host that is named under a port of the container.
* `Daemon.Serves` — the daemon carries out what it is asked for to start a server.

## Main results

* `PortTable.publishedPort?_tree` — what is found in a table.
* `Server.exec_start_of_serves` — what comes of a start.
* `Server.port_read_back` — the port that a server is reached at.
* `Server.port_unread_of_many_zeros` — a numeral with too many digits.
-/

namespace ClientTrial

open Act

/-! ### Tables of published ports -/

/-- One way to reach a port of a container.  Beside the port of the host anything may be shown of
it. -/
structure Binding where
  members : List (String × Json)
  /-- The port of the host; empty if none is named. -/
  port : String
  shown : members.lookup "HostPort" = some (.str port) ∨
    port = "" ∧ (members.lookup "HostPort" = none ∨ members.lookup "HostPort" = some .null)

/-- The ports of a container, each with its bindings or with nothing. -/
structure PortTable where
  entries : List (String × Option (List Binding))
  distinct : (entries.map Prod.fst).Nodup

/-- A binding as it is shown. -/
def Binding.tree (b : Binding) : Json := .obj b.members

namespace PortTable

variable (t : PortTable) (key : String)

/-- The bindings of a port as they are shown. -/
def bindingsTree (bindings : Option (List Binding)) : Json :=
  (bindings.map fun list => .arr (list.map Binding.tree)).getD .null

/-- A table as it is shown. -/
def tree : Json := .obj (t.entries.map fun entry => (entry.1, bindingsTree entry.2))

/-- The first port of the host that is named under a key. -/
def Lists (text : String) : Prop :=
  ∃ before b after, (key, some (before ++ b :: after)) ∈ t.entries ∧
    (∀ earlier ∈ before, earlier.port = "") ∧ b.port = text ∧ text ≠ ""

/-- The first port of the host that some bindings name, if one does. -/
def firstNamed? (bindings : List Binding) : Option String :=
  (bindings.find? fun b => b.port ≠ "").map Binding.port

/-- The first port of the host that is named under a key, if one is. -/
def port? : Option String := (t.entries.lookup key).join.bind firstNamed?

variable {t key} {text : String}

theorem firstNamed?_eq_some_iff {bindings : List Binding} :
    firstNamed? bindings = some text ↔ ∃ before b after, bindings = before ++ b :: after ∧
      (∀ earlier ∈ before, earlier.port = "") ∧ b.port = text ∧ text ≠ "" := by
  unfold firstNamed?
  rw [Option.map_eq_some_iff]
  constructor
  · rintro ⟨b, hfind, rfl⟩
    obtain ⟨hb, before, after, rfl, hbefore⟩ := List.find?_eq_some_iff_append.1 hfind
    exact ⟨before, b, after, rfl, by simpa using hbefore, rfl, by simpa using hb⟩
  · rintro ⟨before, b, after, rfl, hbefore, rfl, hb⟩
    refine ⟨b, List.find?_eq_some_iff_append.2 ⟨by simpa using hb, before, after, rfl, ?_⟩, rfl⟩
    simpa using hbefore

/-- What is looked for in a table is what it lists. -/
theorem port?_eq_some_iff : t.port? key = some text ↔ t.Lists key text := by
  unfold port? Lists
  constructor
  · intro h
    obtain ⟨bindings, hlookup, hfirst⟩ := Option.bind_eq_some_iff.1 h
    obtain ⟨before, b, after, rfl, hbefore, hb⟩ := firstNamed?_eq_some_iff.1 hfirst
    refine ⟨before, b, after, ?_, hbefore, hb⟩
    exact (Entries.lookup_eq_some_iff_mem t.distinct).1 (Option.join_eq_some_iff.1 hlookup)
  · rintro ⟨before, b, after, hmem, hbefore, hb⟩
    rw [(Entries.lookup_eq_some_iff_mem t.distinct).2 hmem]
    exact firstNamed?_eq_some_iff.2 ⟨before, b, after, rfl, hbefore, hb⟩

theorem port?_eq_none_iff : t.port? key = none ↔ ∀ text, ¬t.Lists key text := by
  simp only [← port?_eq_some_iff, Option.eq_none_iff_forall_ne_some, ne_eq]

/-! ### What is found in a table -/

theorem firstPort?_tree (bindings : List Binding) :
    firstPort? (bindings.map Binding.tree) = .ok ((firstNamed? bindings).map .str) := by
  induction bindings with
  | nil => rfl
  | cons b rest ih =>
    unfold firstNamed? at ih ⊢
    rw [List.map_cons, firstPort?, Binding.tree, memberOf, Except.bind, List.find?_cons]
    by_cases hport : b.port = ""
    · have hnone : (b.members.lookup "HostPort").filter Json.isTruthy = none := by
        rcases b.shown with h | ⟨-, h | h⟩
        · rw [h, hport]; rfl
        · rw [h]; rfl
        · rw [h]; rfl
      simp only [hnone, hport, ne_eq, not_true_eq_false, decide_false]
      exact ih
    · have hsome : (b.members.lookup "HostPort").filter Json.isTruthy = some (.str b.port) := by
        rw [b.shown.resolve_right fun h => hport h.1]
        simp [Option.filter, Json.isTruthy, hport]
      simp [hsome, hport]

/-- What is found in a table is what is looked for in it, whatever stands under other keys. -/
theorem publishedPort?_tree (t : PortTable) (key : String) :
    publishedPort? t.tree key = .ok ((t.port? key).map .str) := by
  have hmember : memberOf key t.tree = .ok ((t.entries.lookup key).map bindingsTree) :=
    congrArg Except.ok (Entries.lookup_map bindingsTree t.entries key)
  unfold publishedPort? port?
  dsimp only
  split
  · rw [hmember]
    rcases t.entries.lookup key with _ | _ | _ | ⟨b, rest⟩
    · rfl
    · rfl
    · rfl
    · exact firstPort?_tree (b :: rest)
  · next hempty =>
    have hnil : t.entries = [] := by simpa [tree, Json.isTruthy] using hempty
    rw [hnil]
    rfl

/-- A binding stands in a table, under whatever key. -/
def Shows (t : PortTable) (b : Binding) : Prop :=
  ∃ key bindings, (key, some bindings) ∈ t.entries ∧ b ∈ bindings

/-- Every port of the host that is named in a table is a positive number. -/
def IsPositive (t : PortTable) : Prop :=
  ∀ b, t.Shows b → b.port ≠ "" → ∃ n, 0 < n ∧ Decimal.ofDigits? b.port.toList = some n

theorem IsPositive.of_lists (h : t.IsPositive) (hlists : t.Lists key text) :
    ∃ n, 0 < n ∧ Decimal.ofDigits? text.toList = some n := by
  obtain ⟨before, b, after, hmem, -, rfl, htext⟩ := hlists
  exact h b ⟨key, _, hmem, List.mem_append_cons_self⟩ htext

end PortTable

/-! ### A daemon that starts a server -/

/-- The daemon carries out what it is asked for to start a server of a name: there is a connection
or one can be opened, the name is free, and neither the creation of the container nor the request
for its ports fails. -/
structure Daemon.Serves (d : Daemon) (name : String) : Prop where
  reached : d.opened = true ∨ d.openings.due = none
  free : d.id? name = none
  creates : d.due .create = none
  shows : d.due .reload = none

variable {b : Bench}

/-- The daemon with a connection, which is opened if there is none. -/
theorem Bench.daemon_connected : ∃ openings, b.connected.daemon =
    { b.daemon with opened := true, openings } := by
  unfold Bench.connected
  split
  · next h => exact ⟨b.daemon.openings, by rw [← h]⟩
  · exact ⟨_, rfl⟩

theorem Bench.trace_connected : b.connected.trace.toList =
    b.trace.toList ++ if b.daemon.opened then [] else [.openDaemon] := by
  unfold Bench.connected
  split
  · exact (List.append_nil _).symm
  · exact Array.toList_push

theorem Act.exec_create_of_free {image name port : String} {hostPort : Option Int}
    (hdue : b.daemon.due .create = none) (hfree : b.daemon.id? name = none) :
    (create image name port hostPort).exec b = (.ok b.daemon.nextId,
      { b.noting (.create image name port hostPort) with
        daemon := (b.daemon.served .create).create name }) := by
  unfold create
  rw [exec_bind_of_ok (exec_request_of_none hdue _), exec_bind_of_ok (exec_ask _ _)]
  dsimp only
  rw [Daemon.id?_served, hfree]
  rfl

theorem Act.exec_reload_of_due_none {name : String} (hdue : b.daemon.due .reload = none) :
    (reload name).exec b = (.ok b.daemon.published,
      { b.noting (.reload name) with daemon := b.daemon.served .reload }) := by
  unfold reload
  rw [exec_bind_of_ok (exec_request_of_none hdue _)]
  rfl

namespace Server

variable {name image : String} {containerPort : Int} {hostPort : Option Int} {t : PortTable}

/-- The bench on which the container of a new server has just been created. -/
def launched (b : Bench) (name image : String) (containerPort : Int) (hostPort : Option Int) :
    Bench :=
  { b.connected.noting (.create image name (portKey containerPort) hostPort) with
    daemon := (b.connected.daemon.served .create).create name }

/-- The effects of a creation, which may have to open the connection. -/
def launchEffects (b : Bench) (name image : String) (containerPort : Int)
    (hostPort : Option Int) : List Effect :=
  (if b.daemon.opened then [] else [.openDaemon]) ++
    [.create image name (portKey containerPort) hostPort]

theorem trace_launched : (launched b name image containerPort hostPort).trace.toList =
    b.trace.toList ++ launchEffects b name image containerPort hostPort := by
  rw [launched, launchEffects, ← List.append_assoc, ← Bench.trace_connected]
  exact Array.toList_push

/-- A daemon that serves creates the container, and can still show its ports. -/
theorem exec_launch (h : b.daemon.Serves name) (image : String) (containerPort : Int)
    (hostPort : Option Int) :
    (do ensureDaemon; create image name (portKey containerPort) hostPort).exec b =
      (.ok b.daemon.nextId, launched b name image containerPort hostPort) ∧
    (launched b name image containerPort hostPort).daemon.due .reload = none ∧
    (launched b name image containerPort hostPort).daemon.published = b.daemon.published := by
  obtain ⟨openings, hdaemon⟩ := b.daemon_connected
  have hdue : b.connected.daemon.due .create = none := by
    rw [hdaemon]
    exact h.creates
  have hfree : b.connected.daemon.id? name = none := by
    rw [hdaemon]
    exact h.free
  have hid : b.connected.daemon.nextId = b.daemon.nextId := by
    rw [hdaemon]
    rfl
  refine ⟨?_, ?_, ?_⟩
  · rw [exec_bind_of_ok (exec_ensureDaemon_of_due_none h.reached),
      Act.exec_create_of_free hdue hfree, hid]
    rfl
  · change b.connected.daemon.due .reload = none
    rw [hdaemon]
    exact h.shows
  · change b.connected.daemon.published = _
    rw [hdaemon]

/-- A server whose port is configured is reached there. -/
theorem exec_start_of_configured (h : b.daemon.Serves name) {port : Int}
    (hport : hostPort.filter (· ≠ 0) = some port) :
    (start name image containerPort hostPort).exec b =
      (.ok ⟨name, image, containerPort, port, b.daemon.nextId⟩,
        (launched b name image containerPort hostPort).saying
          (.serverStarted name image containerPort port)) := by
  unfold start
  rw [exec_bind_of_ok (exec_attempt _ b), (exec_launch h image containerPort hostPort).1]
  dsimp only
  rw [hport]
  rfl

/-- What a table comes to as the port of a server. -/
def portIn (t : PortTable) (name key : String) : Except Raised Int :=
  match t.port? key with
  | some text => (portNumber (.str text)).mapError Raised.fault
  | none =>
    .error (notStarted ("Container " ++ name ++ " did not publish " ++ key) [("ports", t.tree)]
      none)

theorem exec_chosenPort (name key : String) (hdue : b.daemon.due .reload = none)
    (hpublished : b.daemon.published = t.tree) :
    (chosenPort name key).exec b = (portIn t name key,
      { b.noting (.reload name) with daemon := b.daemon.served .reload }) := by
  unfold chosenPort portIn
  rw [exec_bind_of_ok (Act.exec_reload_of_due_none hdue), hpublished,
    PortTable.publishedPort?_tree, exec_bind_of_ok (exec_ofExcept _ _)]
  cases t.port? key with
  | none => rfl
  | some text => exact exec_ofExcept _ _

/-- A server whose port the daemon has chosen is reached where the table shows it. -/
theorem exec_start_of_chosen (image : String) (containerPort : Int) (h : b.daemon.Serves name)
    (hpublished : b.daemon.published = t.tree) (hport : hostPort.filter (· ≠ 0) = none) :
    ∃ c, (start name image containerPort hostPort).exec b =
        ((portIn t name (portKey containerPort)).map fun port =>
          ⟨name, image, containerPort, port, b.daemon.nextId⟩, c) ∧
      c.trace.toList = b.trace.toList ++ launchEffects b name image containerPort hostPort ++
        [.reload name] := by
  obtain ⟨hlaunch, hdue, hshown⟩ := exec_launch h image containerPort hostPort
  have hchosen := exec_chosenPort name (portKey containerPort) hdue (hshown.trans hpublished)
  unfold start
  rw [exec_bind_of_ok (exec_attempt _ b), hlaunch]
  dsimp only
  rw [hport]
  dsimp only
  rw [exec_bind, hchosen, ← trace_launched]
  cases portIn t name (portKey containerPort) with
  | error r => exact ⟨_, rfl, Array.toList_push⟩
  | ok port => exact ⟨_, rfl, Array.toList_push⟩

/-! ### The port of a server that is started -/

theorem kind_unreadablePort (text : String) : (unreadablePort text).kind = .value := by
  unfold unreadablePort
  split
  · rfl
  · rfl

/-- A numeral is read as the number that it denotes, unless it has too many digits. -/
theorem portNumber_of_digits {text : String} {n : Nat}
    (hn : Decimal.ofDigits? text.toList = some n) :
    portNumber (.str text) =
      if Decimal.mostDigits < text.length then .error (unreadablePort text) else .ok (n : Int) := by
  unfold portNumber
  dsimp only
  rw [Decimal.whole?_of_digits hn]
  by_cases hmany : Decimal.mostDigits < text.length
  · rw [if_pos hmany, if_pos hmany]
  · rw [if_neg hmany, if_neg hmany]

theorem portIn_of_lists {key text : String} (name : String) (h : t.Lists key text) :
    portIn t name key = (portNumber (.str text)).mapError Raised.fault := by
  unfold portIn
  rw [PortTable.port?_eq_some_iff.2 h]

theorem portIn_of_none {key : String} (name : String) (h : ∀ text, ¬t.Lists key text) :
    portIn t name key = .error (notStarted
      ("Container " ++ name ++ " did not publish " ++ key) [("ports", t.tree)] none) := by
  unfold portIn
  rw [PortTable.port?_eq_none_iff.2 h]

/-- There is an error of a server that was not started iff no port is named. -/
theorem portIn_eq_trial_iff (name : String) {key : String} :
    (∃ e cause, portIn t name key = .error (.trial e cause) ∧ e.name = "ServerStartFailed") ↔
      ∀ text, ¬t.Lists key text := by
  constructor
  · rintro ⟨e, cause, h, -⟩ text hlists
    rw [portIn_of_lists name hlists] at h
    cases hread : portNumber (.str text) with
    | ok port =>
      rw [hread] at h
      cases h
    | error f =>
      rw [hread] at h
      cases h
  · exact fun h => ⟨_, _, portIn_of_none name h, rfl⟩

/-- A server is never reached at port zero if the daemon only publishes positive ports. -/
theorem hostPort_ne_zero (hpublished : b.daemon.published = t.tree) (hpositive : t.IsPositive)
    {s : Server} {c : Bench} (h : (start name image containerPort hostPort).exec b = (.ok s, c)) :
    s.hostPort ≠ 0 := by
  have hbound := isBound_of_start h
  unfold IsBound at hbound
  split at hbound
  · next configured hport =>
    rw [hbound]
    exact of_decide_eq_true (Option.filter_eq_some_iff.1 hport).2
  · obtain ⟨listed, hlisted, hread⟩ := hbound
    rw [hpublished, PortTable.publishedPort?_tree] at hlisted
    obtain ⟨text, htext, rfl⟩ := Option.map_eq_some_iff.1 (Except.ok.inj hlisted)
    obtain ⟨n, hpos, hn⟩ := hpositive.of_lists (PortTable.port?_eq_some_iff.1 htext)
    rw [portNumber_of_digits hn] at hread
    split at hread
    · cases hread
    · have hport : (n : Int) = s.hostPort := Except.ok.inj hread
      omega

/-- **The port that a server is reached at.**  If the daemon carries out what it is asked for, a
server whose port of the host is configured, and not zero, is reached there, and its ports are not
read.  Otherwise they are read once, and the first port that is named under the port of the
container counts, whatever stands under other ports: the server is reached at the number that it
denotes, unless it has too many digits to be read.  There is an error of a server that was not
started iff no port is named there.  A daemon that only publishes positive ports never leads to a
server at port zero, whatever else it does. -/
theorem port_read_back (name image : String) (containerPort : Int) (hostPort : Option Int)
    (t : PortTable) (b : Bench) (hpublished : b.daemon.published = t.tree) :
    (b.daemon.Serves name → ∃ ended c,
      (start name image containerPort hostPort).exec b = (ended, c) ∧
      (∀ port, hostPort = some port → port ≠ 0 →
        ended = .ok ⟨name, image, containerPort, port, b.daemon.nextId⟩ ∧
        c.trace.toList = b.trace.toList ++ launchEffects b name image containerPort hostPort) ∧
      (hostPort = none ∨ hostPort = some 0 →
        c.trace.toList = b.trace.toList ++ launchEffects b name image containerPort hostPort ++
          [.reload name] ∧
        (∀ text n, t.Lists (portKey containerPort) text →
          Decimal.ofDigits? text.toList = some n →
            (text.length ≤ Decimal.mostDigits →
              ended = .ok ⟨name, image, containerPort, n, b.daemon.nextId⟩) ∧
            (Decimal.mostDigits < text.length →
              ∃ f, ended = .error (.fault f) ∧ f.kind = .value)) ∧
        ((∃ e cause, ended = .error (.trial e cause) ∧ e.name = "ServerStartFailed") ↔
          ∀ text, ¬t.Lists (portKey containerPort) text))) ∧
    (t.IsPositive → ∀ s c,
      (start name image containerPort hostPort).exec b = (.ok s, c) → s.hostPort ≠ 0) := by
  refine ⟨fun hserves => ?_, fun hpositive s c h => hostPort_ne_zero hpublished hpositive h⟩
  cases hport : hostPort.filter (· ≠ 0) with
  | some configured =>
    obtain ⟨rfl, hne⟩ := Option.filter_eq_some_iff.1 hport
    refine ⟨_, _, exec_start_of_configured hserves hport, ?_, ?_⟩
    · rintro port ⟨⟩ -
      exact ⟨rfl, trace_launched⟩
    · rintro (h | h)
      · cases h
      · cases h
        exact absurd rfl (of_decide_eq_true hne)
  | none =>
    obtain ⟨c, hexec, htrace⟩ := exec_start_of_chosen image containerPort hserves hpublished hport
    refine ⟨_, c, hexec, ?_, fun _ => ⟨htrace, fun text n hlists hn => ?_, ?_⟩⟩
    · rintro port rfl hne
      simp [Option.filter, hne] at hport
    · rw [portIn_of_lists name hlists, portNumber_of_digits hn]
      constructor
      · intro hfew
        rw [if_neg (Nat.not_lt.2 hfew)]
        rfl
      · intro hmany
        rw [if_pos hmany]
        exact ⟨_, rfl, kind_unreadablePort text⟩
    · rw [← portIn_eq_trial_iff name]
      cases portIn t name (portKey containerPort) with
      | ok port => simp [Except.map]
      | error r => simp [Except.map]

/-- A port of the host that is named under other ports, and a binding without one, do not count. -/
theorem port_read_back_of_second_binding :
    let unnamed : Binding :=
      ⟨[("HostIp", .str "0.0.0.0"), ("HostPort", .null)], "", .inr ⟨rfl, .inr rfl⟩⟩
    let named (port : String) : Binding := ⟨[("HostPort", .str port)], port, .inl rfl⟩
    let t : PortTable :=
      ⟨[("80/tcp", some [named "8080"]), ("6667/udp", none),
        ("6667/tcp", some [unnamed, named "49153", named "50000"])], by decide⟩
    let b : Bench :=
      { Bench.quiet with daemon := { published := t.tree, opened := false } }
    b.daemon.published = t.tree ∧ b.daemon.Serves "ircd" ∧
      ∃ c, (start "ircd" "image" 6667 (some 0)).exec b =
          (.ok ⟨"ircd", "image", 6667, 49153, "id1"⟩, c) ∧
        c.trace.toList =
          [.openDaemon, .create "image" "ircd" "6667/tcp" (some 0), .reload "ircd"] := by
  intro unnamed named t b
  have serves : b.daemon.Serves "ircd" := ⟨.inr rfl, rfl, rfl, rfl⟩
  have hkey : portKey 6667 = "6667/tcp" := by decide +kernel
  have hid : b.daemon.nextId = "id1" := by decide +kernel
  have lists : t.Lists (portKey 6667) "49153" := by
    rw [hkey]
    refine ⟨[unnamed], named "49153", [named "50000"], ?_, ?_, rfl, by decide⟩
    · exact List.mem_cons_of_mem _ (List.mem_cons_of_mem _ List.mem_cons_self)
    · exact fun earlier h => congrArg Binding.port (List.mem_singleton.1 h)
  obtain ⟨ended, c, hexec, -, hchosen⟩ :=
    (port_read_back "ircd" "image" 6667 (some 0) t b rfl).1 serves
  obtain ⟨htrace, hread, -⟩ := hchosen (.inr rfl)
  rw [(hread "49153" 49153 lists (by decide +kernel)).1 (by decide +kernel), hid] at hexec
  refine ⟨rfl, serves, c, hexec, htrace.trans ?_⟩
  rw [launchEffects, hkey]
  rfl

/-- **A port that is not read.**  With zeros in front a port may be written with so many digits that
it is not read as a number: there is no server, though the port is named. -/
theorem port_unread_of_many_zeros :
    let text := String.ofList (List.replicate 4300 '0' ++ Decimal.digits 49153)
    let t : PortTable :=
      ⟨[("6667/tcp", some [⟨[("HostPort", .str text)], text, .inl rfl⟩])], by simp⟩
    let b : Bench := { Bench.quiet with daemon := { published := t.tree } }
    b.daemon.Serves "ircd" ∧ t.Lists (portKey 6667) text ∧
      Decimal.ofDigits? text.toList = some 49153 ∧
      ∃ f c, (start "ircd" "image" 6667 none).exec b = (.error (.fault f), c) ∧
        f.kind = .value := by
  intro text t b
  have serves : b.daemon.Serves "ircd" := ⟨.inl rfl, rfl, rfl, rfl⟩
  have hkey : portKey 6667 = "6667/tcp" := by decide +kernel
  have hread : Decimal.ofDigits? text.toList = some 49153 := by
    rw [String.toList_ofList]
    exact Decimal.ofDigits?_zeros_digits 4300 49153
  have hlength : Decimal.mostDigits < text.length := by
    have hdigits := Decimal.length_digits_pos 49153
    rw [← String.length_toList, String.toList_ofList, List.length_append, List.length_replicate,
      Decimal.mostDigits]
    omega
  have lists : t.Lists (portKey 6667) text := by
    rw [hkey]
    refine ⟨[], _, [], List.mem_singleton_self _, ?_, rfl, fun hempty => ?_⟩
    · exact fun earlier h => nomatch h
    · rw [hempty] at hlength
      exact absurd hlength (by decide)
  have hpublished : b.daemon.published = t.tree := rfl
  have hport : (none : Option Int).filter (· ≠ 0) = none := rfl
  obtain ⟨c, hexec, -⟩ := exec_start_of_chosen "image" 6667 serves hpublished hport
  rw [portIn_of_lists _ lists, portNumber_of_digits hread, if_pos hlength] at hexec
  exact ⟨serves, lists, hread, _, c, hexec, kind_unreadablePort text⟩

end Server
end ClientTrial
