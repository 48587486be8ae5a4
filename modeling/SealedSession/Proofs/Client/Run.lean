import SealedSession.Client.Connect
import SealedSession.Proofs.Handshake.Invariant

/-!
# Runs of a client

A client does one of a dozen things next: its owner wants something, a reader or a writer takes its
turn, something that was under way ends, time passes. `Move` lists them, `step` makes one, and `run`
makes one after another, in any order.

A client touches its handshake through the operations of the handshake alone. So a run of a client
is a run of its handshake as well, and what holds of the latter holds of the client.

* `connect_cases`: an attempt to connect opens a socket, or it leaves the handshake alone.
* `operations`: what a move does to the handshake; `handshake_step` says that it does just that.
* `Does`, `does_of_mem_operations`: the operations that each move may come to.
* `handshake_run`: a run of a client, as a run of its handshake; `standing_run` is a consequence.
-/

namespace SealedSession

namespace Client

variable {S W : Type} (g : Settings S W)

/-- What may happen to a client next. -/
inductive Move (W : Type) where
  /-- An attempt to connect has opened a socket. -/
  | opened (connection : ConnectionId) (lock : HomeLock)
  | disconnect
  | send (r : Request)
  | shutdown
  | drop
  | arrive (connection : ConnectionId) (a : Arrival)
  | write (connection : ConnectionId)
  | pass (span : Nat)
  | probe
  | verified (n : Nat) (result : Except ClientError String)
  | approvalDue (n : Nat)
  /-- The world of the stores changes by itself. -/
  | elapse (change : W → W)

/-- Makes a move. -/
def step (c : Client S W) : Move W → Client S W
  | .opened connection lock => (opened g connection lock c).2
  | .disconnect => disconnect g c
  | .send r => (send g r c).2
  | .shutdown => shutdown g c
  | .drop => drop g c
  | .arrive connection a => arrive g connection a c
  | .write connection => write connection c
  | .pass span => pass span c
  | .probe => probe g c
  | .verified n result => verified g n result c
  | .approvalDue n => approvalDue g n c
  | .elapse change => { c with handshake := c.handshake.inWorld (change c.handshake.world) }

/-- Makes one move after another. -/
def run (c : Client S W) (moves : List (Move W)) : Client S W :=
  moves.foldl (step g) c

theorem run_append (c : Client S W) (moves moves' : List (Move W)) :
    run g c (moves ++ moves') = run g (run g c moves) moves' := List.foldl_append

theorem run_concat (c : Client S W) (moves : List (Move W)) (m : Move W) :
    run g c (moves ++ [m]) = step g (run g c moves) m := run_append g c moves [m]

/-- An attempt to connect is refused, with a notice or without one, or a socket is opened. -/
theorem connect_cases (net : Network) (lock : Except ClientError HomeLock) (c : Client S W) :
    (∃ ns, (connect g net lock c).2 = c.note ns) ∨
      ∃ connection lock', connect g net lock c = opened g connection lock' c := by
  have silent : c = c.note [] := by simp [note]
  unfold connect
  split
  · exact .inl ⟨[], silent⟩
  · split
    · exact .inl ⟨_, rfl⟩
    · split
      · exact .inl ⟨[], silent⟩
      · exact .inr ⟨_, _, rfl⟩

/-! ## The handshake of a client -/

/-- What the handshake does about an envelope. -/
def processing (bytes : Bytes) (h : Handshake S W) : List (Operation W) :=
  match (Handshake.receive g.handshake bytes h).1 with
  | .ok _ => [.receive bytes, .takeEvents]
  | .error _ => [.receive bytes, .onFailure, .takeEvents]

/-- What the handshake does about what a reader takes. -/
def hearing (s : ClientSocket) (a : Arrival) (h : Handshake S W) : List (Operation W) :=
  match a with
  | .envelope bytes => processing g bytes h
  | .closed info => [.onClose (s.socket.closeInfo.or info), .takeEvents]
  | .broken _ => [.onFailure, .takeEvents]

/-- What a writer does to the channels of the handshake. -/
def writing (s : ClientSocket) (h : Handshake S W) : List (Operation W) :=
  match h.outbound.take? s.channel with
  | some (bytes, _) =>
    match (s.socket.send bytes).1 with
    | .ok _ => [.takeEnvelope s.channel]
    | .error _ => [.takeEnvelope s.channel, .dropReceiving s.channel]
  | none =>
    if (h.outbound.channels[s.channel]?).any Channel.sending then []
    else [.dropReceiving s.channel]

/-- What the handshake does when a socket was opened. -/
def opening (lock : HomeLock) (h : Handshake S W) : List (Operation W) :=
  let (o, channel) := h.outbound.create
  match (Handshake.onOpen g.handshake channel (some lock) (h.withOutbound o)).1 with
  | .ok _ => [.createChannel, .onOpen channel (some lock), .takeEvents]
  | .error _ =>
    [.createChannel, .onOpen channel (some lock), .disconnect, .takeEvents, .dropReceiving channel]

/-- What a move does to the handshake, one thing after another. -/
def operations (c : Client S W) : Move W → List (Operation W)
  | .opened _ lock => opening g lock c.handshake
  | .disconnect | .drop => [.disconnect, .takeEvents]
  | .send r => [.send r, .takeEvents]
  | .shutdown => [.saveOnShutdown]
  | .arrive connection a =>
    match c.socket? connection with
    | some s => if s.reading ∧ c.current = some connection then hearing g s a c.handshake else []
    | none => []
  | .write connection =>
    match c.socket? connection with
    | some s => if s.writing then writing s c.handshake else []
    | none => []
  | .pass _ => []
  | .probe => (c.keepalive.stall c.now).2.flatMap fun i ↦ [.sendKeepalive i, .takeEvents]
  | .verified n result =>
    match c.verifications[n]? with
    | some _ =>
      if c.handshake.state = .connecting then
        match result with
        | .ok serverId => [.startSession (some serverId), .takeEvents]
        | .error e => [.fail e.message, .takeEvents]
      else [.takeEvents]
    | none => []
  | .approvalDue n =>
    match c.approvals[n]?, g.config.approvalTimeout with
    | some a, some timeout =>
      if c.now < a.due then []
      else if c.handshake.phase = some .awaitingDeviceApproval then
        [.fail (approvalMessage timeout), .takeEvents]
      else [.takeEvents]
    | _, _ => []
  | .elapse change => [.elapse change]

theorem handshake_opened (connection : ConnectionId) (lock : HomeLock) (c : Client S W) :
    (opened g connection lock c).2.handshake =
      Handshake.run g.handshake c.handshake (opening g lock c.handshake) := by
  rcases hx : Handshake.onOpen g.handshake c.handshake.outbound.create.2 (some lock)
    { c.handshake with outbound := c.handshake.outbound.create.1 } with ⟨_ | _, h⟩
  · simp only [opened, opening, Handshake.withOutbound, hx, Handshake.run, List.foldl,
      Handshake.perform, disconnect, act]
    rw [handshake_drain]
    rfl
  · simp only [opened, opening, Handshake.withOutbound, hx, Handshake.run, List.foldl,
      Handshake.perform]
    rw [handshake_drain]
    rfl

theorem handshake_process (bytes : Bytes) (c : Client S W) :
    (process g bytes c).handshake =
      Handshake.run g.handshake c.handshake (processing g bytes c.handshake) := by
  rcases hr : Handshake.receive g.handshake bytes c.handshake with ⟨_ | _, h⟩
  · simp only [process, processing, hr]
    refine (handshake_drain g _).trans ?_
    simp [Handshake.run, Handshake.perform, hr, Handshake.takeEvents]
  · simp only [process, processing, hr]
    refine (handshake_drain g _).trans ?_
    simp [Handshake.run, Handshake.perform, hr, Handshake.takeEvents]

theorem handshake_arrive (connection : ConnectionId) (a : Arrival) (c : Client S W) :
    (arrive g connection a c).handshake =
      Handshake.run g.handshake c.handshake (operations g c (.arrive connection a)) := by
  cases hs : c.socket? connection with
  | none =>
    simp only [arrive, operations, hs]
    rfl
  | some s =>
    simp only [arrive, operations, hs]
    by_cases hr : s.reading = true
    · by_cases hc : c.current = some connection
      · have hn : ¬(c.adjust connection fun t ↦ { t with socket := (s.socket.receive a).2 }).current ≠
            some connection := not_not_intro hc
        rw [if_pos hr, if_neg hn, if_pos ⟨hr, hc⟩]
        cases a with
        | envelope bytes => exact handshake_process g bytes _
        | closed info => exact handshake_drain g _
        | broken system => exact handshake_drain g _
      · have hn : (c.adjust connection fun t ↦ { t with socket := (s.socket.receive a).2 }).current ≠
            some connection := hc
        rw [if_pos hr, if_pos hn, if_neg fun h ↦ hc h.2]
        rfl
    · rw [if_neg hr, if_neg fun h ↦ hr h.1]
      rfl

theorem handshake_write (connection : ConnectionId) (c : Client S W) :
    (write connection c).handshake =
      Handshake.run g.handshake c.handshake (operations g c (.write connection)) := by
  cases hs : c.socket? connection with
  | none =>
    simp only [write, operations, hs]
    rfl
  | some s =>
    simp only [write, operations, hs, writing]
    by_cases hw : s.writing = true
    · rw [if_pos hw, if_pos hw]
      cases ht : c.handshake.outbound.take? s.channel with
      | none =>
        dsimp only
        split
        · rfl
        · rfl
      | some x =>
        have ho : c.handshake.withOutbound
            (((c.handshake.outbound.take? s.channel).map (·.2)).getD c.handshake.outbound) =
            c.handshake.withOutbound x.2 := by rw [ht]; rfl
        rcases hr : s.socket.send x.1 with ⟨_ | _, t⟩
        · simp only [hr]
          simp only [Handshake.run, List.foldl, Handshake.perform, ho]
          rfl
        · simp only [hr]
          simp only [Handshake.run, List.foldl, Handshake.perform, ho]
          rfl
    · rw [if_neg hw, if_neg hw]
      rfl

theorem handshake_probe (c : Client S W) :
    (probe g c).handshake = Handshake.run g.handshake c.handshake (operations g c .probe) := by
  -- every probe is attempted in the state that the one before has left
  have probes (is : List (Option Identity)) (c : Client S W) :
      (is.foldl (fun c i ↦ (attempt g (Handshake.sendKeepalive g.handshake i) c).2) c).handshake =
        Handshake.run g.handshake c.handshake
          (is.flatMap fun i ↦ [.sendKeepalive i, .takeEvents]) := by
    induction is generalizing c with
    | nil => rfl
    | cons i is ih =>
      rw [List.foldl_cons, ih, List.flatMap_cons, Handshake.run_append]
      exact congrArg (Handshake.run g.handshake · _) (handshake_drain g _)
  exact probes (c.keepalive.stall c.now).2 _

theorem handshake_approvalDue (n : Nat) (c : Client S W) :
    (approvalDue g n c).handshake =
      Handshake.run g.handshake c.handshake (operations g c (.approvalDue n)) := by
  cases ha : c.approvals[n]? with
  | none =>
    simp only [approvalDue, operations, ha]
    rfl
  | some a =>
    cases ht : g.config.approvalTimeout with
    | none =>
      simp only [approvalDue, operations, ha, ht]
      rfl
    | some timeout =>
      simp only [approvalDue, operations, ha, ht]
      split
      · rfl
      · split
        · exact handshake_drain g _
        · exact handshake_drain g _

theorem handshake_verified (n : Nat) (result : Except ClientError String) (c : Client S W) :
    (verified g n result c).handshake =
      Handshake.run g.handshake c.handshake (operations g c (.verified n result)) := by
  cases hv : c.verifications[n]? with
  | none =>
    simp only [verified, operations, hv]
    rfl
  | some v =>
    simp only [verified, operations, hv]
    split
    · cases result with
      | ok serverId => exact handshake_drain g _
      | error e => exact handshake_drain g _
    · exact handshake_drain g _

/-- A move does to the handshake what it is said to do. -/
theorem handshake_step (c : Client S W) (m : Move W) :
    (step g c m).handshake = Handshake.run g.handshake c.handshake (operations g c m) := by
  cases m with
  | opened connection lock => exact handshake_opened g connection lock c
  | disconnect => exact handshake_drain g _
  | send r => exact handshake_drain g _
  | shutdown => rfl
  | drop => exact handshake_drain g _
  | arrive connection a => exact handshake_arrive g connection a c
  | write connection => exact handshake_write g connection c
  | pass span => rfl
  | probe => exact handshake_probe g c
  | verified n result => exact handshake_verified g n result c
  | approvalDue n => exact handshake_approvalDue g n c
  | elapse change => rfl

/-- The operations that a move may come to, whatever the state of the client. -/
inductive Does : Move W → Operation W → Prop where
  | made {connection : ConnectionId} {lock : HomeLock} :
      Does (.opened connection lock) .createChannel
  | opened {connection : ConnectionId} {lock : HomeLock} (channel : Nat) :
      Does (.opened connection lock) (.onOpen channel (some lock))
  | refused {connection : ConnectionId} {lock : HomeLock} :
      Does (.opened connection lock) .disconnect
  | abandoned {connection : ConnectionId} {lock : HomeLock} (channel : Nat) :
      Does (.opened connection lock) (.dropReceiving channel)
  | disconnected : Does .disconnect .disconnect
  | dropped : Does .drop .disconnect
  | sent (r : Request) : Does (.send r) (.send r)
  | saved : Does .shutdown .saveOnShutdown
  | heard {connection : ConnectionId} (bytes : Bytes) :
      Does (.arrive connection (.envelope bytes)) (.receive bytes)
  | failed {connection : ConnectionId} {a : Arrival} : Does (.arrive connection a) .onFailure
  | closed {connection : ConnectionId} {a : Arrival} (info : Option CloseInfo) :
      Does (.arrive connection a) (.onClose info)
  | written {connection : ConnectionId} (channel : Nat) :
      Does (.write connection) (.takeEnvelope channel)
  | finished {connection : ConnectionId} (channel : Nat) :
      Does (.write connection) (.dropReceiving channel)
  | probed (identity : Option Identity) : Does .probe (.sendKeepalive identity)
  | verified {n : Nat} (proof : String) :
      Does (.verified n (.ok proof)) (.startSession (some proof))
  | unverified {n : Nat} (e : ClientError) : Does (.verified n (.error e)) (.fail e.message)
  | overdue {n : Nat} (message : String) : Does (.approvalDue n) (.fail message)
  | elapsed (change : W → W) : Does (.elapse change) (.elapse change)
  /-- After most moves the events are dispatched. -/
  | told {m : Move W} : Does m .takeEvents

theorem does_of_mem_operations (c : Client S W) (m : Move W) :
    ∀ op ∈ operations g c m, Does m op := by
  cases m with
  | opened connection lock =>
    simp only [operations, opening]
    split
    · simp [Does.made, Does.opened, Does.told]
    · simp [Does.made, Does.opened, Does.refused, Does.abandoned, Does.told]
  | disconnect => simp [operations, Does.disconnected, Does.told]
  | drop => simp [operations, Does.dropped, Does.told]
  | send r => simp [operations, Does.sent, Does.told]
  | shutdown => simp [operations, Does.saved]
  | arrive connection a =>
    simp only [operations]
    split
    · split
      · cases a with
        | envelope bytes =>
          simp only [hearing, processing]
          split
          · simp [Does.heard, Does.told]
          · simp [Does.heard, Does.failed, Does.told]
        | closed info => simp [hearing, Does.closed, Does.told]
        | broken system => simp [hearing, Does.failed, Does.told]
      · simp
    · simp
  | write connection =>
    simp only [operations, writing]
    split
    · split
      · split
        · split
          · simp [Does.written]
          · simp [Does.written, Does.finished]
        · split
          · simp
          · simp [Does.finished]
      · simp
    · simp
  | pass span => simp [operations]
  | probe =>
    simp only [operations, List.mem_flatMap]
    rintro op ⟨i, -, ho⟩
    revert op
    simp [Does.probed, Does.told]
  | verified n result =>
    simp only [operations]
    split
    · split
      · split
        · simp [Does.verified, Does.told]
        · simp [Does.unverified, Does.told]
      · simp [Does.told]
    · simp
  | approvalDue n =>
    simp only [operations]
    split
    · split
      · simp
      · split
        · simp [Does.overdue, Does.told]
        · simp [Does.told]
    · simp
  | elapse change => simp [operations, Does.elapsed]

/-- What several moves do to the handshake. -/
def driven (c : Client S W) : List (Move W) → List (Operation W)
  | [] => []
  | m :: moves => operations g c m ++ driven (step g c m) moves

/-- A run of a client is a run of its handshake. -/
theorem handshake_run (c : Client S W) (moves : List (Move W)) :
    (run g c moves).handshake = Handshake.run g.handshake c.handshake (driven g c moves) := by
  induction moves generalizing c with
  | nil => rfl
  | cons m moves ih =>
    rw [driven, Handshake.run_append, ← handshake_step]
    exact ih (step g c m)

/-- The fields of the handshake agree after every run of a client. -/
theorem standing_run (world : W) (moves : List (Move W)) :
    (run g (start g world) moves).handshake.standing.Sound g.config.refreshLimit := by
  rw [handshake_run]
  exact Handshake.sound_run g.handshake world _

end Client

end SealedSession
