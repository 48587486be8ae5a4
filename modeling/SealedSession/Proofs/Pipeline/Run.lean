import SealedSession.Proofs.Client.Sockets
import SealedSession.Proofs.Handshake.Channels
import SealedSession.Proofs.Household.Calls

/-!
# The outbound pipeline

What a client sends is queued by one operation, written by the writer of a socket some time later,
and meanwhile the client may be disconnected and asked to connect again, more than once at a time. All
of it interleaves: a `Pipeline` is a client with the calls to connect that have opened a socket, and a
`Turn` is what nothing else can come between. Between the two steps of such a call the handshake has
begun on a connection that has neither a reader nor a writer yet. To take an envelope and to write it
is one turn of a writer: nobody else writes on its socket, so what is done in between might as well be
done before.

The transport numbers sockets as they are opened, those of other clients among them, so no number is
given twice.

* `Pipeline.Turn`, `Pipeline.step`, `Pipeline.run`: what happens to a pipeline.
* `Pipeline.operations`: what a turn does to the handshake; `handshake_step` says that it does just
  that.
* `Pipeline.Begins`: a turn in which the handshake begins on a connection.
* `Pipeline.tenure`, `Pipeline.sent`: the time of a connection, and what is queued in that time.
-/

namespace SealedSession

/-- A client, with the calls to connect that have opened a socket, oldest first. -/
structure Pipeline (S W : Type) where
  client : Client S W
  calls : List Client.Stage := []
  /-- How many sockets the transport has numbered. -/
  numbered : Nat := 0

namespace Pipeline

variable {S W : Type} (g : Client.Settings S W)

/-- What may happen next. -/
inductive Turn (W : Type) where
  /-- A call to connect has opened a socket, and so many others were numbered before it. -/
  | opened (others : Nat) (lock : HomeLock)
  /-- Such a call goes on: the handshake begins, and next what that led to is settled. -/
  | advance (k : Nat)
  /-- The client does anything else. -/
  | act (m : Client.Move W) (opens : m.opens? = none)
  /-- Something is done to the handshake alone, as it may be between the parts of a larger move. -/
  | operate (op : Operation W) (internal : op.isInternal = true)
  /-- The system refuses to write on a socket from now on, or no longer does. -/
  | fault (connection : ConnectionId) (reason : Option String)

/-- The connection of a socket that a turn opens. -/
def Turn.opens? (p : Pipeline S W) : Turn W → Option ConnectionId
  | .opened others _ => some ⟨p.numbered + others⟩
  | _ => none

/-- A client that was never connected. -/
def start (world : W) : Pipeline S W := { client := Client.start g world }

/-- Takes a turn. -/
def step (p : Pipeline S W) : Turn W → Pipeline S W
  | .opened others lock =>
    let connection : ConnectionId := ⟨p.numbered + others⟩
    { client := { p.client with current := some connection }
      calls := p.calls ++ [.starting lock connection]
      numbered := p.numbered + others + 1 }
  | .advance k =>
    match p.calls[k]? with
    | some stage =>
      let (stage, c) := Client.advance g .none stage p.client
      { p with client := c, calls := p.calls.set k stage }
    | none => p
  | .act m _ => { p with client := Client.step g p.client m }
  | .operate op _ =>
    { p with client :=
        { p.client with handshake := (Handshake.perform g.handshake p.client.handshake op).2 } }
  | .fault connection reason =>
    { p with client := p.client.adjust connection fun s ↦
        { s with socket := { s.socket with fault := reason } } }

/-- Takes one turn after another. -/
def run (p : Pipeline S W) (turns : List (Turn W)) : Pipeline S W := turns.foldl (step g) p

theorem run_append (p : Pipeline S W) (turns turns' : List (Turn W)) :
    run g p (turns ++ turns') = run g (run g p turns) turns' := List.foldl_append

theorem run_concat (p : Pipeline S W) (turns : List (Turn W)) (t : Turn W) :
    run g p (turns ++ [t]) = step g (run g p turns) t := run_append g p turns [t]

/-! ## The handshake of a pipeline -/

/-- What a step of a call does to the handshake. -/
def advancing (h : Handshake S W) : Client.Stage → List (Operation W)
  | .starting lock _ => [.createChannel, .onOpen h.outbound.create.2 (some lock)]
  | .settling _ _ (.ok _) => [.takeEvents]
  | .settling _ channel (.error _) => [.disconnect, .takeEvents, .dropReceiving channel]
  | _ => []

/-- What a turn does to the handshake, one thing after another. -/
def operations (p : Pipeline S W) : Turn W → List (Operation W)
  | .advance k => (p.calls[k]?.map (advancing p.client.handshake)).getD []
  | .act m _ => Client.operations g p.client m
  | .operate op _ => [op]
  | .opened _ _ | .fault _ _ => []

theorem handshake_advance (stage : Client.Stage) (c : Client S W) :
    (Client.advance g .none stage c).2.handshake =
      Handshake.run g.handshake c.handshake (advancing c.handshake stage) := by
  cases stage with
  | locking | answered | abandoned => rfl
  | discovering lock =>
    simp only [Client.advance]
    split <;> rfl
  | checking lock document =>
    simp only [Client.advance]
    split <;> rfl
  | opening lock url => rfl
  | starting lock connection => rfl
  | settling connection channel result =>
    cases result with
    | ok _ => exact Client.handshake_drain g _
    | error e =>
      simp only [Client.advance, Client.disconnect, Client.act]
      rw [Client.handshake_drain]
      rfl

/-- A turn does to the handshake what it is said to do. -/
theorem handshake_step (p : Pipeline S W) (t : Turn W) :
    (step g p t).client.handshake =
      Handshake.run g.handshake p.client.handshake (operations g p t) := by
  cases t with
  | opened others lock => rfl
  | advance k =>
    simp only [step, operations]
    cases p.calls[k]? with
    | none => rfl
    | some stage => exact handshake_advance g stage p.client
  | act m opens => exact Client.handshake_step g p.client m
  | operate op internal => rfl
  | fault connection reason => rfl

/-- What several turns do to the handshake. -/
def driven (p : Pipeline S W) : List (Turn W) → List (Operation W)
  | [] => []
  | t :: turns => operations g p t ++ driven (step g p t) turns

theorem driven_append (p : Pipeline S W) (turns turns' : List (Turn W)) :
    driven g p (turns ++ turns') = driven g p turns ++ driven g (run g p turns) turns' := by
  induction turns generalizing p with
  | nil => rfl
  | cons t turns ih =>
    rw [List.cons_append, driven, driven, ih, List.append_assoc]
    rfl

/-- A run of a pipeline is a run of its handshake. -/
theorem handshake_run (p : Pipeline S W) (turns : List (Turn W)) :
    (run g p turns).client.handshake =
      Handshake.run g.handshake p.client.handshake (driven g p turns) := by
  induction turns generalizing p with
  | nil => rfl
  | cons t turns ih =>
    rw [driven, Handshake.run_append, ← handshake_step]
    exact ih (step g p t)

/-- All moments of the handshake while the turns are taken. -/
def history (p : Pipeline S W) (turns : List (Turn W)) : List (Handshake.Moment S W) :=
  Handshake.history g.handshake p.client.handshake (driven g p turns)

theorem history_append (p : Pipeline S W) (turns turns' : List (Turn W)) :
    history g p (turns ++ turns') = history g p turns ++ history g (run g p turns) turns' := by
  rw [history, driven_append, Handshake.history_append, ← handshake_run]
  rfl

theorem history_singleton (p : Pipeline S W) (t : Turn W) :
    history g p [t] = Handshake.history g.handshake p.client.handshake (operations g p t) := by
  rw [history, driven, driven, List.append_nil]

/-- The fields of the handshake agree after every run. -/
theorem standing_run (world : W) (turns : List (Turn W)) :
    (run g (start g world) turns).client.handshake.standing.Sound g.config.refreshLimit := by
  rw [handshake_run]
  exact Handshake.sound_run g.handshake world _

/-! ## Connections -/

/-- With this step of its call the handshake begins on a connection, whose channel is bound. -/
structure Begins (p : Pipeline S W) (k : Nat) (connection : ConnectionId) (channel : Nat) : Prop where
  starting : ∃ lock, p.calls[k]? = some (.starting lock connection)
  settling : (step g p (.advance k)).calls[k]? = some (.settling connection channel (.ok ()))

/-- Whether the handshake is opened at a moment. -/
def isOpening (t : Handshake.Moment S W) : Bool :=
  match t.operation with
  | .onOpen _ _ => true
  | _ => false

/-- The moments from the opening of the handshake on. -/
def since (p : Pipeline S W) (turns : List (Turn W)) : List (Handshake.Moment S W) :=
  (history g p turns).dropWhile fun t ↦ !isOpening t

/-- The moments from the opening of the handshake until the client is disconnected. -/
def tenure (p : Pipeline S W) (turns : List (Turn W)) : List (Handshake.Moment S W) :=
  (since g p turns).takeWhile (·.isActive)

/-- The envelopes that are queued from the opening of the handshake until the client is
disconnected. -/
def sent (p : Pipeline S W) (turns : List (Turn W)) : List Bytes :=
  (tenure g p turns).flatMap (·.sent)

/-- The client has been disconnected since the handshake was opened. -/
def IsOver (p : Pipeline S W) (turns : List (Turn W)) : Prop :=
  ∃ t ∈ since g p turns, t.after.state = .disconnected

end Pipeline

end SealedSession
