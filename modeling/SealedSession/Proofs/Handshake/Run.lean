import SealedSession.Proofs.Handshake.Receiving

/-!
# Runs of a handshake

A handshake is driven from outside: by its client, by the server, and by the writers of its
sockets. `Operation` lists everything that may be done to it, `perform` does it, and `run` does
one thing after another. Nothing restricts the order, the arguments or the results, and the
world in which the stores live may change at any time.

`history` remembers a run, so that statements can be made about what led to a state.
-/

namespace SealedSession

/-- What may be done to a handshake. -/
inductive Operation (W : Type) where
  | onOpen (channel : Nat) (lock : Option HomeLock)
  | receive (bytes : Bytes)
  | onClose (close : Option CloseInfo)
  | onFailure
  | disconnect
  | fail (message : String)
  | saveOnShutdown
  | startSession (serverId : Option String)
  | send (r : Request)
  | sendKeepalive (identity : Option Identity)
  | takeEvents
  /-- A channel is made. -/
  | createChannel
  /-- A writer takes the oldest envelope of its channel. -/
  | takeEnvelope (channel : Nat)
  /-- A writer goes away. -/
  | dropReceiving (channel : Nat)
  /-- The world changes by itself. -/
  | elapse (change : W → W)

/-- A response arrives in a plain envelope. -/
def Operation.hear {W : Type} (m : Response) : Operation W :=
  .receive ((Envelope.encodePlain m).toOption.getD [])

namespace Handshake

variable {S W : Type} (g : Settings S W)

/-- A client that was never connected. -/
def start (world : W) : Handshake S W := { world := world }

/-- What the writers of the sockets do to the channels. -/
def withOutbound (o : Outbound) (h : Handshake S W) : Handshake S W := { h with outbound := o }

/-- Does one thing, and tells the result. -/
def perform (h : Handshake S W) : Operation W → Except ClientError Unit × Handshake S W
  | .onOpen channel lock => onOpen g channel lock h
  | .receive bytes => receive g bytes h
  | .onClose close => (.ok (), onClose g close h)
  | .onFailure => (.ok (), onFailure g h)
  | .disconnect => (.ok (), disconnect g h)
  | .fail message => (.ok (), fail g message h)
  | .saveOnShutdown => (.ok (), saveOnShutdown g h)
  | .startSession serverId => startSession g serverId h
  | .send r => send g r h
  | .sendKeepalive identity => sendKeepalive g identity h
  | .takeEvents => (.ok (), h.takeEvents.2)
  | .createChannel => (.ok (), h.withOutbound h.outbound.create.1)
  | .takeEnvelope channel =>
    (.ok (), h.withOutbound (((h.outbound.take? channel).map (·.2)).getD h.outbound))
  | .dropReceiving channel => (.ok (), h.withOutbound (h.outbound.dropReceiving channel))
  | .elapse change => (.ok (), h.inWorld (change h.world))

/-- Does one thing after another. -/
def run (h : Handshake S W) (ops : List (Operation W)) : Handshake S W :=
  ops.foldl (fun h op => (perform g h op).2) h

@[simp] theorem run_nil (h : Handshake S W) : run g h [] = h := rfl

@[simp] theorem run_cons (h : Handshake S W) (op : Operation W) (ops : List (Operation W)) :
    run g h (op :: ops) = run g (perform g h op).2 ops := rfl

theorem run_append (h : Handshake S W) (ops ops' : List (Operation W)) :
    run g h (ops ++ ops') = run g (run g h ops) ops' := List.foldl_append

/-- What holds at the start and is kept by every operation holds after every run. -/
theorem run_induction {P : Handshake S W → Prop} {h : Handshake S W} (base : P h)
    (step : ∀ h op, P h → P (perform g h op).2) (ops : List (Operation W)) : P (run g h ops) := by
  induction ops generalizing h with
  | nil => exact base
  | cons op ops ih => exact ih (step h op base)

/-- One operation of a run. -/
structure Moment (S W : Type) where
  before : Handshake S W
  operation : Operation W
  result : Except ClientError Unit
  after : Handshake S W

/-- The moment at which an operation is performed. -/
def moment (h : Handshake S W) (op : Operation W) : Moment S W :=
  ⟨h, op, (perform g h op).1, (perform g h op).2⟩

/-- All moments of a run, oldest first. -/
def history (h : Handshake S W) : List (Operation W) → List (Moment S W)
  | [] => []
  | op :: ops => moment g h op :: history (perform g h op).2 ops

theorem history_append (h : Handshake S W) (ops ops' : List (Operation W)) :
    history g h (ops ++ ops') = history g h ops ++ history g (run g h ops) ops' := by
  induction ops generalizing h with
  | nil => rfl
  | cons op ops ih => simp only [List.cons_append, history, run_cons, ih]

theorem history_concat (h : Handshake S W) (ops : List (Operation W)) (op : Operation W) :
    history g h (ops ++ [op]) = history g h ops ++ [moment g (run g h ops) op] :=
  history_append g h ops [op]

/-- What holds at the start, of no past, and is kept by every operation that becomes past, holds of
every run and its history. -/
theorem history_induction {P : List (Moment S W) → Handshake S W → Prop} {h : Handshake S W}
    (base : P [] h)
    (step : ∀ past h op, P past h → P (past ++ [moment g h op]) (perform g h op).2)
    (ops : List (Operation W)) : P (history g h ops) (run g h ops) := by
  suffices hp : ∀ past h, P past h → P (past ++ history g h ops) (run g h ops) from hp [] h base
  clear base h
  induction ops with
  | nil =>
    intro past h hp
    rw [history, List.append_nil]
    exact hp
  | cons op ops ih =>
    intro past h hp
    have hn := ih _ _ (step past h op hp)
    rw [List.append_assoc] at hn
    exact hn

/-- Part of a history is the history of part of the run. -/
theorem history_split {h : Handshake S W} {ops : List (Operation W)}
    {past future : List (Moment S W)} (hs : history g h ops = past ++ future) :
    ∃ ops₁ ops₂, ops = ops₁ ++ ops₂ ∧ past = history g h ops₁ ∧
      future = history g (run g h ops₁) ops₂ := by
  induction ops generalizing h past with
  | nil =>
    obtain ⟨rfl, rfl⟩ := List.append_eq_nil_iff.mp hs.symm
    exact ⟨[], [], rfl, rfl, rfl⟩
  | cons op ops ih =>
    cases past with
    | nil => exact ⟨[], op :: ops, rfl, rfl, hs.symm⟩
    | cons t past =>
      obtain ⟨rfl, hr⟩ := List.cons_eq_cons.mp hs
      obtain ⟨ops₁, ops₂, rfl, rfl, rfl⟩ := ih hr
      exact ⟨op :: ops₁, ops₂, rfl, rfl, rfl⟩

/-- A moment of a history is that of an operation of the run, and the run goes on from there. -/
theorem history_split_at {h : Handshake S W} {ops : List (Operation W)}
    {past future : List (Moment S W)} {t : Moment S W} (hs : history g h ops = past ++ t :: future) :
    ∃ ops₁ op ops₂, past = history g h ops₁ ∧ t = moment g (run g h ops₁) op ∧
      future = history g (perform g (run g h ops₁) op).2 ops₂ := by
  obtain ⟨ops₁, ops₂, -, hp, ht⟩ := history_split g hs
  cases ops₂ with
  | nil => cases ht
  | cons op ops₂ =>
    obtain ⟨ht, hf⟩ := List.cons_eq_cons.mp ht
    exact ⟨ops₁, op, ops₂, hp, ht, hf⟩

theorem history_split_cons {h : Handshake S W} {ops : List (Operation W)} {t : Moment S W}
    {past future : List (Moment S W)} (hs : history g h ops = past ++ t :: future) :
    ∃ ops₁ op, past = history g h ops₁ ∧ t = moment g (run g h ops₁) op := by
  obtain ⟨ops₁, op, -, hp, ht, -⟩ := history_split_at g hs
  exact ⟨ops₁, op, hp, ht⟩

/-- Whether a response was accepted at a moment. -/
def Moment.Accepted (t : Moment S W) (m : Response) : Prop :=
  ∃ bytes, t.operation = .receive bytes ∧ heard? g bytes t.before = some m

end Handshake

end SealedSession
