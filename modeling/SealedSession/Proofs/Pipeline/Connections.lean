import Mathlib.Data.List.Induction
import SealedSession.Proofs.Pipeline.Run

/-!
# The connections of a pipeline

Every connection has a number and, once its handshake has begun, a channel. Both are new and stay
its own: the calls to connect and the sockets of all others have other numbers and other channels.
So nobody but its own writer empties the channel, and nobody binds it again.

* `Begins.spec`: what it takes for the handshake to begin on a connection.
* `sockets_advance`, `calls_step`: the sockets and the calls after a step.
* `Apart`: a connection shares neither its number nor its channel; `apart_step` says that this stays
  so.
* `Apart.spares`: only the writer of a connection empties its channel.
* `registered_run`: every call is for a socket that was opened, every socket comes of such a call.
* `Begins.apart`: a connection on which the handshake begins is apart from all others.
-/

namespace SealedSession

namespace Client.Stage

/-- The connection of a call that is not over. -/
def connection? : Stage → Option ConnectionId
  | .starting _ connection | .settling connection _ _ => some connection
  | _ => none

/-- The channel of a call whose handshake was opened. -/
def channel? : Stage → Option Nat
  | .settling _ channel _ => some channel
  | _ => none

/-- The socket that comes of a call whose handshake has begun. -/
def port? : Stage → Option (ConnectionId × Nat)
  | .settling connection channel (.ok _) => some (connection, channel)
  | _ => none

theorem eq_of_port? {stage : Stage} {q : ConnectionId × Nat} (h : stage.port? = some q) :
    stage = .settling q.1 q.2 (.ok ()) := by
  cases stage with
  | settling connection channel result =>
    cases result with
    | ok _ =>
      cases h
      rfl
    | error e => cases h
  | _ => cases h

end Client.Stage

/-- The socket of a connection when it is new. -/
def Client.newSocket (q : ConnectionId × Nat) : ClientSocket :=
  { socket := { id := q.1 }, channel := q.2 }

namespace Pipeline

variable {S W : Type} {g : Client.Settings S W} {p : Pipeline S W} {k n : Nat} {i : ConnectionId}

/-! ## Beginning -/

theorem step_starting {lock : HomeLock} (hk : p.calls[k]? = some (.starting lock i)) :
    (step g p (.advance k)).calls = p.calls.set k (.settling i p.client.handshake.outbound.create.2
      (Handshake.onOpen g.handshake p.client.handshake.outbound.create.2 (some lock)
        (p.client.handshake.withOutbound p.client.handshake.outbound.create.1)).1) := by
  simp only [step, hk]
  rfl

/-- The channel of a connection is a new one, and it is bound now. -/
theorem Begins.spec (hb : Begins g p k i n) : ∃ lock, p.calls[k]? = some (.starting lock i) ∧
    n = p.client.handshake.outbound.channels.length ∧
    (Handshake.onOpen g.handshake n (some lock)
      (p.client.handshake.withOutbound p.client.handshake.outbound.create.1)).1 = .ok () := by
  obtain ⟨lock, hk⟩ := hb.starting
  have hs := hb.settling
  rw [step_starting hk, List.getElem?_set_self (List.getElem?_eq_some_iff.mp hk).1] at hs
  obtain ⟨-, rfl, hr⟩ := Client.Stage.settling.inj (Option.some.inj hs)
  exact ⟨lock, hk, rfl, hr⟩

/-! ## Operations that spare a channel -/

/-- Whatever a client does, except that it opens a socket or that a writer takes a turn, is done to the
handshake itself. -/
theorem internal_operations (c : Client S W) {m : Client.Move W} (hm : m.opens? = none)
    (hw : ∀ j, m ≠ .write j) : ∀ op ∈ Client.operations g c m, op.isInternal = true := by
  intro op ho
  cases Client.does_of_mem_operations g c m op ho with
  | made | opened | abandoned => cases hm
  | written | finished => exact absurd rfl (hw _)
  | _ => rfl

/-- A writer acts on the channel of its own socket alone. -/
theorem writer_operations (c : Client S W) (j : ConnectionId) :
    ∀ op ∈ Client.operations g c (.write j), ∃ s, c.socket? j = some s ∧
      (op = .takeEnvelope s.channel ∨ op = .dropReceiving s.channel) := by
  cases hs : c.socket? j with
  | none => simp [Client.operations, hs]
  | some s =>
    cases hw : s.writing with
    | false => simp [Client.operations, hs, hw]
    | true =>
      obtain ⟨s', -, ht⟩ := Client.writerTurn (g := g) hs hw
      generalize Client.operations g c (.write j) = ops at ht
      intro op ho
      refine ⟨s, rfl, ?_⟩
      cases ht with
      | sent bytes rest hq hr => exact .inl (List.mem_singleton.mp ho)
      | failed bytes rest hq e hr => simpa using ho
      | waiting hq hh => cases ho
      | finished hq hd => exact .inr (List.mem_singleton.mp ho)

/-- The turn of a writer. -/
def Turn.writes? : Turn W → Option ConnectionId
  | .act (.write j) _ => some j
  | _ => none

theorem Turn.eq_of_writes? {t : Turn W} (ht : t.writes? = some i) : t = .act (.write i) rfl := by
  cases t with
  | act m opens =>
    cases m with
    | write j =>
      cases ht
      rfl
    | _ => cases ht
  | _ => cases ht

/-- A channel is bound right after it was made. -/
theorem onOpen_operations (p : Pipeline S W) (t : Turn W) {c : Nat} {lock : Option HomeLock}
    (ho : .onOpen c lock ∈ operations g p t) : c = p.client.handshake.outbound.channels.length := by
  cases t with
  | opened others lock => cases ho
  | advance k =>
    simp only [operations] at ho
    cases hk : p.calls[k]? with
    | none => simp [hk] at ho
    | some stage =>
      rw [hk] at ho
      cases stage with
      | starting lock connection =>
        simp only [Option.map_some, Option.getD_some, advancing, Outbound.create] at ho
        simp_all
      | settling connection channel result =>
        cases result <;> simp [advancing] at ho
      | _ => cases ho
  | act m opens =>
    obtain ⟨connection, lock, rfl⟩ := Client.warrant_operations g p.client m _ ho
    cases opens
  | operate op internal =>
    obtain rfl := List.mem_singleton.mp ho
    cases internal
  | fault connection reason => cases ho

/-- No channel that there is will be bound again. -/
theorem onOpen_driven (g : Client.Settings S W) (turns : List (Turn W))
    (hn : n < p.client.handshake.outbound.channels.length) :
    ∀ lock, .onOpen n lock ∉ driven g p turns := by
  induction turns generalizing p with
  | nil =>
    intro lock ho
    cases ho
  | cons t turns ih =>
    intro lock ho
    obtain ho | ho := List.mem_append.mp ho
    · exact absurd (onOpen_operations p t ho) (Nat.ne_of_lt hn)
    · refine ih ?_ lock ho
      rw [handshake_step]
      exact Nat.lt_of_lt_of_le hn (Handshake.length_le_run _ _)

/-! ## Sockets and calls -/

/-- The call that a turn takes further. -/
def Turn.call? (p : Pipeline S W) : Turn W → Option Client.Stage
  | .advance k => p.calls[k]?
  | _ => none

theorem Turn.advance_of_call? {t : Turn W} {stage : Client.Stage} (h : t.call? p = some stage) :
    ∃ k, t = .advance k := by
  cases t with
  | advance k => exact ⟨k, rfl⟩
  | _ => cases h

/-- A step of a call adds its socket, if it settles a call whose handshake has begun. -/
theorem sockets_advance (stage : Client.Stage) (c : Client S W) :
    (Client.advance g .none stage c).2.sockets =
      c.sockets ++ stage.port?.toList.map Client.newSocket := by
  cases stage with
  | settling connection channel result =>
    cases result with
    | ok _ => exact Client.sockets_drain _
    | error e => exact (Client.sockets_act _ _).trans (List.append_nil _).symm
  | discovering lock =>
    simp only [Client.advance]
    split <;> exact (List.append_nil _).symm
  | checking lock document =>
    simp only [Client.advance]
    split <;> exact (List.append_nil _).symm
  | _ => exact (List.append_nil _).symm

theorem ports_advance (stage : Client.Stage) (c : Client S W) :
    (Client.advance g .none stage c).2.ports = c.ports ++ stage.port?.toList := by
  rw [Client.ports, sockets_advance, List.map_append, List.map_map]
  exact congrArg (c.ports ++ ·) (List.map_id _)

/-- A turn adds the socket of a call that is settled, if the handshake has begun on it. -/
theorem ports_step (p : Pipeline S W) (t : Turn W) :
    (step g p t).client.ports = p.client.ports ++ ((t.call? p).bind (·.port?)).toList := by
  cases t with
  | opened others lock => exact (List.append_nil _).symm
  | advance k =>
    simp only [step, Turn.call?]
    cases p.calls[k]? with
    | none => exact (List.append_nil _).symm
    | some stage => exact ports_advance stage p.client
  | act m opens => exact (Client.kept_step p.client opens).ports.trans (List.append_nil _).symm
  | operate op internal => exact (List.append_nil _).symm
  | fault connection reason =>
    have hk : Client.Kept p.client (p.client.adjust connection fun s ↦
      { s with socket := { s.socket with fault := reason } }) :=
      Client.kept_adjust p.client fun _ hs ↦ ⟨hs, rfl⟩
    exact hk.ports.trans (List.append_nil _).symm

/-- A step of a call keeps its connection, or ends the call. Its channel is made by the step that opens
the handshake. -/
theorem stage_advance (stage : Client.Stage) (c : Client S W) :
    ((Client.advance g .none stage c).1.connection? = none ∨
      (Client.advance g .none stage c).1.connection? = stage.connection?) ∧
    ((Client.advance g .none stage c).1.channel? = none ∨
      (Client.advance g .none stage c).1.channel? = some c.handshake.outbound.channels.length ∧
        ∃ lock connection, stage = .starting lock connection) := by
  cases stage with
  | starting lock connection => exact ⟨.inr rfl, .inr ⟨rfl, lock, connection, rfl⟩⟩
  | settling connection channel result => cases result <;> exact ⟨.inl rfl, .inl rfl⟩
  | discovering lock =>
    simp only [Client.advance]
    split <;> exact ⟨.inl rfl, .inl rfl⟩
  | checking lock document =>
    simp only [Client.advance]
    split <;> exact ⟨.inl rfl, .inl rfl⟩
  | _ => exact ⟨.inl rfl, .inl rfl⟩

theorem length_starting {lock : HomeLock} (hk : p.calls[k]? = some (.starting lock i)) :
    p.client.handshake.outbound.channels.length <
      (step g p (.advance k)).client.handshake.outbound.channels.length := by
  have ho : operations g p (.advance k) =
      .createChannel :: [.onOpen p.client.handshake.outbound.create.2 (some lock)] := by
    simp only [operations, hk]
    rfl
  rw [handshake_step, ho, Handshake.run_cons]
  refine Nat.lt_of_lt_of_le ?_ (Handshake.length_le_run _ _)
  simp [Handshake.perform, Handshake.withOutbound, Outbound.create]

theorem length_calls_step (p : Pipeline S W) (t : Turn W) :
    (step g p t).calls.length = p.calls.length + (t.opens? p).toList.length := by
  cases t with
  | opened others lock => simp [step, Turn.opens?]
  | advance k =>
    simp only [step]
    split
    · exact List.length_set
    · rfl
  | _ => rfl

/-- The calls after a turn. -/
theorem calls_step (p : Pipeline S W) (t : Turn W) (k : Nat) :
    (step g p t).calls[k]? = p.calls[k]? ∨
    (t = .advance k ∧ ∃ stage, p.calls[k]? = some stage ∧
      (step g p t).calls[k]? = some (Client.advance g .none stage p.client).1) ∨
    ∃ others lock, t = .opened others lock ∧ k = p.calls.length ∧
      (step g p t).calls[k]? = some (.starting lock ⟨p.numbered + others⟩) := by
  cases t with
  | opened others lock =>
    simp only [step]
    rcases Nat.lt_trichotomy k p.calls.length with hk | hk | hk
    · exact .inl (List.getElem?_append_left hk)
    · exact .inr (.inr ⟨others, lock, rfl, hk, by simp [hk]⟩)
    · refine .inl ?_
      rw [List.getElem?_eq_none (by simp; omega), List.getElem?_eq_none (by omega)]
  | advance k' =>
    simp only [step]
    cases hk' : p.calls[k']? with
    | none => exact .inl rfl
    | some stage =>
      by_cases hk : k' = k
      · subst hk
        refine .inr (.inl ⟨rfl, stage, hk', ?_⟩)
        exact List.getElem?_set_self (List.getElem?_eq_some_iff.mp hk').1
      · exact .inl (List.getElem?_set_ne hk)
  | act m opens => exact .inl rfl
  | operate op internal => exact .inl rfl
  | fault connection reason => exact .inl rfl

/-- A call stays as it is, or goes on. -/
theorem call_step {stage : Client.Stage} (hk : p.calls[k]? = some stage) (t : Turn W) :
    (step g p t).calls[k]? = some stage ∨ t = .advance k ∧
      (step g p t).calls[k]? = some (Client.advance g .none stage p.client).1 := by
  rcases calls_step (g := g) p t k with hc | ⟨ht, stage', hk', hc⟩ | ⟨_, _, -, hl, -⟩
  · exact .inl (hc.trans hk)
  · obtain rfl := Option.some.inj (hk'.symm.trans hk)
    exact .inr ⟨ht, hc⟩
  · have := (List.getElem?_eq_some_iff.mp hk).1
    omega

/-- A call that is over stays so. -/
theorem answered_step {r : Except ClientError Unit} (hk : p.calls[k]? = some (.answered r))
    (t : Turn W) : (step g p t).calls[k]? = some (.answered r) :=
  (call_step hk t).elim id And.right

/-- Numbers are given in order, and none is taken back. -/
theorem numbered_step (p : Pipeline S W) (t : Turn W) :
    p.numbered ≤ (step g p t).numbered ∧ ∀ i, t.opens? p = some i →
      p.numbered ≤ i.value ∧ i.value < (step g p t).numbered := by
  cases t with
  | opened others lock =>
    refine ⟨Nat.le_succ_of_le (Nat.le_add_right _ _), ?_⟩
    rintro i ⟨⟩
    exact ⟨Nat.le_add_right _ _, Nat.lt_succ_self _⟩
  | advance k =>
    refine ⟨?_, fun i hi ↦ by cases hi⟩
    simp only [step]
    split <;> exact Nat.le_refl _
  | _ => exact ⟨Nat.le_refl _, fun i hi ↦ by cases hi⟩

/-! ## Connections apart -/

/-- A connection shares neither its number nor its channel with any other. -/
structure Apart (k : Nat) (i : ConnectionId) (n : Nat) (p : Pipeline S W) : Prop where
  ports : ∀ q ∈ p.client.ports, q.1 ≠ i → q.2 ≠ n
  calls : ∀ k' stage, p.calls[k']? = some stage → k' ≠ k →
    stage.connection? ≠ some i ∧ stage.channel? ≠ some n
  call : p.calls[k]? = some (.settling i n (.ok ())) ∨ p.calls[k]? = some (.answered (.ok ()))
  numbered : i.value < p.numbered
  linked : p.client.handshake.outbound.Linked n

/-- Nobody but the writer of a connection empties its channel, and nobody binds it. -/
theorem Apart.spares (ha : Apart k i n p) {t : Turn W} (ht : t.writes? ≠ some i) :
    ∀ op ∈ operations g p t, op.Spares n := by
  cases t with
  | opened others lock => simp [operations]
  | advance k' =>
    cases hk : p.calls[k']? with
    | none => simp [operations, hk]
    | some stage =>
      simp only [operations, hk, Option.map_some, Option.getD_some]
      cases stage with
      | starting lock connection =>
        have hn : p.client.handshake.outbound.create.2 ≠ n := (Nat.ne_of_lt ha.linked.lt_length).symm
        simpa [advancing, Operation.Spares] using hn
      | settling connection channel result =>
        cases result with
        | ok _ => simp [advancing, Operation.Spares]
        | error e =>
          have hn : channel ≠ n := by
            rintro rfl
            by_cases hkk : k' = k
            · subst hkk
              rcases ha.call with hc | hc <;> rw [hk] at hc <;> cases hc
            · exact (ha.calls k' _ hk hkk).2 rfl
          simpa [advancing, Operation.Spares] using hn
      | _ => simp [advancing]
  | act m opens =>
    by_cases hw : ∃ j, m = .write j
    · obtain ⟨j, rfl⟩ := hw
      intro op ho
      obtain ⟨s, hs, ho⟩ := writer_operations (g := g) p.client j op ho
      have hn : s.channel ≠ n :=
        ha.ports _ (Client.port_of_socket? hs) fun hj ↦ ht (congrArg some hj)
      obtain rfl | rfl := ho
      · exact hn
      · exact hn
    · exact fun op ho ↦
        Operation.spares_of_isInternal (internal_operations p.client opens (not_exists.mp hw) op ho) n
  | operate op internal =>
    intro op' ho
    obtain rfl := List.mem_singleton.mp ho
    exact Operation.spares_of_isInternal internal n
  | fault connection reason => simp [operations]

/-- The channel of a connection is never bound again. -/
theorem Apart.not_opened (ha : Apart k i n p) (t : Turn W) (lock : Option HomeLock) :
    .onOpen n lock ∉ operations g p t := fun ho ↦
  absurd (onOpen_operations p t ho) (Nat.ne_of_lt ha.linked.lt_length)

/-- A connection stays apart, whatever happens. -/
theorem apart_step (ha : Apart k i n p) (t : Turn W) : Apart k i n (step g p t) where
  ports := by
    intro q hq hi
    rw [ports_step] at hq
    obtain hq | hq := List.mem_append.mp hq
    · exact ha.ports q hq hi
    · obtain ⟨stage, hk, hp⟩ := Option.bind_eq_some_iff.mp (Option.mem_toList.mp hq)
      obtain rfl := Client.Stage.eq_of_port? hp
      obtain ⟨k', rfl⟩ := Turn.advance_of_call? hk
      by_cases hkk : k' = k
      · subst hkk
        have hk : p.calls[k']? = some (.settling q.1 q.2 (.ok ())) := hk
        rcases ha.call with hc | hc <;> rw [hk] at hc <;> cases hc
        exact absurd rfl hi
      · exact fun hn ↦ (ha.calls k' _ hk hkk).2 (congrArg some hn)
  calls := by
    intro k' stage hk hkk
    rcases calls_step (g := g) p t k' with hc | ⟨rfl, stage', hk', hc⟩ | ⟨others, lock, -, -, hc⟩
    · exact ha.calls k' stage (hc ▸ hk) hkk
    · obtain rfl := Option.some.inj (hc.symm.trans hk)
      obtain ⟨hi, hn⟩ := ha.calls k' stage' hk' hkk
      obtain ⟨hi', hn'⟩ := stage_advance (g := g) stage' p.client
      refine ⟨?_, ?_⟩
      · rcases hi' with hi' | hi' <;> rw [hi']
        · simp
        · exact hi
      · rcases hn' with hn' | ⟨hn', -⟩ <;> rw [hn']
        · simp
        · exact fun h ↦ Nat.ne_of_lt ha.linked.lt_length (Option.some.inj h).symm
    · obtain rfl := Option.some.inj (hc.symm.trans hk)
      refine ⟨fun hi ↦ ?_, by simp [Client.Stage.channel?]⟩
      obtain rfl := Option.some.inj hi
      exact absurd ha.numbered (Nat.not_lt_of_le (Nat.le_add_right _ _))
  call := by
    rcases ha.call with hk | hk
    · exact (call_step hk t).imp_right And.right
    · exact .inr (answered_step hk t)
  numbered := Nat.lt_of_lt_of_le ha.numbered (numbered_step p t).1
  linked := by
    rw [handshake_step]
    exact Handshake.linked_run ha.linked (ha.not_opened t)

/-! ## Where connections come from -/

/-- The calls of a pipeline are those for the sockets that were opened, one for each, and these have
different numbers. Its own sockets come from calls that are over. All their channels were made. -/
structure Registered (ids : List ConnectionId) (p : Pipeline S W) : Prop where
  distinct : ids.Nodup
  numbered : ∀ i ∈ ids, i.value < p.numbered
  length : p.calls.length = ids.length
  calls : ∀ (k : Nat) (stage : Client.Stage) (i : ConnectionId), p.calls[k]? = some stage →
    stage.connection? = some i → ids[k]? = some i
  channels : ∀ (k : Nat) (stage : Client.Stage) (n : Nat), p.calls[k]? = some stage →
    stage.channel? = some n → n < p.client.handshake.outbound.channels.length
  ports : ∀ q ∈ p.client.ports, q.2 < p.client.handshake.outbound.channels.length ∧
    ∃ (k : Nat) (r : Except ClientError Unit), ids[k]? = some q.1 ∧ p.calls[k]? = some (.answered r)

theorem registered_step {ids : List ConnectionId} (hr : Registered ids p) (t : Turn W) :
    Registered (ids ++ (t.opens? p).toList) (step g p t) := by
  have grown : p.client.handshake.outbound.channels.length ≤
      (step g p t).client.handshake.outbound.channels.length := by
    rw [handshake_step]
    exact Handshake.length_le_run _ _
  have older {k : Nat} {i : ConnectionId} (hi : ids[k]? = some i) :
      (ids ++ (t.opens? p).toList)[k]? = some i := by
    rw [List.getElem?_append_left (List.getElem?_eq_some_iff.mp hi).1, hi]
  obtain ⟨counted, opened⟩ := numbered_step (g := g) p t
  constructor
  case distinct =>
    refine List.nodup_append.mpr ⟨hr.distinct, by cases t.opens? p <;> simp, fun i hi j hj hij ↦ ?_⟩
    have hn := (opened j (Option.mem_toList.mp hj)).1
    exact absurd (hij ▸ hr.numbered i hi) (Nat.not_lt_of_le hn)
  case numbered =>
    intro i hi
    rcases List.mem_append.mp hi with hi | hi
    · exact Nat.lt_of_lt_of_le (hr.numbered i hi) counted
    · exact (opened i (Option.mem_toList.mp hi)).2
  case length => rw [length_calls_step, List.length_append, hr.length]
  case calls =>
    intro k stage i hk hi
    rcases calls_step (g := g) p t k with hc | ⟨rfl, stage', hk', hc⟩ | ⟨others, lock, rfl, hl, hc⟩
    · exact older (hr.calls k stage i (hc ▸ hk) hi)
    · obtain rfl := Option.some.inj (hc.symm.trans hk)
      rcases (stage_advance (g := g) stage' p.client).1 with hi' | hi' <;> rw [hi] at hi'
      · cases hi'
      · exact older (hr.calls k stage' i hk' hi'.symm)
    · obtain rfl := Option.some.inj (hc.symm.trans hk)
      cases hi
      simp [Turn.opens?, hl, hr.length]
  case channels =>
    intro k stage n hk hn
    rcases calls_step (g := g) p t k with hc | ⟨rfl, stage', hk', hc⟩ | ⟨others, lock, rfl, hl, hc⟩
    · exact Nat.lt_of_lt_of_le (hr.channels k stage n (hc ▸ hk) hn) grown
    · obtain rfl := Option.some.inj (hc.symm.trans hk)
      rcases (stage_advance (g := g) stage' p.client).2 with hn' | ⟨hn', lock, connection, rfl⟩ <;>
        rw [hn] at hn'
      · cases hn'
      · cases hn'
        exact length_starting hk'
    · obtain rfl := Option.some.inj (hc.symm.trans hk)
      cases hn
  case ports =>
    intro q hq
    rw [ports_step] at hq
    obtain hq | hq := List.mem_append.mp hq
    · obtain ⟨hl, k, r, hi, hk⟩ := hr.ports q hq
      exact ⟨Nat.lt_of_lt_of_le hl grown, k, r, older hi, answered_step hk t⟩
    · obtain ⟨stage, hk, hp⟩ := Option.bind_eq_some_iff.mp (Option.mem_toList.mp hq)
      obtain rfl := Client.Stage.eq_of_port? hp
      obtain ⟨k, rfl⟩ := Turn.advance_of_call? hk
      refine ⟨Nat.lt_of_lt_of_le (hr.channels k _ _ hk rfl) grown, k, .ok (),
        older (hr.calls k _ _ hk rfl), ?_⟩
      have hk : p.calls[k]? = some (.settling q.1 q.2 (.ok ())) := hk
      simp only [step, hk]
      exact List.getElem?_set_self (List.getElem?_eq_some_iff.mp hk).1

/-- The sockets and calls of every pipeline are those that were opened. -/
theorem registered_run (g : Client.Settings S W) (world : W) (turns : List (Turn W)) :
    ∃ ids, Registered ids (run g (start g world) turns) := by
  induction turns using List.reverseRecOn with
  | nil =>
    exact ⟨[], List.nodup_nil, by simp, rfl, by simp [run, start], by simp [run, start],
      by simp [run, start, Client.start, Client.ports]⟩
  | append_singleton turns t ih =>
    obtain ⟨ids, hr⟩ := ih
    rw [run_concat]
    exact ⟨_, registered_step hr t⟩

/-! ## From the beginning on -/

/-- A new channel that the handshake binds is linked. -/
theorem linked_onOpen {g : Handshake.Settings S W} {h : Handshake S W} {lock : Option HomeLock}
    (hc : h.outbound.channels[n]? = some {}) (hr : (Handshake.onOpen g n lock h).1 = .ok ()) :
    (Handshake.onOpen g n lock h).2.outbound.Linked n := by
  have hb := Handshake.bound_onOpen hr
  cases hu : h.outbound.bound with
  | some b =>
    rw [Handshake.onOpen_of_bound g n lock hu] at hr
    cases hr
  | none =>
    have same : Outbound.SameSending n h.outbound (Handshake.onOpen g n lock h).2.outbound := by
      rw [Handshake.onOpen_of_unbound g n lock hu]
      have hp := (Handshake.posting_introduce g (Handshake.changeState g .connecting
        { h with lock := lock, outbound := { h.outbound with bound := some n } })).sameSending (n := n)
      rw [Handshake.outbound_changeState g (by decide)] at hp
      exact hp.1
    obtain ⟨ch, hch, hs⟩ := same _ hc
    exact ⟨ch, hch, iff_of_true hs hb⟩

theorem Begins.handshake (hb : Begins g p k i n) : ∃ lock,
    operations g p (.advance k) = [.createChannel, .onOpen n lock] ∧
    (Handshake.onOpen g.handshake n lock
      (p.client.handshake.withOutbound p.client.handshake.outbound.create.1)).1 = .ok () ∧
    (step g p (.advance k)).client.handshake = (Handshake.onOpen g.handshake n lock
      (p.client.handshake.withOutbound p.client.handshake.outbound.create.1)).2 := by
  obtain ⟨lock, hk, hn, hr⟩ := hb.spec
  have ho : operations g p (.advance k) = [.createChannel, .onOpen n (some lock)] := by
    simp only [operations, hk, hn]
    rfl
  refine ⟨some lock, ho, hr, ?_⟩
  rw [handshake_step, ho]
  rfl

/-- The channel of a connection on which the handshake begins is bound. -/
theorem Begins.bound (hb : Begins g p k i n) :
    (step g p (.advance k)).client.handshake.outbound.bound = some n := by
  obtain ⟨lock, -, hr, hh⟩ := hb.handshake
  rw [hh]
  exact Handshake.bound_onOpen hr

theorem Begins.linked (hb : Begins g p k i n) :
    (step g p (.advance k)).client.handshake.outbound.Linked n := by
  obtain ⟨-, -, hn, -⟩ := hb.spec
  obtain ⟨lock, -, hr, hh⟩ := hb.handshake
  rw [hh]
  refine linked_onOpen ?_ hr
  simp [Handshake.withOutbound, Outbound.create, hn]

section

variable {ids : List ConnectionId} (hr : Registered ids p) (hb : Begins g p k i n)

include hr hb

/-- No call but its own is for a connection. -/
theorem Begins.call_unique {k' : Nat} (hi : ids[k']? = some i) : k' = k := by
  obtain ⟨lock, hk⟩ := hb.starting
  have hk' := hr.calls k _ i hk rfl
  exact (List.getElem?_inj (List.getElem?_eq_some_iff.mp hi).1 hr.distinct).mp (hi.trans hk'.symm)

/-- A connection on which the handshake begins has no socket of the client yet. -/
theorem Begins.socket?_eq_none : (step g p (.advance k)).client.socket? i = none := by
  obtain ⟨lock, hk⟩ := hb.starting
  have hp : (step g p (.advance k)).client.ports = p.client.ports := by
    rw [ports_step]
    simp [Turn.call?, hk, Client.Stage.port?]
  rw [Client.socket?_eq_none, hp]
  rintro q hq rfl
  obtain ⟨-, k', r, hi, ha⟩ := hr.ports q hq
  obtain rfl := hb.call_unique hr hi
  rw [hk] at ha
  cases ha

theorem Begins.apart : Apart k i n (step g p (.advance k)) where
  ports := by
    obtain ⟨lock, hk, hn, -⟩ := hb.spec
    intro q hq _
    rw [ports_step] at hq
    simp only [Turn.call?, hk, Option.bind_some, Client.Stage.port?, Option.toList_none,
      List.append_nil] at hq
    exact hn ▸ Nat.ne_of_lt (hr.ports q hq).1
  calls := by
    obtain ⟨lock, hk, hn, -⟩ := hb.spec
    intro k' stage hs hkk
    have hs' : p.calls[k']? = some stage := by
      rcases calls_step (g := g) p (.advance k) k' with hc | ⟨hc, -⟩ | ⟨_, _, hc, -⟩
      · exact hc ▸ hs
      · cases hc
        exact absurd rfl hkk
      · cases hc
    refine ⟨fun hi ↦ hkk (hb.call_unique hr (hr.calls k' stage i hs' hi)), fun hc ↦ ?_⟩
    have := hr.channels k' stage n hs' hc
    omega
  call := .inl hb.settling
  numbered := by
    obtain ⟨lock, hk⟩ := hb.starting
    have hi := hr.numbered i (List.mem_of_getElem? (hr.calls k _ i hk rfl))
    exact Nat.lt_of_lt_of_le hi (numbered_step p _).1
  linked := hb.linked

end

end Pipeline

end SealedSession
