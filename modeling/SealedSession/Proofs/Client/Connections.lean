import Mathlib.Data.List.Induction
import SealedSession.Proofs.Client.Run
import SealedSession.Proofs.Handshake.Phases
import SealedSession.Proofs.Handshake.Posting

/-!
# The connections of a client

A client keeps every socket that it has opened, with the channel that feeds it, and remembers which
one it has opened last. Only opening a socket changes that: whatever else happens to the client, its
handshake stays bound to the channel of that socket, or it is disconnected.

* `Kept`: the connections of a client stay as they are; `kept_step` says when.
* `stays_run`: a client that is active after a run that opened nothing has been so on one channel.
* `Wired`: what holds of the connections of every client; `wired_run` says so.
* `Warrant`: what must be the case for a move to do an operation.
-/

namespace SealedSession

namespace Handshake

variable {S W : Type} {g : Settings S W}

/-- Only a socket is the cause of an opening. -/
theorem onOpen_of_cause {h : Handshake S W} {op : Operation W} (hc : cause g h op = .opening) :
    ∃ channel lock, op = .onOpen channel lock := by
  cases op with
  | onOpen channel lock => exact ⟨channel, lock, rfl⟩
  | receive bytes =>
    rw [cause] at hc
    split at hc <;> cases hc
  | _ => cases hc

/-- A client that is active after operations that open nothing was active all along, on the same
channel. -/
theorem bound_of_active {h : Handshake S W} {ops : List (Operation W)}
    (hs : h.standing.Sound g.refreshLimit) (hops : ∀ channel lock, .onOpen channel lock ∉ ops)
    (ha : (run g h ops).state ≠ .disconnected) :
    h.state ≠ .disconnected ∧ (run g h ops).outbound.bound = h.outbound.bound := by
  induction ops generalizing h with
  | nil => exact ⟨ha, rfl⟩
  | cons op ops ih =>
    have hs' := hs.step (step_perform g h op)
    obtain ⟨hc, hb⟩ := ih hs' (fun n l hm ↦ hops n l (List.mem_cons_of_mem _ hm)) ha
    have hc' : h.state ≠ .disconnected := by
      intro hd
      rcases Standing.edge_of_step hs (step_perform g h op) with hp | he
      · exact hc ((congrArg Place.state hp).trans hd)
      · rcases he.from_disconnected hd with ho | hd
        · obtain ⟨n, l, rfl⟩ := onOpen_of_cause ho
          exact hops n l List.mem_cons_self
        · exact hc hd
    obtain ⟨n, hn⟩ := Option.isSome_iff_exists.mp (hs.bound_iff.mpr hc')
    refine ⟨hc', hb.trans ?_⟩
    rw [hn]
    exact ((traffic_perform g h op).bound hn).resolve_right hc

/-- A client that has opened a socket is bound to its channel. -/
theorem bound_onOpen {h : Handshake S W} {channel : Nat} {lock : Option HomeLock}
    (hr : (onOpen g channel lock h).1 = .ok ()) :
    (onOpen g channel lock h).2.outbound.bound = some channel := by
  cases hb : h.outbound.bound with
  | some b =>
    rw [onOpen_of_bound g channel lock hb] at hr
    cases hr
  | none =>
    rw [onOpen_of_unbound g channel lock hb]
    have ho : (changeState g .connecting { h with
        lock := lock, outbound := { h.outbound with bound := some channel } }).outbound.bound =
        some channel := by
      unfold changeState
      split <;> rfl
    cases posting_introduce g (changeState g .connecting { h with
        lock := lock, outbound := { h.outbound with bound := some channel } }) with
    | silent hq => rw [hq, ho]
    | posted r hr bytes w he hs hq => rw [hq, Outbound.bound_send, ho]

theorem operation_mem {h : Handshake S W} {ops : List (Operation W)} {t : Moment S W}
    (ht : t ∈ history g h ops) : t.operation ∈ ops := by
  induction ops generalizing h with
  | nil => cases ht
  | cons op ops ih =>
    obtain rfl | ht := List.mem_cons.mp ht
    · exact List.mem_cons_self
    · exact List.mem_cons_of_mem _ (ih ht)

end Handshake

namespace Client

variable {S W : Type} (g : Settings S W)

/-! ## What a move changes beside the handshake -/

/-- Every connection, with the channel of its socket. -/
def ports (c : Client S W) : List (ConnectionId × Nat) :=
  c.sockets.map fun s ↦ (s.socket.id, s.channel)

/-- The connection that a move opens. -/
def Move.opens? : Move W → Option ConnectionId
  | .opened connection _ => some connection
  | _ => none

section

variable {g} (c : Client S W)

theorem drain_induction {P : Client S W → Prop} {c : Client S W}
    (base : P { c with handshake := { c.handshake with events := [] } })
    (step : ∀ c e, P c → P (dispatch g c e)) : P (drain g c) := by
  have folded (es : List Event) (c : Client S W) (hc : P c) : P (es.foldl (dispatch g) c) := by
    induction es generalizing c with
    | nil => exact hc
    | cons e es ih => exact ih _ (step c e hc)
  exact folded _ _ base

/-- The connections of a client stay as they are. -/
structure Kept (c c' : Client S W) : Prop where
  current : c'.current = c.current
  ports : c'.ports = c.ports

theorem Kept.refl : Kept c c := ⟨rfl, rfl⟩

variable {c} in
theorem Kept.trans {d e : Client S W} (h : Kept c d) (h' : Kept d e) : Kept c e :=
  ⟨h'.current.trans h.current, h'.ports.trans h.ports⟩

theorem kept_dispatch (e : Event) : Kept c (dispatch g c e) := by
  cases e with
  | stateChanged s =>
    by_cases hs : s = .disconnected
    · simp only [dispatch, if_pos hs]
      exact ⟨rfl, rfl⟩
    · simp only [dispatch, if_neg hs]
      exact ⟨rfl, rfl⟩
  | awaitingApproval =>
    simp only [dispatch]
    split <;> exact ⟨rfl, rfl⟩
  | _ => exact ⟨rfl, rfl⟩

variable {c} in
theorem Kept.drain {d : Client S W} (h : Kept c d) : Kept c (drain g d) :=
  drain_induction (P := Kept c) ⟨h.current, h.ports⟩ fun _ e hd ↦ hd.trans (kept_dispatch _ e)

variable {c} in
theorem Kept.act {d : Client S W} (h : Kept c d) (f : Handshake S W → Handshake S W) :
    Kept c (act g f d) :=
  Kept.drain (d := { d with handshake := f d.handshake }) ⟨h.current, h.ports⟩

variable {c} in
theorem Kept.attempt {d : Client S W} (h : Kept c d) (f : Handshake.Try S W Unit) :
    Kept c (attempt g f d).2 :=
  Kept.drain (d := { d with handshake := (f d.handshake).2 }) ⟨h.current, h.ports⟩

/-- A socket may change, but not its connection and not its channel. -/
theorem kept_adjust {connection : ConnectionId} {f : ClientSocket → ClientSocket}
    (hf : ∀ s, s.socket.id = connection →
      (f s).socket.id = connection ∧ (f s).channel = s.channel) :
    Kept c (c.adjust connection f) := by
  refine ⟨rfl, ?_⟩
  simp only [ports, adjust, List.map_map]
  refine List.map_congr_left fun s _ ↦ ?_
  by_cases hs : s.socket.id = connection
  · obtain ⟨hi, hc⟩ := hf s hs
    simp [hs, hi, hc]
  · simp [hs]

variable {c} in
theorem id_of_socket? {connection : ConnectionId} {s : ClientSocket}
    (hs : c.socket? connection = some s) : s.socket.id = connection := by
  simpa using List.find?_some hs

theorem id_receive (a : Arrival) (s : Socket) : (s.receive a).2.id = s.id := by
  cases a <;> rfl

theorem id_send (bytes : Bytes) (s : Socket) : (s.send bytes).2.id = s.id := by
  unfold Socket.send Socket.write
  split
  · split <;> rfl
  · rfl

theorem id_closeNormally (s : Socket) : s.closeNormally.2.id = s.id := by
  unfold Socket.closeNormally Socket.close Socket.write
  split
  · split <;> rfl
  · rfl

theorem kept_stopReading (connection : ConnectionId) : Kept c (c.stopReading connection) :=
  kept_adjust c fun _ hs ↦ ⟨hs, rfl⟩

theorem kept_process (bytes : Bytes) : Kept c (process g bytes c) := by
  unfold process
  rcases Handshake.receive g.handshake bytes c.handshake with ⟨_ | _, h⟩
  · refine Kept.act ?_ _
    exact ⟨rfl, rfl⟩
  · refine Kept.drain ?_
    exact ⟨rfl, rfl⟩

theorem kept_arrive (connection : ConnectionId) (a : Arrival) :
    Kept c (arrive g connection a c) := by
  cases hs : c.socket? connection with
  | none =>
    simp only [arrive, hs]
    exact .refl c
  | some s =>
    simp only [arrive, hs]
    have hk : Kept c (c.adjust connection fun t ↦ { t with socket := (s.socket.receive a).2 }) :=
      kept_adjust c fun _ _ ↦ ⟨(id_receive a _).trans (id_of_socket? hs), rfl⟩
    split
    · split
      · exact hk.trans (kept_stopReading _ connection)
      · cases a with
        | envelope bytes => exact hk.trans (kept_process _ bytes)
        | closed info =>
          exact (hk.trans (kept_stopReading _ connection)).act _
        | broken system =>
          exact (hk.trans (kept_stopReading _ connection)).act _
    · exact .refl c

theorem kept_write (connection : ConnectionId) : Kept c (write connection c) := by
  have stopped (d : Client S W) (s : ClientSocket) : Kept d (stopWriting connection s d) := by
    refine Kept.trans ?_ (kept_adjust _ fun _ ht ↦ ⟨(id_closeNormally _).trans ht, rfl⟩)
    exact ⟨rfl, rfl⟩
  cases hs : c.socket? connection with
  | none =>
    simp only [write, hs]
    exact .refl c
  | some s =>
    have hi := id_of_socket? hs
    simp only [write, hs]
    split
    · split
      · next bytes o ho =>
        have hk : Kept c (({ c with handshake := { c.handshake with outbound := o } } :
            Client S W).adjust connection fun t ↦ { t with socket := (s.socket.send bytes).2 }) := by
          refine Kept.trans ?_ (kept_adjust _ fun _ _ ↦ ⟨(id_send bytes _).trans hi, rfl⟩)
          exact ⟨rfl, rfl⟩
        split
        · exact hk
        · exact hk.trans (stopped _ _)
      · split
        · exact .refl c
        · exact stopped c s
    · exact .refl c

theorem kept_probes (is : List (Option Identity)) :
    Kept c (is.foldl (fun c i ↦ (attempt g (Handshake.sendKeepalive g.handshake i) c).2) c) := by
  induction is generalizing c with
  | nil => exact .refl c
  | cons i is ih =>
    rw [List.foldl_cons]
    exact ((Kept.refl c).attempt _).trans (ih _)

theorem kept_probe : Kept c (probe g c) := by
  have hp := kept_probes (g := g) { c with keepalive := (c.keepalive.stall c.now).1 }
    (c.keepalive.stall c.now).2
  exact ⟨hp.current, hp.ports⟩

theorem kept_verified (n : Nat) (result : Except ClientError String) :
    Kept c (verified g n result c) := by
  unfold verified
  split
  · exact .refl c
  · dsimp only
    split
    · split
      · refine Kept.attempt ?_ _
        exact ⟨rfl, rfl⟩
      · refine Kept.act ?_ _
        exact ⟨rfl, rfl⟩
    · refine Kept.drain ?_
      exact ⟨rfl, rfl⟩

theorem kept_approvalDue (n : Nat) : Kept c (approvalDue g n c) := by
  unfold approvalDue
  split
  · split
    · exact .refl c
    · dsimp only
      split
      · refine Kept.act ?_ _
        exact ⟨rfl, rfl⟩
      · refine Kept.drain ?_
        exact ⟨rfl, rfl⟩
  · exact .refl c

/-- A socket that was opened is current, whether or not the handshake could begin on it. -/
theorem wired_opened (connection : ConnectionId) (lock : HomeLock) :
    (opened g connection lock c).2.current = some connection ∧
      ((opened g connection lock c).2.handshake.state = .disconnected ∨
        ∃ n, (opened g connection lock c).2.handshake.outbound.bound = some n ∧
          (connection, n) ∈ (opened g connection lock c).2.ports) := by
  obtain ⟨n, hn⟩ : ∃ n, n = c.handshake.outbound.create.2 := ⟨_, rfl⟩
  have hb (h : Handshake S W) (hr : (Handshake.onOpen g.handshake n (some lock) h).1 = .ok ()) :
      (Handshake.onOpen g.handshake n (some lock) h).2.outbound.bound = some n :=
    Handshake.bound_onOpen hr
  replace hb := hb { c.handshake with outbound := c.handshake.outbound.create.1 }
  unfold opened
  dsimp only
  rw [← hn]
  revert hb
  rcases Handshake.onOpen g.handshake n (some lock)
    { c.handshake with outbound := c.handshake.outbound.create.1 } with ⟨_ | _, h⟩
  · intro _
    have hk : Kept { c with current := some connection, handshake := h }
        (disconnect g { c with current := some connection, handshake := h }) := (Kept.refl _).act _
    refine ⟨hk.current, .inl ?_⟩
    change (disconnect g _).handshake.state = _
    rw [disconnect, act, handshake_drain]
    exact Handshake.state_changeState g.handshake h .disconnected
  · intro hb
    refine ⟨(Kept.refl _).drain.current, .inr ⟨n, ?_, ?_⟩⟩
    · rw [handshake_drain]
      exact hb rfl
    · rw [(Kept.refl _).drain.ports]
      simp [ports, restartKeepalive]

/-- A move that opens nothing keeps the connections. -/
theorem kept_step {m : Move W} (hm : m.opens? = none) : Kept c (step g c m) := by
  cases m with
  | opened connection lock => cases hm
  | disconnect => exact (Kept.refl c).act _
  | send r => exact (Kept.refl c).attempt _
  | shutdown => exact ⟨rfl, rfl⟩
  | drop =>
    have hd : Kept c (disconnect g c) := (Kept.refl c).act _
    exact ⟨hd.current, hd.ports⟩
  | arrive connection a => exact kept_arrive c connection a
  | write connection => exact kept_write c connection
  | pass span => exact ⟨rfl, rfl⟩
  | probe => exact kept_probe c
  | verified n result => exact kept_verified c n result
  | approvalDue n => exact kept_approvalDue c n
  | elapse change => exact ⟨rfl, rfl⟩

/-- No event is left to be dispatched once a move is made. -/
theorem events_step (hc : c.handshake.events = []) (m : Move W) :
    (step g c m).handshake.events = [] := by
  rw [handshake_step]
  cases m with
  | opened connection lock =>
    simp only [operations, opening]
    split <;> rfl
  | disconnect | drop | send r => rfl
  | shutdown =>
    change (Handshake.saveOnShutdown g.handshake c.handshake).events = []
    unfold Handshake.saveOnShutdown
    split <;> exact hc
  | arrive connection a =>
    simp only [operations]
    split
    · split
      · cases a with
        | envelope bytes =>
          simp only [hearing, processing]
          split <;> rfl
        | closed info => rfl
        | broken system => rfl
      · exact hc
    · exact hc
  | write connection =>
    simp only [operations, writing]
    split
    · split
      · split
        · split <;> exact hc
        · split <;> exact hc
      · exact hc
    · exact hc
  | probe =>
    simp only [operations]
    generalize c.keepalive.stall c.now = k
    generalize c.handshake = h at hc
    induction k.2 generalizing h with
    | nil => exact hc
    | cons i is ih =>
      rw [List.flatMap_cons, Handshake.run_append]
      exact ih _ rfl
  | verified n result =>
    simp only [operations]
    split
    · split
      · split <;> rfl
      · rfl
    · exact hc
  | approvalDue n =>
    simp only [operations]
    split
    · split
      · exact hc
      · split <;> rfl
    · exact hc
  | pass span => exact hc
  | elapse change => exact hc

end

/-- What must be the case for a move to do an operation. -/
def Warrant (c : Client S W) (m : Move W) : Operation W → Prop
  | .onOpen _ _ => ∃ connection lock, m = .opened connection lock
  | .receive bytes => ∃ connection, m = .arrive connection (.envelope bytes) ∧
      c.current = some connection ∧ operations g c m = processing g bytes c.handshake
  | .startSession serverId => ∃ k v proof, m = .verified k (.ok proof) ∧ serverId = some proof ∧
      c.verifications[k]? = some v ∧ c.handshake.state = .connecting ∧
      operations g c m = [.startSession serverId, .takeEvents]
  | .send r => m = .send r
  | _ => True

theorem warrant_operations (c : Client S W) (m : Move W) :
    ∀ op ∈ operations g c m, Warrant g c m op := by
  intro op ho
  cases does_of_mem_operations g c m op ho with
  | opened channel => exact ⟨_, _, rfl⟩
  | sent r => rfl
  | @heard connection bytes =>
    cases hs : c.socket? connection with
    | none => simp [operations, hs] at ho
    | some s =>
      by_cases hr : s.reading = true ∧ c.current = some connection
      · refine ⟨connection, rfl, hr.2, ?_⟩
        simp only [operations, hs, if_pos hr, hearing]
      · simp [operations, hs, hr] at ho
  | @verified k proof =>
    cases hv : c.verifications[k]? with
    | none => simp [operations, hv] at ho
    | some v =>
      by_cases hc : c.handshake.state = .connecting
      · exact ⟨k, v, proof, rfl, rfl, hv, hc, by simp [operations, hv, hc]⟩
      · simp [operations, hv, hc] at ho
  | _ => exact trivial

/-! ## Along a run -/

variable {g} {c : Client S W}

/-- Moves that open nothing open nothing for the handshake. -/
theorem unopened_driven {moves : List (Move W)} (hm : ∀ m ∈ moves, m.opens? = none) :
    ∀ channel lock, .onOpen channel lock ∉ driven g c moves := by
  induction moves generalizing c with
  | nil =>
    intro channel lock ho
    cases ho
  | cons m moves ih =>
    intro channel lock ho
    obtain ho | ho := List.mem_append.mp ho
    · obtain ⟨connection, lock, rfl⟩ := warrant_operations g c m _ ho
      cases hm _ List.mem_cons_self
    · exact ih (fun m hm' ↦ hm m (List.mem_cons_of_mem _ hm')) channel lock ho

/-- A client that is active after moves that open nothing has been active all along, on the same
channel of the same connection. -/
theorem stays_run {moves : List (Move W)}
    (hs : c.handshake.standing.Sound g.config.refreshLimit) (hm : ∀ m ∈ moves, m.opens? = none)
    (ha : (run g c moves).handshake.state ≠ .disconnected) :
    c.handshake.state ≠ .disconnected ∧ (run g c moves).current = c.current ∧
      (run g c moves).handshake.outbound.bound = c.handshake.outbound.bound := by
  have current : (run g c moves).current = c.current := by
    clear ha hs
    induction moves generalizing c with
    | nil => rfl
    | cons m moves ih =>
      exact (ih fun m hm' ↦ hm m (List.mem_cons_of_mem _ hm')).trans
        (kept_step c (hm m List.mem_cons_self)).current
  rw [handshake_run] at ha ⊢
  obtain ⟨hc, hb⟩ := Handshake.bound_of_active (g := g.handshake) hs (unopened_driven hm) ha
  exact ⟨hc, current, hb⟩

/-- The events of a client were dispatched, and it is active only on the connection that it has
opened last. -/
structure Wired (c : Client S W) : Prop where
  events : c.handshake.events = []
  bound : c.handshake.state ≠ .disconnected → ∃ connection n, c.current = some connection ∧
    c.handshake.outbound.bound = some n ∧ (connection, n) ∈ c.ports

theorem wired_step (hw : c.Wired) (hs : c.handshake.standing.Sound g.config.refreshLimit)
    (m : Move W) : (step g c m).Wired := by
  refine ⟨events_step c hw.events m, fun ha ↦ ?_⟩
  cases hm : m.opens? with
  | none =>
    have alone : ∀ o ∈ [m], o.opens? = none := fun o ho ↦ List.mem_singleton.mp ho ▸ hm
    obtain ⟨hc, hn, hb⟩ := stays_run hs alone ha
    obtain ⟨connection, n, hc, hb', hp⟩ := hw.bound hc
    exact ⟨connection, n, hn.trans hc, hb.trans hb', (kept_step c hm).ports ▸ hp⟩
  | some connection =>
    cases m with
    | opened connection lock =>
      obtain ⟨hc, hd | ⟨n, hn, hp⟩⟩ := wired_opened (g := g) c connection lock
      · exact absurd hd ha
      · exact ⟨connection, n, hc, hn, hp⟩
    | _ => cases hm

/-- Every client is wired. -/
theorem wired_run (g : Settings S W) (world : W) (moves : List (Move W)) :
    (run g (start g world) moves).Wired := by
  induction moves using List.reverseRecOn with
  | nil => exact ⟨rfl, fun ha ↦ absurd rfl ha⟩
  | append_singleton moves m ih =>
    rw [run_concat]
    exact wired_step ih (standing_run g world moves) m

end Client

end SealedSession
