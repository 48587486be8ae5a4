import SealedSession.Proofs.Client.Connections
import SealedSession.Proofs.Handshake.Events

/-!
# What is under way for a client

A response may ask for something that ends at some later time: for the verification of an account,
or for the approval of the device before a deadline. Until then everything else goes on, and the
client may well disconnect and connect anew. What is under way remembers the connection that was
current when it began, and that is where the response came in.

* `Pending`, `Client.Awaits`: what may be under way, and what is.
* `Client.begins`: what begins with an event of the handshake.
* `Client.Origin`: the response that something was begun for, and the connection it came in on.
* `Client.origin_run`: whatever is under way has an origin.
-/

namespace SealedSession

/-- Something that ends at a later time than it begins. -/
inductive Pending where
  | verification (v : PendingVerification)
  | approval (a : ApprovalDeadline)

namespace Client

variable {S W : Type} (g : Settings S W)

/-- Something is under way for a client. -/
def Awaits (c : Client S W) : Pending → Prop
  | .verification v => v ∈ c.verifications
  | .approval a => a ∈ c.approvals

/-- What begins with an event, on the connection that is current and at the present time. -/
def begins (current : Option ConnectionId) (now : Nat) : Event → Option Pending
  | .verifyAccount session key secret => some (.verification ⟨current, session, key, secret⟩)
  | .awaitingApproval => g.config.approvalTimeout.map fun t ↦ .approval ⟨current, now + t.nanos⟩
  | _ => none

section

variable {g} {current : Option ConnectionId} {now : Nat} {e : Event} {p : Pending}

theorem isLasting_of_begins (hb : begins g current now e = some p) : e.isLasting = true := by
  cases e with
  | verifyAccount | awaitingApproval => rfl
  | _ => cases hb

/-- A verification is begun for the response that has brought its key and its secret. -/
theorem identify_of_begins {r : Response} {v : PendingVerification}
    (hb : begins g current now e = some (.verification v))
    (hr : Handshake.Reports g.config.session r e) :
    v.connection = current ∧ ∃ profile, r = .identify profile v.serverPublicKey v.sharedSecret := by
  cases e with
  | verifyAccount session key secret =>
    cases hb
    cases hr with
    | notice _ hn => cases hn
    | verification profile => exact ⟨rfl, profile, rfl⟩
  | awaitingApproval =>
    obtain ⟨_, _, hb⟩ := Option.map_eq_some_iff.mp hb
    cases hb
  | _ => cases hb

/-- A deadline is set for a response that asks for the approval of the device. -/
theorem registerDevice_of_begins {r : Response} {a : ApprovalDeadline}
    (hb : begins g current now e = some (.approval a))
    (hr : Handshake.Reports g.config.session r e) :
    (∃ url token, r = .registerDevice url token) ∧
      ∃ timeout, g.config.approvalTimeout = some timeout ∧ a = ⟨current, now + timeout.nanos⟩ := by
  cases e with
  | awaitingApproval =>
    obtain ⟨timeout, ht, hb⟩ := Option.map_eq_some_iff.mp hb
    cases hb
    cases hr with
    | notice _ hn => cases hn
    | approval url token => exact ⟨⟨url, token, rfl⟩, timeout, ht, rfl⟩
  | _ => cases hb

end

/-! ## The clock -/

section

variable {g}

theorem now_dispatch (c : Client S W) (e : Event) : (dispatch g c e).now = c.now := by
  cases e with
  | stateChanged s => by_cases hs : s = .disconnected <;> simp [dispatch, note, hs]
  | awaitingApproval =>
    simp only [dispatch]
    split <;> rfl
  | _ => rfl

theorem now_drain (c : Client S W) : (drain g c).now = c.now :=
  drain_induction (P := fun d ↦ d.now = c.now) rfl fun d e hd ↦ (now_dispatch d e).trans hd

theorem now_arrive (connection : ConnectionId) (a : Arrival) (c : Client S W) :
    (arrive g connection a c).now = c.now := by
  have processed (bytes : Bytes) (d : Client S W) : (process g bytes d).now = d.now := by
    unfold process
    rcases Handshake.receive g.handshake bytes d.handshake with ⟨_ | _, h⟩ <;> exact now_drain _
  unfold arrive
  split
  · rfl
  · split
    · dsimp only
      split
      · rfl
      · cases a with
        | envelope bytes => exact processed bytes _
        | closed info => exact now_drain _
        | broken system => exact now_drain _
    · rfl

end

/-! ## What a move begins -/

/-- Something was begun on a connection and at a time, for a response that one of the operations has
accepted. -/
def BegunBy (ops : List (Operation W)) (h : Handshake S W) (current : Option ConnectionId) (now : Nat)
    (p : Pending) : Prop :=
  ∃ e r, begins g current now e = some p ∧ Handshake.Reports g.config.session r e ∧
    ∃ t ∈ Handshake.history g.handshake h ops, t.Accepted g.handshake r

/-- Whatever is under way was so before some operations, or it was begun by them. -/
def Gains (c d : Client S W) (ops : List (Operation W)) : Prop :=
  ∀ p, d.Awaits p → c.Awaits p ∨ BegunBy g ops c.handshake d.current d.now p

section

variable {g} {c d : Client S W} {p : Pending}

theorem awaits_of_subset (hv : d.verifications ⊆ c.verifications) (ha : d.approvals ⊆ c.approvals)
    (p : Pending) (hp : d.Awaits p) : c.Awaits p := by
  cases p with
  | verification v => exact hv hp
  | approval a => exact ha hp

theorem awaits_of_eq (hv : d.verifications = c.verifications) (ha : d.approvals = c.approvals)
    (p : Pending) (hp : d.Awaits p) : c.Awaits p :=
  awaits_of_subset (fun _ hm ↦ hv ▸ hm) (fun _ hm ↦ ha ▸ hm) p hp

/-- Nothing begins with an event but what is said to begin. -/
theorem awaits_dispatch {e : Event} (hp : (dispatch g c e).Awaits p) :
    c.Awaits p ∨ begins g c.current c.now e = some p := by
  cases e with
  | verifyAccount session key secret =>
    cases p with
    | verification v =>
      refine (List.mem_append.mp hp).imp_right fun hv ↦ ?_
      rw [List.mem_singleton.mp hv]
      rfl
    | approval a => exact .inl hp
  | stateChanged s =>
    by_cases hs : s = .disconnected
    · simp only [dispatch, if_pos hs] at hp
      exact .inl (awaits_of_eq rfl rfl p hp)
    · simp only [dispatch, if_neg hs] at hp
      exact .inl (awaits_of_eq rfl rfl p hp)
  | awaitingApproval =>
    cases ht : g.config.approvalTimeout with
    | none =>
      simp only [dispatch, ht] at hp
      exact .inl hp
    | some timeout =>
      simp only [dispatch, ht] at hp
      cases p with
      | verification v => exact .inl hp
      | approval a =>
        refine (List.mem_append.mp hp).imp_right fun ha ↦ ?_
        rw [List.mem_singleton.mp ha]
        simp [begins, ht]
  | _ => exact .inl (awaits_of_eq rfl rfl p hp)

/-- What is under way after events were dispatched was so before, or it began with one of them. -/
theorem awaits_drain (hp : (drain g c).Awaits p) :
    c.Awaits p ∨ ∃ e ∈ c.handshake.events, begins g c.current c.now e = some p := by
  have folded (es : List Event) (c : Client S W) (hp : (es.foldl (dispatch g) c).Awaits p) :
      c.Awaits p ∨ ∃ e ∈ es, begins g c.current c.now e = some p := by
    induction es generalizing c with
    | nil => exact .inl hp
    | cons e es ih =>
      obtain hp | ⟨f, hf, hb⟩ := ih _ hp
      · exact (awaits_dispatch hp).imp_right fun hb ↦ ⟨e, List.mem_cons_self, hb⟩
      · rw [(kept_dispatch c e).current, now_dispatch] at hb
        exact .inr ⟨f, List.mem_cons_of_mem _ hf, hb⟩
  exact (folded c.handshake.events { c with handshake := { c.handshake with events := [] } }
    hp).imp_left (awaits_of_eq rfl rfl p)

theorem BegunBy.append_left {ops : List (Operation W)} {h : Handshake S W}
    {current : Option ConnectionId} {now : Nat} (hb : BegunBy g ops h current now p)
    (ops' : List (Operation W)) : BegunBy g (ops ++ ops') h current now p := by
  obtain ⟨e, r, hb, hr, t, ht, ha⟩ := hb
  refine ⟨e, r, hb, hr, t, ?_, ha⟩
  rw [Handshake.history_append]
  exact List.mem_append_left _ ht

theorem Gains.of_awaits {ops : List (Operation W)} (hd : ∀ p, d.Awaits p → c.Awaits p) :
    Gains g c d ops := fun p hp ↦ .inl (hd p hp)

/-- What is dispatched after some operations is due to them. -/
theorem gains_drain (d : Client S W) (ops after : List (Operation W)) (he : c.handshake.events = [])
    (hp : ∀ p, d.Awaits p → c.Awaits p)
    (hd : d.handshake = Handshake.run g.handshake c.handshake ops) :
    Gains g c (drain g d) (ops ++ after) := by
  intro p hq
  obtain hq | ⟨e, hq, hb⟩ := awaits_drain hq
  · exact .inl (hp p hq)
  · rw [hd] at hq
    obtain hq | ⟨r, hr, ha⟩ :=
      Handshake.reports_of_run g.handshake hq (isLasting_of_begins hb)
    · rw [he] at hq
      cases hq
    · rw [(Kept.refl d).drain.current, now_drain]
      exact .inr (BegunBy.append_left ⟨e, r, hb, hr, ha⟩ after)

theorem Gains.trans {e : Client S W} {ops ops' : List (Operation W)} (h : Gains g c d ops)
    (hd : d.handshake = Handshake.run g.handshake c.handshake ops) (hc : e.current = d.current)
    (hn : e.now = d.now) (h' : Gains g d e ops') : Gains g c e (ops ++ ops') := by
  intro p hp
  rw [hc, hn]
  obtain hp | ⟨f, r, hb, hr, t, ht, ha⟩ := h' p hp
  · exact (h p hp).imp_right fun hb ↦ hb.append_left ops'
  · rw [hc, hn] at hb
    refine .inr ⟨f, r, hb, hr, t, ?_, ha⟩
    rw [Handshake.history_append, ← hd]
    exact List.mem_append_right _ ht

theorem gains_opened (he : c.handshake.events = []) (connection : ConnectionId) (lock : HomeLock) :
    Gains g c (opened g connection lock c).2 (opening g lock c.handshake) := by
  obtain ⟨n, hn⟩ : ∃ n, n = c.handshake.outbound.create.2 := ⟨_, rfl⟩
  rcases hx : Handshake.onOpen g.handshake n (some lock)
    { c.handshake with outbound := c.handshake.outbound.create.1 } with ⟨_ | _, h⟩
  · have hd : Handshake.disconnect g.handshake h = Handshake.run g.handshake c.handshake
        [.createChannel, .onOpen n (some lock), .disconnect] := by
      simp only [Handshake.run, List.foldl, Handshake.perform, Handshake.withOutbound, hx]
    have hg := gains_drain
      { c with current := some connection, handshake := Handshake.disconnect g.handshake h }
      _ [.takeEvents, .dropReceiving n] he (awaits_of_eq rfl rfl) hd
    simp only [opened, opening, Handshake.withOutbound, ← hn, hx]
    exact fun p hp ↦ hg p (awaits_of_eq rfl rfl p hp)
  · have hd : h = Handshake.run g.handshake c.handshake [.createChannel, .onOpen n (some lock)] := by
      simp only [Handshake.run, List.foldl, Handshake.perform, Handshake.withOutbound, hx]
    have hg (d : Client S W) (hs : d.handshake = h) (hp : ∀ p, d.Awaits p → c.Awaits p) :=
      gains_drain d _ [.takeEvents] he hp (hs.trans hd)
    simp only [opened, opening, Handshake.withOutbound, ← hn, hx]
    exact hg _ rfl (awaits_of_eq rfl rfl)

theorem gains_process (he : c.handshake.events = []) (hh : d.handshake = c.handshake)
    (hp : ∀ p, d.Awaits p → c.Awaits p) (bytes : Bytes) :
    Gains g c (process g bytes d) (processing g bytes c.handshake) := by
  have held (h : Handshake S W) (p : Pending)
      (hq : ({ d with handshake := h } : Client S W).Awaits p) : c.Awaits p :=
    hp p (awaits_of_eq rfl rfl p hq)
  rcases hx : Handshake.receive g.handshake bytes c.handshake with ⟨_ | _, h⟩
  · have hd : Handshake.onFailure g.handshake h = Handshake.run g.handshake c.handshake
        [.receive bytes, .onFailure] := by
      simp only [Handshake.run, List.foldl, Handshake.perform, hx]
    simp only [process, processing, hh, hx]
    exact gains_drain { d with handshake := Handshake.onFailure g.handshake h } _ [.takeEvents] he
      (held _) hd
  · have hd : h = Handshake.run g.handshake c.handshake [.receive bytes] := by
      simp only [Handshake.run, List.foldl, Handshake.perform, hx]
    simp only [process, processing, hh, hx]
    exact gains_drain { d with handshake := h } _ [.takeEvents] he (held _) hd

theorem gains_arrive (he : c.handshake.events = []) (connection : ConnectionId) (a : Arrival) :
    Gains g c (arrive g connection a c) (operations g c (.arrive connection a)) := by
  cases hs : c.socket? connection with
  | none =>
    simp only [arrive, operations, hs]
    exact .of_awaits fun _ ↦ id
  | some s =>
    simp only [arrive, operations, hs]
    by_cases hr : s.reading = true
    · by_cases hc : c.current = some connection
      · have hn : ¬(c.adjust connection fun t ↦ { t with socket := (s.socket.receive a).2 }).current ≠
            some connection := not_not_intro hc
        rw [if_pos hr, if_neg hn, if_pos ⟨hr, hc⟩]
        cases a with
        | envelope bytes =>
          exact gains_process (d := c.adjust connection fun t ↦ { t with socket := s.socket }) he rfl
            (awaits_of_eq rfl rfl) bytes
        | closed info =>
          exact gains_drain _ [.onClose _] [.takeEvents] he (awaits_of_eq rfl rfl) rfl
        | broken system =>
          exact gains_drain _ [.onFailure] [.takeEvents] he (awaits_of_eq rfl rfl) rfl
      · have hn : (c.adjust connection fun t ↦ { t with socket := (s.socket.receive a).2 }).current ≠
            some connection := hc
        rw [if_pos hr, if_pos hn]
        exact .of_awaits (awaits_of_eq rfl rfl)
    · rw [if_neg hr]
      exact .of_awaits fun _ ↦ id

theorem gains_probe (he : c.handshake.events = []) :
    Gains g c (probe g c) (operations g c .probe) := by
  have probes (is : List (Option Identity)) (c : Client S W) (he : c.handshake.events = []) :
      (is.foldl (fun c i ↦ (attempt g (Handshake.sendKeepalive g.handshake i) c).2) c).now = c.now ∧
      Gains g c (is.foldl (fun c i ↦ (attempt g (Handshake.sendKeepalive g.handshake i) c).2) c)
        (is.flatMap fun i ↦ [.sendKeepalive i, .takeEvents]) := by
    induction is generalizing c with
    | nil => exact ⟨rfl, .of_awaits fun _ ↦ id⟩
    | cons i is ih =>
      rw [List.foldl_cons, List.flatMap_cons]
      obtain ⟨d, hd⟩ : ∃ d, d = (attempt g (Handshake.sendKeepalive g.handshake i) c).2 := ⟨_, rfl⟩
      have hh : d.handshake = Handshake.run g.handshake c.handshake [.sendKeepalive i, .takeEvents] :=
        hd ▸ handshake_drain g _
      have hn : d.now = c.now := hd ▸ now_drain _
      have hg : Gains g c d [.sendKeepalive i, .takeEvents] :=
        hd ▸ gains_drain _ [.sendKeepalive i] [.takeEvents] he
          (awaits_of_eq rfl rfl) rfl
      rw [← hd]
      obtain ⟨hn', hg'⟩ := ih d (hh ▸ rfl)
      exact ⟨hn'.trans hn, hg.trans hh (kept_probes d is).current hn' hg'⟩
  have hg := (probes (c.keepalive.stall c.now).2
    { c with keepalive := (c.keepalive.stall c.now).1 } he).2
  exact fun p hp ↦ (hg p hp).imp_left (awaits_of_eq rfl rfl p)

/-- What is under way after a move was so before, or it is due to the move. -/
theorem gains_step (he : c.handshake.events = []) (m : Move W) :
    Gains g c (step g c m) (operations g c m) := by
  cases m with
  | opened connection lock => exact gains_opened he connection lock
  | disconnect =>
    exact gains_drain _ [.disconnect] [.takeEvents] he (awaits_of_eq rfl rfl) rfl
  | drop =>
    have hg := gains_drain { c with handshake := Handshake.disconnect g.handshake c.handshake }
      [.disconnect] [.takeEvents] he (awaits_of_eq rfl rfl) rfl
    exact fun p hp ↦ hg p (awaits_of_eq rfl rfl p hp)
  | send r =>
    exact gains_drain _ [.send r] [.takeEvents] he (awaits_of_eq rfl rfl) rfl
  | arrive connection a => exact gains_arrive he connection a
  | probe => exact gains_probe he
  | verified n result =>
    cases hv : c.verifications[n]? with
    | none =>
      simp only [step, verified, operations, hv]
      exact .of_awaits fun _ ↦ id
    | some v =>
      have erased (h : Handshake S W) : ∀ p, ({ c with
          verifications := c.verifications.eraseIdx n, handshake := h } : Client S W).Awaits p →
            c.Awaits p :=
        awaits_of_subset (List.eraseIdx_sublist _ n).subset fun _ ↦ id
      simp only [step, verified, operations, hv]
      split
      · cases result with
        | ok serverId =>
          exact gains_drain _ [.startSession (some serverId)] [.takeEvents] he (erased _) rfl
        | error e => exact gains_drain _ [.fail e.message] [.takeEvents] he (erased _) rfl
      · exact gains_drain { c with verifications := c.verifications.eraseIdx n } [] [.takeEvents]
          he (erased _) rfl
  | approvalDue n =>
    cases ha : c.approvals[n]? with
    | none =>
      simp only [step, approvalDue, operations, ha]
      exact .of_awaits fun _ ↦ id
    | some a =>
      have erased (h : Handshake S W) : ∀ p, ({ c with
          approvals := c.approvals.eraseIdx n, handshake := h } : Client S W).Awaits p →
            c.Awaits p :=
        awaits_of_subset (fun _ ↦ id) (List.eraseIdx_sublist _ n).subset
      cases ht : g.config.approvalTimeout with
      | none =>
        simp only [step, approvalDue, operations, ha, ht]
        exact .of_awaits fun _ ↦ id
      | some timeout =>
        simp only [step, approvalDue, operations, ha, ht]
        split
        · exact .of_awaits fun _ ↦ id
        · split
          · exact gains_drain _ [.fail (approvalMessage timeout)] [.takeEvents] he (erased _) rfl
          · exact gains_drain { c with approvals := c.approvals.eraseIdx n } [] [.takeEvents] he
              (erased _) rfl
  | write connection =>
    have hw : (write connection c).verifications = c.verifications ∧
        (write connection c).approvals = c.approvals := by
      unfold write
      split
      · exact ⟨rfl, rfl⟩
      · split
        · split
          · dsimp only
            split <;> exact ⟨rfl, rfl⟩
          · split <;> exact ⟨rfl, rfl⟩
        · exact ⟨rfl, rfl⟩
    exact .of_awaits (awaits_of_eq hw.1 hw.2)
  | shutdown | pass span | elapse change => exact .of_awaits (awaits_of_eq rfl rfl)

end

/-! ## Where it was begun -/

/-- Something was begun on a connection that was current then, for a response that came in there
while the client was bound to the channel of that connection. -/
def Origin (world : W) (past : List (Move W)) (p : Pending) (connection : ConnectionId) (n : Nat)
    (since : List (Move W)) : Prop :=
  ∃ earlier bytes r e, past = earlier ++ .arrive connection (.envelope bytes) :: since ∧
    let c := run g (start g world) earlier
    c.current = some connection ∧ c.handshake.outbound.bound = some n ∧
      (connection, n) ∈ c.ports ∧
      operations g c (.arrive connection (.envelope bytes)) = processing g bytes c.handshake ∧
      Handshake.heard? g.handshake bytes c.handshake = some r ∧
      Handshake.Reports g.config.session r e ∧ begins g (some connection) c.now e = some p

variable {g}

theorem Origin.concat {world : W} {past : List (Move W)} {p : Pending} {connection : ConnectionId}
    {n : Nat} {since : List (Move W)} (ho : Origin g world past p connection n since) (m : Move W) :
    Origin g world (past ++ [m]) p connection n (since ++ [m]) := by
  obtain ⟨earlier, bytes, r, e, rfl, ho⟩ := ho
  exact ⟨earlier, bytes, r, e, by simp, ho⟩

/-- What a move begins, it begins for a response that came in through the reader of the present
connection. -/
theorem origin_of_begunBy {world : W} {past : List (Move W)} {m : Move W} {p : Pending}
    (hb : BegunBy g (operations g (run g (start g world) past) m)
      (run g (start g world) past).handshake (run g (start g world) (past ++ [m])).current
      (run g (start g world) (past ++ [m])).now p) :
    ∃ connection n, Origin g world (past ++ [m]) p connection n [] := by
  obtain ⟨c, hr⟩ : ∃ c, c = run g (start g world) past := ⟨_, rfl⟩
  have hw : c.Wired := hr ▸ wired_run g world past
  obtain ⟨e, r, hp, hrep, t, ht, bytes, ho, hm⟩ := hb
  have hw' := warrant_operations g _ m _ (Handshake.operation_mem ht)
  rw [ho] at hw'
  obtain ⟨connection, rfl, hcurrent, hops⟩ := hw'
  rw [run_concat] at hp
  rw [hops] at ht
  rw [← hr] at hcurrent ht hp
  -- the envelope comes first, so it was heard in the state before the move
  have hbefore : t.before = c.handshake := by
    have first {ops : List (Operation W)} (hn : ∀ b, .receive b ∉ ops)
        (ht : t ∈ Handshake.history g.handshake c.handshake (.receive bytes :: ops)) :
        t.before = c.handshake := by
      obtain rfl | ht := List.mem_cons.mp ht
      · rfl
      · exact absurd (ho ▸ Handshake.operation_mem ht) (hn bytes)
    unfold processing at ht
    split at ht
    · exact first (by simp) ht
    · exact first (by simp) ht
  rw [hbefore] at hm
  have ha : c.handshake.state ≠ .disconnected :=
    (Handshake.receive_of_heard g.handshake hm).1
  obtain ⟨connection', n, hc, hn, hport⟩ := hw.bound ha
  obtain rfl := Option.some.inj (hcurrent.symm.trans hc)
  refine ⟨connection, n, past, bytes, r, e, rfl, ?_⟩
  rw [← hr]
  have hstep : (step g c (.arrive connection (.envelope bytes))).current = some connection :=
    (kept_step c rfl).current.trans hc
  rw [hstep, show (step g c (.arrive connection (.envelope bytes))).now = c.now from
    now_arrive connection _ c] at hp
  exact ⟨hc, hn, hport, hr ▸ hops, hm, hrep, hp⟩

/-- Whatever is under way has an origin. -/
theorem origin_run (world : W) (moves : List (Move W)) (p : Pending)
    (hp : (run g (start g world) moves).Awaits p) :
    ∃ connection n since, Origin g world moves p connection n since := by
  induction moves using List.reverseRecOn with
  | nil => cases p <;> cases hp
  | append_singleton moves m ih =>
    have hg := gains_step (g := g) (wired_run g world moves).events m
    rw [← run_concat] at hg
    obtain hp | hb := hg p hp
    · obtain ⟨connection, n, since, ho⟩ := ih hp
      exact ⟨connection, n, since ++ [m], ho.concat m⟩
    · obtain ⟨connection, n, ho⟩ := origin_of_begunBy hb
      exact ⟨connection, n, [], ho⟩

end Client

end SealedSession
