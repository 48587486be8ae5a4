import SealedSession.Proofs.Pipeline.Connections

/-!
# The writer of a connection

A connection on which the handshake has begun has no writer yet; then its writer is at work; then the
writer has stopped for good. In each of these phases, what is written on the socket and what is queued
on the channel account for everything that was ever queued there.

* `Turn.Harms`: the peer of a connection ends it, or the system refuses to write on its socket.
* `Flow`: the phases, and what holds of them; `flow_step` says that every turn keeps this.
* `Begins.flow`: it holds whatever happens after the handshake has begun.
* `stops_of_turns`: once the client was disconnected, a writer that gets enough turns stops.
-/

namespace SealedSession

namespace Pipeline

open Client (Untouched WriterTurn newSocket)

variable {S W : Type} {g : Client.Settings S W} {p : Pipeline S W} {k n : Nat} {i : ConnectionId}
  {t : Turn W} {s : ClientSocket} {past : List (Handshake.Moment S W)}

/-! ## The socket of a connection -/

/-- The peer of a connection ends it, or the system refuses to write on its socket from now on. -/
def Turn.Harms (i : ConnectionId) : Turn W → Prop
  | .act m _ => m.Ends i
  | .fault connection reason => connection = i ∧ reason ≠ none
  | _ => False

/-- A turn other than that of its writer leaves a socket untouched. -/
theorem untouched_turn (hs : p.client.socket? i = some s) (hw : t.writes? ≠ some i) :
    ∃ s', (step g p t).client.socket? i = some s' ∧ Untouched (t.Harms i) s s' := by
  cases t with
  | opened others lock => exact ⟨s, hs, .refl _ s⟩
  | advance k' =>
    refine ⟨s, ?_, .refl _ s⟩
    simp only [step]
    cases p.calls[k']? with
    | none => exact hs
    | some stage =>
      dsimp only
      rw [Client.socket?, sockets_advance, List.find?_append]
      rw [Client.socket?] at hs
      rw [hs]
      rfl
  | act m opens =>
    refine Client.untouched_step opens ?_ hs
    rintro rfl
    exact hw rfl
  | operate op internal => exact ⟨s, hs, .refl _ s⟩
  | fault connection reason =>
    have ha : (step g p (.fault connection reason)).client.socket? i = _ :=
      Client.socket?_adjust fun _ (hid : _ = connection) ↦ hid
    rw [hs] at ha
    by_cases hi : i = connection
    · rw [if_pos hi] at ha
      refine ⟨_, ha, rfl, rfl, rfl, fun hh hs ↦ ⟨hs.1, ?_⟩⟩
      exact not_not.mp fun hr ↦ hh ⟨hi.symm, hr⟩
    · rw [if_neg hi] at ha
      exact ⟨s, ha, .refl _ s⟩

/-- A connection that is apart gets its own socket, or none. -/
theorem Apart.socket?_step (ha : Apart k i n p) (hs : p.client.socket? i = none) (t : Turn W) :
    (step g p t).client.socket? i = none ∨
      (step g p t).client.socket? i = some (newSocket (i, n)) := by
  have kept (hc : t.call? p = none) : (step g p t).client.socket? i = none := by
    rw [Client.socket?_eq_none] at hs ⊢
    rwa [ports_step, hc, Option.bind_none, Option.toList_none, List.append_nil]
  cases t with
  | advance k' =>
    cases hk : p.calls[k']? with
    | none => exact .inl (kept hk)
    | some stage =>
      simp only [step, hk]
      rw [Client.socket?] at hs
      rw [Client.socket?, sockets_advance, List.find?_append, hs]
      cases hp : stage.port? with
      | none => exact .inl rfl
      | some q =>
        obtain ⟨j, m⟩ := q
        obtain rfl := Client.Stage.eq_of_port? hp
        by_cases hj : j = i
        · subst hj
          -- a call for the connection is the call that it has, and knows its channel
          have hkk : k' = k := not_not.mp fun hkk ↦ (ha.calls k' _ hk hkk).1 rfl
          subst hkk
          rcases ha.call with hc | hc <;> rw [hk] at hc <;> cases hc
          exact .inr (by simp [newSocket])
        · exact .inl (by simp [newSocket, hj])
  | _ => exact .inl (kept rfl)

/-- A writer that has stopped does nothing more. -/
theorem step_of_stopped (hs : p.client.socket? i = some s) (hw : s.writing = false)
    (ht : t.writes? = some i) : step g p t = p := by
  obtain rfl := Turn.eq_of_writes? ht
  simp only [step, Client.step, Client.write_of_stopped hs hw]

/-- Nothing more is written on a socket whose writer has stopped. -/
theorem stopped_step (hs : p.client.socket? i = some s) (hw : s.writing = false) (t : Turn W) :
    ∃ s', (step g p t).client.socket? i = some s' ∧ s'.writing = false ∧
      s'.socket.written = s.socket.written := by
  by_cases ht : t.writes? = some i
  · rw [step_of_stopped hs hw ht]
    exact ⟨s, hs, hw, rfl⟩
  · obtain ⟨s', hs', hu⟩ := untouched_turn hs ht
    exact ⟨s', hs', hu.writing.trans hw, hu.written⟩

theorem stopped_run (hs : p.client.socket? i = some s) (hw : s.writing = false)
    (turns : List (Turn W)) :
    ∃ s', (run g p turns).client.socket? i = some s' ∧ s'.writing = false ∧
      s'.socket.written = s.socket.written := by
  induction turns generalizing p s with
  | nil => exact ⟨s, hs, hw, rfl⟩
  | cons t turns ih =>
    obtain ⟨s₁, hs₁, hw₁, he₁⟩ := stopped_step hs hw t
    obtain ⟨s₂, hs₂, hw₂, he₂⟩ := ih hs₁ hw₁
    exact ⟨s₂, hs₂, hw₂, he₂.trans he₁⟩

/-- A writer that is at work takes its turn. -/
theorem writerTurn_step (hs : p.client.socket? i = some s) (hw : s.writing = true)
    (ht : t.writes? = some i) :
    ∃ s', (step g p t).client.socket? i = some s' ∧ WriterTurn p.client s (operations g p t) s' := by
  obtain rfl := Turn.eq_of_writes? ht
  exact Client.writerTurn (g := g) hs hw

/-! ## The channel of a connection -/

/-- What others queue on a channel comes after what is queued there. -/
theorem queued_step_of_spares (ho : ∀ op ∈ operations g p t, op.Spares n) :
    (step g p t).client.handshake.queued n =
      p.client.handshake.queued n ++ (history g p [t]).flatMap (·.posted n) := by
  rw [handshake_step, history_singleton]
  exact Handshake.spared_run _ ho

/-- A connection without a socket has no writer that would take its turn. -/
theorem Apart.spares_of_unsettled (ha : Apart k i n p) (hs : p.client.socket? i = none)
    (t : Turn W) : ∀ op ∈ operations g p t, op.Spares n := by
  by_cases hw : t.writes? = some i
  · obtain rfl := Turn.eq_of_writes? hw
    simp [operations, Client.operations, hs]
  · exact ha.spares hw

/-- On a channel that is bound no more, nothing is queued any more. -/
theorem Apart.unbound_step (ha : Apart k i n p)
    (hb : p.client.handshake.outbound.bound ≠ some n) (t : Turn W) :
    (step g p t).client.handshake.outbound.bound ≠ some n ∧
      (history g p [t]).flatMap (·.posted n) = [] := by
  rw [handshake_step, history_singleton]
  exact ⟨Handshake.unbound_run (ha.not_opened t) hb,
    Handshake.posted_of_unbound (ha.not_opened t) hb⟩

/-- A writer finds the sending end of its channel gone only if the channel is bound no more. -/
theorem Apart.unbound_of_dropped (ha : Apart k i n p)
    (hd : ∀ ch, p.client.handshake.outbound.channels[n]? = some ch → ch.sending = false) :
    p.client.handshake.outbound.bound ≠ some n := by
  obtain ⟨ch, hc, hb⟩ := ha.linked
  intro hn
  have := hd ch hc
  simp [hb.mpr hn] at this

/-! ## The phases of a connection -/

/-- How far a connection has come, and how what is written on its socket and what is queued on its
channel account for everything that was queued there. -/
inductive Flow (harmed : Prop) (i : ConnectionId) (n : Nat) (past : List (Handshake.Moment S W))
    (p : Pipeline S W) : Prop where
  /-- It has no socket yet. -/
  | unsettled (socket : p.client.socket? i = none)
      (queued : p.client.handshake.queued n = past.flatMap (·.posted n))
  /-- Its writer is at work. -/
  | writing (s : ClientSocket) (es : List Bytes) (socket : p.client.socket? i = some s)
      (channel : s.channel = n) (writing : s.writing = true)
      (written : s.socket.written = es.map .envelope)
      (queued : es ++ p.client.handshake.queued n = past.flatMap (·.posted n))
      (sound : ¬harmed → s.socket.Accepts)
  /-- Its writer has stopped, by itself unless the connection was harmed. -/
  | stopped (s : ClientSocket) (es : List Bytes) (closing : List Frame)
      (socket : p.client.socket? i = some s) (writing : s.writing = false)
      (written : s.socket.written = es.map .envelope ++ closing)
      (before : es <+: past.flatMap (·.posted n))
      (once : closing = [] ∨ closing = [Socket.farewell])
      (finished : ¬harmed → es = past.flatMap (·.posted n) ∧ closing = [Socket.farewell] ∧
        p.client.handshake.outbound.bound ≠ some n)

theorem posted_concat (p : Pipeline S W) (t : Turn W) :
    (past ++ history g p [t]).flatMap (·.posted n) =
      past.flatMap (·.posted n) ++ (history g p [t]).flatMap (·.posted n) := List.flatMap_append

variable {harmed : Prop}

/-- The turn of a writer that is at work. -/
theorem flow_step_writer (ha : Apart k i n p) {es : List Bytes}
    (hs : p.client.socket? i = some s) (hc : s.channel = n) (hw : s.writing = true)
    (written : s.socket.written = es.map .envelope)
    (queued : es ++ p.client.handshake.queued n = past.flatMap (·.posted n))
    (sound : ¬harmed → s.socket.Accepts) (ht : t.writes? = some i) :
    Flow harmed i n (past ++ history g p [t]) (step g p t) := by
  subst hc
  obtain ⟨s', hs', hturn⟩ := writerTurn_step (g := g) hs hw ht
  have hh : history g p [t] = Handshake.history g.handshake p.client.handshake (operations g p t) :=
    history_singleton g p t
  have hstep : (step g p t).client.handshake =
      Handshake.run g.handshake p.client.handshake (operations g p t) := handshake_step g p t
  have hunbound := ha.unbound_step (g := g) (t := t)
  generalize operations g p t = ops at hturn hh hstep
  cases hturn with
  | sent bytes rest hq hr =>
    refine .writing _ (es ++ [bytes]) hs' rfl hw ?_ ?_ fun hn ↦ ?_
    · rw [Socket.send_ok hr, written, List.map_append]
      rfl
    · obtain ⟨hrest, hposted⟩ := Handshake.queued_takeEnvelope (g := g.handshake) hq
      rw [posted_concat, hh, hstep, Handshake.run_cons, Handshake.run_nil, hrest, ← queued, hq]
      simp [Handshake.history, hposted]
    · rw [Socket.send_ok hr]
      exact sound hn
  | failed bytes rest hq e hr =>
    obtain ⟨hsame, hrefused⟩ := Socket.send_error hr
    obtain ⟨closing, hwritten, honce, -⟩ := (s.socket.send bytes).2.written_closeNormally
    refine .stopped _ es closing hs' rfl ?_ ?_ honce fun hn ↦ absurd (sound hn) hrefused
    · rw [hwritten, hsame, written]
    · rw [posted_concat, ← queued, List.append_assoc]
      exact List.prefix_append _ _
  | waiting hq hheld =>
    refine .writing _ es hs' rfl hw written ?_ sound
    rw [hh, hstep]
    simpa [Handshake.history] using queued
  | finished hq hdropped =>
    obtain ⟨hn, hposted⟩ := hunbound (ha.unbound_of_dropped hdropped)
    obtain ⟨closing, hwritten, honce, hfarewell⟩ := s.socket.written_closeNormally
    have hall : es = (past ++ history g p [t]).flatMap (·.posted s.channel) := by
      rw [posted_concat, hposted, ← queued, hq, List.append_nil, List.append_nil]
    refine .stopped _ es closing hs' rfl ?_ (hall ▸ List.prefix_rfl) honce fun hn' ↦ ?_
    · rw [hwritten, written]
    · exact ⟨hall, hfarewell (sound hn'), hn⟩

/-- A turn keeps the account of a connection, whoever takes it. -/
theorem flow_step (hf : Flow harmed i n past p) (ha : Apart k i n p) (t : Turn W) :
    Flow (harmed ∨ t.Harms i) i n (past ++ history g p [t]) (step g p t) := by
  cases hf with
  | unsettled hs queued =>
    have hq := queued_step_of_spares (ha.spares_of_unsettled (g := g) hs t)
    rw [queued, ← posted_concat] at hq
    rcases ha.socket?_step (g := g) hs t with hs' | hs'
    · exact .unsettled hs' hq
    · exact .writing _ [] hs' rfl rfl rfl hq fun _ ↦ ⟨rfl, rfl⟩
  | writing s es hs hc hw written queued sound =>
    by_cases ht : t.writes? = some i
    · exact flow_step_writer ha hs hc hw written queued (fun hn ↦ sound fun h ↦ hn (.inl h)) ht
    · obtain ⟨s', hs', hu⟩ := untouched_turn (g := g) hs ht
      refine .writing s' es hs' (hu.channel.trans hc) (hu.writing.trans hw) (hu.written.trans written)
        ?_ fun hn ↦ hu.sound (fun h ↦ hn (.inr h)) (sound fun h ↦ hn (.inl h))
      rw [queued_step_of_spares (ha.spares ht), ← List.append_assoc, queued, ← posted_concat]
  | stopped s es closing hs hw written before once finished =>
    obtain ⟨s', hs', hw', written'⟩ := stopped_step (g := g) hs hw t
    refine .stopped s' es closing hs' hw' (written'.trans written) ?_ once fun hn ↦ ?_
    · rw [posted_concat]
      exact before.trans (List.prefix_append _ _)
    · obtain ⟨hall, hclosing, hb⟩ := finished fun h ↦ hn (.inl h)
      obtain ⟨hb', hposted⟩ := ha.unbound_step hb t
      exact ⟨by rw [posted_concat, hposted, List.append_nil, hall], hclosing, hb'⟩

/-! ## From the beginning on -/

/-- The channel of a connection is made, and then the handshake is opened. What that queues is all
there is on the channel. -/
theorem Begins.history (hb : Begins g p k i n) : ∃ made opening : Handshake.Moment S W,
    Pipeline.history g p [.advance k] = [made, opening] ∧
    isOpening made = false ∧ isOpening opening = true ∧ made.posted n = [] ∧
    opening.after = (step g p (.advance k)).client.handshake ∧
    opening.after.queued n = opening.posted n := by
  obtain ⟨-, -, hn, -⟩ := hb.spec
  obtain ⟨lock, ho, -, hh⟩ := hb.handshake
  have hq : (p.client.handshake.withOutbound p.client.handshake.outbound.create.1).queued n = [] :=
    (Outbound.queued_create _ n).trans (Handshake.queued_of_unmade (Nat.le_of_eq hn.symm))
  refine ⟨Handshake.moment g.handshake p.client.handshake .createChannel,
    Handshake.moment g.handshake _ (.onOpen n lock), ?_, rfl, rfl, ?_, hh.symm, ?_⟩
  · rw [history_singleton, ho]
    rfl
  · exact (congrArg (List.drop _) hq).trans List.drop_nil
  · have he := (Handshake.taken_append_posted g.handshake
      (p.client.handshake.withOutbound p.client.handshake.outbound.create.1)
      (.onOpen n lock) n).resolve_right fun h ↦ by cases h.1
    rw [hq] at he
    exact he

section

variable {world : W} {before : List (Turn W)}

/-- Before the channel of a connection is made, nothing was queued on it. -/
theorem Begins.posted_before (hb : Begins g (run g (start g world) before) k i n) :
    (Pipeline.history g (start g world) before).flatMap (·.posted n) = [] := by
  obtain ⟨-, -, hn, -⟩ := hb.spec
  refine Handshake.posted_of_unmade _ _ ?_
  rw [← handshake_run]
  exact Nat.le_of_eq hn.symm

/-- A connection on which the handshake has begun stays apart, and everything that was ever queued on
its channel is accounted for. -/
theorem Begins.flow (hb : Begins g (run g (start g world) before) k i n)
    (after : List (Turn W)) :
    Apart k i n (run g (start g world) (before ++ .advance k :: after)) ∧
      Flow (∃ t ∈ after, t.Harms i) i n
        (Pipeline.history g (start g world) (before ++ .advance k :: after))
        (run g (start g world) (before ++ .advance k :: after)) := by
  induction after using List.reverseRecOn with
  | nil =>
    obtain ⟨ids, hr⟩ := registered_run g world before
    obtain ⟨made, opening, hh, -, -, hmade, hafter, hq⟩ := hb.history
    rw [run_concat]
    refine ⟨hb.apart hr, .unsettled (hb.socket?_eq_none hr) ?_⟩
    rw [history_append, hh, List.flatMap_append, hb.posted_before, ← hafter, hq]
    simp [hmade]
  | append_singleton after t ih =>
    obtain ⟨ha, hf⟩ := ih
    rw [← List.cons_append, ← List.append_assoc, run_concat, history_append]
    refine ⟨apart_step ha t, ?_⟩
    have hf := flow_step (g := g) hf ha t
    have he : (∃ u ∈ after ++ [t], u.Harms i) ↔ (∃ u ∈ after, u.Harms i) ∨ t.Harms i := by
      simp [or_and_right, exists_or]
    rwa [he]

end

/-! ## Enough turns -/

/-- Once the client was disconnected, a writer that gets one turn more than envelopes are queued has
stopped by then. -/
theorem stops_of_turns (ha : Apart k i n p) (hs : p.client.socket? i = some s) (hc : s.channel = n)
    (hb : p.client.handshake.outbound.bound ≠ some n) {turns : List (Turn W)}
    (enough : (p.client.handshake.queued n).length < turns.countP (·.writes? = some i)) :
    ∃ s', (run g p turns).client.socket? i = some s' ∧ s'.writing = false := by
  induction turns generalizing p s with
  | nil => exact absurd enough (Nat.not_lt_zero _)
  | cons t turns ih =>
    have ha' : Apart k i n (step g p t) := apart_step ha t
    obtain ⟨hb', hposted⟩ := ha.unbound_step (g := g) hb t
    cases hw : s.writing with
    | false =>
      obtain ⟨s', hs', hw', -⟩ := stopped_run (g := g) hs hw (t :: turns)
      exact ⟨s', hs', hw'⟩
    | true =>
      by_cases ht : t.writes? = some i
      · subst hc
        rw [List.countP_cons_of_pos (by simpa using ht)] at enough
        obtain ⟨s', hs', hturn⟩ := writerTurn_step (g := g) hs hw ht
        have hstep := handshake_step g p t
        generalize operations g p t = ops at hturn hstep
        cases hturn with
        | sent bytes rest hq hr =>
          refine ih ha' hs' rfl hb' ?_
          rw [hq, List.length_cons] at enough
          rw [hstep, Handshake.run_cons, Handshake.run_nil,
            (Handshake.queued_takeEnvelope (g := g.handshake) hq).1]
          omega
        | failed bytes rest hq e hr =>
          obtain ⟨s'', hs'', hw'', -⟩ := stopped_run (g := g) hs' rfl turns
          exact ⟨s'', hs'', hw''⟩
        | waiting hq hheld =>
          obtain ⟨ch, hch, hsending⟩ := hheld
          obtain ⟨ch', hch', hl⟩ := ha.linked
          obtain rfl := Option.some.inj (hch.symm.trans hch')
          exact absurd (hl.mp hsending) hb
        | finished hq hdropped =>
          obtain ⟨s'', hs'', hw'', -⟩ := stopped_run (g := g) hs' rfl turns
          exact ⟨s'', hs'', hw''⟩
      · obtain ⟨s', hs', hu⟩ := untouched_turn (g := g) hs ht
        refine ih ha' hs' (hu.channel.trans hc) hb' ?_
        rw [queued_step_of_spares (ha.spares ht), hposted, List.append_nil]
        rwa [List.countP_cons_of_neg (by simpa using ht)] at enough

end Pipeline

end SealedSession
