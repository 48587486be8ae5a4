import SealedSession.Proofs.Handshake.Phases
import SealedSession.Proofs.Handshake.Settling

/-!
# Every connection ends once

A connection may end because the client wants it to, because the reader or a timer says so, or
because the server does; all of them may happen, in any order and more than once. Still, there is
one teardown for each connection, and one notice of it.

* `told_run`: the states that a client tells of are the states that it enters.
* `rounds_run`: these are rounds of connecting, perhaps being connected, and being disconnected.
* `left_of_run`, `settled_of_run`: a client that becomes disconnected has `Left` its connection, and
  nothing else makes it settle its store, but that it is shut down.
* `Ends`, `disconnected_iff`: what brings a connection to its end, and that nothing else does.
* `run_signals`: once it is disconnected, further signals are reported at most.
* `run_farewell`: whatever signals follow the first, what is left is as after one of them.
-/

namespace SealedSession

/-- Whether an operation is one of the ends of a connection. -/
def Operation.isFarewell {W : Type} : Operation W → Bool
  | .onClose _ | .onFailure | .disconnect | .fail _ => true
  | _ => false

/-- Whether an operation may come from a connection that is over. -/
def Operation.isSignal {W : Type} : Operation W → Bool
  | .receive _ => true
  | op => op.isFarewell

/-- What becomes of the state along an edge. -/
theorem Edge.state_cases {stored : Bool} {c : Cause} {p q : Place} (he : Edge stored c p q) :
    q.state = p.state ∨ p.state = .disconnected ∧ q.state = .connecting ∨
      p.state = .connecting ∧ q.state = .connected ∨
      p.state ≠ .disconnected ∧ q.state = .disconnected := by
  cases he with
  | opened => exact .inr (.inl ⟨rfl, rfl⟩)
  | trusted => exact .inr (.inr (.inl ⟨rfl, rfl⟩))
  | left =>
    by_cases hd : p.state = .disconnected
    · exact .inl hd.symm
    · exact .inr (.inr (.inr ⟨hd, rfl⟩))
  | _ => exact .inl rfl

namespace Handshake

variable {S W : Type} (g : Settings S W)

namespace Moment

variable (t : Moment S W)

/-- The events that were handed out at a moment. -/
def handed : List Event :=
  match t.operation with
  | .takeEvents => t.before.events
  | _ => []

/-- The state that was entered. -/
def entered : List ConnectionState :=
  if t.after.state = t.before.state then [] else [t.after.state]

/-- What the store was asked to settle. -/
def settlings : List (Settling S) := Handshake.settlings g t.before t.operation

/-- What is saved at a moment because the client is about to be shut down. -/
def shutdown : List (Settling S) :=
  match t.operation, t.before.store with
  | .saveOnShutdown, some s => [.saved s]
  | _, _ => []

end Moment

/-- The states of one connection from its begin to its end, by whether it was established. -/
def round (established : Bool) : List ConnectionState :=
  if established then [.connecting, .connected, .disconnected] else [.connecting, .disconnected]

/-- The states of a connection that is not over yet. -/
def unfinished : ConnectionState → List ConnectionState
  | .disconnected => []
  | .connecting => [.connecting]
  | .connected => [.connecting, .connected]

/-! ## What is told and what is entered -/

theorem entered_of_ne {t : Moment S W} (h : t.after.state ≠ t.before.state) :
    t.entered = [t.after.state] := if_neg h

theorem entered_of_eq {t : Moment S W} (h : t.after.state = t.before.state) :
    t.entered = [] := if_pos h

/-- Saving the store for a shutdown changes neither the events nor the state. -/
theorem kept_saveOnShutdown (h : Handshake S W) :
    (saveOnShutdown g h).events = h.events ∧ (saveOnShutdown g h).state = h.state := by
  unfold saveOnShutdown
  split <;> exact ⟨rfl, rfl⟩

theorem handed_of_ne {h : Handshake S W} {op : Operation W} (ht : op ≠ .takeEvents) :
    (moment g h op).handed = [] := by
  cases op with
  | takeEvents => exact absurd rfl ht
  | _ => rfl

/-- At every moment the client tells of the state that it enters, if it enters one. -/
theorem told_moment (h : Handshake S W) (op : Operation W) :
    ((moment g h op).handed ++ (perform g h op).2.events).filterMap Event.entered? =
      h.told ++ (moment g h op).entered := by
  by_cases ht : op = .takeEvents
  · subst ht
    have same : (perform g h .takeEvents).2.state = h.state := rfl
    have all : (moment g h .takeEvents).handed ++ (perform g h .takeEvents).2.events = h.events :=
      List.append_nil h.events
    rw [all, entered_of_eq same, List.append_nil, told]
  rw [handed_of_ne g ht, List.nil_append]
  change (perform g h op).2.told = _
  rcases (turn_perform g h op).resolve_left ht with rfl | turn
  · obtain ⟨events, same⟩ := kept_saveOnShutdown g h
    have told : (perform g h .saveOnShutdown).2.told = h.told :=
      congrArg (List.filterMap Event.entered?) events
    rw [told, entered_of_eq same, List.append_nil]
  · cases turn with
    | steady same told => rw [told, entered_of_eq same, List.append_nil]
    | advanced changed _ told =>
      rw [told, entered_of_ne changed]
      rfl
    | left left =>
      have changed : (perform g h op).2.state ≠ h.state := by
        rw [left.state]
        exact left.active.symm
      rw [left.told, entered_of_ne changed]
      exact congrArg (h.told ++ [·]) left.state.symm

/-- The states that were told of in a run, or are still to be, are those that were entered. -/
theorem told_run (world : W) (ops : List (Operation W)) :
    ((history g (start world : Handshake S W) ops).flatMap Moment.handed ++
      (run g (start world : Handshake S W) ops).events).filterMap Event.entered? =
        (history g (start world : Handshake S W) ops).flatMap Moment.entered := by
  refine history_induction g (P := fun past h ↦ (past.flatMap Moment.handed ++ h.events).filterMap
    Event.entered? = past.flatMap Moment.entered) rfl ?_ ops
  intro past h op hp
  have ht := told_moment g h op
  rw [List.filterMap_append] at hp ht ⊢
  rw [List.flatMap_append, List.flatMap_append, List.flatMap_singleton, List.flatMap_singleton,
    List.filterMap_append, List.append_assoc, ht, ← hp, List.append_assoc]
  rfl

/-! ## Rounds -/

/-- A client that changes its state begins to connect, is connected, or is disconnected. -/
theorem state_cases {h : Handshake S W} (hs : h.standing.Sound g.refreshLimit)
    (op : Operation W) : (perform g h op).2.state = h.state ∨
      h.state = .disconnected ∧ (perform g h op).2.state = .connecting ∨
      h.state = .connecting ∧ (perform g h op).2.state = .connected ∨
      h.state ≠ .disconnected ∧ (perform g h op).2.state = .disconnected := by
  rcases Standing.edge_of_step hs (step_perform g h op) with hp | he
  · exact .inl (congrArg Place.state hp)
  · exact he.state_cases

/-- The states that are entered make up rounds, of which the last may not be over. -/
theorem rounds_run (world : W) (ops : List (Operation W)) :
    ∃ rounds : List Bool, (history g (start world : Handshake S W) ops).flatMap Moment.entered =
      rounds.flatMap round ++ unfinished (run g (start world : Handshake S W) ops).state := by
  refine sound_history_induction g (P := fun past h ↦ ∃ rounds : List Bool,
    past.flatMap Moment.entered = rounds.flatMap round ++ unfinished h.state) world ⟨[], rfl⟩ ?_ ops
  rintro past h op hs ⟨rounds, hp⟩
  simp only [List.flatMap_append, List.flatMap_singleton, hp]
  rcases state_cases g hs op with same | ⟨hb, ha⟩ | ⟨hb, ha⟩ | ⟨hb, ha⟩
  · refine ⟨rounds, ?_⟩
    rw [entered_of_eq same, same, List.append_nil]
  · refine ⟨rounds, ?_⟩
    rw [entered_of_ne (t := moment g h op) (by rw [moment, ha, hb]; nofun), ha, hb]
    simp [moment, ha, unfinished]
  · refine ⟨rounds, ?_⟩
    rw [entered_of_ne (t := moment g h op) (by rw [moment, ha, hb]; nofun), ha, hb]
    simp [moment, ha, unfinished]
  · refine ⟨rounds ++ [decide (h.state = .connected)], ?_⟩
    rw [entered_of_ne (t := moment g h op) (by rw [moment, ha]; exact hb.symm), ha]
    cases hc : h.state with
    | disconnected => exact absurd hc hb
    | connecting => simp [moment, ha, unfinished, round]
    | connected => simp [moment, ha, unfinished, round]

/-! ## Teardowns -/

/-- A client that becomes disconnected has left its connection. -/
theorem left_moment {h : Handshake S W} {op : Operation W} (hb : h.state ≠ .disconnected)
    (ha : (perform g h op).2.state = .disconnected) :
    Left (settlings g h op) h (perform g h op).2 := by
  rcases turn_perform g h op with rfl | rfl | turn
  · exact absurd ha hb
  · exact absurd ((kept_saveOnShutdown g h).2.symm.trans ha) hb
  · cases turn with
    | steady same => exact absurd (same.symm.trans ha) hb
    | advanced _ active => exact absurd ha active
    | left left => exact left

theorem shutdown_of_ne {h : Handshake S W} {op : Operation W} (hs : op ≠ .saveOnShutdown) :
    (moment g h op).shutdown = [] := by
  cases op with
  | saveOnShutdown => exact absurd rfl hs
  | _ => rfl

theorem settlings_saveOnShutdown (h : Handshake S W) :
    settlings g h .saveOnShutdown = (moment g h .saveOnShutdown).shutdown := by
  change (saveOnShutdown g.logged (h.within (h.world, []))).world.2 = _
  have same : (h.within (h.world, ([] : List (Settling S)))).store = h.store := rfl
  unfold saveOnShutdown Moment.shutdown
  rw [same]
  cases hs : h.store with
  | none => simp [moment, hs, within]
  | some s => simp [moment, hs, within, Settings.logged, IdentityStores.logged]

/-- Unless it does, its store has nothing to settle, but that the client may be shut down. -/
theorem settlings_moment {h : Handshake S W} {op : Operation W}
    (hl : h.state = .disconnected ∨ (perform g h op).2.state ≠ .disconnected) :
    settlings g h op = (moment g h op).shutdown := by
  by_cases hs : op = .saveOnShutdown
  · subst hs
    exact settlings_saveOnShutdown g h
  rw [shutdown_of_ne g hs]
  rcases turn_perform g h op with rfl | rfl | turn
  · rfl
  · exact absurd rfl hs
  · cases turn with
    | steady _ _ settled => exact settled
    | advanced _ _ _ settled => exact settled
    | left left =>
      rcases hl with hd | ha
      · exact absurd hd left.active
      · exact absurd left.state ha

/-! ## Signals after the end -/

theorem changeState_idle {h : Handshake S W} (hc : h.state = .disconnected) (hl : h.lock = none) :
    changeState g .disconnected h = h := by
  unfold changeState
  rw [if_pos hc, if_pos rfl, ← hl]

/-- A client that is disconnected does no more than report what it is told. -/
theorem perform_signal {h : Handshake S W} (hc : h.state = .disconnected) (hl : h.lock = none)
    {op : Operation W} (ho : op.isSignal = true) :
    ∃ es, (perform g h op).2 = { h with events := h.events ++ es } ∧
      es.filterMap Event.entered? = [] := by
  have nothing {k : Handshake S W} (hk : k = h) :
      ∃ es, k = { h with events := h.events ++ es } ∧ es.filterMap Event.entered? = [] :=
    ⟨[], by rw [hk, List.append_nil], rfl⟩
  cases op with
  | receive bytes => exact nothing (congrArg Prod.snd (receive_of_disconnected g bytes hc))
  | onClose close =>
    change ∃ es, onClose g close h = _ ∧ _
    unfold onClose
    split
    · next message _ => exact ⟨[.error message], if_pos hc, rfl⟩
    · exact nothing (if_pos hc)
  | onFailure => exact nothing (if_pos hc)
  | disconnect => exact nothing (changeState_idle g hc hl)
  | fail message => exact ⟨[.error message], changeState_idle g (h := h.emit _) hc hl, rfl⟩
  | _ => cases ho

/-- Whatever signals reach a client that is disconnected, they are reported at most. -/
theorem run_signals {h : Handshake S W} (hc : h.state = .disconnected) (hl : h.lock = none)
    (signals : List (Operation W)) (hs : ∀ op ∈ signals, op.isSignal = true) :
    (∃ es, run g h signals = { h with events := h.events ++ es } ∧
      es.filterMap Event.entered? = []) ∧
    ∀ t ∈ history g h signals, t.settlings g = [] := by
  induction signals generalizing h with
  | nil => exact ⟨⟨[], by rw [List.append_nil]; rfl, rfl⟩, List.forall_mem_nil _⟩
  | cons op signals ih =>
    have ho := hs op List.mem_cons_self
    obtain ⟨es, hn, he⟩ := perform_signal g hc hl ho
    obtain ⟨⟨es', hr, he'⟩, ht⟩ := ih (h := (perform g h op).2) (by rw [hn]; exact hc)
      (by rw [hn]; exact hl) fun op ho ↦ hs op (List.mem_cons_of_mem _ ho)
    refine ⟨⟨es ++ es', ?_, by rw [List.filterMap_append, he, he']; rfl⟩, ?_⟩
    · rw [run_cons, hr, hn, List.append_assoc]
    · intro t hm
      rcases List.mem_cons.mp hm with rfl | hm
      · have kept : op ≠ .saveOnShutdown := by
          rintro rfl
          cases ho
        exact (settlings_moment g (.inl hc)).trans (shutdown_of_ne g kept)
      · exact ht t hm

/-! ## Bursts -/

/-- Clients that have told of the same states count as the same. -/
def tellingLikeness : Likeness g g :=
  .ofToken g.session.accessToken
    (fun es es' ↦ es.filterMap Event.entered? = es'.filterMap Event.entered?)
    (fun _ _ _ _ he ↦ by rw [List.filterMap_append, he, List.filterMap_append])
    (fun _ _ _ _ he ↦ by rw [List.filterMap_append, he, List.filterMap_append]; rfl)

theorem tellingLikeness_whole : (tellingLikeness g).Whole := .ofToken rfl

theorem lock_changeState_disconnected (h : Handshake S W) :
    (changeState g .disconnected h).lock = none := by
  unfold changeState
  rw [if_pos rfl]

theorem lock_of_disconnected {h : Handshake S W} (hs : h.standing.Sound g.refreshLimit)
    (hc : h.state = .disconnected) : h.lock = none := by
  cases hl : h.lock with
  | none => rfl
  | some l => exact absurd hc (hs.lock (Option.isSome_of_eq_some hl))

/-- Any end of a connection is like any other, but for what is reported of it. -/
theorem alike_farewell {h : Handshake S W} (hs : h.standing.Sound g.refreshLimit)
    {op : Operation W} (ho : op.isFarewell = true) :
    (tellingLikeness g).Alike (perform g h op).2 (disconnect g h) := by
  have begun : (tellingLikeness g).Alike h h := ⟨rfl, rfl, rfl, rfl, rfl, rfl, rfl, rfl, rfl⟩
  have leaving {k : Handshake S W} (hk : (tellingLikeness g).Alike k h) :
      (tellingLikeness g).Alike (leave g k) (disconnect g h) := by
    unfold leave disconnect
    by_cases hc : h.state = .disconnected
    · rw [if_pos (hk.state.trans hc), changeState_idle g hc (lock_of_disconnected g hs hc)]
      exact hk
    · rw [if_neg (hk.state ▸ hc)]
      exact (tellingLikeness_whole g).alike_changeState hk .disconnected
  have reported (message : String) : (tellingLikeness g).Alike (h.emit (.error message)) h :=
    { begun with events := told_emit h (e := .error message) rfl }
  cases op with
  | onClose close =>
    change (tellingLikeness g).Alike (onClose g close h) _
    unfold onClose
    split
    · next message _ => exact leaving (reported message)
    · exact leaving begun
  | onFailure => exact leaving begun
  | disconnect => exact (tellingLikeness_whole g).alike_changeState begun .disconnected
  | fail message =>
    exact (tellingLikeness_whole g).alike_changeState (reported message) .disconnected
  | _ => cases ho

/-- Any end of a connection leaves the client disconnected. -/
theorem state_farewell {h : Handshake S W} (hs : h.standing.Sound g.refreshLimit)
    {op : Operation W} (ho : op.isFarewell = true) :
    (perform g h op).2.state = .disconnected :=
  (alike_farewell g hs ho).state.trans (state_changeState g h _)

/-! ## What ends a connection -/

/-- What brings a connection to its end. -/
inductive Ends (h : Handshake S W) : Operation W → Prop where
  | farewell {op : Operation W} (ho : op.isFarewell = true) : Ends h op
  /-- The server says that the session has failed. -/
  | failed {bytes : Bytes} (failure : SessionFailure)
      (heard : heard? g bytes h = some (.sessionFailed failure)) : Ends h (.receive bytes)
  /-- The server does not trust the client. -/
  | untrusted {bytes : Bytes} (heard : heard? g bytes h = some .isUntrusted) :
      Ends h (.receive bytes)
  /-- One envelope more than the limit allows could not be decrypted. -/
  | exhausted {bytes : Bytes} {e : CipherError} {limit : Nat}
      (unread : reading g bytes h = .error (.cipher e)) (finite : g.refreshLimit = some limit)
      (beyond : limit < (h.cipherFailures + 1).toNat) : Ends h (.receive bytes)

theorem ends_of_receive {h : Handshake S W} {bytes : Bytes} (hc : h.state ≠ .disconnected)
    (ha : (receive g bytes h).2.state = .disconnected) : Ends g h (.receive bytes) := by
  have moved {s : Standing} (hr : (receive g bytes h).2.standing = s) : s.state = .disconnected :=
    (congrArg Standing.state hr).symm.trans ha
  cases hm : heard? g bytes h with
  | some m =>
    rcases standing_receive_of_heard g hm with hr | ⟨-, hr⟩
    · rcases Standing.ends_of_after hc (moved hr) with ⟨failure, rfl⟩ | rfl
      · exact .failed failure hm
      · exact .untrusted hm
    · exact absurd (moved hr) hc
  | none =>
    rcases standing_receive_of_not_heard g hm with hr | hr | ⟨-, -, ⟨e, unread⟩, hr⟩
    · exact absurd (moved hr) hc
    · exact absurd (moved hr) hc
    · obtain ⟨limit, finite, beyond⟩ := Standing.exceeded_of_failed hc (moved hr)
      exact .exhausted unread finite beyond

/-- A client that becomes disconnected was brought to it. -/
theorem ends_of_disconnected {h : Handshake S W} (hs : h.standing.Sound g.refreshLimit)
    {op : Operation W} (hc : h.state ≠ .disconnected)
    (ha : (perform g h op).2.state = .disconnected) : Ends g h op := by
  have stays (same : (perform g h op).2.standing = h.standing) : False :=
    hc ((congrArg Standing.state same).symm.trans ha)
  cases op with
  | receive bytes => exact ends_of_receive g hc ha
  | onClose _ | onFailure | disconnect | fail _ => exact .farewell rfl
  | onOpen channel lock =>
    obtain ⟨b, hb⟩ := Option.isSome_iff_exists.mp (hs.bound_iff.mpr hc)
    rw [perform, onOpen_of_bound g channel lock hb] at ha
    exact absurd ha hc
  | saveOnShutdown => exact absurd ((kept_saveOnShutdown g h).2.symm.trans ha) hc
  | startSession serverId => exact (stays (standing_startSession g serverId h)).elim
  | send r => exact (stays (standing_send g r h)).elim
  | sendKeepalive identity => exact (stays (standing_sendKeepalive g identity h)).elim
  | _ => exact absurd ha hc

/-- What brings a connection to its end does so at once. -/
theorem Ends.disconnected {h : Handshake S W} (hs : h.standing.Sound g.refreshLimit)
    (hc : h.state ≠ .disconnected) {op : Operation W} (he : Ends g h op) :
    (perform g h op).2.state = .disconnected := by
  cases he with
  | farewell ho => exact state_farewell g hs ho
  | failed failure heard =>
    rw [perform, (receive_of_heard g heard).2.2, handle, Try.modify_apply, onSessionFailed]
    split <;> exact state_changeState g _ _
  | untrusted heard =>
    rw [perform, (receive_of_heard g heard).2.2, handle, Try.modify_apply]
    exact state_changeState g _ _
  | @exhausted bytes e limit unread finite beyond =>
    obtain ⟨s, -, hk⟩ := store_of_undecrypted g unread
    obtain ⟨w, hw⟩ := snd_cipher? g h
    rw [hw] at hk
    have counted : (h.inWorld w).cipherFailures = h.cipherFailures := rfl
    rw [perform, receive_of_undecrypted g hc unread, hw, recoverCipher_of_some g hk, counted,
      finite, exceeds, if_pos beyond]
    exact state_changeState g _ _

/-- An active client is disconnected by what brings its connection to its end, and by nothing
else. -/
theorem disconnected_iff {h : Handshake S W} (hs : h.standing.Sound g.refreshLimit)
    (hc : h.state ≠ .disconnected) (op : Operation W) :
    (perform g h op).2.state = .disconnected ↔ Ends g h op :=
  ⟨ends_of_disconnected g hs hc, Ends.disconnected g hs hc⟩

/-! ## What is left -/

/-- What a client is left as by the end of a connection and any signals after it does not depend on
which end it was, nor on the signals. -/
theorem run_farewell {h : Handshake S W} (hs : h.standing.Sound g.refreshLimit)
    {first : Operation W} (hf : first.isFarewell = true) {rest : List (Operation W)}
    (hr : ∀ op ∈ rest, op.isSignal = true) :
    { run g h (first :: rest) with events := [] } = { disconnect g h with events := [] } ∧
      (run g h (first :: rest)).told = (disconnect g h).told := by
  have ended := alike_farewell g hs hf
  have state : (perform g h first).2.state = .disconnected := state_farewell g hs hf
  have lock : (perform g h first).2.lock = none :=
    ended.lock.trans (lock_changeState_disconnected g h)
  obtain ⟨⟨es, hn, he⟩, -⟩ := run_signals g state lock rest hr
  rw [run_cons, hn]
  constructor
  · simp only [Handshake.mk.injEq]
    exact ⟨ended.state, ended.phase, ended.outbound, ended.store, ended.server, ended.lock,
      ended.failures, trivial, ended.world⟩
  · rw [told, List.filterMap_append, he, List.append_nil]
    exact ended.events

/-- In every run, a client tells of exactly the states that it enters, and these are rounds of
connecting, perhaps being connected, and being disconnected. An active client is disconnected by any
end of its connection, by a failed session, by a server that does not trust it, and by one failure
to decrypt more than its limit allows, and by nothing else. Whenever it becomes disconnected it has
left its connection, with one teardown and one notice; nothing else makes it settle its store, but
that it is shut down. Until it opens a socket again, whatever signals arrive are reported at most,
and so the first end of a connection leaves the client as any other would, whatever follows. -/
theorem ends_once (world : W) (ops : List (Operation W)) :
    let past : List (Moment S W) := history g (start world) ops
    let h : Handshake S W := run g (start world) ops
    (past.flatMap Moment.handed ++ h.events).filterMap Event.entered? =
      past.flatMap Moment.entered ∧
    (∃ rounds : List Bool,
      past.flatMap Moment.entered = rounds.flatMap round ++ unfinished h.state) ∧
    (h.state ≠ .disconnected → ∀ op : Operation W,
      (perform g h op).2.state = .disconnected ↔ Ends g h op) ∧
    (∀ t ∈ past, t.before.state ≠ .disconnected → t.after.state = .disconnected →
      Left (t.settlings g) t.before t.after) ∧
    (∀ t ∈ past, t.before.state = .disconnected ∨ t.after.state ≠ .disconnected →
      t.settlings g = t.shutdown) ∧
    (h.state = .disconnected → ∀ signals : List (Operation W),
      (∀ op ∈ signals, op.isSignal = true) →
        (∃ es, run g h signals = { h with events := h.events ++ es } ∧
          es.filterMap Event.entered? = []) ∧
        ∀ t ∈ history g h signals, t.settlings g = []) ∧
    ∀ first : Operation W, first.isFarewell = true → ∀ rest : List (Operation W),
      (∀ op ∈ rest, op.isSignal = true) →
        { run g h (first :: rest) with events := [] } = { disconnect g h with events := [] } ∧
        (run g h (first :: rest)).told = (disconnect g h).told := by
  intro past h
  have sound : h.standing.Sound g.refreshLimit := sound_run g world ops
  have of_past {t : Moment S W} (ht : t ∈ past) : ∃ k op, t = moment g k op := by
    obtain ⟨before, after, hs⟩ := List.append_of_mem ht
    obtain ⟨ops₁, op, -, rfl⟩ := history_split_cons g hs
    exact ⟨_, op, rfl⟩
  refine ⟨told_run g world ops, rounds_run g world ops,
    fun hc op ↦ disconnected_iff g sound hc op, ?left, ?settled, ?signals, ?farewell⟩
  case left =>
    intro t ht hb ha
    obtain ⟨k, op, rfl⟩ := of_past ht
    exact left_moment g hb ha
  case settled =>
    intro t ht hl
    obtain ⟨k, op, rfl⟩ := of_past ht
    exact settlings_moment g hl
  case signals =>
    exact fun hc signals hs ↦ run_signals g hc (lock_of_disconnected g sound hc) signals hs
  case farewell => exact fun first hf rest hr ↦ run_farewell g sound hf hr

end Handshake

end SealedSession
