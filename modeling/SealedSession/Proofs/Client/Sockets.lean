import SealedSession.Proofs.Client.Connections

/-!
# The sockets of a client

Only its own writer writes on a socket and stops. What else a client does leaves a socket alone, and
its peer may at most end it.

* `Socket.farewell`: the close frame with which a writer ends.
* `Untouched`: a socket whose writer has not taken a turn; `untouched_step` says when that is so.
* `WriterTurn`: what a writer does in its turn; `writerTurn` says that it does just that.
-/

namespace SealedSession

namespace Socket

/-- The close frame with which a writer ends. -/
def farewell : Frame := .close ⟨1000, "closed"⟩

example : farewell = .close ⟨1000, "closed"⟩ := rfl

/-- A socket can be written on: it was not closed from either side, and the system accepts it. -/
def Accepts (s : Socket) : Prop := s.isOpen = true ∧ s.fault = none

variable {s : Socket}

/-- What could be sent is on the socket, which accepts more. -/
theorem send_ok {bytes : Bytes} (h : (s.send bytes).1 = .ok ()) :
    (s.send bytes).2 = { s with written := s.written ++ [.envelope bytes] } := by
  unfold send write at h ⊢
  split
  · split
    · next hf => simp_all
    · rfl
  · simp_all

theorem send_error {bytes : Bytes} {e : TransportError} (h : (s.send bytes).1 = .error e) :
    (s.send bytes).2 = s ∧ ¬s.Accepts := by
  unfold send write at h ⊢
  split
  · split
    · next hf => exact ⟨rfl, fun ha ↦ by simp [ha.2] at hf⟩
    · simp_all
  · next ho => exact ⟨rfl, fun ha ↦ ho ha.1⟩

/-- To close a socket adds the farewell, if that can be written. -/
theorem written_closeNormally (s : Socket) :
    ∃ closing, s.closeNormally.2.written = s.written ++ closing ∧
      (closing = [] ∨ closing = [farewell]) ∧
      (s.Accepts → closing = [farewell]) := by
  unfold closeNormally close write
  split
  · cases hf : s.fault with
    | none => exact ⟨[farewell], by simp [farewell, normalClose], .inr rfl, fun _ ↦ rfl⟩
    | some system => exact ⟨[], by simp, .inl rfl, fun h ↦ absurd (hf.symm.trans h.2) (by simp)⟩
  · next ho => exact ⟨[], by simp, .inl rfl, fun h ↦ absurd h.1 ho⟩

end Socket

namespace Client

variable {S W : Type} {g : Settings S W} {c d : Client S W} {connection i : ConnectionId}
  {s : ClientSocket}

/-! ## Sockets by their connection -/

theorem socket?_of_sockets (h : d.sockets = c.sockets) : d.socket? i = c.socket? i := by
  rw [socket?, socket?, h]

theorem mem_of_socket? (h : c.socket? i = some s) : s ∈ c.sockets := List.mem_of_find?_eq_some h

/-- The connections with a socket are those among the ports. -/
theorem socket?_eq_none : c.socket? i = none ↔ ∀ q ∈ c.ports, q.1 ≠ i := by
  simp [socket?, ports]

theorem port_of_socket? (h : c.socket? i = some s) : (i, s.channel) ∈ c.ports := by
  obtain rfl := id_of_socket? h
  exact List.mem_map_of_mem (mem_of_socket? h)

/-- A change of the socket of a connection reaches that socket and no other. -/
theorem socket?_adjust {f : ClientSocket → ClientSocket}
    (hf : ∀ s, s.socket.id = connection → (f s).socket.id = connection) :
    (c.adjust connection f).socket? i =
      if i = connection then (c.socket? i).map f else c.socket? i := by
  unfold adjust socket?
  generalize c.sockets = sockets
  induction sockets with
  | nil => simp
  | cons s rest ih =>
    rw [List.map_cons]
    by_cases hs : s.socket.id = connection
    · rw [if_pos hs]
      by_cases hi : i = connection
      · subst hi
        simp [hf s hs, hs]
      · rw [if_neg hi] at ih ⊢
        rw [List.find?_cons_of_neg (by simpa [hf s hs] using Ne.symm hi),
          List.find?_cons_of_neg (by simpa [hs] using Ne.symm hi), ih]
    · rw [if_neg hs]
      by_cases hi : s.socket.id = i
      · simp [hi ▸ hs, hi]
      · rw [List.find?_cons_of_neg (by simpa using hi), List.find?_cons_of_neg (by simpa using hi), ih]

theorem socket?_stopReading : (c.stopReading connection).socket? i =
    if i = connection then (c.socket? i).map fun s ↦ { s with reading := false }
    else c.socket? i := socket?_adjust fun _ h ↦ h

theorem socket?_stopWriting : (stopWriting connection s c).socket? i =
    if i = connection then
      (c.socket? i).map fun t ↦ { t with socket := t.socket.closeNormally.2, writing := false }
    else c.socket? i := by
  unfold stopWriting
  rw [socket?_adjust fun _ ht ↦ (id_closeNormally _).trans ht]
  rfl

theorem sockets_dispatch (c : Client S W) (e : Event) : (dispatch g c e).sockets = c.sockets := by
  cases e with
  | stateChanged s =>
    by_cases hs : s = .disconnected
    · simp only [dispatch, if_pos hs]
      rfl
    · simp only [dispatch, if_neg hs]
      rfl
  | awaitingApproval =>
    simp only [dispatch]
    split <;> rfl
  | _ => rfl

@[simp] theorem sockets_drain (c : Client S W) : (drain g c).sockets = c.sockets :=
  drain_induction (P := fun d ↦ d.sockets = c.sockets) rfl
    fun d e hd ↦ (sockets_dispatch d e).trans hd

@[simp] theorem sockets_act (f : Handshake S W → Handshake S W) (c : Client S W) :
    (act g f c).sockets = c.sockets := sockets_drain _

@[simp] theorem sockets_attempt (f : Handshake.Try S W Unit) (c : Client S W) :
    (attempt g f c).2.sockets = c.sockets := sockets_drain _

theorem sockets_process (bytes : Bytes) (c : Client S W) :
    (process g bytes c).sockets = c.sockets := by
  unfold process
  rcases Handshake.receive g.handshake bytes c.handshake with ⟨_ | _, h⟩
  · exact sockets_act _ _
  · exact sockets_drain _

theorem sockets_probe (c : Client S W) : (probe g c).sockets = c.sockets := by
  have probes (is : List (Option Identity)) (c : Client S W) :
      (is.foldl (fun c i ↦ (attempt g (Handshake.sendKeepalive g.handshake i) c).2) c).sockets =
        c.sockets := by
    induction is generalizing c with
    | nil => rfl
    | cons i is ih => rw [List.foldl_cons, ih, sockets_attempt]
  exact probes _ _

theorem sockets_verified (n : Nat) (result : Except ClientError String) (c : Client S W) :
    (verified g n result c).sockets = c.sockets := by
  unfold verified
  split
  · rfl
  · dsimp only
    split
    · split
      · exact sockets_attempt _ _
      · exact sockets_act _ _
    · exact sockets_drain _

theorem sockets_approvalDue (n : Nat) (c : Client S W) :
    (approvalDue g n c).sockets = c.sockets := by
  unfold approvalDue
  split
  · split
    · rfl
    · dsimp only
      split
      · exact sockets_act _ _
      · exact sockets_drain _
  · rfl

/-! ## What others do -/

/-- A socket on which its writer has not acted. Unless it was harmed, it can be written on as
before. -/
structure Untouched (harmed : Prop) (s s' : ClientSocket) : Prop where
  channel : s'.channel = s.channel
  writing : s'.writing = s.writing
  written : s'.socket.written = s.socket.written
  sound : ¬harmed → s.socket.Accepts → s'.socket.Accepts

theorem Untouched.refl (harmed : Prop) (s : ClientSocket) : Untouched harmed s s :=
  ⟨rfl, rfl, rfl, fun _ ↦ id⟩

/-- The peer of a connection closes it, or it breaks. -/
def Move.Ends (i : ConnectionId) : Move W → Prop
  | .arrive connection (.closed _) | .arrive connection (.broken _) => connection = i
  | _ => False

theorem untouched_receive (connection : ConnectionId) (a : Arrival) (s : ClientSocket) :
    Untouched (Move.Ends connection (.arrive connection a : Move W)) s
      { s with socket := (s.socket.receive a).2 } := by
  cases a with
  | envelope bytes => exact .refl _ s
  | closed info => exact ⟨rfl, rfl, rfl, fun h ↦ absurd rfl h⟩
  | broken system => exact ⟨rfl, rfl, rfl, fun h ↦ absurd rfl h⟩

theorem untouched_arrive (connection : ConnectionId) (a : Arrival) (hs : c.socket? i = some s) :
    ∃ s', (arrive g connection a c).socket? i = some s' ∧
      Untouched (Move.Ends i (.arrive connection a : Move W)) s s' := by
  -- the socket once its reader has taken what its peer did, and once the reader has stopped as well
  have taken (r : ClientSocket) (hr : c.socket? connection = some r) : ∃ s',
      (c.adjust connection fun t ↦ { t with socket := (r.socket.receive a).2 }).socket? i = some s' ∧
        Untouched (Move.Ends i (.arrive connection a : Move W)) s s' := by
    rw [socket?_adjust fun _ _ ↦ (id_receive a _).trans (id_of_socket? hr), hs]
    by_cases hi : i = connection
    · subst hi
      obtain rfl : r = s := Option.some.inj (hr.symm.trans hs)
      rw [if_pos rfl]
      exact ⟨_, rfl, untouched_receive i a r⟩
    · rw [if_neg hi]
      exact ⟨s, rfl, .refl _ s⟩
  have stopped {d : Client S W} (hd : ∃ s', d.socket? i = some s' ∧
      Untouched (Move.Ends i (.arrive connection a : Move W)) s s') :
      ∃ s', (d.stopReading connection).socket? i = some s' ∧
        Untouched (Move.Ends i (.arrive connection a : Move W)) s s' := by
    obtain ⟨s', hs', hu⟩ := hd
    rw [socket?_stopReading, hs']
    by_cases hi : i = connection
    · rw [if_pos hi]
      exact ⟨_, rfl, hu.channel, hu.writing, hu.written, hu.sound⟩
    · rw [if_neg hi]
      exact ⟨s', rfl, hu⟩
  cases hr : c.socket? connection with
  | none =>
    simp only [arrive, hr]
    exact ⟨s, hs, .refl _ s⟩
  | some r =>
    simp only [arrive, hr]
    have ht := taken r hr
    split
    · split
      · exact stopped ht
      · cases a with
        | envelope bytes =>
          dsimp only [Socket.receive]
          rw [socket?_of_sockets (sockets_process bytes _)]
          exact ht
        | closed info =>
          dsimp only [Socket.receive]
          rw [socket?_of_sockets (sockets_act _ _)]
          exact stopped ht
        | broken system =>
          dsimp only [Socket.receive]
          rw [socket?_of_sockets (sockets_act _ _)]
          exact stopped ht
    · exact ⟨s, hs, .refl _ s⟩

/-- A writer acts on its own socket alone. -/
theorem untouched_write (hi : i ≠ connection) : (write connection c).socket? i = c.socket? i := by
  have stopped (s : ClientSocket) (d : Client S W) :
      (stopWriting connection s d).socket? i = d.socket? i := by
    rw [socket?_stopWriting, if_neg hi]
  cases hr : c.socket? connection with
  | none => simp only [write, hr]
  | some r =>
    have hid := id_of_socket? hr
    simp only [write, hr]
    split
    · split
      · next bytes o ho =>
        have hs : (({ c with handshake := { c.handshake with outbound := o } } : Client S W).adjust
            connection fun t ↦ { t with socket := (r.socket.send bytes).2 }).socket? i =
              c.socket? i := by
          rw [socket?_adjust fun _ _ ↦ (id_send bytes _).trans hid, if_neg hi]
          rfl
        split
        · exact hs
        · rw [stopped, hs]
      · split
        · rfl
        · exact stopped r c
    · rfl

/-- Whatever a client does, except that it opens a socket or that its writer takes a turn, leaves a
socket untouched. -/
theorem untouched_step {m : Move W} (hm : m.opens? = none) (hw : m ≠ .write i)
    (hs : c.socket? i = some s) :
    ∃ s', (step g c m).socket? i = some s' ∧ Untouched (m.Ends i) s s' := by
  have same {d : Client S W} (hd : d.sockets = c.sockets) :
      ∃ s', d.socket? i = some s' ∧ Untouched (m.Ends i) s s' :=
    ⟨s, (socket?_of_sockets hd).trans hs, .refl _ s⟩
  cases m with
  | opened connection lock => cases hm
  | disconnect => exact same (sockets_act _ _)
  | send r => exact same (sockets_attempt _ _)
  | shutdown => exact same rfl
  | drop => exact same (sockets_act _ _)
  | arrive connection a => exact untouched_arrive connection a hs
  | write connection =>
    have hi : i ≠ connection := fun h ↦ hw (h ▸ rfl)
    exact ⟨s, (untouched_write hi).trans hs, .refl _ s⟩
  | pass span => exact same rfl
  | probe => exact same (sockets_probe c)
  | verified n result => exact same (sockets_verified n result c)
  | approvalDue n => exact same (sockets_approvalDue n c)
  | elapse change => exact same rfl

/-! ## What a writer does -/

/-- The turn of a writer, which is at work on a socket: what it does to the handshake, and the socket
that it leaves. -/
inductive WriterTurn (c : Client S W) (s : ClientSocket) :
    List (Operation W) → ClientSocket → Prop where
  /-- The next envelope was written. -/
  | sent (bytes : Bytes) (rest : List Bytes) (queued : c.handshake.queued s.channel = bytes :: rest)
      (ok : (s.socket.send bytes).1 = .ok ()) :
      WriterTurn c s [.takeEnvelope s.channel] { s with socket := (s.socket.send bytes).2 }
  /-- The next envelope could not be written. -/
  | failed (bytes : Bytes) (rest : List Bytes) (queued : c.handshake.queued s.channel = bytes :: rest)
      (e : TransportError) (error : (s.socket.send bytes).1 = .error e) :
      WriterTurn c s [.takeEnvelope s.channel, .dropReceiving s.channel]
        { s with socket := (s.socket.send bytes).2.closeNormally.2, writing := false }
  /-- Nothing is queued yet. -/
  | waiting (empty : c.handshake.queued s.channel = [])
      (held : ∃ ch, c.handshake.outbound.channels[s.channel]? = some ch ∧ ch.sending = true) :
      WriterTurn c s [] s
  /-- Nothing will be queued any more. -/
  | finished (empty : c.handshake.queued s.channel = [])
      (dropped : ∀ ch, c.handshake.outbound.channels[s.channel]? = some ch → ch.sending = false) :
      WriterTurn c s [.dropReceiving s.channel]
        { s with socket := s.socket.closeNormally.2, writing := false }

theorem take?_of_queued {o : Outbound} {n : Nat} {bytes : Bytes} {rest : List Bytes}
    (hq : o.queued n = bytes :: rest) : ∃ p, o.take? n = some (bytes, p) := by
  unfold Outbound.queued at hq
  cases hc : o.channels[n]? with
  | none => simp [hc] at hq
  | some ch =>
    rw [hc] at hq
    simp only [Outbound.take?, hc, Option.map_some, show ch.queue = bytes :: rest from hq]
    exact ⟨_, rfl⟩

theorem take?_of_empty {o : Outbound} {n : Nat} (hq : o.queued n = []) : o.take? n = none := by
  unfold Outbound.queued at hq
  cases hc : o.channels[n]? with
  | none => simp [Outbound.take?, hc]
  | some ch =>
    rw [hc] at hq
    simp only [Outbound.take?, hc, Option.map_some, show ch.queue = [] from hq]

/-- A writer that is at work takes its turn. -/
theorem writerTurn (hs : c.socket? i = some s) (hw : s.writing = true) :
    ∃ s', (write i c).socket? i = some s' ∧
      WriterTurn c s (operations g c (.write i)) s' := by
  have hid := id_of_socket? hs
  have stopped (r : ClientSocket) {d : Client S W} {t : ClientSocket} (hd : d.socket? i = some t) :
      (stopWriting i r d).socket? i =
        some { t with socket := t.socket.closeNormally.2, writing := false } := by
    rw [socket?_stopWriting, if_pos rfl, hd]
    rfl
  simp only [write, operations, writing, hs, if_pos hw]
  cases hq : c.handshake.queued s.channel with
  | nil =>
    simp only [take?_of_empty hq]
    cases hc : c.handshake.outbound.channels[s.channel]? with
    | none => exact ⟨_, stopped s hs, .finished hq (by simp [hc])⟩
    | some ch =>
      cases hd : ch.sending with
      | true =>
        simp only [Option.any_some, hd, if_true]
        exact ⟨s, hs, .waiting hq ⟨ch, hc, hd⟩⟩
      | false =>
        simp only [Option.any_some, hd, Bool.false_eq_true, if_false]
        exact ⟨_, stopped s hs, .finished hq (by simpa [hc] using hd)⟩
  | cons bytes rest =>
    obtain ⟨o, ho⟩ := take?_of_queued hq
    have hsent : (({ c with handshake := { c.handshake with outbound := o } } : Client S W).adjust i
        fun t ↦ { t with socket := (s.socket.send bytes).2 }).socket? i =
          some { s with socket := (s.socket.send bytes).2 } := by
      rw [socket?_adjust fun _ _ ↦ (id_send bytes _).trans hid, if_pos rfl]
      exact congrArg (Option.map _) hs
    simp only [ho]
    cases hr : (s.socket.send bytes).1 with
    | ok _ => exact ⟨_, hsent, .sent bytes rest hq hr⟩
    | error e =>
      exact ⟨_, stopped _ hsent, .failed bytes rest hq e hr⟩

/-- A writer that has stopped does nothing any more. -/
theorem write_of_stopped (hs : c.socket? i = some s) (hw : s.writing = false) : write i c = c := by
  simp [write, hs, hw]

end Client

end SealedSession
