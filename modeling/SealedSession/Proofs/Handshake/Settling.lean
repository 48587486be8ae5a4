import SealedSession.Proofs.Handshake.Likeness

/-!
# What a store is asked to settle

A client that disconnects has its store end all group sessions and save itself, and a client that is
about to be shut down has it saved. The state of the client does not tell how often that was done.
So the stores are made to keep a record of it, beside the world; they answer as they did before, and
what an operation adds to the record are its `settlings`.

* `IdentityStores.logged`: stores that keep a record.
* `Turn`: what becomes of a client. It stays in its state, comes closer to being connected, or
  leaves its connection for good, and in each case it tells and settles what belongs to that.
* `turns_changeState`, `turns_handle`, `turns_receive`: the ways to change the state.
* `turn_perform`: an operation is one turn, whatever the stores answer.
-/

namespace SealedSession

/-- What a store is asked to do when its client goes. -/
inductive Settling (S : Type) where
  | forgotGroups (s : S)
  | saved (s : S)
deriving DecidableEq

namespace IdentityStores

variable {S W R α : Type}

/-- A call that leaves a record alone. -/
def aside (call : W → α × W) (w : W × R) : α × W × R := ((call w.1).1, (call w.1).2, w.2)

/-- So does a call that may change the store. -/
def asideWith (call : W → α × S × W) (w : W × R) : α × S × W × R :=
  ((call w.1).1, (call w.1).2.1, (call w.1).2.2, w.2)

/-- The same stores, which keep a record of what they are asked to settle. -/
def logged (stores : IdentityStores S W) : IdentityStores S (W × List (Settling S)) where
  installed := aside stores.installed
  openFor owner := aside (stores.openFor owner)
  identity s := aside (stores.identity s)
  token s := aside (stores.token s)
  cipher s := aside (stores.cipher s)
  trust identity bundle s := asideWith (stores.trust identity bundle s)
  registerDevice profile device s := asideWith (stores.registerDevice profile device s)
  offer target s := asideWith (stores.offer target s)
  save s w := ((stores.save s w.1).1, (stores.save s w.1).2, w.2 ++ [.saved s])
  forgetGroups s w :=
    ((stores.forgetGroups s w.1).1, (stores.forgetGroups s w.1).2, w.2 ++ [.forgotGroups s])

end IdentityStores

namespace Handshake

variable {S W W' α : Type}

/-- The same client, whose stores keep a record. -/
def Settings.logged (g : Settings S W) : Settings S (W × List (Settling S)) where
  stores := g.stores.logged
  session := g.session
  refreshLimit := g.refreshLimit
  complaint := g.complaint

/-- The same handshake in a world of another kind. -/
def within (w : W') (h : Handshake S W) : Handshake S W' :=
  { h with world := w }

/-- The states that the waiting events tell of. -/
def told (h : Handshake S W) : List ConnectionState := h.events.filterMap Event.entered?

/-- What happens to the world by itself is not recorded. -/
def unrecorded {R : Type} (change : W → W) (w : W × R) : W × R := (change w.1, w.2)

variable (g : Settings S W)

/-- What the store is asked to settle in an operation. -/
def settlings (h : Handshake S W) (op : Operation W) : List (Settling S) :=
  (perform g.logged (h.within (h.world, [])) (op.map unrecorded)).2.world.2

/-! ## Stores that keep a record answer as they did before -/

theorem session_logged : g.session.withoutToken = g.logged.session.withoutToken := rfl

theorem refreshLimit_logged : g.refreshLimit = g.logged.refreshLimit := rfl

theorem complaint_logged : g.complaint = g.logged.complaint := rfl

/-- A world with a record of which something is known. -/
def Recording {R : Type} (record : R → Prop) (w : W) (p : W × R) : Prop := p.1 = w ∧ record p.2

theorem echo_aside {R : Type} {record : R → Prop} (call : W → α × W) {w : W} {p : W × R}
    (hw : Recording record w p) :
    Echo (Recording record) (call w) (IdentityStores.aside call p) := by
  obtain ⟨rfl, hr⟩ := hw
  exact ⟨rfl, rfl, hr⟩

theorem echo_asideWith {R : Type} {record : R → Prop} (call : W → α × S × W) {w : W} {p : W × R}
    (hw : Recording record w p) :
    EchoWith (Recording record) (call w) (IdentityStores.asideWith call p) := by
  obtain ⟨rfl, hr⟩ := hw
  exact ⟨rfl, rfl, rfl, hr⟩

/-- Stores with and without a record give the same answers, and most questions leave alone what is
known of the record and of the events. -/
def loggedLikeness (record : List (Settling S) → Prop) (events : List Event → Prop)
    (emit : ∀ es e, e.entered? = none → events es → events (es ++ [e])) :
    Likeness g g.logged where
  world := Recording record
  events es es' := es' = es ∧ events es
  session := session_logged g
  refreshLimit := refreshLimit_logged g
  complaint := complaint_logged g
  installed := echo_aside g.stores.installed
  openFor owner := echo_aside (g.stores.openFor owner)
  identity s := echo_aside (g.stores.identity s)
  token s := echo_aside (g.stores.token s)
  cipher s := echo_aside (g.stores.cipher s)
  trust identity bundle s := echo_asideWith (g.stores.trust identity bundle s)
  registerDevice profile device s := echo_asideWith (g.stores.registerDevice profile device s)
  offer target s := echo_asideWith (g.stores.offer target s)
  emit e hn _ he := ⟨congrArg (· ++ [e]) he.1, emit _ e hn he.2⟩
  verify key secret he :=
    ⟨congrArg (· ++ [.verifyAccount g.session key secret]) he.1, emit _ _ rfl he.2⟩

/-- Nothing is known of the record and of the events. -/
abbrev recorder : Likeness g g.logged :=
  loggedLikeness g (fun _ ↦ True) (fun _ ↦ True) fun _ _ _ _ ↦ trivial

theorem recorder_whole : (recorder g).Whole where
  nil := ⟨rfl, trivial⟩
  entered _ he := ⟨by rw [he.1], trivial⟩
  forgetGroups := by
    rintro _ _ ⟨w, r⟩ ⟨rfl, -⟩
    exact ⟨rfl, rfl, trivial⟩
  save := by
    rintro _ _ ⟨w, r⟩ ⟨rfl, -⟩
    exact ⟨rfl, rfl, trivial⟩

/-- An operation with stores that keep a record does the same. -/
theorem alike_logged (h : Handshake S W) (record : List (Settling S)) (op : Operation W) :
    (recorder g).Alike (perform g h op).2
      (perform g.logged (h.within (h.world, record)) (op.map unrecorded)).2 := by
  have begun : (recorder g).Alike h (h.within (h.world, record)) :=
    ⟨rfl, rfl, rfl, rfl, rfl, rfl, rfl, ⟨rfl, trivial⟩, rfl, trivial⟩
  exact ((recorder_whole g).matches_perform (f := unrecorded)
    (by rintro change _ ⟨w, r⟩ ⟨rfl, -⟩; exact ⟨rfl, trivial⟩) begun op).2

/-! ## Turns -/

/-- What the store was asked to settle, and the store before and after: it is saved once, as it is
when all groups are forgotten. -/
inductive Settled : List (Settling S) → Option S → Option S → Prop where
  | none : Settled [] none none
  | some (s s' : S) : Settled [.forgotGroups s, .saved s'] (some s) (some s')

/-- A client has left its connection. -/
structure Left (settlings : List (Settling S)) (h k : Handshake S W) : Prop where
  active : h.state ≠ .disconnected
  state : k.state = .disconnected
  phase : k.phase = none
  outbound : k.outbound = h.outbound.unbind
  server : k.serverIdentity = none
  failures : k.cipherFailures = 0
  lock : k.lock = none
  told : k.told = h.told ++ [.disconnected]
  settled : Settled settlings h.store k.store

/-- What may become of a client. -/
inductive Turn (settlings : List (Settling S)) (h k : Handshake S W) : Prop where
  | steady (state : k.state = h.state) (told : k.told = h.told) (settled : settlings = [])
  | advanced (changed : k.state ≠ h.state) (active : k.state ≠ .disconnected)
      (told : k.told = h.told ++ [k.state]) (settled : settlings = [])
  | left (left : Left settlings h k)

/-- One turn of a client whose stores keep a record. -/
def Turns (h k : Handshake S (W × List (Settling S))) : Prop :=
  ∃ settlings, k.world.2 = h.world.2 ++ settlings ∧ Turn settlings h k

/-- Nothing was told nor settled. -/
structure Quiet (h k : Handshake S (W × List (Settling S))) : Prop where
  record : k.world.2 = h.world.2
  told : k.told = h.told

section

variable {h k k' : Handshake S (W × List (Settling S))}

theorem told_emit {W : Type} (h : Handshake S W) {e : Event} (he : e.entered? = none) :
    (h.emit e).told = h.told := by
  simp [told, emit, he]

theorem Quiet.turns (hq : Quiet h k) (hs : k.state = h.state) : Turns h k :=
  ⟨[], by rw [hq.record, List.append_nil], .steady hs hq.told rfl⟩

/-- A turn depends on a few of the fields that it starts from, and what is left behind on two
more. -/
theorem Turns.of_same {h₀ : Handshake S (W × List (Settling S))} (ht : Turns h k)
    (hq : Quiet h₀ h) (state : h.state = h₀.state)
    (fields : k.state = .disconnected → h.outbound = h₀.outbound ∧ h.store = h₀.store) :
    Turns h₀ k := by
  obtain ⟨settlings, hr, ht⟩ := ht
  refine ⟨settlings, by rw [hr, hq.record], ?_⟩
  cases ht with
  | steady hs ht hn => exact .steady (hs.trans state) (ht.trans hq.told) hn
  | advanced hc ha ht hn => exact .advanced (state ▸ hc) ha (by rw [ht, hq.told]) hn
  | left hl =>
    obtain ⟨outbound, store⟩ := fields hl.state
    exact .left { hl with
      active := state ▸ hl.active, outbound := outbound ▸ hl.outbound
      told := by rw [hl.told, hq.told], settled := store ▸ hl.settled }

/-- A notice may come before a turn or after it. -/
theorem Turns.of_emit {e : Event} (he : e.entered? = none) (ht : Turns (h.emit e) k) :
    Turns h k :=
  ht.of_same ⟨rfl, told_emit h he⟩ rfl fun _ ↦ ⟨rfl, rfl⟩

theorem Turns.emit {e : Event} (he : e.entered? = none) (ht : Turns h k) :
    Turns h (k.emit e) := by
  obtain ⟨settlings, hr, ht⟩ := ht
  have hk := told_emit k he
  refine ⟨settlings, hr, ?_⟩
  cases ht with
  | steady hs ht hn => exact .steady hs (hk.trans ht) hn
  | advanced hc ha ht hn => exact .advanced hc ha (hk.trans ht) hn
  | left hl => exact .left { hl with told := hk.trans hl.told }

/-- A client that did not leave may do more, as long as it stays in its state. -/
theorem Turns.and_quiet (ht : Turns h k) (ha : k.state ≠ .disconnected) (hq : Quiet k k')
    (hs : k'.state = k.state) : Turns h k' := by
  obtain ⟨settlings, hr, ht⟩ := ht
  refine ⟨settlings, by rw [hq.record, hr], ?_⟩
  cases ht with
  | steady hs' ht hn => exact .steady (hs.trans hs') (hq.told.trans ht) hn
  | advanced hc ha ht hn =>
    exact .advanced (by rwa [hs]) (by rwa [hs]) (by rw [hq.told, ht, hs]) hn
  | left hl => exact absurd hl.state ha

end

/-! ## Changes of the state -/

theorem entered?_of_failureEvent? {failure : SessionFailure} {e : Event}
    (he : failureEvent? failure = some e) : e.entered? = none := by
  cases failure with
  | sessionError reason message =>
    simp only [failureEvent?] at he
    split at he
    · cases he
    · cases he
      rfl
  | _ =>
    cases he
    rfl

section Changes

variable (h : Handshake S (W × List (Settling S)))

theorem told_concat (h : Handshake S W) (state : ConnectionState) :
    (h.emit (.stateChanged state)).told = h.told ++ [state] := by
  simp [told, Handshake.emit, Event.entered?]

/-- Being disconnected is the end of the connection, and the store is settled for it. -/
theorem turns_enter_disconnected (ha : h.state ≠ .disconnected) :
    Turns h { enter g.logged .disconnected h with lock := none } := by
  simp only [enter, reduceCtorEq, if_false, if_true, teardown, settleStore]
  cases hs : h.store with
  | none =>
    refine ⟨[], (List.append_nil _).symm, .left ⟨ha, rfl, rfl, rfl, rfl, rfl, rfl, ?_, ?_⟩⟩
    · exact told_concat h .disconnected
    · rw [hs]
      exact .none
  | some s =>
    refine ⟨[.forgotGroups s, .saved (g.stores.forgetGroups s h.world.1).1], ?_,
      .left ⟨ha, rfl, rfl, rfl, rfl, rfl, rfl, ?_, ?_⟩⟩
    · exact List.append_assoc _ _ _
    · exact told_concat h .disconnected
    · rw [hs]
      exact .some s _

theorem turns_changeState (next : ConnectionState) : Turns h (changeState g.logged next h) := by
  unfold changeState
  by_cases hc : h.state = next
  · rw [if_pos hc]
    split
    · exact Quiet.turns ⟨rfl, rfl⟩ rfl
    · exact Quiet.turns ⟨rfl, rfl⟩ rfl
  · rw [if_neg hc]
    cases next with
    | disconnected => exact turns_enter_disconnected g h hc
    | connecting =>
      exact ⟨[], (List.append_nil _).symm,
        .advanced (Ne.symm hc) (by simp [enter, Handshake.emit]) (told_concat h _) rfl⟩
    | connected =>
      exact ⟨[], (List.append_nil _).symm,
        .advanced (Ne.symm hc) (by simp [enter, Handshake.emit]) (told_concat h _) rfl⟩

theorem turns_leave : Turns h (leave g.logged h) := by
  unfold leave
  split
  · exact Quiet.turns ⟨rfl, rfl⟩ rfl
  · exact turns_changeState g h _

theorem turns_fail (message : String) : Turns h (fail g.logged message h) :=
  (turns_changeState g _ _).of_emit (e := .error message) rfl

theorem turns_onClose (close : Option CloseInfo) : Turns h (onClose g.logged close h) := by
  unfold onClose
  split
  · next message _ => exact (turns_leave g _).of_emit (e := .error message) rfl
  · exact turns_leave g h

theorem turns_onSessionFailed (failure : SessionFailure) :
    Turns h (onSessionFailed g.logged failure h) := by
  unfold onSessionFailed
  split
  · next e he => exact (turns_changeState g _ _).of_emit (entered?_of_failureEvent? he)
  · exact turns_changeState g h _

theorem turns_onTrusted (identity : ServerIdentity) : Turns h (onTrusted g.logged identity h) :=
  (turns_changeState g { h with serverIdentity := some identity } .connected).of_same
    ⟨rfl, rfl⟩ rfl fun _ ↦ ⟨rfl, rfl⟩

theorem turns_onUntrusted : Turns h (onUntrusted g.logged h) :=
  (turns_changeState g h .disconnected).emit (e := .clientUntrusted) rfl

end Changes

/-! ## Operations -/

/-- What matches whatever is known of the record and of the events leaves both alone. -/
theorem quiet_of_matches {x : Try S W α} {y : Try S (W × List (Settling S)) α}
    (hm : ∀ record events emit, (loggedLikeness g record events emit).Matches x y)
    (h : Handshake S (W × List (Settling S))) : Quiet h (y h).2 := by
  have emit (es : List Event) (e : Event) (hn : e.entered? = none)
      (he : es.filterMap Event.entered? = h.told) :
      (es ++ [e]).filterMap Event.entered? = h.told := by
    rw [List.filterMap_append, he]
    simp [hn]
  have begun : (loggedLikeness g (· = h.world.2) (·.filterMap Event.entered? = h.told) emit).Alike
      (h.within h.world.1) h := ⟨rfl, rfl, rfl, rfl, rfl, rfl, rfl, ⟨rfl, rfl⟩, rfl, rfl⟩
  obtain ⟨-, ended⟩ := hm _ _ emit _ _ begun
  refine ⟨ended.world.2, ?_⟩
  obtain ⟨same, told⟩ := ended.events
  rw [Handshake.told, same, told]

/-! ### Programs that keep the state -/

section States

variable (h : Handshake S W)

theorem state_introduce : (introduce g h).2.state = h.state := by
  rcases standing_introduce g h with hs | hs <;> exact congrArg Standing.state hs

/-- Handlers that do not decide upon the connection keep the state. -/
theorem state_handle {m : Response} (hm : m.isVerdict = false) :
    (handle g m h).2.state = h.state := by
  have after : (h.standing.after m).state = h.state := by
    cases m with
    | sendPreKeys | resendPreKeys | startSession =>
      rw [Standing.after]
      split
      · exact Standing.state_setPhase _ _
      · rfl
    | sessionFailed | isTrusted | isUntrusted => cases hm
    | _ => simp [Standing.after]
  rcases standing_handle g m h with hs | ⟨-, hs⟩
  · exact (congrArg Standing.state hs).trans after
  · exact congrArg Standing.state hs

theorem state_refresh (target : Option ServerIdentity) :
    (refresh g target h).2.state = h.state := by
  unfold refresh
  rw [Try.bind_apply]
  cases hs : h.store with
  | none => rw [offer_of_none g target hs]
  | some s =>
    rw [offer_of_some g target hs]
    cases (g.stores.offer target s h.world).1 with
    | error e => rfl
    | ok o => exact congrArg Standing.state (standing_sendRequest g _ _)

end States

section Operations

variable (h : Handshake S (W × List (Settling S)))

theorem quiet_sendRequest (r : Request) : Quiet h (sendRequest g.logged r h).2 :=
  quiet_of_matches g (fun _ _ _ ↦ Likeness.matches_sendRequest _ rfl) h

theorem turns_sendRequest (r : Request) : Turns h (sendRequest g.logged r h).2 :=
  (quiet_sendRequest g h r).turns (congrArg Standing.state (standing_sendRequest g.logged r h))

theorem turns_startSession (serverId : Option String) :
    Turns h (startSession g.logged serverId h).2 :=
  (quiet_of_matches g (fun _ _ _ ↦ Likeness.matches_startSession _ serverId) h).turns
    (congrArg Standing.state (standing_startSession g.logged serverId h))

theorem turns_send (r : Request) : Turns h (send g.logged r h).2 :=
  (quiet_of_matches g (fun _ _ _ ↦ Likeness.matches_send _ r) h).turns
    (congrArg Standing.state (standing_send g.logged r h))

/-- An opened socket brings the client on, unless it is refused. -/
theorem turns_onOpen (channel : Nat) (lock : Option HomeLock) :
    Turns h (onOpen g.logged channel lock h).2 := by
  cases hb : h.outbound.bound with
  | some b =>
    rw [onOpen_of_bound g.logged channel lock hb]
    exact Quiet.turns ⟨rfl, rfl⟩ rfl
  | none =>
    rw [onOpen_of_unbound g.logged channel lock hb]
    have active (k : Handshake S (W × List (Settling S))) :
        (changeState g.logged .connecting k).state ≠ .disconnected := by
      rw [state_changeState]
      exact ConnectionState.noConfusion
    refine Turns.and_quiet ?opened (active _)
      (quiet_of_matches g (fun _ _ _ ↦ Likeness.matches_introduce _) _) (state_introduce g.logged _)
    exact (turns_changeState g _ _).of_same ⟨rfl, rfl⟩ rfl fun hd ↦ absurd hd (active _)

theorem turns_handle (m : Response) : Turns h (handle g.logged m h).2 := by
  cases hm : m.isVerdict with
  | false =>
    exact (quiet_of_matches g (fun _ _ _ ↦ Likeness.matches_handle _ hm) h).turns
      (state_handle g.logged h hm)
  | true =>
    cases m with
    | sessionFailed failure => exact turns_onSessionFailed g h failure
    | isTrusted identity => exact turns_onTrusted g h identity
    | isUntrusted => exact turns_onUntrusted g h
    | _ => cases hm

/-- Fresh prekeys are sent, or the session is given up. -/
theorem turns_recoverCipher : Turns h (recoverCipher g.logged h).2 := by
  cases hs : h.store with
  | none =>
    rw [recoverCipher_of_none g.logged hs]
    exact Quiet.turns ⟨rfl, rfl⟩ rfl
  | some s =>
    have counted {k : Handshake S (W × List (Settling S))} (ht : Turns h.countFailure k) :
        Turns h k := ht.of_same ⟨rfl, rfl⟩ rfl fun _ ↦ ⟨rfl, rfl⟩
    rw [recoverCipher_of_some g.logged hs]
    split
    · exact counted (turns_fail g _ _)
    · apply counted
      exact (quiet_of_matches g (fun _ _ _ ↦ Likeness.matches_refresh _ _) _).turns
        (state_refresh g.logged _ _)

theorem turns_receive (bytes : Bytes) : Turns h (receive g.logged bytes h).2 := by
  obtain ⟨w, hw⟩ := snd_cipher? g.logged h
  have asked : Quiet h (cipher? g.logged h).2 :=
    quiet_of_matches g (fun _ _ _ ↦ Likeness.matches_cipher? _) h
  have after {k : Handshake S (W × List (Settling S))} (ht : Turns (cipher? g.logged h).2 k) :
      Turns h k := ht.of_same asked (by rw [hw]; rfl) fun _ ↦ by rw [hw]; exact ⟨rfl, rfl⟩
  have cleared {k : Handshake S (W × List (Settling S))} (ht : Turns (listening g.logged h) k) :
      Turns h k := after (ht.of_same ⟨rfl, rfl⟩ rfl fun _ ↦ ⟨rfl, rfl⟩)
  by_cases hc : h.state = .disconnected
  · rw [receive_of_disconnected g.logged bytes hc]
    exact Quiet.turns ⟨rfl, rfl⟩ rfl
  · rw [receive_eq g.logged bytes hc]
    split
    · exact after (Quiet.turns ⟨rfl, rfl⟩ rfl)
    · exact after (turns_recoverCipher g _)
    · exact after (Quiet.turns ⟨rfl, rfl⟩ rfl)
    · split
      · exact cleared (turns_handle g _ _)
      · exact cleared (Quiet.turns ⟨rfl, rfl⟩ rfl)

/-- Every operation is one turn, but for those that take the events and that save the store. -/
theorem turns_perform (op : Operation W) :
    op = .takeEvents ∨ op = .saveOnShutdown ∨
      Turns h (perform g.logged h (op.map unrecorded)).2 := by
  cases op with
  | takeEvents => exact .inl rfl
  | saveOnShutdown => exact .inr (.inl rfl)
  | onOpen channel lock => exact .inr (.inr (turns_onOpen g h channel lock))
  | receive bytes => exact .inr (.inr (turns_receive g h bytes))
  | onClose close => exact .inr (.inr (turns_onClose g h close))
  | onFailure => exact .inr (.inr (turns_leave g h))
  | disconnect => exact .inr (.inr (turns_changeState g h _))
  | fail message => exact .inr (.inr (turns_fail g h message))
  | startSession serverId => exact .inr (.inr (turns_startSession g h serverId))
  | send r => exact .inr (.inr (turns_send g h r))
  | sendKeepalive identity => exact .inr (.inr (turns_sendRequest g h _))
  | _ => exact .inr (.inr (Quiet.turns ⟨rfl, rfl⟩ rfl))

end Operations

/-- The same turn is taken by a client whose stores keep no record. -/
theorem Turn.of_alike {settlings : List (Settling S)} {h k : Handshake S W}
    {k' : Handshake S (W × List (Settling S))} (hk : (recorder g).Alike k k')
    (ht : Turn settlings (h.within (h.world, ([] : List (Settling S)))) k') :
    Turn settlings h k := by
  have told : k'.told = k.told := by rw [Handshake.told, hk.events.1, Handshake.told]
  cases ht with
  | steady state same settled => exact .steady (hk.state.trans state) (told.symm.trans same) settled
  | advanced changed active same settled =>
    exact .advanced (hk.state ▸ changed) (hk.state ▸ active)
      (by rw [← told, same, hk.state]; rfl) settled
  | left left =>
    exact .left
      { active := left.active
        state := hk.state.trans left.state
        phase := hk.phase.trans left.phase
        outbound := hk.outbound.trans left.outbound
        server := hk.server.trans left.server
        failures := hk.failures.trans left.failures
        lock := hk.lock.trans left.lock
        told := told.symm.trans left.told
        settled := hk.store ▸ left.settled }

/-- Whatever the stores answer, an operation is one turn with all that it settles, unless it takes
the events or saves the store for a shutdown. -/
theorem turn_perform (h : Handshake S W) (op : Operation W) :
    op = .takeEvents ∨ op = .saveOnShutdown ∨ Turn (settlings g h op) h (perform g h op).2 := by
  rcases turns_perform g (h.within (h.world, [])) op with ht | hs | ⟨calls, hr, turn⟩
  · exact .inl ht
  · exact .inr (.inl hs)
  · have same : settlings g h op = calls := hr
    rw [same]
    exact .inr (.inr (turn.of_alike g (alike_logged g h [] op)))

end Handshake

end SealedSession
