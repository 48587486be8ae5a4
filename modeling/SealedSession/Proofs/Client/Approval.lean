import SealedSession.IdentityStore.Scripted
import SealedSession.Proofs.Client.Pending

/-!
# The deadline for the approval of the device

A client that is asked to have its device approved waits for that until a deadline, and when the
deadline has come it looks at its phase alone. If it is waiting by then, it fails, whether or not
the wait is the one that the deadline was set for.

On one connection a client begins to wait at most once, since it is in the phase before only when
the connection was just opened. So a deadline that comes before another connection is opened finds a
client that has waited ever since it was set, or one that does not wait.

* `Handshake.phase_of_unopened`: the phases that a client may have been in, by the one it is in now.
* `Armed`: the response that a deadline was set for, and the connection it came in on.
* `armed_run`: every deadline was set for a response.
* `approval_stays`: what a deadline does when it has come.
* `deadline_astray`: a deadline that fails a connection which was opened since, too early.
-/

namespace SealedSession

namespace Handshake

variable {S W : Type} {g : Settings S W}

/-- Without a socket being opened, no client begins to wait for who it is, and none begins to wait
for the approval of its device but one that waits for who it is. -/
theorem phase_of_unopened {h : Handshake S W} {ops : List (Operation W)}
    (hs : h.standing.Sound g.refreshLimit) (hops : ∀ channel lock, .onOpen channel lock ∉ ops) :
    ((run g h ops).phase = some .awaitingIdentity → h.phase = some .awaitingIdentity) ∧
      ((run g h ops).phase = some .awaitingDeviceApproval →
        h.phase = some .awaitingIdentity ∨ h.phase = some .awaitingDeviceApproval) := by
  induction ops generalizing h with
  | nil => exact ⟨id, .inr⟩
  | cons op ops ih =>
    obtain ⟨hi, ha⟩ :=
      ih (hs.step (step_perform g h op)) fun n l hm ↦ hops n l (List.mem_cons_of_mem _ hm)
    change ((run g (perform g h op).2 ops).phase = _ → _) ∧
      ((run g (perform g h op).2 ops).phase = _ → _)
    rcases Standing.edge_of_step hs (step_perform g h op) with hp | he
    · have hp : (perform g h op).2.phase = h.phase := congrArg Place.phase hp
      rw [hp] at hi ha
      exact ⟨hi, ha⟩
    · have hc : cause g h op ≠ .opening := by
        intro hc
        obtain ⟨n, l, rfl⟩ := onOpen_of_cause hc
        exact hops n l List.mem_cons_self
      change Edge _ (cause g h op) ⟨h.state, h.phase⟩
        ⟨(perform g h op).2.state, (perform g h op).2.phase⟩ at he
      generalize cause g h op = c at he hc
      generalize h.state = s, h.phase = p at he
      generalize (perform g h op).2.state = s', (perform g h op).2.phase = p' at he hi ha
      cases he with
      | opened => exact absurd rfl hc
      | registered => exact ⟨fun hr ↦ absurd (hi hr) (by decide), fun _ ↦ .inl rfl⟩
      | _ => exact ⟨fun hr ↦ absurd (hi hr) (by decide), fun hr ↦ absurd (ha hr) (by decide)⟩

/-- A client that is asked to have its device approved waits for that. -/
theorem phase_of_registerDevice {h : Handshake S W} {bytes : Bytes} {url token : String}
    (hs : h.standing.Sound g.refreshLimit)
    (hm : heard? g bytes h = some (.registerDevice url token)) :
    (receive g bytes h).1 = .ok () ∧
      (receive g bytes h).2.phase = some .awaitingDeviceApproval := by
  obtain ⟨-, hx, hr⟩ := receive_of_heard g hm
  have hp : h.phase = some .awaitingIdentity := by simpa [expects] using hx
  have hc : h.standing.state = .connecting := hs.state_of_phase hp
  have hok : (receive g bytes h).1 = .ok () := by
    rw [hr]
    rfl
  refine ⟨hok, ?_⟩
  rcases standing_receive_of_heard g hm with ha | ⟨⟨e, he⟩, -⟩
  · have hq := congrArg Standing.phase ha
    simp only [Standing.after, Standing.setPhase, hc, if_true] at hq
    exact hq
  · rw [hok] at he
    cases he

end Handshake

namespace Client

variable {S W : Type} (g : Settings S W)

/-- A deadline was set on a connection that was current then, for a response that came in there while
the client was bound to the channel of that connection. -/
structure Armed (world : W) (past : List (Move W)) (a : ApprovalDeadline) (connection : ConnectionId)
    (n : Nat) (timeout : Duration) (earlier : List (Move W)) (bytes : Bytes)
    (since : List (Move W)) : Prop where
  past : past = earlier ++ .arrive connection (.envelope bytes) :: since
  current : (run g (start g world) earlier).current = some connection
  bound : (run g (start g world) earlier).handshake.outbound.bound = some n
  port : (connection, n) ∈ (run g (start g world) earlier).ports
  asked : ∃ url token, Handshake.heard? g.handshake bytes (run g (start g world) earlier).handshake =
    some (.registerDevice url token)
  configured : g.config.approvalTimeout = some timeout
  deadline : a = ⟨some connection, (run g (start g world) earlier).now + timeout.nanos⟩
  waiting : (run g (start g world)
    (earlier ++ [.arrive connection (.envelope bytes)])).handshake.phase =
      some .awaitingDeviceApproval

variable {g}

/-- Every deadline was set. -/
theorem armed_run (world : W) (moves : List (Move W)) :
    ∀ a ∈ (run g (start g world) moves).approvals, ∃ connection n timeout earlier bytes since,
      Armed g world moves a connection n timeout earlier bytes since := by
  intro a ha
  obtain ⟨connection, n, since, earlier, bytes, r, e, hpast, hc, hn, hport, hops, hm, hr, hb⟩ :=
    origin_run (g := g) world moves (.approval a) ha
  obtain ⟨⟨url, token, rfl⟩, timeout, ht, hd⟩ := registerDevice_of_begins hb hr
  refine ⟨connection, n, timeout, earlier, bytes, since, hpast, hc, hn, hport, ⟨url, token, hm⟩, ht,
    hd, ?_⟩
  obtain ⟨hok, hp⟩ := Handshake.phase_of_registerDevice (standing_run g world earlier) hm
  rw [run_concat, handshake_step, hops, processing, hok]
  exact hp

/-- A client that waits for the approval of its device has waited for it ever since the deadline was
set, on the same channel of the same connection, unless another connection was opened since. -/
theorem Armed.stays {world : W} {past : List (Move W)} {a : ApprovalDeadline}
    {connection : ConnectionId} {n : Nat} {timeout : Duration} {earlier : List (Move W)}
    {bytes : Bytes} {since : List (Move W)}
    (ha : Armed g world past a connection n timeout earlier bytes since)
    (hp : (run g (start g world) past).handshake.phase = some .awaitingDeviceApproval)
    (hs : ∀ m ∈ since, m.opens? = none) {before after : List (Move W)}
    (hsince : since = before ++ after) :
    let c := run g (start g world) (earlier ++ .arrive connection (.envelope bytes) :: before)
    c.handshake.phase = some .awaitingDeviceApproval ∧ c.current = some connection ∧
      c.handshake.outbound.bound = some n := by
  intro c
  subst hsince
  obtain ⟨d, hd⟩ : ∃ d, d = run g (start g world) (earlier ++ [.arrive connection (.envelope bytes)]) :=
    ⟨_, rfl⟩
  have hc : c = run g d before := by
    rw [hd, ← run_append, List.append_assoc]
    rfl
  have sound : c.handshake.standing.Sound g.config.refreshLimit := standing_run g world _
  have hbefore : ∀ m ∈ before, m.opens? = none := fun m hm ↦ hs m (List.mem_append_left _ hm)
  have hafter : ∀ m ∈ after, m.opens? = none := fun m hm ↦ hs m (List.mem_append_right _ hm)
  have hpast : run g (start g world) past = run g c after := by
    rw [ha.past, ← run_append, List.append_assoc]
    rfl
  -- what the client waits for now and what it waited for when the deadline was set, between the two
  have hphase : c.handshake.phase = some .awaitingDeviceApproval := by
    rw [hpast, handshake_run] at hp
    refine ((Handshake.phase_of_unopened (g := g.handshake) sound
      (unopened_driven hafter)).2 hp).resolve_left fun hi ↦ ?_
    rw [hc, handshake_run] at hi
    have hw := ha.waiting
    rw [← hd] at hw
    have sound' : d.handshake.standing.Sound g.config.refreshLimit := hd ▸ standing_run g world _
    rw [(Handshake.phase_of_unopened (g := g.handshake) sound' (unopened_driven hbefore)).1 hi] at hw
    cases hw
  have hstate : c.handshake.state ≠ .disconnected := by
    have hn : c.handshake.standing.state = .connecting := sound.state_of_phase hphase
    rw [show c.handshake.state = _ from hn]
    decide
  have hrun : c = run g (run g (start g world) earlier)
      (.arrive connection (.envelope bytes) :: before) := run_append g _ _ _
  rw [hrun] at hstate
  obtain ⟨-, hcurrent, hbound⟩ := stays_run (standing_run g world earlier)
    (List.forall_mem_cons.mpr ⟨rfl, hbefore⟩) hstate
  exact ⟨hphase, by rw [hrun, hcurrent, ha.current], by rw [hrun, hbound, ha.bound]⟩

/-- When a deadline has come that was set for a wait, it does nothing to a client that does not wait
for the approval of its device. A client that does wait fails, as it should if no other connection was
opened since: then it has waited ever since the deadline was set, on the connection that it was set
on, and for as long as the deadline was meant to leave it. -/
theorem approval_stays (g : Settings S W) (world : W) (past : List (Move W)) (k : Nat) :
    let c := run g (start g world) past
    let c' := step g c (.approvalDue k)
    (c.approvals[k]? = none → c' = c) ∧
    ∀ a, c.approvals[k]? = some a → ∃ connection n timeout earlier bytes since,
      Armed g world past a connection n timeout earlier bytes since ∧
      (c.now < a.due → c' = c) ∧
      (c.handshake.phase ≠ some .awaitingDeviceApproval → c'.handshake = c.handshake) ∧
      (a.due ≤ c.now → c.handshake.phase = some .awaitingDeviceApproval →
        c'.handshake.state = .disconnected ∧
        ((∀ o ∈ since, o.opens? = none) →
          c.current = some connection ∧ c.handshake.outbound.bound = some n ∧
          (run g (start g world) earlier).now + timeout.nanos ≤ c.now ∧
          ∀ before after, since = before ++ after →
            (run g (start g world)
              (earlier ++ .arrive connection (.envelope bytes) :: before)).handshake.phase =
                some .awaitingDeviceApproval)) := by
  intro c c'
  have he : c.handshake.events = [] := (wired_run g world past).events
  constructor
  · intro hn
    change approvalDue g k c = c
    simp only [approvalDue, hn]
  · intro a hk
    obtain ⟨connection, n, timeout, earlier, bytes, since, ha⟩ :=
      armed_run world past a (List.mem_of_getElem? hk)
    refine ⟨connection, n, timeout, earlier, bytes, since, ha, ?_, ?_, ?_⟩
    · intro hd
      change approvalDue g k c = c
      simp only [approvalDue, hk, ha.configured, if_pos hd]
    · intro hp
      change (step g c (.approvalDue k)).handshake = c.handshake
      rw [handshake_step]
      simp only [operations, hk, ha.configured, if_neg hp]
      split
      · rfl
      · change { c.handshake with events := [] } = c.handshake
        rw [← he]
    · intro hd hp
      have hops : operations g c (.approvalDue k) =
          [.fail (approvalMessage timeout), .takeEvents] := by
        simp only [operations, hk, ha.configured, if_neg (Nat.not_lt.mpr hd), if_pos hp]
      refine ⟨?_, fun ho ↦ ?_⟩
      · change (step g c (.approvalDue k)).handshake.state = .disconnected
        rw [handshake_step, hops]
        exact Handshake.state_changeState g.handshake _ .disconnected
      · have hstays {before after : List (Move W)} (hs : since = before ++ after) :=
          ha.stays hp ho hs
        have hnow := hstays (List.append_nil since).symm
        rw [← ha.past] at hnow
        refine ⟨hnow.2.1, hnow.2.2, ?_, fun before after hs ↦ (hstays hs).1⟩
        rw [ha.deadline] at hd
        exact hd

/-! ## A deadline that outlives its connection -/

/-- A client whose device has to be approved within five seconds. -/
def unapproved : Settings Identity Scripted.Ledger where
  config := { serverUrl := "", session := ⟨default, "player", "server", .unverified, none⟩,
              approvalTimeout := some (.ofParts 5 0) }
  stores := Scripted.stores ⟨false, true, ⟨default, [1], none⟩, [], none, []⟩
  complaint _ := ""

/-- A client may disconnect while it waits for the approval of its device, and connect anew. The
deadline of the first wait then comes while the client waits for the second time, and fails it: here
after two of the five seconds that the second wait should last, and in spite of its own deadline. -/
theorem deadline_astray :
    let asked (n : Nat) : Move Scripted.Ledger := .arrive ⟨n⟩ (.envelope
      ((Envelope.encodePlain (Response.registerDevice "url" "token")).toOption.getD []))
    let c := run unapproved (start unapproved []) [.opened ⟨1⟩ ⟨"home"⟩, asked 1,
      .pass (Duration.ofParts 3 0).nanos, .disconnect, .opened ⟨2⟩ ⟨"home"⟩, asked 2,
      .pass (Duration.ofParts 2 0).nanos]
    c.approvals = [⟨some ⟨1⟩, (Duration.ofParts 5 0).nanos⟩,
      ⟨some ⟨2⟩, (Duration.ofParts 8 0).nanos⟩] ∧
    c.now = (Duration.ofParts 5 0).nanos ∧ c.current = some ⟨2⟩ ∧
    c.handshake.phase = some .awaitingDeviceApproval ∧
    (step unapproved c (.approvalDue 0)).handshake.state = .disconnected ∧
    (step unapproved c (.approvalDue 1)).handshake.state = .connecting := by
  decide +kernel

end Client

end SealedSession
