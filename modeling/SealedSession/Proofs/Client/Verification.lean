import SealedSession.IdentityStore.Scripted
import SealedSession.Proofs.Client.Pending

/-!
# Verifications and the connections they began on

An account is verified while everything else goes on, and the verification may end at any later
time. The client then looks at its state alone: if it is connecting, the proof starts the session,
or the failure ends the connection, whether or not it is the connection that the verification began
on.

* `Begun`: the response that a verification was begun for, and the connection it came in on.
* `begun_run`: every verification that is under way was begun.
* `verification_stays`: a verification does nothing to a client that is not connecting. It acts on
  the connection that it was begun on unless another was opened since, and nothing but a
  verification starts a session that has to be verified.
* `proof_astray`: a proof that starts the session on a connection that was opened since.
-/

namespace SealedSession

namespace Client

variable {S W : Type} (g : Settings S W)

/-! ## Where a verification was begun -/

/-- A verification was begun on a connection that was current then, for a response that came in there
while the client was bound to the channel of that connection. -/
def Begun (world : W) (past : List (Move W)) (v : PendingVerification) (connection : ConnectionId)
    (n : Nat) (since : List (Move W)) : Prop :=
  ∃ earlier bytes profile, past = earlier ++ .arrive connection (.envelope bytes) :: since ∧
    let c := run g (start g world) earlier
    c.current = some connection ∧ c.handshake.outbound.bound = some n ∧
      (connection, n) ∈ c.ports ∧ v.connection = some connection ∧
      Handshake.heard? g.handshake bytes c.handshake =
        some (.identify profile v.serverPublicKey v.sharedSecret)

variable {g}

/-- Every verification that is under way was begun. -/
theorem begun_run (world : W) (moves : List (Move W)) :
    ∀ v ∈ (run g (start g world) moves).verifications, ∃ connection n since,
      Begun g world moves v connection n since := by
  intro v hv
  obtain ⟨connection, n, since, earlier, bytes, r, e, rfl, hc, hn, hp, -, hm, hr, hb⟩ :=
    origin_run (g := g) world moves (.verification v) hv
  obtain ⟨hv, profile, rfl⟩ := identify_of_begins hb hr
  exact ⟨connection, n, since, earlier, bytes, profile, rfl, hc, hn, hp, hv, hm⟩

/-- A client that is active is where a verification was begun, unless another connection was opened
since. -/
theorem Begun.stays {world : W} {past : List (Move W)} {v : PendingVerification}
    {connection : ConnectionId} {n : Nat} {since : List (Move W)}
    (hb : Begun g world past v connection n since)
    (ha : (run g (start g world) past).handshake.state ≠ .disconnected)
    (hs : ∀ m ∈ since, m.opens? = none) :
    (run g (start g world) past).current = some connection ∧
      (run g (start g world) past).handshake.outbound.bound = some n := by
  obtain ⟨earlier, bytes, profile, rfl, hc, hn, -⟩ := hb
  rw [run_append] at ha ⊢
  obtain ⟨-, hc', hn'⟩ := stays_run (standing_run g world earlier)
    (List.forall_mem_cons.mpr ⟨rfl, hs⟩) ha
  exact ⟨hc'.trans hc, hn'.trans hn⟩

/-! ## What a verification does when it ends -/

/-- While a session has to be verified, nothing asks to start it but a verification that ends with a
proof, or whoever sends requests through the client. -/
theorem verified_of_startSession {c : Client S W} {m : Move W} {t : Handshake.Moment S W} {n : Nat}
    {i : Identity} {session : PlayerSession} {serverId : Option String}
    (hm : g.config.session.mode = .verified)
    (ht : t ∈ Handshake.history g.handshake c.handshake (operations g c m))
    (hs : t.Sends g.handshake n (.startSession i session serverId)) :
    m = .send (.startSession i session serverId) ∨ session = g.config.session ∧
      ∃ k v proof, m = .verified k (.ok proof) ∧ serverId = some proof ∧
        c.verifications[k]? = some v ∧ c.handshake.state = .connecting ∧
        t = Handshake.moment g.handshake c.handshake (.startSession serverId) := by
  have hw := warrant_operations g c m _ (Handshake.operation_mem ht)
  obtain ⟨hd, -⟩ := hs
  generalize hr : Request.startSession i session serverId = r at hd
  generalize ho : t.operation = op at hd hw
  cases hd with
  | started serverId' i' hc =>
    cases hr
    obtain ⟨k, v, proof, rfl, rfl, hv, hc, hops⟩ := hw
    rw [hops] at ht
    obtain rfl | ht := List.mem_cons.mp ht
    · exact .inr ⟨rfl, k, v, proof, rfl, rfl, hv, hc, rfl⟩
    · obtain rfl := List.mem_singleton.mp ht
      cases ho
  | sent r hc => exact .inl (hr ▸ hw)
  | answer bytes hh ha =>
    cases ha with
    | identified profile key secret i' hn => exact absurd hm hn
    | _ => cases hr
  | _ => cases hr

/-- When a verification ends, it does nothing to a client that is not connecting. A client that is
connecting is where the verification was begun, unless another connection was opened since. And
nothing else starts a session that has to be verified: the request carries the proof of a
verification, and it is queued on the channel of the connection that the verification was begun on,
unless another connection was opened since. -/
theorem verification_stays (g : Settings S W) (world : W) (past : List (Move W)) (m : Move W) :
    let c := run g (start g world) past
    (∀ k result v, m = .verified k result → c.verifications[k]? = some v →
      ∃ connection n since, Begun g world past v connection n since ∧
        (c.handshake.state ≠ .connecting → (step g c m).handshake = c.handshake) ∧
        (c.handshake.state = .connecting → (∀ o ∈ since, o.opens? = none) →
          c.current = some connection ∧ c.handshake.outbound.bound = some n)) ∧
    (g.config.session.mode = .verified →
      ∀ t ∈ Handshake.history g.handshake c.handshake (operations g c m), ∀ n i session serverId,
        t.Sends g.handshake n (.startSession i session serverId) →
          m = .send (.startSession i session serverId) ∨
          ∃ k v proof connection n' since, m = .verified k (.ok proof) ∧ serverId = some proof ∧
            session = g.config.session ∧ c.verifications[k]? = some v ∧
            Begun g world past v connection n' since ∧
            ((∀ o ∈ since, o.opens? = none) → n = n' ∧ c.current = some connection)) := by
  intro c
  have hs := standing_run g world past
  have connecting (hc : c.handshake.state = .connecting) : c.handshake.state ≠ .disconnected := by
    rw [hc]
    decide
  constructor
  · rintro k result v rfl hv
    obtain ⟨connection, n, since, hb⟩ := begun_run world past v (List.mem_of_getElem? hv)
    refine ⟨connection, n, since, hb, fun hc ↦ ?_, fun hc ho ↦ hb.stays (connecting hc) ho⟩
    have he : c.handshake.events = [] := (wired_run g world past).events
    rw [handshake_step]
    simp only [operations, hv, if_neg hc]
    change { c.handshake with events := [] } = c.handshake
    rw [← he]
  · intro hm t ht n i session serverId hsend
    obtain hm | ⟨hsession, k, v, proof, hm, hp, hv, hc, rfl⟩ :=
      verified_of_startSession hm ht hsend
    · exact .inl hm
    · obtain ⟨connection, n', since, hb⟩ := begun_run world past v (List.mem_of_getElem? hv)
      refine .inr ⟨k, v, proof, connection, n', since, hm, hp, hsession, hv, hb, fun ho ↦ ?_⟩
      obtain ⟨hcurrent, hn'⟩ := hb.stays (connecting hc) ho
      exact ⟨(Handshake.bound_perform hs hn' (hsend.bound g.handshake)).symm, hcurrent⟩

/-! ## A verification that outlives its connection -/

/-- A client whose account has to be verified. -/
def overtaken : Settings Identity Scripted.Ledger where
  config := { serverUrl := "", session := ⟨default, "player", "server", .verified, none⟩ }
  stores := Scripted.stores ⟨true, true, ⟨default, [1], none⟩, [], none, []⟩
  complaint _ := ""

/-- A client may disconnect while its account is being verified, and connect anew. When the
verification ends, its proof is sent on the connection that was opened since, where the server has
sent neither a key nor a secret; its failure ends that connection. -/
theorem proof_astray :
    let c := run overtaken (start overtaken []) [.opened ⟨1⟩ ⟨"home"⟩,
      .arrive ⟨1⟩ (.envelope ((Envelope.encodePlain
        (Response.identify default [1, 2] [3, 4])).toOption.getD [])),
      .disconnect, .opened ⟨2⟩ ⟨"home"⟩]
    c.verifications = [⟨some ⟨1⟩, overtaken.config.session, [1, 2], [3, 4]⟩] ∧
    c.current = some ⟨2⟩ ∧ c.handshake.phase = some .awaitingIdentity ∧
    ((step overtaken c (.verified 0 (.ok "proof"))).handshake.queued 1).map
        (fun bytes ↦ (Envelope.decode Request (fun _ ↦ "") none none bytes).toOption) =
      [some (some (.identify (some ⟨default, [1], none⟩) (some []))),
        some (some (.startSession ⟨default, [1], none⟩ overtaken.config.session (some "proof")))] ∧
    (step overtaken c (.verified 0 (.error .notConnected))).handshake.state = .disconnected := by
  decide +kernel

end Client

end SealedSession
