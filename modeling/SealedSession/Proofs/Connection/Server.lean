import SealedSession.Proofs.Connection.Run

/-!
# The service keeps the agreement

A service that agrees with its client can read whatever it is brought, and its answers keep the
agreement: it answers in the clear until it has confirmed its trust, and encrypted for the owner
who asked for it from then on. The end of a session, by whatever cause, is told in the clear.

* `read_request`: an envelope for the service is read, and encrypted only if the connection has a
  record.
* `agree_trusts`, `agree_answer`: the request is answered.
* `Facing.arrive_request`, `Facing.arrive_end`, `Facing.conclude`, `Facing.pass`: the steps of the
  service.
-/

namespace SealedSession.Connection

variable {S W A : Type} {e : Ends S W A} {c : ConnectionId} {n : Nat} {o : Uuid}

/-- A request that was read from an envelope: it asks for the trust of the owner agreed on, or does
not ask for trust. -/
theorem read_request {v : View} {s : Service A} {b : Bytes} {rest : List Bytes}
    (ha : Agree e.service.identity o v) (hv : v.record = s.record? c) (hs : v.served = true)
    (hu : v.up = b :: rest)
    (hc : s.exchange.ciphers = fun _ ↦ .pair e.service.identity.identity) :
    ∃ r, (Service.read e.service c b s).1 = .ok (some r) ∧
      (r.asksForTrust = false ∨ TrustRequest o b ∧ ∃ i : Identity, i.owner = o ∧
        r = .checkTrust i) ∧
      ((∃ m : Request, Envelope.encodePlain m = .ok b) ∨ s.record? c ≠ none) := by
  rcases ha.next_request hu hs with ⟨r, hr, he⟩ | ⟨i, hi, he⟩ |
    ⟨⟨r, i, hr, hi, he⟩, record, hrec, ho⟩
  · exact ⟨r.erased, Envelope.decode_encodePlain he _ _, .inl ((asksForTrust_erased r).trans hr),
      .inl ⟨r, he⟩⟩
  · exact ⟨_, Envelope.decode_encodePlain he _ _, .inr ⟨⟨i, hi, he⟩, i, hi, rfl⟩, .inl ⟨_, he⟩⟩
  · rw [hv] at hrec
    refine ⟨r.erased, ?_, .inl ((asksForTrust_erased r).trans hr), .inr (by simp [hrec])⟩
    have hid : s.exchange.directory.identity? c = some record.identity :=
      congrArg (Option.map SessionRecord.identity) hrec
    change Envelope.decode Request _ (some (s.exchange.ciphers s.exchange.uses))
      (s.exchange.directory.identity? c) b = _
    rw [hc, hid]
    exact Envelope.decode_pair (hi.trans ho.symm) rfl he

/-- A confirmation of trust, and what follows it, keeps the agreement: a stranger gets it in the
clear, whoever has a record gets it encrypted. -/
theorem agree_trusts {server : ServerIdentity} {v : View} {b bytes : Bytes} {rest : List Bytes}
    {r : SessionRecord} {fs : List Frame} (ha : Agree server o v) (hs : v.served = true)
    (hu : v.up = b :: rest) (hb : TrustRequest o b) (hr : r.identity.owner = o)
    (he : Exchange.envelope (.pair server.identity) v.record (.isTrusted server) = .ok bytes)
    (hf : Exchange.Ordinary (fun _ ↦ .pair server.identity) (some r) fs) :
    Agree server o { v with
      up := rest, down := v.down ++ .envelope bytes :: fs, record := some r } := by
  cases hn : v.record with
  | none =>
    rw [hn] at he
    have ht := ha.trust_stranger hu hb hs hn ⟨bytes, rfl, he⟩ hr
    simpa using ht.speak hf
  | some r₀ =>
    rw [hn] at he
    have hne : v.record ≠ none := by simp [hn]
    have ht : ∀ f ∈ [Frame.envelope bytes], SealedReply server o f := by
      intro f hf
      rw [List.mem_singleton.mp hf]
      exact ⟨_, r₀.identity, bytes, .inr rfl, ha.record r₀ hn, rfl, he⟩
    have hp := ((ha.unqueue hu).push_sealed hne ht).rerecord hne hr
    simpa using hp.speak hf

/-- The answer to a request keeps the agreement. -/
theorem agree_answer {v : View} {s : Service A} {b : Bytes} {rest : List Bytes} {r : Request}
    (ha : Agree e.service.identity o v) (hv : v.record = s.record? c) (hs : v.served = true)
    (hu : v.up = b :: rest)
    (hc : s.exchange.ciphers = fun _ ↦ .pair e.service.identity.identity)
    (hr : r.asksForTrust = false ∨ TrustRequest o b ∧ ∃ i : Identity, i.owner = o ∧
      r = .checkTrust i) :
    ∃ fs, (Service.answer e.service c r s).2.written c = s.written c ++ fs ∧
      Agree e.service.identity o { v with
        up := rest, down := v.down ++ fs
        record := (Service.answer e.service c r s).2.record? c } := by
  obtain ⟨-, -, ⟨fs, hw, hd, ho⟩ | ⟨i, bytes, fs, record, rfl, he, hd, hi, hw, ho⟩⟩ :=
    Service.answer_spec (c := c) e.reliable r s
  · refine ⟨fs, hw, ?_⟩
    rw [hc, ← hv] at ho
    rw [hd, ← hv]
    exact (ha.unqueue hu).speak ho
  · rcases hr with hr | ⟨hb, i', hio, hir⟩
    · cases hr
    cases hir
    rw [Switchboard.cipher, hc] at he
    rw [hc] at ho
    rw [← hv] at he hi
    have hr : record.identity.owner = o := by
      rcases hi with hi | hi
      · rw [hi, hio]
      · exact ha.record record hi
    refine ⟨_, hw, ?_⟩
    rw [hd]
    exact agree_trusts ha hs hu hb hr he ho

/-! ## The steps of the service -/

/-- The ends of a connection agree, and the service still has the pair cipher. -/
structure Facing (e : Ends S W A) (c : ConnectionId) (n : Nat) (o : Uuid) (j : Joint S W A) :
    Prop where
  taken : j.taken ≤ (j.service.written c).length
  ciphers : j.service.exchange.ciphers = fun _ ↦ .pair e.service.identity.identity
  agree : Agree e.service.identity o (view e c n j)

namespace Facing

variable {j : Joint S W A}

/-- A service that has written something more. -/
theorem of_written {k : Joint S W A} (fs : List Frame) (h : Facing e c n o j)
    (hk : k.taken = j.taken) (hw : k.service.written c = j.service.written c ++ fs)
    (hc : k.service.exchange.ciphers = j.service.exchange.ciphers)
    (ha : Agree e.service.identity o { view e c n k with down := coming c j ++ fs }) :
    Facing e c n o k where
  taken := by
    rw [hk, hw, List.length_append]
    exact Nat.le_add_right_of_le h.taken
  ciphers := hc.trans h.ciphers
  agree := by
    have hd : coming c k = coming c j ++ fs := by
      rw [coming, hk, hw, List.drop_append_of_le_length h.taken]
      rfl
    rw [← hd] at ha
    exact ha

/-- The end of a session, this one or another, keeps the agreement. -/
theorem conclude (h : Facing e c n o j) (d : ConnectionId) (exit : Exit) :
    Facing e c n o { j with service := (j.service.conclude d exit).2 } := by
  by_cases hd : d = c
  · subst hd
    obtain ⟨hc, hr, hs, fs, hw, hf⟩ := Service.conclude_spec d exit j.service
    refine h.of_written fs rfl hw hc ?_
    have ha := h.agree.conclude hf
    simpa only [view, viewOf, hr, hs] using ha
  · obtain ⟨hc, hr, hs, hw⟩ := Service.conclude_of_ne (Ne.symm hd) exit j.service
    refine h.of_written [] rfl (by rw [hw, List.append_nil]) hc ?_
    simpa only [view, viewOf, hr, hs, List.append_nil] using h.agree

/-- Time passes, and sessions may end of it. -/
theorem pass (h : Facing e c n o j) (span : Nat) :
    Facing e c n o { j with service := j.service.pass span } :=
  Service.pass_induction (P := fun s ↦ Facing e c n o { j with service := s })
    (fun _ ↦ ⟨h.taken, h.ciphers, h.agree⟩) (fun _ d exit hs ↦ hs.conclude d exit) span

/-- The connection closes or breaks. -/
theorem arrive_end (h : Facing e c n o j) {a : Arrival} (ha : ∀ bytes, a ≠ .envelope bytes) :
    Facing e c n o { j with service := Service.arrive e.service c a j.service } := by
  cases hs : j.service.isServed c with
  | false =>
    rw [Service.arrive_of_not_served e.service hs]
    exact h
  | true =>
    obtain ⟨exit, l, hl, hr⟩ := Service.arrive_of_end e.service hs ha
    rw [hr]
    have hj : Facing e c n o { j with
        service := { j.service with exchange := j.service.exchange.setLink c l } } := by
      have hw : Service.written c { j.service with exchange := j.service.exchange.setLink c l } =
          j.service.written c := by
        rw [Service.written, Switchboard.links_setLink, hl]
      refine h.of_written [] rfl (by rw [hw, List.append_nil]) rfl ?_
      rw [List.append_nil]
      exact h.agree
    exact hj.conclude c exit

/-- The service is brought an envelope of its client. -/
theorem arrive_request (h : Facing e c n o j) {b : Bytes} {h' : Handshake S W}
    (hu : j.client.queued n = b :: h'.queued n) (hk : h'.standing = j.client.standing)
    (ht : h'.store = j.client.store) :
    Facing e c n o { j with
      client := h', service := Service.arrive e.service c (.envelope b) j.service } := by
  have h1 : h'.state = j.client.state := congrArg Standing.state hk
  have h2 : h'.phase = j.client.phase := congrArg Standing.phase hk
  have h3 : h'.serverIdentity = j.client.serverIdentity := congrArg Standing.server hk
  cases hs : j.service.isServed c with
  | false =>
    rw [Service.arrive_of_not_served e.service hs]
    refine ⟨h.taken, h.ciphers, ?_⟩
    have ha := h.agree.unqueue hu
    simpa only [view, viewOf, coming, h1, h2, h3, ht] using ha
  | true =>
    obtain ⟨r, hread, hr, -⟩ := read_request (c := c) h.agree rfl hs hu h.ciphers
    have hl := Service.arrive_of_read e.service hs hread
    -- to read the request has used the cipher, which shows nowhere
    obtain ⟨s, hse⟩ : ∃ s, s = (Service.read e.service c b j.service).2 := ⟨_, rfl⟩
    rw [← hse] at hl
    obtain ⟨hserved, hc, -⟩ := Service.answer_spec (c := c) e.reliable r s
    obtain ⟨fs, hw, ha⟩ := agree_answer (s := s) h.agree (by rw [hse]; rfl) hs hu
      (by rw [hse]; exact h.ciphers) hr
    have hj : Facing e c n o { j with
        client := h', service := (Service.answer e.service c r s).2 } := by
      refine h.of_written fs rfl (hw.trans (by rw [hse]; rfl)) (hc.trans (by rw [hse]; rfl)) ?_
      have hi : (Service.answer e.service c r s).2.isServed c = j.service.isServed c := by
        rw [Service.isServed, hserved, hse]
        rfl
      simpa only [view, viewOf, h1, h2, h3, ht, hi] using ha
    rcases hl with hr | ⟨exit, hr⟩
    · rw [hr]
      refine ⟨hj.taken, hj.ciphers, ?_⟩
      rw [view, Service.isServed_await]
      exact hj.agree
    · rw [hr]
      exact hj.conclude c exit

end Facing

end SealedSession.Connection
