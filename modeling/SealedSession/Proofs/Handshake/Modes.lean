import SealedSession.IdentityStore.Scripted
import SealedSession.Proofs.Envelope.RoundTrip
import SealedSession.Proofs.Handshake.Phases
import SealedSession.Proofs.Handshake.Posting

/-!
# What is queued plainly, and what is encrypted

A client changes between plain and encrypted envelopes once in the life of a connection: with the
trust of the server. Whatever makes it send, and whatever fails on the way, an envelope that is
queued while it connects is plain, and one that is queued while it is connected is encrypted for
the server whose trust connected it.

* `Envelope.IsPlain`, `Envelope.IsSealed`: an envelope of a request, and what its reader learns.
* `Confirmed`: the server whose trust connected the client.
* `Carried`: the envelope that a request was put into, at the end of a history.
* `taken_append_queued`: what was queued on a channel leaves it in that order.
* `plain_then_sealed`: all of that for every run.
-/

namespace SealedSession

namespace Envelope

/-- An envelope that fits, behind the header of a mode. -/
structure Framed (mode : Mode) (bytes : Bytes) : Prop where
  size : bytes.length ≤ 32767
  header : ∃ payload, bytes = header mode ++ payload

/-- A plain envelope from which everybody reads the request. -/
structure IsPlain (r : Request) (bytes : Bytes) : Prop where
  framed : Framed .plain bytes
  read : ∀ complaint cipher sender,
    decode Request complaint cipher sender bytes = .ok (some r.erased)

/-- An envelope that was encrypted for a recipient. Whoever undoes the cipher reads the request from
it, unless the request is larger than an envelope may be even before it is encrypted. -/
structure IsSealed (c : Cipher) (recipient : Identity) (r : Request) (bytes : Bytes) : Prop where
  framed : Framed .encrypted bytes
  encrypted : ∃ secret, c.encrypt (Payload.encode r) recipient = .ok secret ∧
    bytes = header .encrypted ++ secret
  read : ∀ complaint d sender, d.Inverts sender c recipient →
    decode Request complaint (some d) (some sender) bytes =
      if (Payload.encode r).length ≤ 32767 then .ok (some r.erased)
      else .error (.tooLarge (Payload.encode r).length 32767)

theorem framed_of_write {mode : Mode} {payload bytes : Bytes} (h : write mode payload = .ok bytes) :
    Framed mode bytes := by
  obtain ⟨hs, rfl⟩ := write_ok h
  exact ⟨length_header_append hs, payload, rfl⟩

/-- The header tells the mode. -/
theorem Framed.peekMode {mode : Mode} {bytes : Bytes} (h : Framed mode bytes) :
    peekMode bytes = .ok (some mode) := by
  obtain ⟨payload, rfl⟩ := h.header
  rw [Envelope.peekMode, readHeader_header]
  exact congrArg Except.ok (Mode.ofWire?_toWire mode)

theorem isPlain_of_encodePlain {r : Request} {bytes : Bytes} (h : encodePlain r = .ok bytes) :
    IsPlain r bytes where
  framed := framed_of_write h
  read _ := decode_encodePlain h

theorem isSealed_of_encodeFor {c : Cipher} {recipient : Identity} {r : Request} {bytes : Bytes}
    (h : encodeFor (some c) (some recipient) r = .ok bytes) : IsSealed c recipient r bytes := by
  obtain ⟨secret, he, hw⟩ := encodeFor_ok h
  exact ⟨framed_of_write hw, ⟨secret, he, (write_ok hw).2⟩, fun _ _ _ ↦ decode_inverted he hw⟩

end Envelope

/-- Being connected can only end. -/
theorem Edge.from_connected {stored : Bool} {c : Cause} {p q : Place} (he : Edge stored c p q)
    (hp : p.state = .connected) : q.state = .disconnected := by
  cases he with
  | left => rfl
  | _ => cases hp

/-- A client that stays connected keeps its server. -/
theorem Standing.Step.server_eq {limit : Option Nat} {c : Cause} {s s' : Standing}
    (hs : Step limit c s s') (sound : s.Sound limit) (hc : s.state = .connected)
    (hc' : s'.state = .connected) : s'.server = s.server := by
  cases hs with
  | same | refused | cleared | released => rfl
  | opened lock hb | openedWithStore lock hb =>
    rw [sound.state_of_unbound hb] at hc
    cases hc
  | left =>
    rw [Standing.state_changeState] at hc'
    cases hc'
  | failed hc hk =>
    cases hx : Handshake.exceeds (s.failures + 1).toNat limit with
    | some n =>
      rw [failed_of_some hx, Standing.state_changeState] at hc'
      cases hc'
    | none => rw [failed_of_none hx]
  | heard m _ hx =>
    cases m with
    | isTrusted identity =>
      have hp : s.phase = some .awaitingTrustDecision := by simpa [Handshake.expects] using hx
      rw [sound.state_of_phase hp] at hc
      cases hc
    | sessionFailed failure | isUntrusted =>
      rw [Standing.after, Standing.state_changeState] at hc'
      cases hc'
    | identify _ _ _ | registerDevice _ _ | deviceRegistered _ _ => exact server_setPhase _ _
    | sendPreKeys _ _ | resendPreKeys _ | startSession =>
      rw [Standing.after]
      split
      · exact server_setPhase _ _
      · rfl
    | keepAlive | feature _ => rfl

namespace Handshake

variable {S W : Type} (g : Settings S W)

/-! ## The server of a connection -/

/-- The trust of this server connected the client, which has stayed so since. -/
def Confirmed (past : List (Moment S W)) (server : ServerIdentity) : Prop :=
  ∃ before t since, past = before ++ t :: since ∧ t.before.state = .connecting ∧
    t.Accepted g (.isTrusted server) ∧ ∀ u ∈ t :: since, u.after.state = .connected

/-- A connected client keeps the server whose trust connected it. -/
theorem confirmed_run (world : W) (ops : List (Operation W)) :
    let h : Handshake S W := run g (start world) ops
    h.state = .connected →
      ∃ server, h.serverIdentity = some server ∧ Confirmed g (history g (start world) ops) server := by
  refine sound_history_induction g (P := fun past h ↦ h.state = .connected →
    ∃ server, h.serverIdentity = some server ∧ Confirmed g past server) world
    (fun hc ↦ by cases hc) ?_ ops
  intro past h op hs hp hc'
  rcases Standing.edge_of_step hs (step_perform g h op) with he | he
  · have hc : h.state = .connected := (congrArg Place.state he).symm.trans hc'
    obtain ⟨server, hi, before, t, since, rfl, hb, ha, hu⟩ := hp hc
    refine ⟨server, ((step_perform g h op).server_eq hs hc hc').trans hi, before, t,
      since ++ [moment g h op], by simp, hb, ha, ?_⟩
    intro u hm
    rw [← List.cons_append, List.mem_append, List.mem_singleton] at hm
    obtain hm | rfl := hm
    · exact hu u hm
    · exact hc'
  · obtain ⟨server, hcause, hplace⟩ := he.of_connected hc'
    have ha : (moment g h op).Accepted g (.isTrusted server) := accepted_of_cause g hcause
    refine ⟨server, serverIdentity_of_trusted g hs ha, past, _, [], rfl,
      congrArg Place.state hplace, ha, ?_⟩
    intro u hm
    rw [List.mem_singleton.mp hm]
    exact hc'

/-! ## The envelope of a request -/

/-- The envelope that a request was put into, at the end of a history: a plain one while the client
connects, and one that the cipher of its store has encrypted for the confirmed server once it is
connected. -/
inductive Carried (past : List (Moment S W)) (h : Handshake S W) (r : Request) (bytes : Bytes) :
    Prop where
  | plainly (connecting : h.state = .connecting) (plain : Envelope.IsPlain r bytes)
  | encrypted (connected : h.state = .connected) (server : ServerIdentity)
      (confirmed : Confirmed g past server) (s : S) (kept : h.store = some s) (w : W)
      (secret : Envelope.IsSealed (g.stores.cipher s w).1 server.identity r bytes)

variable {g} in
/-- The state tells the mode. -/
theorem Carried.framed {past : List (Moment S W)} {h : Handshake S W} {r : Request} {bytes : Bytes}
    (hc : Carried g past h r bytes) :
    Envelope.Framed (if h.state = .connected then .encrypted else .plain) bytes := by
  cases hc with
  | plainly hs hp =>
    rw [hs]
    exact hp.framed
  | encrypted hs _ _ _ _ _ hp =>
    rw [if_pos hs]
    exact hp.framed

/-- Whatever is queued is carried by the envelope of the moment. -/
theorem carried_of_envelope (world : W) (ops : List (Operation W)) {r : Request} {bytes : Bytes}
    {w : W} (hb : (run g (start world : Handshake S W) ops).outbound.isBound = true)
    (he : envelope g r ((run g (start world : Handshake S W) ops).inWorld w) = .ok bytes) :
    Carried g (history g (start world) ops) (run g (start world) ops) r bytes := by
  have hs := sound_run g world ops
  have hd := hs.bound_iff.mp hb
  have hi := confirmed_run g world ops
  generalize run g (start world) ops = h at hs hd hi he ⊢
  by_cases hc : h.state = .connected
  · obtain ⟨server, hv, hf⟩ := hi hc
    obtain ⟨s, hst⟩ := Option.isSome_iff_exists.mp (hs.stored_of_connected hc)
    rw [envelope_of_connected g r (h := h.inWorld w) hc,
      cipher?_of_some g (h := h.inWorld w) hst] at he
    change Envelope.encodeFor _ (h.serverIdentity.map (·.identity)) r = _ at he
    rw [hv] at he
    exact .encrypted hc server hf s hst w (Envelope.isSealed_of_encodeFor he)
  · rw [envelope_of_ne g r (h := h.inWorld w) hc] at he
    refine .plainly ?_ (Envelope.isPlain_of_encodePlain he)
    cases hst : h.state with
    | connecting => rfl
    | connected => exact absurd hst hc
    | disconnected => exact absurd hst hd

/-- So is what an operation queues, at the end of the history that it becomes part of. -/
theorem carried_at (world : W) (ops : List (Operation W)) (op : Operation W) {r : Request}
    {bytes : Bytes} {w : W} {c : Nat} :
    let t : Moment S W := moment g (run g (start world) ops) op
    t.after.outbound.bound = some c → envelope g r (t.after.inWorld w) = .ok bytes →
      Carried g (history g (start world) (ops ++ [op])) t.after r bytes := by
  intro t hb he
  have ha : run g (start world) (ops ++ [op]) = t.after := run_append g _ ops [op]
  rw [← ha] at hb he ⊢
  refine carried_of_envelope g world (ops ++ [op]) ?_ he
  rw [Outbound.isBound, hb]
  rfl

/-- What is queued at a moment is one request that is due, in the envelope of that moment. -/
theorem carried_posted (world : W) (ops : List (Operation W)) (op : Operation W) (n : Nat) :
    let t : Moment S W := moment g (run g (start world) ops) op
    t.posted n = [] ∨ ∃ r bytes, t.posted n = [bytes] ∧ Due g t.before op r ∧
      t.after.outbound.bound = some n ∧
      Carried g (history g (start world) (ops ++ [op])) t.after r bytes := by
  intro t
  by_cases hn : t.posted n = []
  · exact .inl hn
  · obtain ⟨⟨r, hd, bytes, w, hp, he⟩, hb, -⟩ := sends_of_posted g hn
    exact .inr ⟨r, bytes, hp, hd, hb, carried_at g world ops op hb he⟩

/-! ## One connection -/

/-- A client that does not disconnect first connects and then stays connected. -/
theorem states_of_connection {h : Handshake S W} (hs : h.standing.Sound g.refreshLimit)
    (ops : List (Operation W)) (hd : ∀ t ∈ history g h ops, t.after.state ≠ .disconnected) :
    ∃ early late, history g h ops = early ++ late ∧ (∀ t ∈ early, t.after.state = .connecting) ∧
      (∀ t ∈ late, t.after.state = .connected) ∧ (h.state = .connected → early = []) := by
  induction ops generalizing h with
  | nil => exact ⟨[], [], rfl, by simp, by simp, fun _ ↦ rfl⟩
  | cons op ops ih =>
    obtain ⟨hd₁, hd₂⟩ := List.forall_mem_cons.mp hd
    obtain ⟨early, late, he, hf, hr, hn⟩ := ih (hs.step (step_perform g h op)) hd₂
    cases hc : (perform g h op).2.state with
    | disconnected => exact absurd hc hd₁
    | connected =>
      obtain rfl := hn hc
      refine ⟨[], moment g h op :: late, by rw [history, he]; rfl, by simp, ?_, fun _ ↦ rfl⟩
      exact List.forall_mem_cons.mpr ⟨hc, hr⟩
    | connecting =>
      refine ⟨moment g h op :: early, late, by rw [history, he]; rfl,
        List.forall_mem_cons.mpr ⟨hc, hf⟩, hr, fun hb ↦ ?_⟩
      -- no edge leads from being connected back to connecting
      rcases Standing.edge_of_step hs (step_perform g h op) with hp | hp
      · have hp' : (perform g h op).2.state = h.state := congrArg Place.state hp
        rw [hc, hb] at hp'
        cases hp'
      · exact absurd (hp.from_connected hb) hd₁

/-- A client that does not disconnect stays bound to one channel. -/
theorem bound_of_connection {h : Handshake S W} (hs : h.standing.Sound g.refreshLimit)
    (ops : List (Operation W)) (hd : ∀ t ∈ history g h ops, t.after.state ≠ .disconnected) :
    ∃ n, ∀ t ∈ history g h ops, t.after.outbound.bound = some n := by
  have kept {n : Nat} (ops : List (Operation W)) {h : Handshake S W} (hb : h.outbound.bound = some n)
      (hd : ∀ t ∈ history g h ops, t.after.state ≠ .disconnected) :
      ∀ t ∈ history g h ops, t.after.outbound.bound = some n := by
    induction ops generalizing h with
    | nil => simp [history]
    | cons op ops ih =>
      obtain ⟨hd₁, hd₂⟩ := List.forall_mem_cons.mp hd
      have hb' := ((traffic_perform g h op).bound hb).resolve_right hd₁
      exact List.forall_mem_cons.mpr ⟨hb', ih hb' hd₂⟩
  cases ops with
  | nil => exact ⟨0, by simp [history]⟩
  | cons op ops =>
    obtain ⟨hd₁, hd₂⟩ := List.forall_mem_cons.mp hd
    obtain ⟨n, hb⟩ := Option.isSome_iff_exists.mp
      ((hs.step (step_perform g h op)).bound_iff.mpr hd₁)
    exact ⟨n, List.forall_mem_cons.mpr ⟨hb, kept ops hb hd₂⟩⟩

/-! ## The order of envelopes -/

/-- What a writer took from a channel at a moment. -/
def Moment.taken (t : Moment S W) (n : Nat) : List Bytes :=
  match t.operation with
  | .takeEnvelope c => if n = c then (t.before.queued n).take 1 else []
  | _ => []

/-- At any moment, envelopes enter a channel at its end and leave it at its head, unless its writer
goes away with everything that is still queued. -/
theorem taken_append_posted (h : Handshake S W) (op : Operation W) (n : Nat) :
    (moment g h op).taken n ++ (moment g h op).after.queued n =
      h.queued n ++ (moment g h op).posted n ∨
    (op = .dropReceiving n ∧ (moment g h op).taken n = [] ∧ (moment g h op).posted n = [] ∧
      (moment g h op).after.queued n = []) := by
  by_cases ho : ∃ c, op = .takeEnvelope c
  · obtain ⟨c, rfl⟩ := ho
    have hq : (moment g h (.takeEnvelope c)).after.queued n =
      if n = c then (h.queued n).tail else h.queued n := Outbound.queued_taken _ c n
    refine .inl ?_
    rw [Moment.posted, hq]
    by_cases hn : n = c
    · simp only [Moment.taken, moment, if_pos hn]
      cases h.queued n <;> simp
    · simp [Moment.taken, moment, hn]
  · have ht : (moment g h op).taken n = [] := by
      cases op with
      | takeEnvelope c => exact absurd ⟨c, rfl⟩ ho
      | _ => rfl
    rcases (traffic_perform g h op).queued_cases with hq | ⟨c, r, bytes, w, -, -, -, -, hq⟩ |
      ⟨c, rfl, -⟩ | ⟨c, rfl, hq⟩
    · refine .inl ?_
      rw [ht]
      simp [Moment.posted, moment, hq n]
    · refine .inl ?_
      rw [ht]
      simp [Moment.posted, moment, hq n]
    · exact absurd ⟨c, rfl⟩ ho
    · by_cases hn : n = c
      · subst hn
        exact .inr ⟨rfl, ht, by simp [Moment.posted, moment, hq n], by simp [moment, hq n]⟩
      · refine .inl ?_
        rw [ht]
        simp [Moment.posted, moment, hq n, hn]

/-- What left a channel is the beginning of what was queued on it, in the same order. As long as
somebody is there to take it, the rest is still queued. -/
theorem taken_append_queued (world : W) (ops : List (Operation W)) (n : Nat) :
    let past := history g (start world : Handshake S W) ops
    let h : Handshake S W := run g (start world) ops
    past.flatMap (·.taken n) ++ h.queued n <+: past.flatMap (·.posted n) ∧
    (¬h.outbound.IsGone n →
      past.flatMap (·.taken n) ++ h.queued n = past.flatMap (·.posted n)) := by
  refine history_induction g (P := fun past h ↦
    past.flatMap (·.taken n) ++ h.queued n <+: past.flatMap (·.posted n) ∧
    (¬h.outbound.IsGone n →
      past.flatMap (·.taken n) ++ h.queued n = past.flatMap (·.posted n))) ?_ ?_ ops
  · simp [queued, Outbound.queued, start]
  · rintro past h op ⟨hp, he⟩
    simp only [List.flatMap_append, List.flatMap_singleton]
    have hg (hn : ¬(perform g h op).2.outbound.IsGone n) : ¬h.outbound.IsGone n :=
      fun hd ↦ hn ((traffic_perform g h op).isGone hd)
    rcases taken_append_posted g h op n with hq | ⟨rfl, ht, hn, hq⟩
    · change _ ++ (perform g h op).2.queued n = _ at hq
      rw [List.append_assoc, hq, ← List.append_assoc]
      by_cases hn : (moment g h op).posted n = []
      · rw [hn, List.append_nil, List.append_nil]
        exact ⟨hp, fun hd ↦ he (hg hd)⟩
      · -- nothing enters a channel that nobody empties
        rw [he (sends_of_posted g hn).2.2]
        exact ⟨List.prefix_rfl, fun _ ↦ rfl⟩
    · change (perform g h _).2.queued n = [] at hq
      rw [ht, hn, hq]
      simp only [List.append_nil]
      refine ⟨(List.prefix_append _ _).trans hp, fun hd ↦ ?_⟩
      have hc : h.outbound.channels[n]? = none := by
        by_contra hc
        obtain ⟨ch, hc⟩ := Option.ne_none_iff_exists'.mp hc
        exact hd (Outbound.isGone_dropReceiving hc)
      have hq' : h.queued n = [] := by simp [queued, Outbound.queued, hc]
      rw [← he (hg hd), hq', List.append_nil]

/-! ## Every run -/

/-- In every run, a moment queues nothing, or one request in the envelope of its state: plain while
the client connects, encrypted by the cipher of its store for the confirmed server once it is
connected. Hence what is queued until the client disconnects is a series of plain envelopes on one
channel, followed by a series of encrypted ones. Envelopes leave their channel in the order in which
they were queued. -/
theorem plain_then_sealed (world : W) (ops : List (Operation W)) :
    let past := history g (start world : Handshake S W) ops
    (∀ earlier t later, past = earlier ++ t :: later → ∀ n,
      t.posted n = [] ∨ ∃ r bytes, t.posted n = [bytes] ∧ Due g t.before t.operation r ∧
        Carried g (earlier ++ [t]) t.after r bytes) ∧
    (∀ earlier during later, past = earlier ++ (during ++ later) →
      (∀ t ∈ during, t.after.state ≠ .disconnected) →
      ∃ n plain secret, (∀ t ∈ during, ∀ m ≠ n, t.posted m = []) ∧
        during.flatMap (·.posted n) = plain ++ secret ∧
        (∀ bytes ∈ plain, Envelope.peekMode bytes = .ok (some .plain)) ∧
        ∀ bytes ∈ secret, Envelope.peekMode bytes = .ok (some .encrypted)) ∧
    ∀ n, past.flatMap (·.taken n) <+: past.flatMap (·.posted n) := by
  intro past
  have carried {earlier : List (Moment S W)} {t : Moment S W} {later : List (Moment S W)}
      (hp : past = earlier ++ t :: later) (n : Nat) :
      t.posted n = [] ∨ ∃ r bytes, t.posted n = [bytes] ∧ Due g t.before t.operation r ∧
        t.after.outbound.bound = some n ∧ Carried g (earlier ++ [t]) t.after r bytes := by
    obtain ⟨ops₁, op, rfl, rfl⟩ := history_split_cons g hp
    rw [← history_concat]
    exact carried_posted g world ops₁ op n
  refine ⟨fun earlier t later hp n ↦ ?_, fun earlier during later hp hd ↦ ?_, fun n ↦ ?_⟩
  · exact (carried hp n).imp_right fun ⟨r, bytes, hb, hr, _, hc⟩ ↦ ⟨r, bytes, hb, hr, hc⟩
  · obtain ⟨ops₁, ops', rfl, rfl, hr⟩ := history_split g hp
    obtain ⟨ops₂, ops₃, rfl, rfl, rfl⟩ := history_split g hr.symm
    have hs := sound_run g world ops₁
    obtain ⟨n, hn⟩ := bound_of_connection g hs ops₂ hd
    obtain ⟨early, late, hsplit, hearly, hlate, -⟩ := states_of_connection g hs ops₂ hd
    rw [hsplit] at hp hn ⊢
    have posted {t : Moment S W} (ht : t ∈ early ++ late) (m : Nat) : t.posted m = [] ∨
        ∃ bytes, t.posted m = [bytes] ∧ m = n ∧ Envelope.Framed
          (if t.after.state = .connected then .encrypted else .plain) bytes := by
      obtain ⟨before, since, hm⟩ := List.append_of_mem ht
      have hp' : past = (history g (start world) ops₁ ++ before) ++
          t :: (since ++ history g (run g (run g (start world) ops₁) ops₂) ops₃) := by
        rw [hp, hm]
        simp
      refine (carried hp' m).imp_right fun ⟨r, bytes, hb, _, hc, hr⟩ ↦ ⟨bytes, hb, ?_, hr.framed⟩
      exact Option.some.inj (hc.symm.trans (hn t ht))
    have framed {t : Moment S W} (ht : t ∈ early ++ late) {bytes : Bytes} (hb : bytes ∈ t.posted n) :
        Envelope.Framed (if t.after.state = .connected then .encrypted else .plain) bytes := by
      rcases posted ht n with he | ⟨bytes', he, -, hf⟩
      · rw [he] at hb
        cases hb
      · rw [he, List.mem_singleton] at hb
        rw [hb]
        exact hf
    refine ⟨n, early.flatMap (·.posted n), late.flatMap (·.posted n), ?_, List.flatMap_append,
      ?_, ?_⟩
    · intro t ht m hm
      exact (posted ht m).resolve_right fun ⟨_, _, he, _⟩ ↦ hm he
    · intro bytes hb
      obtain ⟨t, ht, hb⟩ := List.mem_flatMap.mp hb
      have hf := framed (List.mem_append_left _ ht) hb
      rw [hearly t ht] at hf
      exact hf.peekMode
    · intro bytes hb
      obtain ⟨t, ht, hb⟩ := List.mem_flatMap.mp hb
      have hf := framed (List.mem_append_right _ ht) hb
      rw [if_pos (hlate t ht)] at hf
      exact hf.peekMode
  · exact (List.prefix_append _ _).trans (taken_append_queued g world ops n).1

/-! ## A cipher that shortens -/

variable {g} in
/-- What a connected client sends is queued, if its envelope can be made and somebody is there to
take it. -/
theorem posted_send {h : Handshake S W} {r : Request} {bytes : Bytes} {n : Nat} {ch : Channel}
    (hc : h.state = .connected) (he : envelope g r h = .ok bytes)
    (hb : h.outbound.bound = some n) (hch : h.outbound.channels[n]? = some ch)
    (hr : ch.receiving = true) : (moment g h (.send r)).posted n = [bytes] := by
  obtain ⟨w, hw⟩ := sendRequest_of_envelope g he
  have ha : (perform g h (.send r)).2.outbound = (h.outbound.send bytes).1 := by
    change (send g r h).2.outbound = _
    rw [send_of_connected g r hc, hw]
  obtain ⟨c, hb', hp⟩ := posted_of_send (.send r) (Outbound.send_of_isOpen ⟨hb, ch, hch, hr⟩ bytes) ha
  obtain rfl : n = c := Option.some.inj (hb.symm.trans hb')
  exact (hp n).trans (if_pos rfl)

/-- A cipher for one message alone, which it knows by a single byte. -/
def codeword (plain : Bytes) : Cipher where
  encrypt message _ := if message = plain then .ok [0] else .error (.encrypt "no word for that")
  decrypt _ _ := .ok plain

theorem codeword_encrypt (plain : Bytes) (recipient : Identity) :
    (codeword plain).encrypt plain recipient = .ok [0] := if_pos rfl

theorem codeword_inverts (plain : Bytes) (sender recipient : Identity) :
    (codeword plain).Inverts sender (codeword plain) recipient := by
  intro message secret h
  rw [codeword] at h
  dsimp only at h
  split at h
  · next he => exact congrArg Except.ok he.symm
  · cases h

/-- A request that is too large for any plain envelope. -/
def longRequest : Request := .feature ⟨"", List.replicate 32768 0⟩

/-- A client whose store encrypts the long request by a codeword. -/
def laconic : Settings Identity Scripted.Ledger where
  stores := Scripted.stores
    ⟨true, true, ⟨default, [1], none⟩, [], some (codeword (Payload.encode longRequest)), []⟩
  session := ⟨default, "player", "server", .unverified, none⟩
  complaint _ := ""

/-- The client once it is connected. -/
def laconicConnected : Handshake Identity Scripted.Ledger :=
  run laconic (start []) [.createChannel, .onOpen 0 none, .hear (.identify default [] []),
    .hear .startSession, .hear (.isTrusted default)]

theorem laconicConnected_spec :
    laconicConnected.state = .connected ∧ laconicConnected.store = some ⟨default, [1], none⟩ ∧
    laconicConnected.serverIdentity = some default ∧
    laconicConnected.outbound.bound = some 0 ∧
    (laconicConnected.outbound.channels[0]?).map Channel.receiving = some true := by
  decide +kernel

/-- A connected client queues the long request in an envelope of thirteen bytes. The receiver undoes
the cipher, but refuses the request for its size. -/
theorem codeword_unread :
    let c := codeword (Payload.encode longRequest)
    let t := moment laconic laconicConnected (.send longRequest)
    (∀ s w, (laconic.stores.cipher s w).1 = c) ∧
    (∀ sender recipient, c.Inverts sender c recipient) ∧
    ∃ bytes, t.posted 0 = [bytes] ∧ ∀ complaint sender,
      Envelope.decode Request complaint (some c) (some sender) bytes =
        .error (.tooLarge (Payload.encode longRequest).length 32767) := by
  intro c t
  obtain ⟨hc, hs, hi, hb, hr⟩ := laconicConnected_spec
  obtain ⟨ch, hch, hr⟩ := Option.map_eq_some_iff.mp hr
  have hl : 32767 < (Payload.encode longRequest).length := by
    have hb := Request.length_body_le ⟨"", List.replicate 32768 0⟩
    rw [List.length_replicate] at hb
    exact hb
  have he : Envelope.encodeFor (some c) (some (default : Identity)) longRequest =
      .ok (Envelope.header .encrypted ++ [0]) := by
    rw [Envelope.encodeFor, codeword_encrypt]
    have hf : Envelope.headerLength + ([0] : Bytes).length ≤ Envelope.maxSize := by decide
    exact Envelope.write_of_le hf
  have hq : envelope laconic longRequest laconicConnected =
      .ok (Envelope.header .encrypted ++ [0]) := by
    rw [envelope_of_connected laconic longRequest hc, cipher?_of_some laconic hs, hi]
    exact he
  refine ⟨fun _ _ ↦ rfl, codeword_inverts _, _, posted_send hc hq hb hch hr, fun complaint sender ↦ ?_⟩
  rw [(Envelope.isSealed_of_encodeFor he).read complaint c sender (codeword_inverts _ _ _),
    if_neg (Nat.not_le_of_lt hl)]

end Handshake

end SealedSession
