import SealedSession.Proofs.Envelope.RoundTrip
import SealedSession.Proofs.Service.Conduct
import SealedSession.Service

/-!
# The steps of a service, seen from one connection

What a service does shows on a connection in four places: the frames that were written on it, its
record, whether it is served, and the cipher, whose state changes only as it is used. The lemmas
below say for each step of the service what becomes of them.

* `conclude_spec`, `conclude_of_ne`: a session ends, this one or another.
* `answer_spec`: a request was read, and is answered by a reliable application.
* `arrive_of_read`: the same with what follows if the answer fails.
* `pass_induction`: time passes.
-/

namespace SealedSession

/-- Whether a frame ends a connection or holds an ordinary response that everybody can read. -/
def Frame.Calm (f : Frame) : Prop :=
  (∃ info, f = .close info) ∨
    ∃ (m : Response) (bytes : Bytes), m.isOrdinary = true ∧ f = .envelope bytes ∧
      Envelope.encodePlain m = .ok bytes

namespace Switchboard

theorem close_cases (b : Exchange) (c : ConnectionId) (code : UInt16) (reason : String) :
    ∃ fs, Exchange.Speaks c b (b.close c code reason).2 fs ∧ ∀ f ∈ fs, f.Calm := by
  change ∃ fs, Exchange.Speaks c b (b.setLink c ((b.links c).close code reason).2) fs ∧ _
  unfold Socket.close Socket.write
  split
  · dsimp only
    split
    · exact ⟨[], ⟨rfl, rfl, by simp⟩, by simp⟩
    · refine ⟨[.close ⟨code, reason⟩], ⟨rfl, rfl, by simp⟩, fun f hf ↦ ?_⟩
      rw [List.mem_singleton.mp hf]
      exact .inl ⟨_, rfl⟩
  · exact ⟨[], ⟨rfl, rfl, by simp⟩, by simp⟩

/-- Whoever is told that a session has ended is told so in a calm frame. -/
theorem notify_cases (b : Exchange) (c : ConnectionId) (removed : Option SessionRecord)
    (reason : StopReason) (message : String) :
    ∃ fs, Exchange.Speaks c b (b.notify c removed reason message).2 fs ∧ ∀ f ∈ fs, f.Calm := by
  cases removed with
  | none => exact close_cases b c _ _
  | some r =>
    unfold notify
    dsimp only
    split
    · cases he : Envelope.encodePlain (Response.sessionError reason message) with
      | error e => exact ⟨[], .refl b, by simp⟩
      | ok bytes =>
        rcases b.transmit_cases c bytes with ⟨-, hs⟩ | ⟨e, -, hs⟩
        · refine ⟨_, hs, fun f hf ↦ ?_⟩
          rw [List.mem_singleton.mp hf]
          exact .inr ⟨_, bytes, rfl, rfl, he⟩
        · exact ⟨[], hs, by simp⟩
    · exact ⟨[], .refl b, by simp⟩

end Switchboard

namespace Service

variable {A : Type} {c : ConnectionId}

/-- What has been written on a connection. -/
def written (c : ConnectionId) (s : Service A) : List Frame := (s.exchange.links c).written

/-- The record of a connection. -/
def record? (c : ConnectionId) (s : Service A) : Option SessionRecord :=
  s.exchange.directory.record? c

theorem conclude_exchange (c : ConnectionId) (exit : Exit) (s : Service A) :
    (s.conclude c exit).2.exchange = (({ s.exchange with
      directory := (s.exchange.directory.remove c).1 } : Exchange).notify c
        (s.exchange.directory.record? c) exit.reason exit.message).2 := by
  unfold conclude Switchboard.stop Switchboard.release Directory.remove
  cases s.exchange.directory.record? c <;> rfl

theorem conclude_served (c : ConnectionId) (exit : Exit) (s : Service A) :
    (s.conclude c exit).2.served = s.served.filter fun t ↦ t.connection ≠ c := by
  unfold conclude
  cases s.exchange.directory.record? c <;> rfl

/-- An ended session is told so calmly, and leaves no record. -/
theorem conclude_spec (c : ConnectionId) (exit : Exit) (s : Service A) :
    (s.conclude c exit).2.exchange.ciphers = s.exchange.ciphers ∧
    (s.conclude c exit).2.record? c = none ∧ (s.conclude c exit).2.isServed c = false ∧
    ∃ fs, (s.conclude c exit).2.written c = s.written c ++ fs ∧ ∀ f ∈ fs, f.Calm := by
  obtain ⟨fs, hs, hc⟩ := Switchboard.notify_cases
    ({ s.exchange with directory := (s.exchange.directory.remove c).1 } : Exchange) c
    (s.exchange.directory.record? c) exit.reason exit.message
  rw [← conclude_exchange] at hs
  refine ⟨hs.ciphers, ?_, isServed_conclude c exit s, fs, hs.written, hc⟩
  rw [record?, hs.directory]
  exact Directory.record?_remove _ c

/-- The end of another session does not show. -/
theorem conclude_of_ne {d : ConnectionId} (h : c ≠ d) (exit : Exit) (s : Service A) :
    (s.conclude d exit).2.exchange.ciphers = s.exchange.ciphers ∧
    (s.conclude d exit).2.record? c = s.record? c ∧
    (s.conclude d exit).2.isServed c = s.isServed c ∧
    (s.conclude d exit).2.written c = s.written c := by
  have hx := conclude_exchange d exit s
  refine ⟨?_, ?_, ?_, ?_⟩
  · rw [hx, Switchboard.notify_eq]
  · rw [record?, hx, Switchboard.notify_eq]
    exact Directory.record?_remove_of_ne _ h
  · rw [isServed, conclude_served, isServed, List.any_filter]
    congr 1
    funext t
    by_cases ht : t.connection = c
    · simp [ht, h]
    · simp [ht]
  · rw [written, hx, Switchboard.links_notify_of_ne _ h]
    rfl

variable (g : Settings A)

@[simp] theorem isServed_await (c d : ConnectionId) (s : Service A) :
    (s.await g d).isServed c = s.isServed c := by
  simp only [await, isServed, List.any_map]
  congr 1
  funext t
  simp only [Function.comp]
  split <;> rfl

/-- A request that was read is answered in the mode of the record; or trust is confirmed in that
mode, and the connection has a record of who asked from then on. -/
theorem answer_spec {g : Settings A} (hg : g.application.Reliable g.identity) (r : Request)
    (s : Service A) :
    (answer g c r s).2.served = s.served ∧
    (answer g c r s).2.exchange.ciphers = s.exchange.ciphers ∧
    ((∃ fs, (answer g c r s).2.written c = s.written c ++ fs ∧
        (answer g c r s).2.record? c = s.record? c ∧
        Exchange.Ordinary s.exchange.ciphers (s.record? c) fs) ∨
    ∃ i bytes fs record, r = .checkTrust i ∧
      Exchange.envelope s.exchange.cipher (s.record? c) (.isTrusted g.identity) = .ok bytes ∧
      (answer g c r s).2.record? c = some record ∧
      (record.identity = i ∨ s.record? c = some record) ∧
      (answer g c r s).2.written c = s.written c ++ .envelope bytes :: fs ∧
      Exchange.Ordinary s.exchange.ciphers (some record) fs) := by
  have hand_spec (hr : r.asksForTrust = false) :
      ∃ fs, Exchange.Speaks c s.exchange (hand g c r s).2.exchange fs ∧
        Exchange.Ordinary s.exchange.ciphers (s.record? c) fs :=
    Program.run_answers (hg.answers s.app c r hr) s.exchange
  have served_hand : (hand g c r s).2.served = s.served := rfl
  cases r with
  | keepAlive identity =>
    obtain ⟨fs, hs, ho⟩ := Exchange.reply_ordinary s.exchange c (m := .keepAlive) rfl
    exact ⟨rfl, hs.ciphers, .inl ⟨fs, hs.written, congrArg (·.record? c) hs.directory, ho⟩⟩
  | checkTrust i =>
    refine ⟨rfl, ?_⟩
    rcases Program.run_trusts (c := c) (hg.trusts s.app c i) s.exchange with ⟨fs, hs, ho⟩ |
      ⟨bytes, fs, record, he, hc, hd, hi, hw, ho⟩
    · exact ⟨hs.ciphers, .inl ⟨fs, hs.written, congrArg (·.record? c) hs.directory, ho⟩⟩
    · exact ⟨hc, .inr ⟨i, bytes, fs, record, rfl, he, hd, hi, hw, ho⟩⟩
  | identify | sendPreKeys | startSession | feature =>
    obtain ⟨fs, hs, ho⟩ := hand_spec rfl
    exact ⟨served_hand, hs.ciphers, .inl ⟨fs, hs.written, congrArg (·.record? c) hs.directory, ho⟩⟩

/-- A request that was read is answered, and the connection is served on or its session ends. -/
theorem arrive_of_read {bytes : Bytes} {r : Request} {s : Service A}
    (hs : s.isServed c = true) (hr : (read g c bytes s).1 = .ok (some r)) :
    let t := (read g c bytes s).2
    arrive g c (.envelope bytes) s = (answer g c r t).2.await g c ∨
      ∃ exit, arrive g c (.envelope bytes) s = ((answer g c r t).2.conclude c exit).2 := by
  intro t
  have hl : receive g c (.envelope bytes) s = exitOn .serverError (answer g c r t) := by
    change take g c bytes { s with exchange := s.exchange.setLink c (s.exchange.links c) } = _
    rw [Switchboard.setLink_self, take, show read g c bytes s = (_, t) from Prod.ext hr rfl]
  rw [arrive, if_pos hs, hl]
  rcases answer g c r t with ⟨_ | _, u⟩
  · exact .inr ⟨_, rfl⟩
  · exact .inl rfl

/-- A connection that ends otherwise than by an envelope ends its session. -/
theorem arrive_of_end {a : Arrival} {s : Service A} (hs : s.isServed c = true)
    (ha : ∀ bytes, a ≠ .envelope bytes) :
    ∃ exit l, l.written = s.written c ∧ arrive g c a s =
      (({ s with exchange := s.exchange.setLink c l } : Service A).conclude c exit).2 := by
  rw [arrive, if_pos hs]
  cases a with
  | envelope bytes => exact absurd rfl (ha bytes)
  | closed info => exact ⟨.closed, ((s.exchange.links c).receive (.closed info)).2, rfl, rfl⟩
  | broken system =>
    exact ⟨.closed, ((s.exchange.links c).receive (.broken system)).2, rfl, rfl⟩

theorem arrive_of_not_served {a : Arrival} {s : Service A} (hs : s.isServed c = false) :
    arrive g c a s = s := by
  rw [arrive, if_neg (by rw [hs]; exact Bool.false_ne_true)]

theorem foldl_conclude {P : Service A → Prop} (step : ∀ s d exit, P s → P (s.conclude d exit).2)
    (late : List Served) {s : Service A} (h : P s) :
    P (late.foldl (fun s t ↦ (s.conclude t.connection .idle).2) s) := by
  induction late generalizing s with
  | nil => exact h
  | cons t late ih => exact ih (step s t.connection .idle h)

/-- What holds whatever the time is and whichever session ends holds after any time. -/
theorem pass_induction {P : Service A → Prop} {s : Service A}
    (base : ∀ now, P { s with now := now })
    (step : ∀ s d exit, P s → P (s.conclude d exit).2) (span : Nat) : P (s.pass span) :=
  foldl_conclude step _ (base _)

end Service

end SealedSession
