import SealedSession.Proofs.Directory.Errands
import SealedSession.Proofs.Directory.Records
import SealedSession.Proofs.Envelope.RoundTrip

/-!
# What a stop comes to

A stop takes the record of a connection away, tells its callback of it, and then turns to the
connection: whoever had no record is closed, whoever had one and is still there is told why. The
callback may identify connections itself, and what it installs is not touched by what follows.

What a stop was caused by goes into the journal of the server, so it has no part in this.

To say how often something happens, the connections are `Watched`: they keep what is attempted on
them, also when it fails, and what callbacks are told.

* `Touch`, `Watched`: what is to be seen of a stop.
* `Errand.KeepsTo`: a callback that looks at the directory, and identifies one connection.
* `stop_attempts_once`: the main result.
-/

namespace SealedSession

/-! ## Connections that are watched -/

/-- What is to be seen of a stop. -/
inductive Touch where
  /-- Something is attempted on the connection. -/
  | attempt (f : Frame)
  /-- The callback is told, and finds the directory like this. -/
  | told (identity : Identity) (player : Player) (directory : Directory)

/-- A connection with what is to be seen of its stops, oldest first. -/
structure Watched (κ : Type) where
  link : κ
  touches : List Touch := []

/-- It is noted what is attempted, whatever comes of it. -/
instance {κ : Type} [Link κ] : Link (Watched κ) where
  isOpen w := Link.isOpen w.link
  send bytes w :=
    let (r, l) := Link.send bytes w.link
    (r, ⟨l, w.touches ++ [.attempt (.envelope bytes)]⟩)
  close code reason w :=
    let (r, l) := Link.close code reason w.link
    (r, ⟨l, w.touches ++ [.attempt (.close ⟨code, reason⟩)]⟩)

namespace Switchboard

variable {κ : Type}

/-- Notes that the callback of a stop is told. -/
def tell (b : Switchboard (Watched κ)) (c : ConnectionId) (identity : Identity) (player : Player) :
    Switchboard (Watched κ) :=
  let w := b.links c
  b.setLink c { w with touches := w.touches ++ [.told identity player b.directory] }

/-! ## Callbacks -/

/-- One switchboard differs from another in the record of one connection at most. -/
structure SameBut (c : ConnectionId) (b b' : Switchboard κ) : Prop where
  links : b'.links = b.links
  record : ∀ d, d ≠ c → b'.directory.record? d = b.directory.record? d

namespace SameBut

variable {c : ConnectionId} {b b' b'' : Switchboard κ}

theorem refl (b : Switchboard κ) : SameBut c b b := ⟨rfl, fun _ _ ↦ rfl⟩

theorem trans (h : SameBut c b b') (h' : SameBut c b' b'') : SameBut c b b'' where
  links := h'.links.trans h.links
  record d hd := (h'.record d hd).trans (h.record d hd)

theorem identify (b : Switchboard κ) (c : ConnectionId) (i : Identity) (p : Option BoundPlayer) :
    SameBut c b (b.identify c i p).2 where
  links := by
    unfold Switchboard.identify
    cases b.directory.identify c i p <;> rfl
  record _ hd := b.record?_identify_of_ne hd i p

theorem release (b : Switchboard κ) (c : ConnectionId) : SameBut c b (b.release c).2 where
  links := rfl
  record _ hd := b.directory.record?_remove_of_ne hd

end SameBut

end Switchboard

/-- An errand looks at the directory, and identifies one connection, however often. -/
inductive Errand.KeepsTo (c : ConnectionId) : Errand → Prop
  | done : KeepsTo c .done
  | look {next : Directory → Errand} (h : ∀ d, KeepsTo c (next d)) : KeepsTo c (.look next)
  | identify {i : Identity} {p : Option BoundPlayer} {onBound : Identity → Player → Errand}
      {next : Except DirectoryError Unit → Errand} (hb : ∀ i p, KeepsTo c (onBound i p))
      (hn : ∀ r, KeepsTo c (next r)) : KeepsTo c (.identify c i p onBound next)

/-- Such an errand leaves the connections alone, and the records of all others. -/
theorem Errand.KeepsTo.alone {κ : Type} [Link κ] {c : ConnectionId} {e : Errand}
    (h : e.KeepsTo c) (b : Switchboard κ) : b.SameBut c (e.alone b) := by
  induction h generalizing b with
  | done => exact .refl b
  | look _ ih => exact ih b.directory b
  | @identify i p onBound next _ _ ihBound ihNext =>
    have hi := Switchboard.SameBut.identify b c i p
    rw [Errand.alone]
    rcases hx : b.identify c i p with ⟨e | _ | q, b'⟩ <;> rw [hx] at hi
    · exact hi.trans (ihNext _ b')
    · exact hi.trans (ihNext _ b')
    · exact (hi.trans (ihBound q.identity q b')).trans (ihNext _ _)

/-! ## What becomes of the connection -/

namespace Switchboard

section

variable {κ : Type} [Link κ] {b : Switchboard κ} {c : ConnectionId} {reason : StopReason}
  {message : String}

/-- Nobody is told of a stop that finds no record. -/
theorem stop_of_none (h : b.directory.record? c = none)
    (onStopped : Identity → Player → Switchboard κ → Switchboard κ) :
    b.stop c reason message onStopped = (b.release c).2.notify c none reason message := by
  have hr : b.release c = (none, (b.release c).2) := Prod.ext h rfl
  rw [stop, hr]

/-- A stop that finds a record tells of it once the record is gone. -/
theorem stop_of_some {r : SessionRecord} (h : b.directory.record? c = some r)
    (onStopped : Identity → Player → Switchboard κ → Switchboard κ) :
    b.stop c reason message onStopped =
      (onStopped r.identity r.toPlayer (b.release c).2).notify c (some r) reason message := by
  have hr : b.release c = (some r, (b.release c).2) := Prod.ext h rfl
  rw [stop, hr]

/-- Who had a record, and is there, is told why the session has ended. -/
theorem notify_of_open (r : SessionRecord) (ho : Link.isOpen (b.links c) = true)
    (hl : Envelope.headerLength + (Payload.encode (Response.sessionError reason message)).length ≤
      Envelope.maxSize) :
    b.notify c (some r) reason message = b.transmit c
      (Envelope.header .plain ++ Payload.encode (Response.sessionError reason message)) := by
  have he : Envelope.encodePlain (Response.sessionError reason message) = .ok _ :=
    Envelope.write_of_le hl
  simp only [notify, ho, if_true, he]

/-- A text that fits no envelope is not told. -/
theorem notify_of_large (r : SessionRecord) (ho : Link.isOpen (b.links c) = true)
    (hl : Envelope.maxSize <
      Envelope.headerLength + (Payload.encode (Response.sessionError reason message)).length) :
    b.notify c (some r) reason message = (.error (.envelope (.tooLarge (Envelope.headerLength +
      (Payload.encode (Response.sessionError reason message)).length) Envelope.maxSize)), b) := by
  have he : Envelope.encodePlain (Response.sessionError reason message) = .error _ :=
    Envelope.write_of_lt hl
  simp only [notify, ho, if_true, he]

/-- Who had a record and is gone is not told anything. -/
theorem notify_of_closed (r : SessionRecord) (ho : Link.isOpen (b.links c) = false) :
    b.notify c (some r) reason message = (.ok (), b) := by
  simp only [notify, ho, Bool.false_eq_true, if_false]

end

section

variable {κ : Type} [Link κ] (b : Switchboard (Watched κ)) (c : ConnectionId) (reason : StopReason)
  (message : String) (onStopped : Identity → Player → Errand)

/-- What is left of a switchboard when the record of a connection has been taken away, and the
callback told of it. -/
def dismissed : Switchboard (Watched κ) :=
  let gone := (b.release c).2
  match b.directory.record? c with
  | none => gone
  | some r => (onStopped r.identity r.toPlayer).alone (gone.tell c r.identity r.toPlayer)

/-- A callback that keeps to the connection leaves the others alone, and is told once if there was
a record. -/
theorem links_dismissed (h : ∀ i p, (onStopped i p).KeepsTo c) :
    (∀ d, d ≠ c → (b.dismissed c onStopped).links d = b.links d ∧
      (b.dismissed c onStopped).directory.record? d = b.directory.record? d) ∧
    (b.dismissed c onStopped).links c = ⟨(b.links c).link, (b.links c).touches ++
      match b.directory.record? c with
      | none => []
      | some r => [.told r.identity r.toPlayer (b.directory.remove c).1]⟩ := by
  unfold dismissed
  cases b.directory.record? c with
  | none =>
    constructor
    · intro d hd
      exact ⟨rfl, (SameBut.release b c).record d hd⟩
    · simp [release]
  | some r =>
    have ha := (h r.identity r.toPlayer).alone ((b.release c).2.tell c r.identity r.toPlayer)
    dsimp only
    constructor
    · intro d hd
      rw [ha.links, ha.record d hd]
      exact ⟨links_setLink_of_ne _ hd _, (SameBut.release b c).record d hd⟩
    · rw [ha.links]
      exact links_setLink _ c _

/-- A stop turns to the connection when its callback has come back. -/
theorem stop_eq_notify_dismissed :
    b.stop c reason message (fun i p b ↦ (onStopped i p).alone (b.tell c i p)) =
      (b.dismissed c onStopped).notify c (b.directory.record? c) reason message := by
  cases hr : b.directory.record? c with
  | none => rw [stop_of_none hr, dismissed, hr]
  | some r => rw [stop_of_some hr, dismissed, hr]

end

/-- A stop removes the record of its connection, tells the callback, and does one thing more:

* The record is gone before the callback is told, and no other record is.
* A callback that keeps to the connection is told once if there was a record, with what it held, and
  changes nothing about the other connections.
* What the callback has left of the records stays, whatever comes of the rest, and nothing is
  attempted on other connections.
* If there was no record, the connection is closed with the code of the reason.
* If there was one, and the connection is open, the reason and the text are sent in one plain
  envelope, which everybody can read. A text that is too large for that is an error, and nothing is
  attempted.
* If there was one, but the connection is closed, nothing is attempted. -/
theorem stop_attempts_once {κ : Type} [Link κ] (b : Switchboard (Watched κ)) (c : ConnectionId)
    (reason : StopReason) (message : String) (onStopped : Identity → Player → Errand) :
    let gone := (b.release c).2
    let left := b.dismissed c onStopped
    let x := b.stop c reason message fun i p b ↦ (onStopped i p).alone (b.tell c i p)
    let m : Response := .sessionFailed (.sessionError reason message)
    let written := m.toJson.encode
    let bytes := [0, 0, 0, 0x22, 0, 0, 0, 2, 0, 0, 0xC0, 1] ++ written
    (gone.directory.record? c = none ∧
      ∀ d, d ≠ c → gone.directory.record? d = b.directory.record? d) ∧
    ((∀ i p, (onStopped i p).KeepsTo c) →
      (∀ d, d ≠ c → left.links d = b.links d ∧
        left.directory.record? d = b.directory.record? d) ∧
      left.links c = ⟨(b.links c).link, (b.links c).touches ++
        match b.directory.record? c with
        | none => []
        | some r => [.told r.identity ⟨r.identity, r.player⟩ gone.directory]⟩) ∧
    (x.2.directory = left.directory ∧ ∀ d, d ≠ c → x.2.links d = left.links d) ∧
    (b.directory.record? c = none →
      let (result, link) := Link.close reason.code "Session stopped" (left.links c).link
      x.1 = result.mapError .transport ∧
      x.2.links c = ⟨link, (left.links c).touches ++
        [.attempt (.close ⟨reason.code, "Session stopped"⟩)]⟩) ∧
    (b.directory.record? c ≠ none → Link.isOpen (left.links c).link = true →
      12 + written.length ≤ 32767 →
      let (result, link) := Link.send bytes (left.links c).link
      x.1 = result.mapError .transport ∧
      x.2.links c = ⟨link, (left.links c).touches ++ [.attempt (.envelope bytes)]⟩ ∧
      ∀ complaint cipher sender,
        Envelope.decode Response complaint cipher sender bytes = .ok (some m)) ∧
    (b.directory.record? c ≠ none → Link.isOpen (left.links c).link = true →
      32767 < 12 + written.length →
      x.1 = .error (.envelope (.tooLarge (12 + written.length) 32767)) ∧
      x.2.links c = left.links c) ∧
    (b.directory.record? c ≠ none → Link.isOpen (left.links c).link = false →
      x.1 = .ok () ∧ x.2.links c = left.links c) := by
  intro gone left x m written bytes
  have hx : x = left.notify c (b.directory.record? c) reason message :=
    b.stop_eq_notify_dismissed c reason message onStopped
  refine ⟨⟨b.directory.record?_remove c, (SameBut.release b c).record⟩,
    b.links_dismissed c onStopped, ?_, ?_, ?_, ?_, ?_⟩
  · rw [hx]
    exact ⟨directory_notify left c _ reason message,
      fun d hd ↦ left.links_notify_of_ne hd _ reason message⟩
  · intro hr
    rw [hx, hr]
    exact ⟨rfl, links_setLink _ c _⟩
  · intro hr ho hl
    obtain ⟨r, hr⟩ := Option.ne_none_iff_exists'.mp hr
    have hb : bytes = Envelope.header .plain ++ written := by rw [Envelope.header_plain]
    have hn : x = left.transmit c bytes := by rw [hx, hr, notify_of_open r ho hl, hb]; rfl
    rw [hn]
    refine ⟨rfl, links_setLink _ c _, ?_⟩
    intro complaint cipher sender
    rw [hb, Envelope.decode_plain cipher sender hl]
    exact Envelope.readPayload_encode m
  · intro hr ho hl
    obtain ⟨r, hr⟩ := Option.ne_none_iff_exists'.mp hr
    rw [hx, hr, notify_of_large r ho hl]
    exact ⟨rfl, rfl⟩
  · intro hr ho
    obtain ⟨r, hr⟩ := Option.ne_none_iff_exists'.mp hr
    rw [hx, hr, notify_of_closed r ho]
    exact ⟨rfl, rfl⟩

end Switchboard

end SealedSession
