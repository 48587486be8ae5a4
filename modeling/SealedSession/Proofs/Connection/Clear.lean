import SealedSession.IdentityStore.Scripted
import SealedSession.Proofs.Handshake.Events
import SealedSession.Proofs.Service.Removals
import SealedSession.Proofs.Service.Tenure

/-!
# What is said in the clear in an encrypted session

Both ends of a session encrypt from some moment on, and neither looks at the mode of what arrives.
A message of a feature that arrives in a plain envelope is therefore acted on like any other, and
whoever can put an envelope on the connection can send one.

* `features_of_clear`: what a connected client makes of a plain envelope.
* `handed_of_clear`: what a service makes of one.
* `clear_features_heard`: the messages of features that are acted on are those that a plain envelope
  brings; so there are none exactly if it brings none.
* `clear_features_acted_on`: a session in which both ends act on one.
-/

namespace SealedSession

/-- The message of a feature that a request brings. -/
def Request.feature? : Request → Option FeatureMessage
  | .feature m => some m
  | _ => none

namespace Handshake

variable {S W : Type} (g : Settings S W)

/-- A connected client accepts the message of a feature whatever the mode of its envelope. -/
theorem heard?_of_clear {h : Handshake S W} {bytes : Bytes} (hc : h.state = .connected)
    (hp : Envelope.peekMode bytes = .ok (some .plain)) :
    (heard? g bytes h).bind Response.feature? =
      (Envelope.clear? Response g.complaint bytes).bind Response.feature? := by
  have hn : h.state ≠ .disconnected := by
    rw [hc]
    decide
  rw [heard?, if_neg hn, reading, Envelope.decode_of_plain hp, Envelope.clear?]
  cases Envelope.decode Response g.complaint none none bytes with
  | error e => rfl
  | ok o =>
    cases o with
    | none => rfl
    | some m =>
      cases hf : m.feature? with
      | none =>
        dsimp only
        split
        · rfl
        · exact hf.symm
      | some message =>
        obtain rfl : m = .feature message := by
          cases m <;> cases hf
          rfl
        have hx : expects h.state h.phase (.feature message) = true := decide_eq_true hc
        dsimp only
        rw [if_pos hx]

theorem features_of_clear {h : Handshake S W} {bytes : Bytes} (hc : h.state = .connected)
    (hp : Envelope.peekMode bytes = .ok (some .plain)) :
    (receive g bytes h).2.features =
      h.features ++
        ((Envelope.clear? Response g.complaint bytes).bind Response.feature?).toList := by
  rw [features_receive, heard?_of_clear g hc hp]

end Handshake

namespace Service

variable {A : Type} (g : Settings A) {c : ConnectionId}

/-- The messages of features that the application was handed for a connection. -/
def handedFeatures (c : ConnectionId) (s : Service (Noted A)) : List FeatureMessage :=
  (s.app.logOf c).filterMap Request.feature?

theorem asked?_of_clear {s : Service A} {bytes : Bytes}
    (hp : Envelope.peekMode bytes = .ok (some .plain)) :
    (asked? g c (.envelope bytes) s).bind Request.feature? =
      (Envelope.clear? Request g.complaint bytes).bind Request.feature? := by
  rw [asked?, read, Switchboard.read, Envelope.decode_of_plain hp, Envelope.clear?]
  cases Envelope.decode Request g.complaint none none bytes with
  | error e => rfl
  | ok o =>
    cases o with
    | none => rfl
    | some r => cases r <;> rfl

/-- A service hands the message of a feature over whatever the mode of its envelope. -/
theorem handed_of_clear {s : Service (Noted A)} {bytes : Bytes} (hs : s.isServed c = true)
    (hp : Envelope.peekMode bytes = .ok (some .plain)) :
    (arrive g.noted c (.envelope bytes) s).handedFeatures c =
      s.handedFeatures c ++
        ((Envelope.clear? Request g.complaint bytes).bind Request.feature?).toList := by
  rw [show g.complaint = g.noted.complaint from rfl,
    ← asked?_of_clear g.noted (c := c) (s := s) hp, handedFeatures, Noted.logOf, log_arrive g hs,
    handedFeatures, Noted.logOf]
  cases asked? g.noted c (.envelope bytes) s with
  | none => simp
  | some r => cases hr : r.feature? <;> simp [hr]

end Service

namespace Connection

open Handshake Service

/-- What arrives in the clear in an encrypted session is acted on: of a plain envelope the client
emits, and the application of the service is handed, the message of a feature that it brings, and
nothing if it brings none. -/
theorem clear_features_heard (S W A : Type) (g : Handshake.Settings S W) (k : Service.Settings A)
    (bytes : Bytes) :
    (∀ h : Handshake S W, h.state = .connected → Envelope.peekMode bytes = .ok (some .plain) →
      (receive g bytes h).2.features =
        h.features ++
          ((Envelope.clear? Response g.complaint bytes).bind Response.feature?).toList) ∧
    ∀ (c : ConnectionId) (s : Service (Noted A)), s.isServed c = true → s.record? c ≠ none →
      Envelope.peekMode bytes = .ok (some .plain) →
      (arrive k.noted c (.envelope bytes) s).handedFeatures c =
        s.handedFeatures c ++
          ((Envelope.clear? Request k.complaint bytes).bind Request.feature?).toList :=
  ⟨fun _ hc hp ↦ features_of_clear g hc hp, fun _ _ hs _ hp ↦ handed_of_clear k hs hp⟩

/-- A client whose session needs no verification. -/
def guest : Handshake.Settings Identity Scripted.Ledger where
  stores := Scripted.stores ⟨true, true, ⟨default, [1], none⟩, [], none, []⟩
  session := ⟨default, "player", "server", .unverified, none⟩
  complaint _ := ""

/-- The client once it is connected. -/
def guestConnected : Handshake Identity Scripted.Ledger :=
  Handshake.run guest (Handshake.start []) [.createChannel, .onOpen 0 none,
    .hear (.identify default [] []), .hear .startSession, .hear (.isTrusted default)]

/-- A service once it has identified somebody. -/
def parlourVisited : Hosted (Noted Trusting.Players) :=
  Hosted.run Hosted.parlour.noted (Hosted.start Hosted.parlour.noted ⟨[], []⟩)
    [.accept, .arrive ⟨0⟩ (.envelope (Hosted.plainly (.checkTrust ⟨default, [1], none⟩)))]

/-- Both ends of an encrypted session act on the message of a feature that arrives in the clear. -/
theorem clear_features_acted_on :
    (guestConnected.state = .connected ∧ guestConnected.features = [] ∧
      (perform guest guestConnected (.hear (.feature ⟨"echo", [3]⟩))).2.features =
        [⟨"echo", [3]⟩]) ∧
    parlourVisited.service.isServed ⟨0⟩ = true ∧
    parlourVisited.service.record? ⟨0⟩ = some ⟨⟨0⟩, ⟨default, [1], none⟩, none⟩ ∧
    parlourVisited.service.handedFeatures ⟨0⟩ = [] ∧
    (Hosted.turn Hosted.parlour.noted parlourVisited
      (.arrive ⟨0⟩ (.envelope (Hosted.plainly (.feature ⟨"silent", []⟩))))).service.handedFeatures
        ⟨0⟩ = [⟨"silent", []⟩] := by
  decide +kernel

end Connection

end SealedSession
