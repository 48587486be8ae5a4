import SealedSession.Proofs.Service.Steps

/-!
# Runs of a service

A service serves many connections at once, each by a task of its own. The tasks share the
directory and the application, and they take turns: a connection is accepted, or brings something,
or time passes, or the system below a connection begins to refuse what is written on it. Nothing
restricts the order of the turns.

Connections are numbered as they are accepted, so no number is given twice.

* `receive_cases`: what comes of something that arrives.
* `Turn`, `Hosted.turn`, `Hosted.run`: what may happen to a service.
* `Program.record?_run_of_ne`, `Service.record?_receive_of_ne`: whatever is done for one connection
  changes the record of no other.
-/

namespace SealedSession

namespace Program

variable {A : Type}

/-- An application that answers one connection changes the record of no other. -/
theorem record?_run_of_ne {c d : ConnectionId} (h : c ≠ d) (p : Program A) (b : Exchange) :
    (run d p b).2.directory.record? c = b.directory.record? c := by
  induction p generalizing b with
  | finish app result => rfl
  | look next ih => exact ih b.directory b
  | reply m next ih =>
    refine (ih _ _).trans ?_
    exact congrArg (·.record? c) (Switchboard.directory_send b d _ m)
  | sendTo e recipient m next ih =>
    refine (ih _ _).trans ?_
    exact congrArg (·.record? c) (Switchboard.directory_send b e recipient m)
  | identify i player next ih => exact (ih _ _).trans (b.record?_identify_of_ne h i player)
  | stop reason message next ih =>
    refine (ih _ _).trans ?_
    exact (congrArg (·.record? c) (b.directory_stop d reason message)).trans
      (Directory.record?_remove_of_ne _ h)

end Program

/-- Whether a request is a probe, which the service answers by itself. -/
def Request.isProbe : Request → Bool
  | .keepAlive _ => true
  | _ => false

/-! ## One arrival -/

namespace Service

variable {A : Type} (g : Settings A) (c : ConnectionId)

/-- The request that the application is handed, when something arrives on a connection. -/
def asked? (a : Arrival) (s : Service A) : Option Request :=
  match a with
  | .envelope bytes =>
    match (read g c bytes s).1 with
    | .ok (some r) => if r.isProbe then none else some r
    | _ => none
  | _ => none

/-- The service once what arrived on a connection was read. -/
def afterReading (a : Arrival) (s : Service A) : Service A :=
  match a with
  | .envelope bytes => (read g c bytes s).2
  | _ => s

/-- To read something uses the cipher at most. -/
theorem afterReading_eq (a : Arrival) (s : Service A) :
    afterReading g c a s = { s with
      exchange := { s.exchange with uses := (afterReading g c a s).exchange.uses } } := by
  cases a <;> rfl

theorem record?_afterReading (d : ConnectionId) (a : Arrival) (s : Service A) :
    (afterReading g c a s).record? d = s.record? d := by
  rw [afterReading_eq]
  rfl

theorem receive_envelope (bytes : Bytes) (s : Service A) :
    receive g c (.envelope bytes) s = take g c bytes s := by
  change take g c bytes { s with exchange := s.exchange.setLink c (s.exchange.links c) } = _
  rw [Switchboard.setLink_self]

/-- Whether an attempt has failed makes no difference to the state after it. -/
theorem exitOn_snd (reason : StopReason) (x : Except ServiceError Unit × Service A) :
    (exitOn reason x).2 = x.2 := by
  rcases x with ⟨_ | _, s⟩ <;> rfl

/-- What is not a probe is handed to the application. -/
theorem answer_of_asked {r : Request} (hr : r.isProbe = false) (s : Service A) :
    answer g c r s = hand g c r s := by
  cases r with
  | keepAlive i => cases hr
  | _ => rfl

/-- What arrives is read, and then it is handed to the application, or the service replies to it by
itself, or it changes nothing but the socket. -/
theorem receive_cases (a : Arrival) (s : Service A) :
    let t := afterReading g c a s
    (∃ r, asked? g c a s = some r ∧ receive g c a s = exitOn .serverError (hand g c r t)) ∨
    (asked? g c a s = none ∧ ∃ m, receive g c a s = exitOn .serverError (reply c m t)) ∨
    (asked? g c a s = none ∧ ∃ exit l,
      receive g c a s = (exit, { t with exchange := t.exchange.setLink c l })) := by
  intro t
  cases a with
  | closed info => exact .inr (.inr ⟨rfl, _, _, rfl⟩)
  | broken system => exact .inr (.inr ⟨rfl, _, _, rfl⟩)
  | envelope bytes =>
    rw [receive_envelope, take, asked?]
    have same : t = { t with exchange := t.exchange.setLink c (t.exchange.links c) } := by
      rw [Switchboard.setLink_self]
    change _ ∨ _ ∨ _ ∧ ∃ exit l, _ = (exit, { t with exchange := t.exchange.setLink c l })
    rw [show read g c bytes s = ((read g c bytes s).1, t) from rfl]
    cases (read g c bytes s).1 with
    | error e =>
      cases e with
      | cipher x => exact .inr (.inl ⟨rfl, _, rfl⟩)
      | _ => exact .inr (.inr ⟨rfl, _, _, congrArg _ same⟩)
    | ok o =>
      cases o with
      | none => exact .inr (.inr ⟨rfl, _, _, congrArg _ same⟩)
      | some r =>
        dsimp only
        cases hp : r.isProbe with
        | true =>
          cases r with
          | keepAlive i => exact .inr (.inl ⟨rfl, _, rfl⟩)
          | _ => cases hp
        | false => exact .inl ⟨r, rfl, by rw [answer_of_asked g c hp]⟩

/-- What arrives on one connection changes the record of no other. -/
theorem record?_receive_of_ne {c d : ConnectionId} (h : c ≠ d) (a : Arrival) (s : Service A) :
    (receive g d a s).2.record? c = s.record? c := by
  rcases receive_cases g d a s with ⟨r, -, he⟩ | ⟨-, m, he⟩ | ⟨-, exit, l, he⟩
  · rw [he, exitOn_snd]
    exact (Program.record?_run_of_ne h _ _).trans (record?_afterReading g d c a s)
  · rw [he, exitOn_snd]
    exact (congrArg (·.record? c) (Switchboard.directory_send _ d _ m)).trans
      (record?_afterReading g d c a s)
  · rw [he]
    exact record?_afterReading g d c a s

end Service

/-! ## Time -/

namespace Service

variable {A : Type}

/-- A service later on. -/
def later (span : Nat) (s : Service A) : Service A := { s with now := s.now + span }

/-- The connections that have been silent for too long, in the order of their deadlines. -/
def overdue (s : Service A) : List Served :=
  (s.served.filter fun t ↦ t.deadline ≤ s.now).mergeSort fun t u ↦ t.deadline ≤ u.deadline

theorem pass_eq (span : Nat) (s : Service A) :
    s.pass span =
      (s.later span).overdue.foldl (fun s t ↦ (s.conclude t.connection .idle).2) (s.later span) :=
  rfl

end Service

/-! ## Many turns -/

/-- What may happen to a service. -/
inductive Turn where
  | accept
  | arrive (c : ConnectionId) (a : Arrival)
  | pass (span : Nat)
  /-- The system below a connection begins to refuse what is written, or no longer does. -/
  | impair (c : ConnectionId) (fault : Option String)
deriving DecidableEq

/-- A service, and how many connections it has accepted. -/
structure Hosted (A : Type) where
  service : Service A
  accepted : Nat := 0

namespace Service

variable {A : Type} (g : Settings A)

/-- The system below a connection begins to refuse what is written, or no longer does. -/
def impair (c : ConnectionId) (fault : Option String) (s : Service A) : Service A :=
  { s with exchange := s.exchange.setLink c { s.exchange.links c with fault := fault } }

end Service

namespace Hosted

variable {A : Type} (g : Service.Settings A)

/-- A service that nobody has connected to. -/
def start (app : A) : Hosted A := { service := Service.start g app }

/-- The number of the next connection. -/
def next (h : Hosted A) : ConnectionId := ⟨h.accepted⟩

/-- One thing happens. -/
def turn (h : Hosted A) : Turn → Hosted A
  | .accept => ⟨h.service.accept g h.next, h.accepted + 1⟩
  | .arrive c a => { h with service := Service.arrive g c a h.service }
  | .pass span => { h with service := h.service.pass span }
  | .impair c fault => { h with service := h.service.impair c fault }

/-- One thing happens after another. -/
def run (h : Hosted A) (ts : List Turn) : Hosted A := ts.foldl (turn g) h

@[simp] theorem run_nil (h : Hosted A) : run g h [] = h := rfl

@[simp] theorem run_cons (h : Hosted A) (t : Turn) (ts : List Turn) :
    run g h (t :: ts) = run g (turn g h t) ts := rfl

theorem run_append (h : Hosted A) (ts ts' : List Turn) :
    run g h (ts ++ ts') = run g (run g h ts) ts' := List.foldl_append

theorem run_concat (h : Hosted A) (ts : List Turn) (t : Turn) :
    run g h (ts ++ [t]) = turn g (run g h ts) t := run_append g h ts [t]

/-- What every turn keeps is kept by a run. -/
theorem run_induction {P : Hosted A → Prop} {h : Hosted A} (base : P h)
    (step : ∀ h t, P h → P (turn g h t)) (ts : List Turn) : P (run g h ts) := by
  induction ts generalizing h with
  | nil => exact base
  | cons t ts ih => exact ih (step h t base)

end Hosted

end SealedSession
