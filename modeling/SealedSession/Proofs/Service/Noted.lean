import SealedSession.Proofs.Service.Run

/-!
# What an application is handed

Every application can be made to note the requests that it is handed, and of which connections,
without doing anything else than before. What is said of the notes of an arbitrary application is
therefore said of the requests that it is handed.

* `Application.noted`: an application that keeps notes.
* `forget_run`: without its notes, a service runs as if none were kept.
* `log_receive`: what is noted when something arrives.
-/

namespace SealedSession

namespace Program

variable {A B : Type}

/-- The same program, with another state at its end. -/
def map (f : A → B) : Program A → Program B
  | .finish app result => .finish (f app) result
  | .look next => .look fun d ↦ (next d).map f
  | .reply m next => .reply m fun r ↦ (next r).map f
  | .sendTo d recipient m next => .sendTo d recipient m fun r ↦ (next r).map f
  | .identify identity player next => .identify identity player fun r ↦ (next r).map f
  | .stop reason message next => .stop reason message fun r ↦ (next r).map f

/-- A program and its map act alike and differ in the state at their ends. -/
theorem run_map (f : A → B) (c : ConnectionId) (p : Program A) (b : Exchange) :
    run c (p.map f) b = (Prod.map id f (run c p b).1, (run c p b).2) := by
  induction p generalizing b with
  | finish app result => rfl
  | look next ih => exact ih _ _
  | reply m next ih => exact ih _ _
  | sendTo d recipient m next ih => exact ih _ _
  | identify identity player next ih => exact ih _ _
  | stop reason message next ih => exact ih _ _

end Program

/-- The state of an application, and the requests that it was handed, oldest first. -/
structure Noted (A : Type) where
  app : A
  log : List (ConnectionId × Request) := []

/-- The requests that were handed over for one connection. -/
def Noted.logOf {A : Type} (c : ConnectionId) (n : Noted A) : List Request :=
  (n.log.filter fun p ↦ p.1 = c).map (·.2)

/-- An application that keeps notes. -/
def Application.noted {A : Type} (application : Application A) : Application (Noted A) :=
  fun n c r ↦ (application n.app c r).map fun app ↦ ⟨app, n.log ++ [(c, r)]⟩

namespace Service

variable {A : Type} (g : Settings A)

/-- The settings of a service whose application keeps notes. -/
def Settings.noted : Settings (Noted A) :=
  { identity := g.identity, ciphers := g.ciphers, application := g.application.noted
    complaint := g.complaint, idleTimeout := g.idleTimeout }

/-- A service without the notes of its application. -/
def forget (s : Service (Noted A)) : Service A :=
  { exchange := s.exchange, app := s.app.app, now := s.now, served := s.served
    occurrences := s.occurrences }

/-! ## Notes change nothing -/

theorem forget_hand (c : ConnectionId) (r : Request) (s : Service (Noted A)) :
    Prod.map id forget (hand g.noted c r s) = hand g c r s.forget := by
  simp only [hand, Settings.noted, Application.noted, Program.run_map]
  rfl

theorem forget_answer (c : ConnectionId) (r : Request) (s : Service (Noted A)) :
    Prod.map id forget (answer g.noted c r s) = answer g c r s.forget := by
  cases r with
  | keepAlive i => rfl
  | _ => exact forget_hand g c _ s

theorem forget_exitOn (reason : StopReason) (x : Except ServiceError Unit × Service (Noted A)) :
    Prod.map id forget (exitOn reason x) = exitOn reason (Prod.map id forget x) := by
  rcases x with ⟨_ | _, s⟩ <;> rfl

theorem forget_take (c : ConnectionId) (bytes : Bytes) (s : Service (Noted A)) :
    Prod.map id forget (take g.noted c bytes s) = take g c bytes s.forget := by
  have hr : read g c bytes s.forget = Prod.map id forget (read g.noted c bytes s) := rfl
  unfold take
  rw [hr]
  rcases read g.noted c bytes s with ⟨e | o, t⟩
  case error =>
    cases e with
    | cipher x => exact forget_exitOn _ _
    | _ => rfl
  case ok =>
    cases o with
    | none => rfl
    | some r => exact (forget_exitOn _ _).trans (congrArg _ (forget_answer g c r t))

theorem forget_receive (c : ConnectionId) (a : Arrival) (s : Service (Noted A)) :
    Prod.map id forget (receive g.noted c a s) = receive g c a s.forget := by
  cases a with
  | envelope bytes =>
    rw [receive_envelope, receive_envelope]
    exact forget_take g c bytes s
  | closed info => rfl
  | broken system => rfl

theorem forget_conclude (c : ConnectionId) (exit : Exit) (s : Service (Noted A)) :
    (s.conclude c exit).2.forget = (s.forget.conclude c exit).2 := by
  have hd : s.forget.exchange.directory.record? c = s.exchange.directory.record? c := rfl
  unfold conclude
  rw [hd]
  cases s.exchange.directory.record? c <;> rfl

theorem forget_arrive (c : ConnectionId) (a : Arrival) (s : Service (Noted A)) :
    (arrive g.noted c a s).forget = arrive g c a s.forget := by
  unfold arrive
  change _ = if s.isServed c then _ else _
  split
  · rw [← forget_receive]
    rcases receive g.noted c a s with ⟨_ | exit, s'⟩
    · rfl
    · exact forget_conclude c exit s'
  · rfl

theorem forget_foldl_conclude (ts : List Served) (s : Service (Noted A)) :
    (ts.foldl (fun s t ↦ (s.conclude t.connection .idle).2) s).forget =
      ts.foldl (fun s t ↦ (s.conclude t.connection .idle).2) s.forget := by
  induction ts generalizing s with
  | nil => rfl
  | cons t ts ih => rw [List.foldl_cons, ih, forget_conclude, List.foldl_cons]

end Service

namespace Hosted

open Service

variable {A : Type} (g : Settings A)

/-- A service without the notes of its application. -/
def forget (h : Hosted (Noted A)) : Hosted A := ⟨h.service.forget, h.accepted⟩

theorem forget_turn (h : Hosted (Noted A)) (t : Turn) :
    (turn g.noted h t).forget = turn g h.forget t := by
  cases t with
  | accept => rfl
  | arrive c a => exact congrArg (Hosted.mk · h.accepted) (forget_arrive g c a h.service)
  | pass span => exact congrArg (Hosted.mk · h.accepted) (forget_foldl_conclude _ _)
  | impair c fault => rfl

/-- Without the notes of its application, a service runs as if none were kept. -/
theorem forget_run (h : Hosted (Noted A)) (ts : List Turn) :
    (run g.noted h ts).forget = run g h.forget ts := by
  induction ts generalizing h with
  | nil => rfl
  | cons t ts ih => rw [run_cons, ih, forget_turn, run_cons]

end Hosted

/-! ## What is noted -/

namespace Service

variable {A : Type} (g : Settings A) (c : ConnectionId)

@[simp] theorem log_hand (r : Request) (s : Service (Noted A)) :
    (hand g.noted c r s).2.app.log = s.app.log ++ [(c, r)] := by
  simp only [hand, Settings.noted, Application.noted, Program.run_map]
  rfl

/-- What arrives is noted if it is handed to the application. -/
theorem log_receive (a : Arrival) (s : Service (Noted A)) :
    (receive g.noted c a s).2.app.log = s.app.log ++ (asked? g.noted c a s).toList.map ((c, ·)) := by
  have same : (afterReading g.noted c a s).app = s.app := by rw [afterReading_eq]
  rcases receive_cases g.noted c a s with ⟨r, hr, h⟩ | ⟨hr, m, h⟩ | ⟨hr, exit, l, h⟩
  · rw [h, exitOn_snd, log_hand, hr, same]
    rfl
  · rw [h, exitOn_snd, hr, ← same]
    exact (List.append_nil _).symm
  · rw [h, hr, ← same]
    exact (List.append_nil _).symm

/-- An end is not noted. -/
theorem app_conclude (exit : Exit) (s : Service A) : (s.conclude c exit).2.app = s.app := by
  unfold conclude
  cases s.exchange.directory.record? c <;> rfl

end Service

end SealedSession
