import SealedSession.Switchboard

/-!
# Errands on a shared switchboard

Many tasks use one switchboard. An errand is what one of them does with it: it looks, it identifies
connections and it stops their sessions, and the callbacks of these calls are errands themselves. A
call is not one step. It finds the record and changes it at once, but its callback runs after that,
and so does the notice to the peer; in between, other errands may do anything.

* `Errand`: what a task does; `Errand.alone` does it while nobody else does anything.
* `Act`, `Act.advance`: what a task has yet to do, and one step of it.
* `Shared`, `Move`: several tasks with the log of their calls, and what may happen next.
* `alone_of_turns`: the steps of a task that is left alone come to `Errand.alone`.
-/

namespace SealedSession

/-- What a task does with a switchboard. -/
inductive Errand where
  | done
  | look (next : Directory → Errand)
  | identify (c : ConnectionId) (identity : Identity) (player : Option BoundPlayer)
      (onBound : Identity → Player → Errand) (next : Except DirectoryError Unit → Errand)
  | stop (c : ConnectionId) (reason : StopReason) (message : String)
      (onStopped : Identity → Player → Errand) (next : Except DirectoryError Unit → Errand)

/-- What has come of the calls of all tasks. A call is known by its place in the log. -/
inductive Entry where
  /-- A call has identified a connection, or it was refused. -/
  | identified (c : ConnectionId) (identity : Identity) (player : Option BoundPlayer)
      (result : Except DirectoryError (Option Player))
  /-- A call has removed the record of a connection, if there was one. -/
  | removed (c : ConnectionId) (record : Option SessionRecord)
  /-- A call tells that a player was bound. -/
  | onBound (call : Nat) (c : ConnectionId) (identity : Identity) (player : Player)
  /-- A call tells that a session was stopped. -/
  | onStopped (call : Nat) (c : ConnectionId) (identity : Identity) (player : Player)
  /-- A call returns to whoever has made it. -/
  | returned (call : Nat) (result : Except DirectoryError Unit)

/-- What a task does next. -/
inductive Act where
  | perform (e : Errand)
  /-- A call that has bound a player is about to tell. -/
  | binding (call : Nat) (c : ConnectionId) (player : Player)
      (onBound : Identity → Player → Errand) (next : Except DirectoryError Unit → Errand)
  /-- A call that has removed a record is about to tell. -/
  | stopping (call : Nat) (c : ConnectionId) (record : SessionRecord) (reason : StopReason)
      (message : String) (onStopped : Identity → Player → Errand)
      (next : Except DirectoryError Unit → Errand)
  /-- A call is about to notify the peer. -/
  | notifying (call : Nat) (c : ConnectionId) (removed : Option SessionRecord) (reason : StopReason)
      (message : String) (next : Except DirectoryError Unit → Errand)
  | returning (call : Nat) (result : Except DirectoryError Unit)
      (next : Except DirectoryError Unit → Errand)

section

variable {κ : Type} [Link κ]

/-- Does an errand while nobody else does anything. -/
def Errand.alone : Errand → Switchboard κ → Switchboard κ
  | .done, b => b
  | .look next, b => (next b.directory).alone b
  | .identify c identity player onBound next, b =>
    let (r, b) := b.identify c identity player
    match r with
    | .ok (some p) => (next (.ok ())).alone ((onBound p.identity p).alone b)
    | .ok none => (next (.ok ())).alone b
    | .error e => (next (.error e)).alone b
  | .stop c reason message onStopped next, b =>
    let (r, b) := b.stop c reason message fun i p b ↦ (onStopped i p).alone b
    (next r).alone b

/-- Takes one step: what is to be done instead, the switchboard after that, and the entry that is
made. A new call gets the number `call`. -/
def Act.advance (call : Nat) (b : Switchboard κ) : Act → List Act × Switchboard κ × Option Entry
  | .perform .done => ([], b, none)
  | .perform (.look next) => ([.perform (next b.directory)], b, none)
  | .perform (.identify c identity player onBound next) =>
    let (r, b) := b.identify c identity player
    let act := match r with
      | .ok (some p) => .binding call c p onBound next
      | r => .returning call (r.map fun _ ↦ ()) next
    ([act], b, some (.identified c identity player r))
  | .perform (.stop c reason message onStopped next) =>
    let (removed, b) := b.release c
    let act := match removed with
      | some r => .stopping call c r reason message onStopped next
      | none => .notifying call c none reason message next
    ([act], b, some (.removed c removed))
  | .binding n c p onBound next =>
    ([.perform (onBound p.identity p), .returning n (.ok ()) next], b,
      some (.onBound n c p.identity p))
  | .stopping n c r reason message onStopped next =>
    ([.perform (onStopped r.identity r.toPlayer), .notifying n c (some r) reason message next], b,
      some (.onStopped n c r.identity r.toPlayer))
  | .notifying n c removed reason message next =>
    let (result, b) := b.notify c removed reason message
    ([.returning n result next], b, none)
  | .returning n result next => ([.perform (next result)], b, some (.returned n result))

end

/-- Several tasks that use a switchboard. -/
structure Shared (κ : Type) where
  board : Switchboard κ
  /-- What each task has yet to do, what comes next first. -/
  threads : List (List Act) := []
  log : List Entry := []

/-- What may happen next. -/
inductive Move (κ : Type) where
  /-- A task begins. -/
  | spawn (e : Errand)
  /-- A task takes a step. -/
  | turn (k : Nat)
  /-- Something happens to the connections. -/
  | elapse (links : ConnectionId → κ)

namespace Shared

variable {κ : Type} [Link κ]

/-- A switchboard that no task has used. -/
def start (ciphers : List CipherUse → Cipher) (links : ConnectionId → κ) : Shared κ :=
  { board := { ciphers := ciphers, links := links } }

/-- Makes a move. A task that has nothing to do takes no step. -/
def step (w : Shared κ) : Move κ → Shared κ
  | .spawn e => { w with threads := w.threads ++ [[.perform e]] }
  | .turn k =>
    match w.threads[k]? with
    | some (a :: rest) =>
      let (acts, b, entry) := a.advance w.log.length w.board
      { board := b
        threads := w.threads.set k (acts ++ rest)
        log := w.log ++ entry.toList }
    | _ => w
  | .elapse links => { w with board := { w.board with links := links } }

/-- Makes one move after another. -/
def run (w : Shared κ) (moves : List (Move κ)) : Shared κ := moves.foldl step w

theorem run_append (w : Shared κ) (moves moves' : List (Move κ)) :
    run w (moves ++ moves') = run (run w moves) moves' := List.foldl_append

theorem run_concat (w : Shared κ) (moves : List (Move κ)) (m : Move κ) :
    run w (moves ++ [m]) = step (run w moves) m := run_append w moves [m]

/-! ## A task that is left alone -/

/-- A lone task comes from one state to another by its own steps. -/
def Leads (w w' : Shared κ) : Prop := ∃ n, run w (List.replicate n (.turn 0)) = w'

theorem Leads.refl (w : Shared κ) : Leads w w := ⟨0, rfl⟩

theorem Leads.trans {w w' w'' : Shared κ} (h : Leads w w') (h' : Leads w' w'') : Leads w w'' := by
  obtain ⟨m, rfl⟩ := h
  obtain ⟨n, rfl⟩ := h'
  exact ⟨m + n, by rw [← List.replicate_append_replicate, run_append]⟩

theorem Leads.act {b : Switchboard κ} {a : Act} {rest : List Act} {log : List Entry} {w : Shared κ}
    (h : Leads ⟨(a.advance log.length b).2.1, [(a.advance log.length b).1 ++ rest],
      log ++ (a.advance log.length b).2.2.toList⟩ w) : Leads ⟨b, [a :: rest], log⟩ w :=
  Leads.trans ⟨1, rfl⟩ h

/-- Whatever comes after it, an errand is done step by step as it is done at once. -/
theorem leads_alone (e : Errand) (b : Switchboard κ) (rest : List Act) (log : List Entry) :
    ∃ log', Leads ⟨b, [.perform e :: rest], log⟩ ⟨e.alone b, [rest], log'⟩ := by
  induction e generalizing b rest log with
  | done => exact ⟨_, .act (.refl _)⟩
  | look next ih =>
    obtain ⟨log', h⟩ := ih b.directory b rest _
    exact ⟨log', .act h⟩
  | identify c i p onBound next ihBound ih =>
    rw [Errand.alone]
    rcases hr : b.identify c i p with ⟨e | _ | q, b'⟩
    · obtain ⟨log', h⟩ := ih (.error e) b' rest _
      refine ⟨log', .act ?_⟩
      simp only [Act.advance, hr]
      exact .act h
    · obtain ⟨log', h⟩ := ih (.ok ()) b' rest _
      refine ⟨log', .act ?_⟩
      simp only [Act.advance, hr]
      exact .act h
    · obtain ⟨log₁, h₁⟩ := ihBound q.identity q b' (.returning log.length (.ok ()) next :: rest) _
      obtain ⟨log', h⟩ := ih (.ok ()) ((onBound q.identity q).alone b') rest _
      refine ⟨log', .act ?_⟩
      simp only [Act.advance, hr]
      exact .act (h₁.trans (.act h))
  | stop c reason message onStopped next ihStopped ih =>
    rw [Errand.alone, Switchboard.stop]
    rcases hr : b.release c with ⟨_ | r, b'⟩
    · obtain ⟨log', h⟩ := ih (b'.notify c none reason message).1
        (b'.notify c none reason message).2 rest _
      refine ⟨log', .act ?_⟩
      simp only [Act.advance, hr]
      exact .act (.act h)
    · obtain ⟨b₁, hb⟩ : ∃ b₁, b₁ = (onStopped r.identity r.toPlayer).alone b' := ⟨_, rfl⟩
      obtain ⟨log₁, h₁⟩ := ihStopped r.identity r.toPlayer b'
        (.notifying log.length c (some r) reason message next :: rest) _
      obtain ⟨log', h⟩ := ih (b₁.notify c (some r) reason message).1
        (b₁.notify c (some r) reason message).2 rest _
      refine ⟨log', .act ?_⟩
      simp only [Act.advance, hr]
      rw [← hb] at h₁ ⊢
      exact .act (h₁.trans (.act (.act h)))

/-- The steps of a task that is left alone come to what its errand does at once. -/
theorem alone_of_turns (e : Errand) (b : Switchboard κ) : ∃ n log,
    run ⟨b, [[.perform e]], []⟩ (List.replicate n (.turn 0)) = ⟨e.alone b, [[]], log⟩ := by
  obtain ⟨log, n, h⟩ := leads_alone e b [] []
  exact ⟨n, log, h⟩

end Shared

end SealedSession
