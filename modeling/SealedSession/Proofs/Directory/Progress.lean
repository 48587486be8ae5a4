import Mathlib.Data.Nat.Pairing
import SealedSession.Proofs.Directory.Tasks

/-!
# Every call returns

An errand is finite, but it branches on all that the switchboard may answer, so there is no bound on
the steps of a task. Still, each of its steps leaves less to do, whatever the answer, and no other
task can add to it. So a task that goes on taking turns comes to its end, and on the way each of its
calls returns.

* `Finishes`: a task has finitely many steps to take, whatever the answers are.
* `finishes`: this holds of every task.
* `Fair`: schedules in which every task goes on taking turns; there are such (`fair_unpair`).
* `exists_returned`: under such a schedule, every call that goes on returns.
-/

namespace SealedSession

variable {κ : Type} [Link κ]

/-! ## Tasks are finite -/

variable (κ) in
/-- What a task has yet to do comes to an end, whatever the switchboard answers. -/
inductive Finishes : List Act → Prop where
  | nil : Finishes []
  | cons {a : Act} {rest : List Act}
      (h : ∀ call (b : Switchboard κ), Finishes ((a.advance call b).1 ++ rest)) :
      Finishes (a :: rest)

/-- An errand comes to an end, if what comes after it does. -/
theorem finishes_perform (e : Errand) {rest : List Act} (h : Finishes κ rest) :
    Finishes κ (.perform e :: rest) := by
  induction e generalizing rest with
  | done => exact .cons fun _ _ ↦ h
  | look next ih => exact .cons fun _ b ↦ ih b.directory h
  | identify c i p onBound next ihBound ih =>
    have returning (n : Nat) (x : Except DirectoryError Unit) :
        Finishes κ (.returning n x next :: rest) := .cons fun _ _ ↦ ih x h
    refine .cons fun call b ↦ ?_
    simp only [Act.advance]
    rcases b.identify c i p with ⟨e | _ | q, b'⟩
    · exact returning call _
    · exact returning call _
    · exact .cons fun _ _ ↦ ihBound q.identity q (returning call _)
  | stop c reason message onStopped next ihStopped ih =>
    have notifying (n : Nat) (removed : Option SessionRecord) :
        Finishes κ (.notifying n c removed reason message next :: rest) :=
      .cons fun _ _ ↦ .cons fun _ _ ↦ ih _ h
    refine .cons fun call b ↦ ?_
    simp only [Act.advance]
    rcases b.release c with ⟨_ | r, b'⟩
    · exact notifying call none
    · exact .cons fun _ _ ↦ ihStopped r.identity r.toPlayer (notifying call (some r))

/-- So does a call that goes on. -/
theorem finishes_cons (a : Act) {rest : List Act} (h : Finishes κ rest) :
    Finishes κ (a :: rest) := by
  have returning (n : Nat) (x : Except DirectoryError Unit)
      (next : Except DirectoryError Unit → Errand) : Finishes κ (.returning n x next :: rest) :=
    .cons fun _ _ ↦ finishes_perform (next x) h
  have notifying (n : Nat) (c : ConnectionId) (removed : Option SessionRecord)
      (reason : StopReason) (message : String) (next : Except DirectoryError Unit → Errand) :
      Finishes κ (.notifying n c removed reason message next :: rest) :=
    .cons fun _ _ ↦ returning n _ next
  cases a with
  | perform e => exact finishes_perform e h
  | binding n c p onBound next =>
    exact .cons fun _ _ ↦ finishes_perform (onBound p.identity p) (returning n _ next)
  | stopping n c r reason message onStopped next =>
    exact .cons fun _ _ ↦ finishes_perform (onStopped r.identity r.toPlayer)
      (notifying n c (some r) reason message next)
  | notifying n c removed reason message next => exact notifying n c removed reason message next
  | returning n x next => exact returning n x next

/-- Every task has finitely many steps to take. -/
theorem finishes (acts : List Act) : Finishes κ acts := by
  induction acts with
  | nil => exact .nil
  | cons a acts ih => exact finishes_cons a ih

/-- A step of a call goes on with it, or is its return. -/
theorem Act.call?_advance {a : Act} {n : Nat} (h : a.call? = some n) (call : Nat)
    (b : Switchboard κ) : (∃ a' ∈ (a.advance call b).1, a'.call? = some n) ∨
      ∃ x, (a.advance call b).2.2 = some (.returned n x) := by
  cases a with
  | perform e => cases h
  | binding m c p onBound next =>
    exact .inl ⟨.returning m (.ok ()) next, List.mem_cons_of_mem _ List.mem_cons_self, h⟩
  | stopping m c r reason message onStopped next =>
    exact .inl ⟨.notifying m c (some r) reason message next,
      List.mem_cons_of_mem _ List.mem_cons_self, h⟩
  | notifying m c removed reason message next => exact .inl ⟨_, List.mem_cons_self, h⟩
  | returning m x next =>
    cases h
    exact .inr ⟨x, rfl⟩

namespace Shared

/-! ## Schedules -/

/-- Every task goes on taking turns. -/
def Fair (moves : Nat → Move κ) : Prop := ∀ k i, ∃ j, i ≤ j ∧ moves j = .turn k

omit [Link κ] in
/-- There are such schedules: every number is a pair, and the task that it begins with has the
turn. -/
theorem fair_unpair : Fair fun i ↦ (.turn i.unpair.1 : Move κ) := by
  intro k i
  have hk : (Nat.pair k i).unpair.1 = k := by rw [Nat.unpair_pair]
  exact ⟨Nat.pair k i, Nat.right_le_pair k i, congrArg Move.turn hk⟩

/-- The first moves of a schedule. -/
def first (moves : Nat → Move κ) (n : Nat) : List (Move κ) := (List.range n).map moves

omit [Link κ] in
theorem first_succ (moves : Nat → Move κ) (n : Nat) :
    first moves (n + 1) = moves 0 :: first (fun i ↦ moves (i + 1)) n := by
  simp [first, List.range_succ_eq_map]

omit [Link κ] in
theorem Fair.tail {moves : Nat → Move κ} (h : Fair moves) : Fair fun i ↦ moves (i + 1) := by
  intro k i
  obtain ⟨j, hj, hm⟩ := h k (i + 1)
  obtain ⟨j, rfl⟩ := Nat.exists_eq_add_of_lt hj
  exact ⟨i + j, Nat.le_add_right i j, hm⟩

section

variable {w : Shared κ} {k n : Nat} {acts : List Act}

theorem threads_step_turn {a : Act} {rest : List Act} (h : w.threads[k]? = some (a :: rest)) :
    (step w (.turn k)).threads[k]? = some ((a.advance w.log.length w.board).1 ++ rest) ∧
      (step w (.turn k)).log = w.log ++ (a.advance w.log.length w.board).2.2.toList := by
  simp only [step, h]
  obtain ⟨hk, -⟩ := List.getElem?_eq_some_iff.mp h
  exact ⟨List.getElem?_set_self hk, trivial⟩

/-- What a task has yet to do is not changed by any other move. -/
theorem threads_step_of_ne {m : Move κ} (hm : m ≠ .turn k) (h : w.threads[k]? = some acts) :
    (step w m).threads[k]? = some acts := by
  cases m with
  | spawn e =>
    obtain ⟨hk, -⟩ := List.getElem?_eq_some_iff.mp h
    exact (List.getElem?_append_left hk).trans h
  | elapse links => exact h
  | turn k' =>
    have hk : k' ≠ k := fun hk ↦ hm (by rw [hk])
    simp only [step]
    split
    · exact (List.getElem?_set_ne hk).trans h
    · exact h

/-- A call goes on. -/
def InProgress (w : Shared κ) (n : Nat) : Prop := ∃ a ∈ w.acts, a.call? = some n

/-- In a task that takes its turns, a call that goes on returns. -/
theorem exists_returned_of_threads {moves : Nat → Move κ} (hf : Fair moves)
    (hk : w.threads[k]? = some acts) (hn : ∃ a ∈ acts, a.call? = some n) :
    ∃ m x, .returned n x ∈ (run w (first moves m)).log := by
  induction finishes (κ := κ) acts generalizing w moves with
  | nil =>
    obtain ⟨a, ha, -⟩ := hn
    cases ha
  | @cons a rest _ ih =>
    have turn {w : Shared κ} {moves : Nat → Move κ} (hf : Fair moves)
        (hk : w.threads[k]? = some (a :: rest)) (h0 : moves 0 = .turn k) :
        ∃ m x, .returned n x ∈ (run w (first moves m)).log := by
      obtain ⟨ht, hl⟩ := threads_step_turn hk
      rw [← h0] at ht hl
      have later (hn : ∃ a' ∈ (a.advance w.log.length w.board).1 ++ rest, a'.call? = some n) :
          ∃ m x, .returned n x ∈ (run w (first moves m)).log := by
        obtain ⟨m, x, hx⟩ := ih w.log.length w.board hf.tail ht hn
        exact ⟨m + 1, x, first_succ moves m ▸ hx⟩
      obtain ⟨a', ha, hc⟩ := hn
      rcases List.mem_cons.mp ha with rfl | ha
      · obtain ⟨a'', hm, hc⟩ | ⟨x, hx⟩ := Act.call?_advance hc w.log.length w.board
        · exact later ⟨a'', List.mem_append_left _ hm, hc⟩
        · refine ⟨1, x, ?_⟩
          change _ ∈ (step w (moves 0)).log
          rw [hl, hx]
          exact List.mem_append_right _ List.mem_cons_self
      · exact later ⟨a', List.mem_append_right _ ha, hc⟩
    -- until the task takes its turn, nothing changes what it has yet to do
    obtain ⟨j, -, hj⟩ := hf k 0
    induction j generalizing w moves with
    | zero => exact turn hf hk hj
    | succ j ihj =>
      by_cases h0 : moves 0 = .turn k
      · exact turn hf hk h0
      · obtain ⟨m, x, hx⟩ := ihj hf.tail (threads_step_of_ne h0 hk) hj
        exact ⟨m + 1, x, first_succ moves m ▸ hx⟩

/-- Every call that goes on returns. -/
theorem exists_returned {moves : Nat → Move κ} (hf : Fair moves) (hn : w.InProgress n) :
    ∃ m x, .returned n x ∈ (run w (first moves m)).log := by
  obtain ⟨a, ha, hc⟩ := hn
  obtain ⟨acts, hm, ha⟩ := List.mem_flatten.mp ha
  obtain ⟨k, hk⟩ := List.mem_iff_getElem?.mp hm
  exact exists_returned_of_threads hf hk ⟨a, ha, hc⟩

end

end Shared

end SealedSession
