import Mathlib.Data.List.Induction
import SealedSession.Proofs.Directory.Errands
import SealedSession.Proofs.Directory.Records

/-!
# What a log says of a connection

The calls of all tasks leave a log. The record of a connection after a log depends on what the log
says of that connection alone, and only on what was attempted there: to identify the connection, or
to stop its session. What came of an attempt follows from that.

* `recordAfter`: the record of a connection after a log.
* `Entry.Follows`, `Consistent`: every entry is what those before it make of it.
* `Consistent.bound_between`: a bound record stays until a stop removes it.
* `Consistent.last_identified`: a record is that of the last success.
* `Consistent.recordAfter_eq_some_iff`, `Consistent.isSome_recordAfter_iff`: what the log says of a
  record, and of there being one.
* `Consistent.count_binds`: players that were bound, and players that were removed.
-/

namespace SealedSession

/-! ## Attempts -/

/-- What is attempted on a connection. -/
inductive Attempt where
  | identify (identity : Identity) (player : Option BoundPlayer)
  | stop

/-- What an attempt makes of the record of its connection. -/
def Attempt.settle (c : ConnectionId) (r : Option SessionRecord) : Attempt → Option SessionRecord
  | .identify i p => if r.any SessionRecord.isBound then r else some ⟨c, i, p⟩
  | .stop => none

namespace Entry

/-- What an entry says was attempted on a connection. -/
def attempt? (c : ConnectionId) : Entry → Option Attempt
  | .identified d i p _ => if d = c then some (.identify i p) else none
  | .removed d _ => if d = c then some .stop else none
  | _ => none

theorem attempt?_identified (c : ConnectionId) (i : Identity) (p : Option BoundPlayer)
    (x : Except DirectoryError (Option Player)) :
    (identified c i p x).attempt? c = some (.identify i p) := if_pos rfl

theorem attempt?_identified_of_ne {c d : ConnectionId} (h : d ≠ c) (i : Identity)
    (p : Option BoundPlayer) (x : Except DirectoryError (Option Player)) :
    (identified d i p x).attempt? c = none := if_neg h

theorem attempt?_removed (c : ConnectionId) (r : Option SessionRecord) :
    (removed c r).attempt? c = some .stop := if_pos rfl

theorem attempt?_removed_of_ne {c d : ConnectionId} (h : d ≠ c) (r : Option SessionRecord) :
    (removed d r).attempt? c = none := if_neg h

/-- Only a stop was an attempt to stop. -/
theorem attempt?_eq_stop {c : ConnectionId} {e : Entry} (h : e.attempt? c = some .stop) :
    ∃ r, e = .removed c r := by
  cases e with
  | removed d r =>
    by_cases hd : d = c
    · exact ⟨r, hd ▸ rfl⟩
    · rw [attempt?_removed_of_ne hd] at h
      cases h
  | identified d i p x =>
    rw [attempt?] at h
    split at h <;> cases h
  | _ => cases h

/-- A call has changed the record of a connection. -/
def Changes (c : ConnectionId) : Entry → Prop
  | .identified d _ _ (.ok _) => d = c
  | .removed d _ => d = c
  | _ => False

/-- A call has bound a player to a connection. -/
def binds (c : ConnectionId) : Entry → Bool
  | .identified d _ (some _) (.ok _) => d = c
  | _ => false

/-- A call has removed the record of a connection that was bound to a player. -/
def unbinds (c : ConnectionId) : Entry → Bool
  | .removed d (some r) => d = c && r.isBound
  | _ => false

/-- A call has told of a player whose session on a connection was stopped. -/
def reports (c : ConnectionId) : Entry → Bool
  | .onStopped _ d _ p => d = c && p.bound.isSome
  | _ => false

end Entry

/-- What was attempted on a connection, oldest first. -/
def attempts (c : ConnectionId) (log : List Entry) : List Attempt := log.filterMap (Entry.attempt? c)

/-- The record that the attempts on a connection come to. -/
def recordAfter (c : ConnectionId) (log : List Entry) : Option SessionRecord :=
  (attempts c log).foldl (Attempt.settle c) none

section

variable {c d : ConnectionId} {log : List Entry}

theorem recordAfter_of_some {e : Entry} {a : Attempt} (h : e.attempt? c = some a) :
    recordAfter c (log ++ [e]) = a.settle c (recordAfter c log) := by
  rw [recordAfter, attempts, List.filterMap_append, List.filterMap_cons, h, List.filterMap_nil,
    List.foldl_append]
  rfl

theorem recordAfter_of_none {e : Entry} (h : e.attempt? c = none) :
    recordAfter c (log ++ [e]) = recordAfter c log := by
  rw [recordAfter, attempts, List.filterMap_append, List.filterMap_cons, h, List.filterMap_nil,
    List.append_nil]
  rfl

theorem recordAfter_identified (i : Identity) (p : Option BoundPlayer)
    (x : Except DirectoryError (Option Player)) :
    recordAfter c (log ++ [.identified c i p x]) =
      if (recordAfter c log).any SessionRecord.isBound then recordAfter c log
      else some ⟨c, i, p⟩ :=
  recordAfter_of_some (Entry.attempt?_identified c i p x)

theorem recordAfter_removed (r : Option SessionRecord) :
    recordAfter c (log ++ [.removed c r]) = none :=
  recordAfter_of_some (Entry.attempt?_removed c r)

/-! ## Logs that are consistent -/

variable (log) in
/-- An entry is what the log before it makes of it. -/
def Entry.Follows : Entry → Prop
  | .identified c i p x => x =
      if (recordAfter c log).any SessionRecord.isBound then .error (.alreadyBound c)
      else .ok (p.map fun q ↦ ⟨i, some q⟩)
  | .removed c r => r = recordAfter c log
  | .returned n x =>
    (∃ c i p y, log[n]? = some (.identified c i p y) ∧ x = y.map fun _ ↦ ()) ∨
      ∃ c r, log[n]? = some (.removed c r)
  | .onBound _ _ _ _ | .onStopped _ _ _ _ => True

/-- Every entry is what the log before it makes of it. -/
def Consistent (log : List Entry) : Prop :=
  ∀ past e since, log = past ++ e :: since → e.Follows past

theorem Consistent.of_append {since : List Entry} (h : Consistent (log ++ since)) :
    Consistent log := by
  rintro past e later rfl
  exact h past e (later ++ since) (by rw [List.append_assoc]; rfl)

theorem Consistent.follows {e : Entry} (h : Consistent (log ++ [e])) : e.Follows log :=
  h log e [] rfl

theorem Consistent.concat {e : Entry} (h : Consistent log) (he : e.Follows log) :
    Consistent (log ++ [e]) := by
  intro past f since hp
  rcases List.eq_nil_or_concat since with rfl | ⟨later, g, rfl⟩
  · obtain ⟨rfl, hf⟩ := List.append_inj' hp rfl
    cases hf
    exact he
  · rw [List.concat_eq_append, ← List.cons_append, ← List.append_assoc] at hp
    obtain ⟨rfl, -⟩ := List.append_inj' hp rfl
    exact h past f later rfl

/-- An entry that changes no record of a connection leaves it as it was. -/
theorem Entry.Follows.recordAfter_eq {e : Entry} (h : e.Follows log) (he : ¬e.Changes c) :
    recordAfter c (log ++ [e]) = recordAfter c log := by
  cases e with
  | identified d i p x =>
    by_cases hd : d = c
    · subst hd
      rw [Entry.Follows] at h
      rw [recordAfter_identified]
      split at h
      · next hb => exact if_pos hb
      · exact absurd rfl (h ▸ he)
    · exact recordAfter_of_none (Entry.attempt?_identified_of_ne hd i p x)
  | removed d x => exact recordAfter_of_none (Entry.attempt?_removed_of_ne he x)
  | _ => exact recordAfter_of_none rfl

/-- A connection that has just been identified has the record that was asked for. -/
theorem Consistent.recordAfter_fresh {i : Identity} {p : Option BoundPlayer}
    {x : Option Player} (h : Consistent (log ++ [.identified c i p (.ok x)])) :
    recordAfter c (log ++ [.identified c i p (.ok x)]) = some ⟨c, i, p⟩ := by
  have hf := h.follows
  rw [Entry.Follows] at hf
  rw [recordAfter_identified]
  split at hf
  · cases hf
  · next hb => exact if_neg hb

/-- While no stop removes it, a bound record stays as it is. -/
theorem recordAfter_of_bound {middle : List Entry} {r : SessionRecord}
    (hr : recordAfter c log = some r) (hb : r.isBound = true)
    (hm : ∀ x, .removed c x ∉ middle) : recordAfter c (log ++ middle) = some r := by
  induction middle using List.reverseRecOn with
  | nil => rwa [List.append_nil]
  | append_singleton middle e ih =>
    have hr := ih fun x hx ↦ hm x (List.mem_append_left _ hx)
    rw [← List.append_assoc]
    cases ha : e.attempt? c with
    | none => rw [recordAfter_of_none ha, hr]
    | some a =>
      rw [recordAfter_of_some ha, hr]
      cases a with
      | identify i p => exact if_pos hb
      | stop =>
        obtain ⟨x, rfl⟩ := Entry.attempt?_eq_stop ha
        exact absurd (List.mem_append_right _ List.mem_cons_self) (hm x)

/-- Once a player is bound, the connection keeps its record until a stop removes it: to identify it
again is refused, and changes nothing. -/
theorem Consistent.bound_between (h : Consistent log) {past middle since : List Entry}
    {i : Identity} {p : BoundPlayer} {x : Option Player}
    (hl : log = past ++ .identified c i (some p) (.ok x) :: (middle ++ since))
    (hm : ∀ y, .removed c y ∉ middle) :
    recordAfter c (past ++ .identified c i (some p) (.ok x) :: middle) = some ⟨c, i, some p⟩ ∧
      ∀ j q y, .identified c j q y ∈ middle → y = .error (.alreadyBound c) := by
  rw [List.append_cons] at hl ⊢
  subst hl
  have hbound := h.of_append.recordAfter_fresh
  refine ⟨recordAfter_of_bound hbound rfl hm, ?_⟩
  intro j q y hy
  obtain ⟨before, after, rfl⟩ := List.append_of_mem hy
  have hr : recordAfter c (past ++ [.identified c i (some p) (.ok x)] ++ before) =
      some ⟨c, i, some p⟩ :=
    recordAfter_of_bound hbound rfl fun z hz ↦ hm z (List.mem_append_left _ hz)
  have hf := h (past ++ [.identified c i (some p) (.ok x)] ++ before) (.identified c j q y)
    (after ++ since) (by simp)
  rw [Entry.Follows, hr] at hf
  exact hf

/-- To identify a connection changes no record if it is refused. -/
theorem Consistent.refused (h : Consistent log) {past since : List Entry} {i : Identity}
    {p : Option BoundPlayer} {e : DirectoryError}
    (hl : log = past ++ .identified c i p (.error e) :: since) (d : ConnectionId) :
    recordAfter d (past ++ [.identified c i p (.error e)]) = recordAfter d past :=
  (h past _ since hl).recordAfter_eq id

/-- A log says last of a connection that it was identified with the content of a record. -/
def LastIdentified (c : ConnectionId) (r : SessionRecord) (log : List Entry) : Prop :=
  ∃ past x since, log = past ++ .identified c r.identity r.player (.ok x) :: since ∧
    ∀ e ∈ since, ¬e.Changes c

/-- The record of a connection is that of the last call that identified it. -/
theorem Consistent.last_identified (h : Consistent log) {r : SessionRecord}
    (hr : recordAfter c log = some r) : LastIdentified c r log := by
  induction log using List.reverseRecOn with
  | nil => cases hr
  | append_singleton log e ih =>
    by_cases he : e.Changes c
    · cases e with
      | identified d i p x =>
        cases x with
        | error y => exact he.elim
        | ok x =>
          obtain rfl : d = c := he
          rw [h.recordAfter_fresh] at hr
          cases hr
          exact ⟨log, x, [], rfl, by simp⟩
      | removed d x =>
        obtain rfl : d = c := he
        rw [recordAfter_removed] at hr
        cases hr
      | _ => exact he.elim
    · obtain ⟨past, x, since, hl, hs⟩ := ih h.of_append (h.follows.recordAfter_eq he ▸ hr)
      refine ⟨past, x, since ++ [e], by rw [hl]; simp, ?_⟩
      intro f hf
      obtain hf | hf := List.mem_append.mp hf
      · exact hs f hf
      · exact List.mem_singleton.mp hf ▸ he

/-- While nothing changes it, a record stays as it is. -/
theorem Consistent.recordAfter_append {since : List Entry} (h : Consistent (log ++ since))
    (hs : ∀ e ∈ since, ¬e.Changes c) : recordAfter c (log ++ since) = recordAfter c log := by
  induction since using List.reverseRecOn with
  | nil => rw [List.append_nil]
  | append_singleton since e ih =>
    rw [← List.append_assoc] at h ⊢
    rw [h.follows.recordAfter_eq (hs e (List.mem_append_right _ List.mem_cons_self))]
    exact ih h.of_append fun f hf ↦ hs f (List.mem_append_left _ hf)

/-- The record of a connection is what the last call that changed it has left there. -/
theorem Consistent.recordAfter_eq_some_iff (h : Consistent log) {r : SessionRecord} :
    recordAfter c log = some r ↔ r.connection = c ∧ LastIdentified c r log := by
  constructor
  · intro hr
    have hl := h.last_identified hr
    refine ⟨?_, hl⟩
    obtain ⟨past, x, since, rfl, hs⟩ := hl
    rw [List.append_cons] at h hr
    rw [h.recordAfter_append hs, h.of_append.recordAfter_fresh] at hr
    exact (congrArg SessionRecord.connection (Option.some.inj hr)).symm
  · rintro ⟨rfl, past, x, since, rfl, hs⟩
    rw [List.append_cons] at h ⊢
    rw [h.recordAfter_append hs, h.of_append.recordAfter_fresh]

/-- A call has identified a connection, and it has not been stopped since. -/
def IdentifiedSinceStop (c : ConnectionId) (log : List Entry) : Prop :=
  ∃ past i p x since, log = past ++ .identified c i p (.ok x) :: since ∧ ∀ r, .removed c r ∉ since

/-- Only a stop takes a record away. -/
theorem isSome_recordAfter_append {since : List Entry} (hl : (recordAfter c log).isSome = true)
    (hs : ∀ r, .removed c r ∉ since) : (recordAfter c (log ++ since)).isSome = true := by
  induction since using List.reverseRecOn with
  | nil => rwa [List.append_nil]
  | append_singleton since e ih =>
    have ih := ih fun r hr ↦ hs r (List.mem_append_left _ hr)
    rw [← List.append_assoc]
    cases ha : e.attempt? c with
    | none => rwa [recordAfter_of_none ha]
    | some a =>
      rw [recordAfter_of_some ha]
      cases a with
      | identify i p =>
        rw [Attempt.settle]
        split
        · exact ih
        · rfl
      | stop =>
        obtain ⟨x, rfl⟩ := Entry.attempt?_eq_stop ha
        exact absurd (List.mem_append_right _ List.mem_cons_self) (hs x)

/-- A connection has a record exactly if it was identified after its last stop. -/
theorem Consistent.isSome_recordAfter_iff (h : Consistent log) :
    (recordAfter c log).isSome = true ↔ IdentifiedSinceStop c log := by
  constructor
  · intro hr
    obtain ⟨r, hr⟩ := Option.isSome_iff_exists.mp hr
    obtain ⟨past, x, since, hl, hs⟩ := h.last_identified hr
    refine ⟨past, r.identity, r.player, x, since, hl, ?_⟩
    intro y hy
    exact hs _ hy rfl
  · rintro ⟨past, i, p, x, since, rfl, hs⟩
    rw [List.append_cons] at h ⊢
    refine isSome_recordAfter_append ?_ hs
    rw [h.of_append.recordAfter_fresh]
    rfl

/-- Every player that was bound to a connection was removed by a stop, or it is bound to it now. -/
theorem Consistent.count_binds (h : Consistent log) (c : ConnectionId) :
    log.countP (Entry.binds c) = log.countP (Entry.unbinds c) +
      if (recordAfter c log).any SessionRecord.isBound then 1 else 0 := by
  induction log using List.reverseRecOn with
  | nil => rfl
  | append_singleton log e ih =>
    have ih := ih h.of_append
    have hf := h.follows
    rw [List.countP_append, List.countP_append, ih, List.countP_singleton, List.countP_singleton]
    cases e with
    | identified d i p x =>
      by_cases hd : d = c
      · subst hd
        rw [Entry.Follows] at hf
        rw [recordAfter_identified]
        by_cases hb : (recordAfter d log).any SessionRecord.isBound = true
        · rw [if_pos hb] at hf
          subst hf
          simp [hb, Entry.binds, Entry.unbinds]
        · rw [if_neg hb] at hf
          subst hf
          cases p <;> simp [hb, Entry.binds, Entry.unbinds, SessionRecord.isBound]
      · rw [recordAfter_of_none (Entry.attempt?_identified_of_ne hd i p x)]
        have hn : Entry.binds c (.identified d i p x) = false := by
          cases p <;> cases x <;> simp [Entry.binds, hd]
        simp [hn, Entry.unbinds]
    | removed d r =>
      by_cases hd : d = c
      · subst hd
        rw [recordAfter_removed]
        rw [Entry.Follows] at hf
        subst hf
        cases recordAfter d log with
        | none => rfl
        | some r => simp [Entry.binds, Entry.unbinds]
      · rw [recordAfter_of_none (Entry.attempt?_removed_of_ne hd r)]
        cases r <;> simp [Entry.binds, Entry.unbinds, hd]
    | _ =>
      rw [recordAfter_of_none rfl]
      simp [Entry.binds, Entry.unbinds]

end

end SealedSession
