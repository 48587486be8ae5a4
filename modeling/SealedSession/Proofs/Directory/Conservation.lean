import SealedSession.Proofs.Directory.Progress

/-!
# No binding is lost

Whatever several tasks do with a switchboard, and in whatever order they take their steps, every
player that was bound is either bound still, or it was removed by one stop, which tells of it once.

* `Sound.callbacks_of_call`: what a call tells, and what it has yet to tell.
* `Sound.count_binds`: players that were bound, players that were reported, and those in between.
* `bindings_conserved`: the main result.
-/

namespace SealedSession

namespace Shared

variable {κ : Type} [Link κ]

/-! ## Each call -/

section

omit [Link κ]

variable {w : Shared κ} {n : Nat} {e : Entry}

/-- The callbacks of a call that have run, with those that are still to be made, are what its entry
owes. -/
theorem Sound.callbacks_of_call (h : w.Sound) (he : w.log[n]? = some e) :
    w.log.filter (Entry.isCallbackOf n) ++ (w.acts.flatMap Act.owed).filter (Entry.isCallbackOf n) =
      e.owes n := by
  have hp := h.callbacks.filter (Entry.isCallbackOf n)
  have hc : (w.log.filter (·.callback?.isSome)).filter (Entry.isCallbackOf n) =
      w.log.filter (Entry.isCallbackOf n) := by
    rw [List.filter_filter]
    congr 1
    funext f
    cases hf : f.callback? <;> simp [Entry.isCallbackOf, hf]
  rw [List.filter_append, hc, filter_owing he] at hp
  -- there is one callback at most, so the order does not matter
  have hl := e.length_owes_le n
  revert hp hl
  cases e.owes n with
  | nil => exact fun hp _ ↦ hp.eq_nil
  | cons f fs =>
    intro hp hl
    obtain rfl : fs = [] := List.eq_nil_of_length_eq_zero (by simpa using hl)
    exact hp.eq_singleton

/-- A call has returned, or it goes on. -/
theorem Sound.returned_or_inProgress (h : w.Sound) (he : w.log[n]? = some e)
    (hc : e.isCall = true) : (∃ x, .returned n x ∈ w.log) ∨ w.InProgress n := by
  have hn : n ∈ calls w.log := by
    refine List.mem_filterMap.mpr ⟨(e, n), ?_, by simp [hc]⟩
    exact List.mem_zipIdx_iff_getElem?.mpr he
  rcases List.mem_append.mp (h.returns.mem_iff.mpr hn) with hr | hr
  · obtain ⟨f, hf, hr⟩ := List.mem_filterMap.mp hr
    cases f with
    | returned m x =>
      cases hr
      exact .inl ⟨x, hf⟩
    | _ => cases hr
  · exact .inr (List.mem_filterMap.mp hr)

/-- A call that has returned does not go on. -/
theorem Sound.not_inProgress (h : w.Sound) {x : Except DirectoryError Unit}
    (hx : .returned n x ∈ w.log) : ¬w.InProgress n := by
  rintro ⟨a, ha, hn⟩
  have hd := (h.returns.nodup_iff.mpr (nodup_calls w.log).1)
  refine (List.nodup_append.mp hd).2.2 n ?_ n (List.mem_filterMap.mpr ⟨a, ha, hn⟩) rfl
  exact List.mem_filterMap.mpr ⟨_, hx, rfl⟩

/-- A call that does not go on has made its callbacks. -/
theorem Sound.callbacks_of_not_inProgress (h : w.Sound) (he : w.log[n]? = some e)
    (hn : ¬w.InProgress n) : w.log.filter (Entry.isCallbackOf n) = e.owes n := by
  rw [← h.callbacks_of_call he]
  have ho : (w.acts.flatMap Act.owed).filter (Entry.isCallbackOf n) = [] := by
    refine List.filter_eq_nil_iff.mpr fun f hf hc ↦ hn ?_
    obtain ⟨a, ha, hf⟩ := List.mem_flatMap.mp hf
    exact ⟨a, ha, (Act.call?_of_owed hf).trans (by simpa [Entry.isCallbackOf] using hc)⟩
  rw [ho, List.append_nil]

/-! ## All players of a connection -/

theorem countP_owes (c : ConnectionId) (n : Nat) (e : Entry) :
    (e.owes n).countP (Entry.reports c) = if e.unbinds c then 1 else 0 := by
  cases e with
  | identified d i p x =>
    cases p <;> cases x <;> simp [Entry.owes, Entry.unbinds, Entry.reports]
  | removed d r =>
    cases r with
    | none => simp [Entry.owes, Entry.unbinds]
    | some r =>
      simp only [Entry.owes, Entry.unbinds, List.countP_singleton, Entry.reports]
      rfl
  | _ => simp [Entry.owes, Entry.unbinds]

/-- Among all callbacks that are due, one tells of each player that was removed. -/
theorem countP_owing (c : ConnectionId) (log : List Entry) :
    (owing log).countP (Entry.reports c) = log.countP (Entry.unbinds c) := by
  induction log using List.reverseRecOn with
  | nil => rfl
  | append_singleton log e ih =>
    rw [owing_concat, List.countP_append, List.countP_append, ih, countP_owes,
      List.countP_singleton]

/-- Every player that was bound to a connection was reported by a stop, or a stop is about to report
it, or it is bound. -/
theorem Sound.count_binds (h : w.Sound) (c : ConnectionId) :
    w.log.countP (Entry.binds c) = w.log.countP (Entry.reports c) +
      (w.acts.flatMap Act.owed).countP (Entry.reports c) +
      if (w.board.directory.record? c).any SessionRecord.isBound then 1 else 0 := by
  have hp := h.callbacks.countP_eq (Entry.reports c)
  have hr : (w.log.filter (·.callback?.isSome)).countP (Entry.reports c) =
      w.log.countP (Entry.reports c) := by
    rw [List.countP_filter]
    congr 1
    funext f
    cases f <;> simp [Entry.reports, Entry.callback?]
  rw [List.countP_append, hr, countP_owing] at hp
  rw [h.consistent.count_binds, h.directory.record, hp]

/-- While no call goes on, no callback is still to be made. -/
theorem owed_of_idle (h : ∀ n, ¬w.InProgress n) : w.acts.flatMap Act.owed = [] := by
  refine List.flatMap_eq_nil_iff.mpr fun a ha ↦ ?_
  cases ho : a.owed with
  | nil => rfl
  | cons f fs =>
    have hf : f ∈ a.owed := ho ▸ List.mem_cons_self
    obtain ⟨n, hn⟩ := Act.exists_call_of_owed hf
    exact absurd ⟨a, ha, hn⟩ (h n)

/-- The records depend on what was attempted on each connection alone. -/
theorem Sound.records_perm {w' : Shared κ} (h : w.Sound) (h' : w'.Sound)
    (ha : ∀ c, attempts c w.log = attempts c w'.log) :
    w.board.directory.records.Perm w'.board.directory.records := by
  have hd : w.board.directory.records.Nodup := .of_map _ h.directory.distinct
  have hd' : w'.board.directory.records.Nodup := .of_map _ h'.directory.distinct
  refine (List.perm_ext_iff_of_nodup hd hd').mpr fun r ↦ ?_
  rw [Directory.mem_records_iff h.directory.distinct, Directory.mem_records_iff h'.directory.distinct,
    h.directory.record, h'.directory.record, recordAfter, recordAfter, ha]

end

/-! ## Every run -/

/-- Every part of a log was the whole log once. -/
theorem log_of_run (w : Shared κ) (moves : List (Move κ)) {past : List Entry}
    (hw : w.log = []) (hp : past <+: (run w moves).log) :
    ∃ earlier later, moves = earlier ++ later ∧ (run w earlier).log = past := by
  induction moves using List.reverseRecOn with
  | nil => exact ⟨[], [], rfl, hw.trans (List.prefix_nil.mp (hw ▸ hp)).symm⟩
  | append_singleton moves m ih =>
    have old (hp : past <+: (run w moves).log) :
        ∃ earlier later, moves ++ [m] = earlier ++ later ∧ (run w earlier).log = past := by
      obtain ⟨earlier, later, rfl, hl⟩ := ih hp
      exact ⟨earlier, later ++ [m], List.append_assoc _ _ _, hl⟩
    rw [run_concat] at hp
    obtain ⟨hl, -⟩ | ⟨-, a, -, -, -, -, hl⟩ := step_cases (run w moves) m
    · exact old (hl ▸ hp)
    · cases he : (a.advance (run w moves).log.length (run w moves).board).2.2 with
      | none => exact old (by rwa [hl, he, Option.toList_none, List.append_nil] at hp)
      | some e =>
        rw [hl, he, Option.toList_some, List.prefix_concat_iff] at hp
        obtain rfl | hp := hp
        · exact ⟨moves ++ [m], [], (List.append_nil _).symm, by rw [run_concat, hl, he]; rfl⟩
        · exact old hp

/-- Whatever several tasks do with a switchboard, in whatever order they take their steps:

* Every call makes the callback that its entry owes once and no other, and has made it when it
  returns. It returns in every future in which all tasks go on taking turns.
* What every call finds follows from what was attempted on its connection before.
* A connection that has got a player keeps its record until a stop removes it; until then, to
  identify it is refused, which changes no record.
* A stop that finds a record finds that of the last call that has identified the connection.
* At every moment, the records are what was attempted on their connections until then.
* The players that a connection has got are those that stops have reported, those that stops are
  about to report, and the one that it has. While no call goes on, no stop is about to report.
* Whenever the same was attempted on each connection, the records are the same. -/
theorem bindings_conserved (ciphers : List CipherUse → Cipher) (links : ConnectionId → κ)
    (moves : List (Move κ)) :
    let w := run (start ciphers links) moves
    (∀ n e, w.log[n]? = some e → e.isCall = true →
      w.log.filter (Entry.isCallbackOf n) <+: e.owes n ∧
      ((∃ x, .returned n x ∈ w.log) ↔ ¬w.InProgress n) ∧
      ((∃ x, .returned n x ∈ w.log) → w.log.filter (Entry.isCallbackOf n) = e.owes n) ∧
      ∀ future, Fair future → ∃ k x, .returned n x ∈ (run w (first future k)).log) ∧
    (∀ past e since, w.log = past ++ e :: since → e.Follows past) ∧
    (∀ past c i p x middle since,
      w.log = past ++ .identified c i (some p) (.ok x) :: (middle ++ since) →
      (∀ r, .removed c r ∉ middle) →
      recordAfter c (past ++ .identified c i (some p) (.ok x) :: middle) = some ⟨c, i, some p⟩ ∧
        ∀ j q y, .identified c j q y ∈ middle → y = .error (.alreadyBound c)) ∧
    (∀ past c i p y since, w.log = past ++ .identified c i p (.error y) :: since →
      ∀ d, recordAfter d (past ++ [.identified c i p (.error y)]) = recordAfter d past) ∧
    (∀ past c r since, w.log = past ++ .removed c (some r) :: since → LastIdentified c r past) ∧
    (∀ past since, w.log = past ++ since → ∃ earlier later, moves = earlier ++ later ∧
      (run (start ciphers links) earlier).log = past ∧
      ∀ c, (run (start ciphers links) earlier).board.directory.record? c = recordAfter c past) ∧
    (∀ c, w.log.countP (Entry.binds c) = w.log.countP (Entry.reports c) +
      (w.acts.flatMap Act.owed).countP (Entry.reports c) +
      if (w.board.directory.record? c).any SessionRecord.isBound then 1 else 0) ∧
    ((∀ n, ¬w.InProgress n) → ∀ c, w.log.countP (Entry.binds c) =
      w.log.countP (Entry.reports c) +
      if (w.board.directory.record? c).any SessionRecord.isBound then 1 else 0) ∧
    ∀ ciphers' links' moves', let w' := run (start ciphers' links' : Shared κ) moves'
      (∀ c, attempts c w.log = attempts c w'.log) →
        w.board.directory.records.Perm w'.board.directory.records := by
  intro w
  have h := sound_run ciphers links moves
  refine ⟨?_, h.consistent, ?_, ?_, ?_, ?_, h.count_binds, ?_, ?_⟩
  · intro n e he hc
    have returned : (∃ x, .returned n x ∈ w.log) ↔ ¬w.InProgress n :=
      ⟨fun ⟨_, hx⟩ ↦ h.not_inProgress hx, (h.returned_or_inProgress he hc).resolve_right⟩
    refine ⟨⟨_, h.callbacks_of_call he⟩, returned,
      fun hr ↦ h.callbacks_of_not_inProgress he (returned.mp hr), fun future hf ↦ ?_⟩
    rcases h.returned_or_inProgress he hc with ⟨x, hx⟩ | hn
    · exact ⟨0, x, hx⟩
    · exact exists_returned hf hn
  · intro past c i p x middle since hl hm
    exact h.consistent.bound_between hl hm
  · intro past c i p y since hl d
    exact h.consistent.refused hl d
  · intro past c r since hl
    have hc : Consistent (past ++ .removed c (some r) :: since) := hl ▸ h.consistent
    exact hc.of_append.last_identified (h.consistent past _ since hl).symm
  · intro past since hl
    obtain ⟨earlier, later, hm, rfl⟩ := log_of_run (start ciphers links) moves rfl ⟨since, hl.symm⟩
    exact ⟨earlier, later, hm, rfl, (sound_run ciphers links earlier).directory.record⟩
  · intro hi c
    rw [h.count_binds c, owed_of_idle hi]
    rfl
  · intro ciphers' links' moves' w' ha
    exact h.records_perm (sound_run ciphers' links' moves') ha

end Shared

end SealedSession
