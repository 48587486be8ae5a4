import Mathlib.Data.List.Nodup
import Mathlib.Data.List.Perm.Basic
import SealedSession.Proofs.Directory.Ledger

/-!
# Tasks that share a switchboard

Several tasks identify connections and stop their sessions, between each other's steps. The log of
their calls says what the directory holds, and what each call has yet to do: a call tells of what it
has done, by a callback, and then it returns.

* `Entry.owes`, `Act.owed`: the callbacks that a call makes, and those that are still to be made.
* `Advanced`: what a step of a task does; `advanced_advance` says so of every step.
* `Shared.Sound`: what holds whenever tasks share a switchboard; `sound_run` is the result.
* `Shared.Sound.mem_records_iff`: the records are those that the log tells of.
-/

namespace SealedSession

/-! ## Callbacks that are due -/

namespace Entry

/-- The callbacks of a call. -/
def owes (call : Nat) : Entry → List Entry
  | .identified c i (some p) (.ok _) => [.onBound call c i ⟨i, some p⟩]
  | .removed c (some r) => [.onStopped call c r.identity ⟨r.identity, r.player⟩]
  | _ => []

/-- The call whose callback has run. -/
def callback? : Entry → Option Nat
  | .onBound n _ _ _ | .onStopped n _ _ _ => some n
  | _ => none

/-- The call that has returned. -/
def returned? : Entry → Option Nat
  | .returned n _ => some n
  | _ => none

/-- Whether a call has begun. -/
def isCall : Entry → Bool
  | .identified _ _ _ _ | .removed _ _ => true
  | _ => false

/-- A callback of a call has run. -/
def isCallbackOf (call : Nat) (e : Entry) : Bool := e.callback? = some call

theorem callback?_of_owes {call : Nat} {e f : Entry} (h : f ∈ e.owes call) :
    f.callback? = some call := by
  unfold owes at h
  split at h
  · rw [List.mem_singleton.mp h]
    rfl
  · rw [List.mem_singleton.mp h]
    rfl
  · cases h

theorem length_owes_le (call : Nat) (e : Entry) : (e.owes call).length ≤ 1 := by
  unfold owes
  split <;> simp

end Entry

namespace Act

/-- The call that an act belongs to. -/
def call? : Act → Option Nat
  | .perform _ => none
  | .binding n _ _ _ _ | .stopping n _ _ _ _ _ _ | .notifying n _ _ _ _ _
  | .returning n _ _ => some n

/-- The callbacks that an act makes. -/
def owed : Act → List Entry
  | .binding n c p _ _ => [.onBound n c p.identity p]
  | .stopping n c r _ _ _ _ => [.onStopped n c r.identity ⟨r.identity, r.player⟩]
  | _ => []

theorem call?_of_owed {a : Act} {e : Entry} (h : e ∈ a.owed) : a.call? = e.callback? := by
  cases a with
  | binding | stopping =>
    rw [List.mem_singleton.mp h]
    rfl
  | _ => cases h

theorem exists_call_of_owed {a : Act} {e : Entry} (h : e ∈ a.owed) : ∃ n, a.call? = some n := by
  cases a with
  | binding n | stopping n => exact ⟨n, rfl⟩
  | _ => cases h

/-- An act goes on with the call that the log tells of. -/
def Fits (log : List Entry) : Act → Prop
  | .perform _ => True
  | .binding n c p _ _ => ∃ i q, log[n]? = some (.identified c i q (.ok (some p)))
  | .stopping n c r _ _ _ _ => log[n]? = some (.removed c (some r))
  | .notifying n c r _ _ _ => log[n]? = some (.removed c r)
  | .returning n x _ => (Entry.returned n x).Follows log

theorem Fits.append {log : List Entry} {a : Act} (h : a.Fits log) (since : List Entry) :
    a.Fits (log ++ since) := by
  have kept {n : Nat} {e : Entry} (he : log[n]? = some e) : (log ++ since)[n]? = some e := by
    obtain ⟨hn, -⟩ := List.getElem?_eq_some_iff.mp he
    rw [List.getElem?_append_left hn, he]
  cases a with
  | perform e => trivial
  | binding n c p onBound next =>
    obtain ⟨i, q, hn⟩ := h
    exact ⟨i, q, kept hn⟩
  | stopping n c r reason message onStopped next => exact kept h
  | notifying n c r reason message next => exact kept h
  | returning n x next =>
    obtain ⟨c, i, p, y, hn, hx⟩ | ⟨c, r, hn⟩ := h
    · exact .inl ⟨c, i, p, y, kept hn, hx⟩
    · exact .inr ⟨c, r, kept hn⟩

end Act

/-! ## The calls of a log -/

/-- The callbacks of all calls of a log. -/
def owing (log : List Entry) : List Entry := log.zipIdx.flatMap fun x ↦ x.1.owes x.2

/-- The numbers of all calls of a log. -/
def calls (log : List Entry) : List Nat :=
  log.zipIdx.filterMap fun x ↦ if x.1.isCall then some x.2 else none

theorem owing_concat (log : List Entry) (e : Entry) :
    owing (log ++ [e]) = owing log ++ e.owes log.length := by
  simp [owing, List.zipIdx_append]

theorem calls_concat (log : List Entry) (e : Entry) :
    calls (log ++ [e]) = calls log ++ if e.isCall then [log.length] else [] := by
  unfold calls
  rw [List.zipIdx_append, List.filterMap_append]
  cases h : e.isCall <;> simp [h]

theorem nodup_calls (log : List Entry) : (calls log).Nodup ∧ ∀ n ∈ calls log, n < log.length := by
  induction log using List.reverseRecOn with
  | nil => exact ⟨List.nodup_nil, by simp [calls]⟩
  | append_singleton log e ih =>
    obtain ⟨hd, hn⟩ := ih
    rw [calls_concat]
    cases e.isCall with
    | false =>
      rw [if_neg Bool.false_ne_true, List.append_nil, List.length_append]
      exact ⟨hd, fun n hm ↦ Nat.lt_succ_of_lt (hn n hm)⟩
    | true =>
      rw [if_pos rfl, List.length_append]
      constructor
      · refine List.nodup_append.mpr ⟨hd, List.nodup_singleton _, ?_⟩
        intro n hm k hk
        rw [List.mem_singleton.mp hk]
        exact Nat.ne_of_lt (hn n hm)
      · intro n hm
        rcases List.mem_append.mp hm with hm | hm
        · exact Nat.lt_succ_of_lt (hn n hm)
        · exact List.mem_singleton.mp hm ▸ Nat.lt_succ_self _

theorem filter_owes (n k : Nat) (e : Entry) :
    (e.owes n).filter (Entry.isCallbackOf k) = if n = k then e.owes n else [] := by
  split
  · next h =>
    refine List.filter_eq_self.mpr fun f hf ↦ ?_
    simp [Entry.isCallbackOf, Entry.callback?_of_owes hf, h]
  · next h =>
    refine List.filter_eq_nil_iff.mpr fun f hf ↦ ?_
    simp [Entry.isCallbackOf, Entry.callback?_of_owes hf, h]

/-- Among all callbacks, those of one call are what its entry owes. -/
theorem filter_owing {log : List Entry} {n : Nat} {e : Entry} (h : log[n]? = some e) :
    (owing log).filter (Entry.isCallbackOf n) = e.owes n := by
  have at? (log : List Entry) : (owing log).filter (Entry.isCallbackOf n) =
      (log[n]?.map (Entry.owes n)).getD [] := by
    induction log using List.reverseRecOn with
    | nil => rfl
    | append_singleton log e ih =>
      rw [owing_concat, List.filter_append, ih, filter_owes]
      rcases Nat.lt_trichotomy log.length n with hn | hn | hn
      · have hl : (log ++ [e]).length ≤ n := by
          rw [List.length_append]
          exact hn
        rw [if_neg (Nat.ne_of_lt hn), List.append_nil, List.getElem?_eq_none (Nat.le_of_lt hn),
          List.getElem?_eq_none hl]
      · simp [hn]
      · rw [if_neg (Nat.ne_of_gt hn), List.append_nil, List.getElem?_append_left hn]
  rw [at?, h]
  rfl

/-! ## One step of a task -/

/-- The directory is what the log makes of it. -/
structure Reflects (d : Directory) (log : List Entry) : Prop where
  distinct : d.Distinct
  record : ∀ c, d.record? c = recordAfter c log

/-- What a step of a task does: the entry that it makes follows from the log, and so does the
directory; the acts that replace the old one go on with its call, or with a new one; and what was
due of callbacks and of returns is done or stays due. -/
structure Advanced (log : List Entry) (a : Act) (acts : List Act) (d : Directory)
    (entry : Option Entry) : Prop where
  directory : Reflects d (log ++ entry.toList)
  follows : ∀ e ∈ entry, e.Follows log
  fits : ∀ a ∈ acts, a.Fits (log ++ entry.toList)
  callbacks : entry.toList.filter (·.callback?.isSome) ++ acts.flatMap Act.owed =
    a.owed ++ entry.toList.flatMap (Entry.owes log.length)
  returns : entry.toList.filterMap Entry.returned? ++ acts.filterMap Act.call? =
    a.call?.toList ++ if entry.any Entry.isCall then [log.length] else []

section

variable {κ : Type} [Link κ] {log : List Entry} {b : Switchboard κ}

theorem Reflects.of_none {d : Directory} (h : Reflects d log) {e : Entry}
    (he : ∀ c, e.attempt? c = none) : Reflects d (log ++ [e]) :=
  ⟨h.distinct, fun c ↦ (h.record c).trans (recordAfter_of_none (he c)).symm⟩

theorem Reflects.identified {d : Directory} (h : Reflects d log) {c : ConnectionId}
    (hf : (d.record? c).any SessionRecord.isBound = false) (i : Identity) (p : Option BoundPlayer)
    (x : Except DirectoryError (Option Player)) :
    Reflects ⟨Directory.insert ⟨c, i, p⟩ d.records⟩ (log ++ [.identified c i p x]) := by
  refine ⟨h.distinct.insert _, fun d' ↦ ?_⟩
  by_cases hd : c = d'
  · subst hd
    rw [recordAfter_identified, ← h.record, hf]
    exact Directory.find?_insert ⟨c, i, p⟩ d.records
  · rw [recordAfter_of_none (Entry.attempt?_identified_of_ne hd i p x), ← h.record]
    exact Directory.find?_insert_of_ne ⟨c, i, p⟩ d.records hd

theorem Reflects.removed {d : Directory} (h : Reflects d log) (c : ConnectionId)
    (r : Option SessionRecord) : Reflects (d.remove c).1 (log ++ [.removed c r]) := by
  refine ⟨h.distinct.remove c, fun d' ↦ ?_⟩
  by_cases hd : c = d'
  · subst hd
    rw [recordAfter_removed, Directory.record?_remove]
  · rw [recordAfter_of_none (Entry.attempt?_removed_of_ne hd r), ← h.record]
    exact Directory.record?_remove_of_ne d (Ne.symm hd)

theorem Reflects.refused {d : Directory} (h : Reflects d log) {c : ConnectionId}
    (hb : (d.record? c).any SessionRecord.isBound = true) (i : Identity) (p : Option BoundPlayer)
    (x : Except DirectoryError (Option Player)) :
    Reflects d (log ++ [.identified c i p x]) := by
  refine ⟨h.distinct, fun d' ↦ ?_⟩
  by_cases hd : c = d'
  · subst hd
    rw [recordAfter_identified, ← h.record, if_pos hb]
  · rw [recordAfter_of_none (Entry.attempt?_identified_of_ne hd i p x), ← h.record]

theorem advanced_identify (h : Reflects b.directory log) (c : ConnectionId) (i : Identity)
    (p : Option BoundPlayer) (onBound : Identity → Player → Errand)
    (next : Except DirectoryError Unit → Errand) :
    let a := Act.perform (.identify c i p onBound next)
    let x := a.advance log.length b
    Advanced log a x.1 x.2.1.directory x.2.2 := by
  have hc := h.record c
  have returns (x : Except DirectoryError (Option Player)) : ∀ a ∈
      [Act.returning log.length (x.map fun _ ↦ ()) next], a.Fits (log ++ [.identified c i p x]) := by
    intro a ha
    rw [List.mem_singleton.mp ha]
    exact .inl ⟨c, i, p, x, List.getElem?_concat_length, rfl⟩
  cases hb : (b.directory.record? c).any SessionRecord.isBound with
  | true =>
    simp only [Act.advance, Switchboard.identify_of_bound hb]
    refine ⟨h.refused hb i p _, ?_, returns (.error (.alreadyBound c)), ?_, rfl⟩
    · rintro e ⟨⟩
      rw [Entry.Follows, ← hc, if_pos hb]
    · cases p <;> rfl
  | false =>
    simp only [Act.advance, Switchboard.identify_of_free hb]
    have follows (e : Entry) (he : e ∈ some (Entry.identified c i p
        (.ok (p.map fun q ↦ ⟨i, some q⟩)))) : e.Follows log := by
      cases he
      rw [Entry.Follows, ← hc, hb]
      rfl
    cases p with
    | none => exact ⟨h.identified hb i none _, follows, returns (.ok none), rfl, rfl⟩
    | some q =>
      refine ⟨h.identified hb i (some q) _, follows, ?_, rfl, rfl⟩
      intro a ha
      rw [List.mem_singleton.mp ha]
      exact ⟨i, some q, List.getElem?_concat_length⟩

theorem advanced_stop (h : Reflects b.directory log) (c : ConnectionId) (reason : StopReason)
    (message : String) (onStopped : Identity → Player → Errand)
    (next : Except DirectoryError Unit → Errand) :
    let a := Act.perform (.stop c reason message onStopped next)
    let x := a.advance log.length b
    Advanced log a x.1 x.2.1.directory x.2.2 := by
  have hr : b.release c = (b.directory.record? c,
      { b with directory := (b.directory.remove c).1 }) := rfl
  simp only [Act.advance, hr]
  have follows (e : Entry) (he : e ∈ some (Entry.removed c (b.directory.record? c))) :
      e.Follows log := by
    cases he
    exact h.record c
  cases hx : b.directory.record? c with
  | none =>
    refine ⟨h.removed c none, hx ▸ follows, ?_, rfl, rfl⟩
    intro a ha
    rw [List.mem_singleton.mp ha]
    exact List.getElem?_concat_length
  | some r =>
    refine ⟨h.removed c (some r), hx ▸ follows, ?_, rfl, rfl⟩
    intro a ha
    rw [List.mem_singleton.mp ha]
    exact List.getElem?_concat_length

/-- Every step of a task is as it should be. -/
theorem advanced_advance (h : Reflects b.directory log) {a : Act} (ha : a.Fits log) :
    let x := a.advance log.length b
    Advanced log a x.1 x.2.1.directory x.2.2 := by
  have stays : Reflects b.directory (log ++ []) := by rwa [List.append_nil]
  have quiet (e : Entry) (he : e ∈ (none : Option Entry)) : e.Follows log := nomatch he
  cases a with
  | perform e =>
    cases e with
    | done => exact ⟨stays, quiet, nofun, rfl, rfl⟩
    | look next =>
      refine ⟨stays, quiet, ?_, rfl, rfl⟩
      intro a ha
      rw [List.mem_singleton.mp ha]
      trivial
    | identify c i p onBound next => exact advanced_identify h c i p onBound next
    | stop c reason message onStopped next => exact advanced_stop h c reason message onStopped next
  | binding n c p onBound next =>
    refine ⟨h.of_none fun _ ↦ rfl, ?_, ?_, rfl, rfl⟩
    · rintro e ⟨⟩
      trivial
    · obtain ⟨i, q, hn⟩ := ha
      intro a ha
      rcases List.mem_cons.mp ha with rfl | ha
      · trivial
      · rw [List.mem_singleton.mp ha]
        have hr : (Act.returning n (.ok ()) next).Fits log := .inl ⟨c, i, q, _, hn, rfl⟩
        exact hr.append _
  | stopping n c r reason message onStopped next =>
    refine ⟨h.of_none fun _ ↦ rfl, ?_, ?_, rfl, rfl⟩
    · rintro e ⟨⟩
      trivial
    · intro a' ha'
      rcases List.mem_cons.mp ha' with rfl | ha'
      · trivial
      · rw [List.mem_singleton.mp ha']
        have hr : (Act.notifying n c (some r) reason message next).Fits log := ha
        exact hr.append _
  | notifying n c r reason message next =>
    refine ⟨?_, quiet, ?_, rfl, rfl⟩
    · rw [Act.advance, Switchboard.directory_notify]
      exact stays
    · intro a' ha'
      rw [List.mem_singleton.mp ha']
      have hr : (Act.returning n (b.notify c r reason message).1 next).Fits log := .inr ⟨c, r, ha⟩
      exact hr.append _
  | returning n x next =>
    refine ⟨h.of_none fun _ ↦ rfl, ?_, ?_, rfl, rfl⟩
    · rintro e ⟨⟩
      exact ha
    · intro a' ha'
      rw [List.mem_singleton.mp ha']
      trivial

end

/-! ## All tasks together -/

namespace Shared

variable {κ : Type} [Link κ]

/-- All that is yet to be done. -/
def acts (w : Shared κ) : List Act := w.threads.flatten

omit [Link κ] in
/-- A task stands somewhere among all that is yet to be done. -/
theorem flatten_set {threads : List (List Act)} {k : Nat} {a : Act} {rest : List Act}
    (h : threads[k]? = some (a :: rest)) : ∃ before after,
      threads.flatten = before ++ (a :: after) ∧
        ∀ acts, (threads.set k (acts ++ rest)).flatten = before ++ (acts ++ after) := by
  induction threads generalizing k with
  | nil => cases h
  | cons t threads ih =>
    cases k with
    | zero =>
      cases h
      exact ⟨[], rest ++ threads.flatten, rfl, fun acts ↦ List.append_assoc _ _ _⟩
    | succ k =>
      obtain ⟨before, after, hf, hs⟩ := ih h
      refine ⟨t ++ before, after, ?_, fun acts ↦ ?_⟩
      · rw [List.flatten_cons, hf, List.append_assoc]
      · rw [List.set_cons_succ, List.flatten_cons, hs, List.append_assoc]

/-- A move begins a task or changes the connections alone, or it is one step of a task. -/
theorem step_cases (w : Shared κ) (m : Move κ) :
    ((step w m).log = w.log ∧ (step w m).board.directory = w.board.directory ∧
      ∃ es : List Errand, (step w m).acts = w.acts ++ es.map .perform) ∨
    ∃ before a after, w.acts = before ++ (a :: after) ∧
      (step w m).acts = before ++ ((a.advance w.log.length w.board).1 ++ after) ∧
      (step w m).board = (a.advance w.log.length w.board).2.1 ∧
      (step w m).log = w.log ++ (a.advance w.log.length w.board).2.2.toList := by
  cases m with
  | spawn e => exact .inl ⟨rfl, rfl, [e], by simp [step, acts]⟩
  | elapse links =>
    refine .inl ⟨rfl, rfl, [], ?_⟩
    exact (List.append_nil w.acts).symm
  | turn k =>
    simp only [step]
    split
    · next a rest hk =>
      obtain ⟨before, after, hf, hs⟩ := flatten_set hk
      exact .inr ⟨before, a, after, hf, hs _, rfl, rfl⟩
    · exact .inl ⟨rfl, rfl, [], (List.append_nil _).symm⟩

/-- What holds of several tasks that share a switchboard. -/
structure Sound (w : Shared κ) : Prop where
  directory : Reflects w.board.directory w.log
  consistent : Consistent w.log
  fits : ∀ a ∈ w.acts, a.Fits w.log
  /-- What a call owes of callbacks has been done, or is still to be done. -/
  callbacks : (w.log.filter (·.callback?.isSome) ++ w.acts.flatMap Act.owed).Perm (owing w.log)
  /-- A call has returned, or goes on. -/
  returns : (w.log.filterMap Entry.returned? ++ w.acts.filterMap Act.call?).Perm (calls w.log)

/-- A part of a list gives way to another while something else moves from one end to the other. -/
theorem perm_replace {α : Type} {done before after due owed old new made : List α}
    (h : (done ++ (before ++ (old ++ after))).Perm due) (hn : made ++ new = old ++ owed) :
    (done ++ made ++ (before ++ (new ++ after))).Perm (due ++ owed) := by
  classical
  rw [List.perm_iff_count] at h ⊢
  intro a
  have ha := h a
  have hm := congrArg (List.count a) hn
  simp only [List.count_append] at ha hm ⊢
  omega

omit [Link κ] in
theorem sound_start (ciphers : List CipherUse → Cipher) (links : ConnectionId → κ) :
    (start ciphers links).Sound where
  directory := ⟨List.nodup_nil, fun _ ↦ rfl⟩
  consistent := by
    intro past e since h
    exact absurd h (by simp [start])
  fits := nofun
  callbacks := .refl _
  returns := .refl _

theorem sound_step {w : Shared κ} (h : w.Sound) (m : Move κ) : (step w m).Sound := by
  obtain ⟨hl, hd, es, ha⟩ | ⟨before, a, after, hw, ha, hb, hl⟩ := step_cases w m
  · have ho : (es.map Act.perform).flatMap Act.owed = [] := by simp [Act.owed]
    have hc : (es.map Act.perform).filterMap Act.call? = [] := by simp [Act.call?]
    refine ⟨hl ▸ hd ▸ h.directory, hl ▸ h.consistent, ?_, ?_, ?_⟩
    · rw [ha, hl]
      intro a hm
      rcases List.mem_append.mp hm with hm | hm
      · exact h.fits a hm
      · obtain ⟨e, -, rfl⟩ := List.mem_map.mp hm
        trivial
    · rw [ha, hl, List.flatMap_append, ho, List.append_nil]
      exact h.callbacks
    · rw [ha, hl, List.filterMap_append, hc, List.append_nil]
      exact h.returns
  · have fits : a.Fits w.log := h.fits a (by rw [hw]; simp)
    have hx := advanced_advance h.directory fits
    revert ha hb hl hx
    generalize a.advance w.log.length w.board = x
    intro ha hb hl hx
    replace hx : Advanced w.log a x.1 (step w m).board.directory x.2.2 := hb ▸ hx
    have howing : owing (step w m).log =
        owing w.log ++ x.2.2.toList.flatMap (Entry.owes w.log.length) := by
      rw [hl]
      cases x.2.2 with
      | none => simp
      | some e => simpa using owing_concat w.log e
    have hcalls : calls (step w m).log =
        calls w.log ++ if x.2.2.any Entry.isCall then [w.log.length] else [] := by
      rw [hl]
      cases x.2.2 with
      | none => simp
      | some e => exact calls_concat w.log e
    refine ⟨hl ▸ hx.directory, ?_, ?_, ?_, ?_⟩
    · rw [hl]
      have hf := hx.follows
      revert hf
      cases x.2.2 with
      | none =>
        intro _
        exact (List.append_nil w.log).symm ▸ h.consistent
      | some e => exact fun hf ↦ h.consistent.concat (hf e rfl)
    · rw [ha, hl]
      intro a' hm
      have old (hm : a' ∈ w.acts) : a'.Fits (w.log ++ x.2.2.toList) := (h.fits a' hm).append _
      rw [hw] at old
      rcases List.mem_append.mp hm with hm | hm
      · exact old (List.mem_append_left _ hm)
      · rcases List.mem_append.mp hm with hm | hm
        · exact hx.fits a' hm
        · exact old (List.mem_append_right _ (List.mem_cons_of_mem _ hm))
    · rw [howing, hl, ha, List.filter_append, List.flatMap_append, List.flatMap_append]
      have hc := h.callbacks
      rw [hw, List.flatMap_append, List.flatMap_cons] at hc
      exact perm_replace hc hx.callbacks
    · rw [hcalls, hl, ha, List.filterMap_append, List.filterMap_append, List.filterMap_append]
      have hc := h.returns
      have hcall : (a :: after).filterMap Act.call? =
          a.call?.toList ++ after.filterMap Act.call? := by
        rw [List.filterMap_cons]
        cases a.call? <;> rfl
      rw [hw, List.filterMap_append, hcall] at hc
      exact perm_replace hc hx.returns

theorem sound_run (ciphers : List CipherUse → Cipher) (links : ConnectionId → κ)
    (moves : List (Move κ)) : (run (start ciphers links) moves).Sound := by
  induction moves using List.reverseRecOn with
  | nil => exact sound_start ciphers links
  | append_singleton moves m ih =>
    rw [run_concat]
    exact sound_step ih m

section

omit [Link κ]

variable {w : Shared κ} (h : w.Sound) {c : ConnectionId} {r : SessionRecord}

include h

/-- The log says which record a connection has. -/
theorem Sound.record?_eq_some_iff :
    w.board.directory.record? c = some r ↔ r.connection = c ∧ LastIdentified c r w.log := by
  rw [h.directory.record, h.consistent.recordAfter_eq_some_iff]

/-- The log says which records there are. -/
theorem Sound.mem_records_iff :
    r ∈ w.board.directory.records ↔ LastIdentified r.connection r w.log := by
  rw [Directory.mem_records_iff h.directory.distinct, h.record?_eq_some_iff]
  exact and_iff_right rfl

end

end Shared

end SealedSession
