import SealedSession.Proofs.Service.Run
import SealedSession.Service.Trusting

/-!
# What an application is told of the sessions that end

A session ends when the record of its connection is removed from the directory. Two parties remove
records. The application may stop the session of the connection that it answers, as often as it
likes, and may identify the connection again after that. The task of the connection ends the session
once, when the connection is no longer served. The application is told of the latter alone.

* `Removal`: a record that was removed, and by whom; `Hosted.removed` lists those of a run.
* `told_turn`: what the application is told in a turn.
* `exists_removal_of_lost`: a connection loses its record in no other way.
* `told_of_conclusions`: what the application is told in a run, and when that is all that happened.
* `dismissed_untold`: an application that is not told of a session that it stopped.
-/

namespace SealedSession

/-- What the application is told of a session that ended. -/
def SessionRecord.report (r : SessionRecord) : Identity × Player :=
  (r.identity, ⟨r.identity, r.player⟩)

/-- The report that an occurrence is. -/
def Occurrence.report? : Occurrence → Option (Identity × Player)
  | .handled _ _ _ => none
  | .stopped identity player => some (identity, player)

/-- A record that was removed. -/
inductive Removal where
  /-- The application has stopped the session. -/
  | dismissal (record : SessionRecord)
  /-- The task of the connection has ended. -/
  | conclusion (record : SessionRecord)
deriving DecidableEq

namespace Removal

/-- The record that was removed. -/
def record : Removal → SessionRecord
  | .dismissal r => r
  | .conclusion r => r

/-- The record that was removed by the task of its connection. -/
def concluded? : Removal → Option SessionRecord
  | .dismissal _ => none
  | .conclusion r => some r

theorem record_of_concluded? {q : Removal} {r : SessionRecord} (h : q.concluded? = some r) :
    q.record = r := by
  cases q with
  | dismissal r => cases h
  | conclusion r =>
    cases h
    rfl

/-- Only what was concluded is told; so all is told exactly if all was concluded. -/
theorem map_concluded_eq_iff (qs : List Removal) :
    (qs.filterMap concluded?).map SessionRecord.report = qs.map (fun q ↦ q.record.report) ↔
      ∀ q ∈ qs, q.concluded?.isSome := by
  constructor
  · intro h
    refine List.filterMap_length_eq_length.mp ?_
    simpa using congrArg List.length h
  · intro h
    induction qs with
    | nil => rfl
    | cons q qs ih =>
      obtain ⟨r, hr⟩ := Option.isSome_iff_exists.mp (h q List.mem_cons_self)
      rw [List.filterMap_cons_some hr, List.map_cons, List.map_cons, record_of_concluded? hr,
        ih fun p hp ↦ h p (List.mem_cons_of_mem _ hp)]

end Removal

namespace Program

variable {A : Type}

/-- The records that a program takes out of the directory, in order. -/
def dismissed (c : ConnectionId) : Program A → Exchange → List SessionRecord
  | .finish _ _, _ => []
  | .look next, b => dismissed c (next b.directory) b
  | .reply m next, b =>
    let (r, b) := b.reply c m
    dismissed c (next r) b
  | .sendTo d recipient m next, b =>
    let (r, b) := b.send d recipient m
    dismissed c (next (r.mapError .directory)) b
  | .identify identity player next, b =>
    let (r, b) := b.identify c identity player
    dismissed c (next ((r.map fun _ ↦ ()).mapError .directory)) b
  | .stop reason message next, b =>
    let (r, b') := b.stop c reason message fun _ _ b ↦ b
    (b.release c).1.toList ++ dismissed c (next (r.mapError .directory)) b'

/-- A program that leaves its connection without the record that it had has removed one. -/
theorem exists_dismissed_of_lost {c : ConnectionId} (p : Program A) {b : Exchange}
    (hb : b.directory.record? c ≠ none) (hn : (run c p b).2.directory.record? c = none) :
    ∃ r ∈ dismissed c p b, r.connection = c := by
  induction p generalizing b with
  | finish app result => exact absurd hn hb
  | look next ih => exact ih b.directory hb hn
  | reply m next ih =>
    have hd : (b.reply c m).2.directory = b.directory := b.directory_send c _ m
    exact ih _ (b := (b.reply c m).2) (by rwa [hd]) hn
  | sendTo d recipient m next ih =>
    have hd : (b.send d recipient m).2.directory = b.directory := b.directory_send d recipient m
    exact ih _ (b := (b.send d recipient m).2) (by rwa [hd]) hn
  | identify i player next ih =>
    refine ih _ (b := (b.identify c i player).2) ?_ hn
    rw [Switchboard.identify]
    rcases b.directory.identify_cases c i player with ⟨d, q, hd, hr⟩ | ⟨e, hd, hr⟩
    · rw [hd]
      exact hr ▸ Option.some_ne_none _
    · rwa [hd]
  | stop reason message next _ =>
    obtain ⟨r, hr⟩ := Option.ne_none_iff_exists'.mp hb
    refine ⟨r, List.mem_append_left _ (Option.mem_toList.mpr hr), ?_⟩
    exact Directory.connection_of_record? hr

end Program

namespace Service

variable {A : Type} (g : Settings A)

/-- What the application was told of sessions that ended, oldest first. -/
def told (s : Service A) : List (Identity × Player) := s.occurrences.filterMap Occurrence.report?

/-- The records that the application removes when something arrives on a connection. -/
def dismissals (c : ConnectionId) (a : Arrival) (s : Service A) : List Removal :=
  match s.asked? g c a with
  | some r =>
    ((g.application s.app c r).dismissed c (s.afterReading g c a).exchange).map .dismissal
  | none => []

/-- The record that a connection has left when its task ends. -/
def conclusions (c : ConnectionId) (s : Service A) : List Removal :=
  (s.record? c).toList.map .conclusion

/-- The records that are removed when something arrives on a connection. -/
def removalsOn (c : ConnectionId) (a : Arrival) (s : Service A) : List Removal :=
  if s.isServed c then
    s.dismissals g c a ++
      match receive g c a s with
      | (none, _) => []
      | (some _, s) => s.conclusions c
  else []

/-- The records that are removed when several connections end one after another. -/
def removalsOf : List Served → Service A → List Removal
  | [], _ => []
  | t :: ts, s => s.conclusions t.connection ++ removalsOf ts (s.conclude t.connection .idle).2

/-! ### What is told -/

/-- What is told of some removals. -/
def reports (qs : List Removal) : List (Identity × Player) :=
  (qs.filterMap Removal.concluded?).map SessionRecord.report

@[simp] theorem reports_append (qs qs' : List Removal) :
    reports (qs ++ qs') = reports qs ++ reports qs' := by
  simp [reports]

/-- Nothing is told while something that arrived is taken. -/
theorem told_receive (c : ConnectionId) (a : Arrival) (s : Service A) :
    (receive g c a s).2.told = s.told := by
  have same : (afterReading g c a s).told = s.told := by
    rw [afterReading_eq]
    rfl
  rw [← same]
  rcases receive_cases g c a s with ⟨r, -, h⟩ | ⟨-, m, h⟩ | ⟨-, exit, l, h⟩
  · rw [h, exitOn_snd]
    simp [hand, note, told, Occurrence.report?]
  · rw [h, exitOn_snd]
    rfl
  · rw [h]
    rfl

theorem reports_dismissals (c : ConnectionId) (a : Arrival) (s : Service A) :
    reports (s.dismissals g c a) = [] := by
  unfold dismissals
  cases s.asked? g c a with
  | none => rfl
  | some r => simp [reports, List.filterMap_map, Function.comp_def, Removal.concluded?]

/-- When a task ends, the application is told of the record that its connection has left. -/
theorem told_conclude (c : ConnectionId) (exit : Exit) (s : Service A) :
    (s.conclude c exit).2.told = s.told ++ reports (s.conclusions c) := by
  unfold conclude conclusions record?
  cases s.exchange.directory.record? c with
  | none => simp [told, reports]
  | some r =>
    simp [told, note, reports, Occurrence.report?, Removal.concluded?, SessionRecord.report,
      SessionRecord.toPlayer]

theorem told_foldl_conclude (ts : List Served) (s : Service A) :
    (ts.foldl (fun s t ↦ (s.conclude t.connection .idle).2) s).told =
      s.told ++ reports (removalsOf ts s) := by
  induction ts generalizing s with
  | nil => simp [removalsOf, reports]
  | cons t ts ih =>
    rw [List.foldl_cons, ih, told_conclude, removalsOf, reports_append, List.append_assoc]

theorem told_arrive (c : ConnectionId) (a : Arrival) (s : Service A) :
    (arrive g c a s).told = s.told ++ reports (s.removalsOn g c a) := by
  unfold arrive removalsOn
  split
  · rw [reports_append, reports_dismissals, List.nil_append, ← told_receive g c a s]
    rcases receive g c a s with ⟨_ | exit, s'⟩
    · exact (List.append_nil _).symm
    · exact told_conclude c exit s'
  · exact (List.append_nil _).symm

/-! ### How records are lost -/

theorem mem_conclusions {c : ConnectionId} {s : Service A} (h : s.record? c ≠ none) :
    ∃ q ∈ s.conclusions c, q.record.connection = c := by
  obtain ⟨r, hr⟩ := Option.ne_none_iff_exists'.mp h
  refine ⟨.conclusion r, ?_, Directory.connection_of_record? hr⟩
  rw [conclusions, hr]
  exact List.mem_singleton_self _

theorem record?_receive_of_lost {c d : ConnectionId} {a : Arrival} {s : Service A}
    (h : s.record? c ≠ none) (hn : (receive g d a s).2.record? c = none) :
    ∃ q ∈ s.dismissals g d a, q.record.connection = c := by
  by_cases hc : c = d
  · subst hc
    rw [← record?_afterReading g c c a s] at h
    rcases receive_cases g c a s with ⟨r, hr, he⟩ | ⟨-, m, he⟩ | ⟨-, exit, l, he⟩
    · rw [he, exitOn_snd] at hn
      have same : (afterReading g c a s).app = s.app := by rw [afterReading_eq]
      change ((g.application _ c r).run c _).2.directory.record? c = none at hn
      rw [same] at hn
      obtain ⟨q, hq, hqc⟩ := Program.exists_dismissed_of_lost _ h hn
      refine ⟨.dismissal q, ?_, hqc⟩
      rw [dismissals, hr]
      exact List.mem_map_of_mem hq
    · rw [he, exitOn_snd] at hn
      refine absurd (Eq.trans ?_ hn) h
      exact congrArg (·.record? c)
        (Switchboard.directory_send (afterReading g c a s).exchange c _ m).symm
    · rw [he] at hn
      exact absurd hn h
  · rw [record?_receive_of_ne g hc] at hn
    exact absurd hn h

/-- A record that a connection loses when a task ends is the one that the task removes. -/
theorem mem_conclusions_of_lost {c d : ConnectionId} {exit : Exit} {s : Service A}
    (h : s.record? c ≠ none) (hn : (s.conclude d exit).2.record? c = none) :
    ∃ q ∈ s.conclusions d, q.record.connection = c := by
  by_cases hc : c = d
  · subst hc
    exact mem_conclusions h
  · rw [(conclude_of_ne hc exit s).2.1] at hn
    exact absurd hn h

theorem mem_removalsOf_of_lost {c : ConnectionId} (ts : List Served) {s : Service A}
    (h : s.record? c ≠ none)
    (hn : (ts.foldl (fun s t ↦ (s.conclude t.connection .idle).2) s).record? c = none) :
    ∃ q ∈ removalsOf ts s, q.record.connection = c := by
  induction ts generalizing s with
  | nil => exact absurd hn h
  | cons t ts ih =>
    by_cases hs : (s.conclude t.connection .idle).2.record? c = none
    · obtain ⟨q, hq, hqc⟩ := mem_conclusions_of_lost h hs
      exact ⟨q, List.mem_append_left _ hq, hqc⟩
    · obtain ⟨q, hq, hqc⟩ := ih hs hn
      exact ⟨q, List.mem_append_right _ hq, hqc⟩

theorem mem_removalsOn_of_lost {c d : ConnectionId} {a : Arrival} {s : Service A}
    (h : s.record? c ≠ none) (hn : (arrive g d a s).record? c = none) :
    ∃ q ∈ s.removalsOn g d a, q.record.connection = c := by
  unfold arrive at hn
  unfold removalsOn
  split at hn
  · next hd =>
    rw [if_pos hd]
    by_cases hr : (receive g d a s).2.record? c = none
    · obtain ⟨q, hq, hqc⟩ := record?_receive_of_lost g h hr
      exact ⟨q, List.mem_append_left _ hq, hqc⟩
    · -- the record has outlived the arrival, so the end of the task has taken it
      revert hn hr
      rcases receive g d a s with ⟨_ | exit, s'⟩ <;> intro hn hr
      · exact absurd hn hr
      · obtain ⟨q, hq, hqc⟩ := mem_conclusions_of_lost hr hn
        exact ⟨q, List.mem_append_right _ hq, hqc⟩
  · exact absurd hn h

end Service

namespace Hosted

open Service

variable {A : Type} (g : Settings A)

/-- The records that are removed in a turn. -/
def removals (h : Hosted A) : Turn → List Removal
  | .accept => []
  | .arrive c a => h.service.removalsOn g c a
  | .pass span => removalsOf (h.service.later span).overdue (h.service.later span)
  | .impair _ _ => []

/-- The records that are removed in a run, in order. -/
def removed (h : Hosted A) : List Turn → List Removal
  | [] => []
  | t :: ts => removals g h t ++ removed (turn g h t) ts

/-- What the application is told in a turn. -/
theorem told_turn (h : Hosted A) (t : Turn) :
    (turn g h t).service.told = h.service.told ++ reports (removals g h t) := by
  cases t with
  | accept => exact (List.append_nil _).symm
  | arrive c a => exact told_arrive g c a h.service
  | pass span => exact told_foldl_conclude _ _
  | impair c fault => exact (List.append_nil _).symm

/-- A connection that loses its record in a turn loses it by a removal. -/
theorem exists_removal_of_lost {h : Hosted A} {t : Turn} {c : ConnectionId}
    (hr : h.service.record? c ≠ none) (hn : (turn g h t).service.record? c = none) :
    ∃ q ∈ removals g h t, q.record.connection = c := by
  cases t with
  | accept => exact absurd hn hr
  | arrive d a => exact mem_removalsOn_of_lost g hr hn
  | pass span => exact mem_removalsOf_of_lost _ hr hn
  | impair d fault => exact absurd hn hr

theorem told_run (h : Hosted A) (ts : List Turn) :
    (run g h ts).service.told = h.service.told ++ reports (removed g h ts) := by
  induction ts generalizing h with
  | nil => simp [removed, reports]
  | cons t ts ih =>
    rw [run_cons, ih, told_turn, removed, reports_append, List.append_assoc]

/-- What an application is told in a run are the sessions that were concluded, each once and in
order. So it is told of every session that ended exactly if it has dismissed none; and every
session that ended was concluded or dismissed. -/
theorem told_of_conclusions (app : A) (ts : List Turn) :
    (run g (start g app) ts).service.told =
      ((removed g (start g app) ts).filterMap Removal.concluded?).map SessionRecord.report ∧
    ((run g (start g app) ts).service.told =
        (removed g (start g app) ts).map (fun q ↦ q.record.report) ↔
      ∀ q ∈ removed g (start g app) ts, q.concluded?.isSome) ∧
    ∀ before t after c, ts = before ++ t :: after →
      (run g (start g app) before).service.record? c ≠ none →
      (run g (start g app) (before ++ [t])).service.record? c = none →
      ∃ q ∈ removals g (run g (start g app) before) t, q.record.connection = c := by
  have ht : (run g (start g app) ts).service.told = reports (removed g (start g app) ts) :=
    told_run g (start g app) ts
  refine ⟨ht, ?_, fun before t after c _ hr hn ↦ ?_⟩
  · rw [ht]
    exact Removal.map_concluded_eq_iff _
  · rw [run_concat] at hn
    exact exists_removal_of_lost g hr hn

/-! ## A session that the application stops -/

/-- The envelope that a request is sent in before the session is encrypted. -/
def plainly (r : Request) : Bytes := (Envelope.encodePlain r).toOption.getD []

/-- A service of the trusting application. -/
def parlour : Settings Trusting.Players :=
  { identity := ⟨⟨default, [2], none⟩⟩
    ciphers := fun _ ↦ .pair ⟨default, [2], none⟩
    application := Trusting.application ⟨⟨default, [2], none⟩⟩ "approve"
    complaint := fun _ ↦ "" }

/-- Somebody connects, is trusted, has the session stopped, and leaves. -/
def visit : List Turn :=
  [.accept, .arrive ⟨0⟩ (.envelope (plainly (.checkTrust ⟨default, [1], none⟩))),
    .arrive ⟨0⟩ (.envelope (plainly (.feature ⟨"stop", []⟩))), .arrive ⟨0⟩ (.closed none)]

/-- The application is not told of the end of a session that it has stopped by itself. -/
theorem dismissed_untold :
    removed parlour (start parlour []) visit = [.dismissal ⟨⟨0⟩, ⟨default, [1], none⟩, none⟩] ∧
    (run parlour (start parlour []) visit).service.told = [] ∧
    (run parlour (start parlour []) visit).service.isServed ⟨0⟩ = false := by
  decide +kernel

end Hosted

end SealedSession
