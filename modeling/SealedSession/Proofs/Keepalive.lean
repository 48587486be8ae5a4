import Mathlib.Data.List.Induction
import SealedSession.Proofs.Keepalive.FirstDelay

/-!
# When probes are made

A `Watch` follows one monitor without jitter through starts, stops and the time that passes between
them, and keeps every probe with the instant at which it was made. A start whose first probe would be
beyond the clock fails, and leaves the monitor at rest.

What the probes have to be is told by the acts alone: `InForce` says which start has been followed by
neither a start nor a stop, and when that was; `WasDue` says when it had probes due.

* `lt_dueCount`, `mem_pass`: which probes are made while time passes.
* `Watch.Punctual`: the schedule is that of the start in force; `Watch.punctual_run` says that it
  always is.
* `Watch.mem_probes`: the probes that were made are those that were due.
* `probes_on_schedule`: which probes are made, how many, and whether the monitor runs.
* `longest_interval_unstarted`: a monitor that is started and does not run.
* `first_probe_in_bounds`: with jitter, when the first probe of a start is made.
-/

namespace SealedSession.Keepalive

open KeepaliveConfig

/-! ## Probes while time passes -/

/-- A probe is due by the limit exactly if it is among those that are counted. -/
theorem lt_dueCount {interval : Nat} (h : 0 < interval) (due limit j : Nat) :
    j < dueCount interval due limit ↔ due + j * interval ≤ limit := by
  unfold dueCount
  split
  · constructor <;> omega
  · rw [Nat.lt_succ_iff, Nat.le_div_iff_mul_le h]
    omega

/-- The first probe that is not counted is after the limit, by no more than an interval. -/
theorem due_after {interval due limit : Nat} (h : 0 < interval) (hd : due ≤ limit + interval) :
    limit < due + dueCount interval due limit * interval ∧
      due + dueCount interval due limit * interval ≤ limit + interval := by
  have hn := lt_dueCount h due limit (dueCount interval due limit)
  refine ⟨by omega, ?_⟩
  cases hc : dueCount interval due limit with
  | zero => omega
  | succ n =>
    have hl := (lt_dueCount h due limit n).mp (by omega)
    rw [Nat.succ_mul]
    omega

/-- Without a schedule, nothing happens while time passes. -/
theorem pass_of_none {k : Keepalive} (h : k.schedule = none) (limit : Nat) :
    k.pass limit = (k, []) := by
  unfold pass
  rw [h]

/-- With a schedule, each probe is made when it is due. -/
theorem pass_of_some {k : Keepalive} {s : Schedule} (h : k.schedule = some s) (limit : Nat) :
    k.pass limit =
      ({ k with schedule := some { s with due := s.due + dueCount k.interval s.due limit * k.interval },
                sent := k.sent + .ofNat (dueCount k.interval s.due limit) },
        (List.range (dueCount k.interval s.due limit)).map
          fun j ↦ (s.due + j * k.interval, s.identity)) := by
  unfold pass
  rw [h]

/-- The probes of a schedule, while time passes. -/
theorem mem_pass {k : Keepalive} {s : Schedule} (h : k.schedule = some s) (hi : 0 < k.interval)
    {limit t : Nat} {identity : Option Identity} :
    (t, identity) ∈ (k.pass limit).2 ↔
      identity = s.identity ∧ t ≤ limit ∧ ∃ j, t = s.due + j * k.interval := by
  rw [pass_of_some h]
  simp only [List.mem_map, List.mem_range, Prod.mk.injEq, lt_dueCount hi]
  constructor
  · rintro ⟨j, hj, rfl, rfl⟩
    exact ⟨rfl, hj, j, rfl⟩
  · rintro ⟨rfl, ht, j, rfl⟩
    exact ⟨j, ht, rfl, rfl⟩

/-- The first probe that is made is the one that is due next. -/
theorem head?_pass {k : Keepalive} {s : Schedule} (h : k.schedule = some s) (limit : Nat) :
    (k.pass limit).2.head? = if s.due ≤ limit then some (s.due, s.identity) else none := by
  rw [pass_of_some h, List.head?_map, List.head?_range, dueCount]
  by_cases hd : s.due ≤ limit
  · simp [hd, Nat.not_lt.mpr hd]
  · simp [hd, Nat.lt_of_not_le hd]

/-- The count grows by the probes that are made. -/
theorem sent_pass (k : Keepalive) (limit : Nat) :
    (k.pass limit).1.sent = k.sent + .ofNat (k.pass limit).2.length := by
  cases h : k.schedule with
  | none => simp [pass_of_none h]
  | some s => simp [pass_of_some h]

@[simp] theorem config_pass (k : Keepalive) (limit : Nat) : (k.pass limit).1.config = k.config := by
  cases h : k.schedule with
  | none => simp [pass_of_none h]
  | some s => simp [pass_of_some h]

/-- Later probes are made later. -/
theorem pairwise_pass (k : Keepalive) (hi : 0 < k.interval) (limit : Nat) :
    (k.pass limit).2.Pairwise (·.1 < ·.1) := by
  cases h : k.schedule with
  | none => simp [pass_of_none h]
  | some s =>
    rw [pass_of_some h, List.pairwise_map]
    refine List.pairwise_lt_range.imp fun {i j} hij ↦ ?_
    exact Nat.add_lt_add_left (Nat.mul_lt_mul_of_pos_right hij hi) _

/-! ## Acts -/

/-- What is done to a monitor, and the time between. -/
inductive Act where
  | start (identity : Option Identity) (draw : Nat)
  | stop
  /-- So much time passes. -/
  | pass (span : Nat)

/-- The time that an act takes. -/
def Act.span : Act → Nat
  | .pass span => span
  | _ => 0

/-- A monitor, the clock, and the probes that were made, each with its instant. -/
structure Watch where
  monitor : Keepalive
  now : Nat
  probes : List (Nat × Option Identity) := []

namespace Watch

/-- One act. A start that fails has ended the schedule before. -/
def act (w : Watch) : Act → Watch
  | .start identity draw =>
    { w with monitor := (w.monitor.start? w.now draw identity).getD w.monitor.stop }
  | .stop => { w with monitor := w.monitor.stop }
  | .pass span =>
    { monitor := (w.monitor.pass (w.now + span)).1
      now := w.now + span
      probes := w.probes ++ (w.monitor.pass (w.now + span)).2 }

/-- The acts, on a new monitor whose clock begins at `origin`. -/
def run (c : KeepaliveConfig) (origin : Nat) (acts : List Act) : Watch :=
  acts.foldl act { monitor := .ofConfig c, now := origin }

@[simp] theorem run_concat (c : KeepaliveConfig) (origin : Nat) (acts : List Act) (a : Act) :
    run c origin (acts ++ [a]) = (run c origin acts).act a := by
  simp [run]

end Watch

/-- The clock after the acts. -/
def clock (origin : Nat) (acts : List Act) : Nat := acts.foldl (fun now a ↦ now + a.span) origin

@[simp] theorem clock_nil (origin : Nat) : clock origin [] = origin := rfl

@[simp] theorem clock_concat (origin : Nat) (acts : List Act) (a : Act) :
    clock origin (acts ++ [a]) = clock origin acts + a.span := List.foldl_append

/-- After the acts, a start made at `t₀` with `identity` succeeded, and neither a start nor a stop
has followed it. -/
def InForce (period origin : Nat) (acts : List Act) (t₀ : Nat) (identity : Option Identity) : Prop :=
  ∃ before draw after, acts = before ++ .start identity draw :: after ∧
    (∀ a ∈ after, ∃ span, a = .pass span) ∧ t₀ = clock origin before ∧
    t₀ + period < 0x8000000000000000 * 1000000000

/-- While time passed among the acts, a probe was due at `t` by the start then in force. -/
def WasDue (period origin : Nat) (acts : List Act) (t : Nat) (identity : Option Identity) : Prop :=
  ∃ before span after t₀ n, acts = before ++ .pass span :: after ∧
    InForce period origin before t₀ identity ∧
    clock origin before < t ∧ t ≤ clock origin before + span ∧ t = t₀ + (n + 1) * period

/-- The act at which a list splits is the last one or among those before. -/
theorem concat_eq_append_cons {before after acts : List Act} {a b : Act} :
    acts ++ [b] = before ++ a :: after ↔
      (acts = before ∧ b = a ∧ after = []) ∨
        ∃ after', after = after' ++ [b] ∧ acts = before ++ a :: after' := by
  constructor
  · intro h
    rcases List.eq_nil_or_concat after with rfl | ⟨after', c, rfl⟩
    · obtain ⟨rfl, rfl⟩ := List.append_singleton_inj.mp h
      exact .inl ⟨rfl, rfl, rfl⟩
    · rw [List.concat_eq_append, ← List.cons_append, ← List.append_assoc] at h
      obtain ⟨rfl, rfl⟩ := List.append_singleton_inj.mp h
      exact .inr ⟨after', List.concat_eq_append, rfl⟩
  · rintro (⟨rfl, rfl, rfl⟩ | ⟨after', rfl, rfl⟩)
    · rfl
    · simp

section

variable {period origin t₀ : Nat} {acts : List Act} {identity : Option Identity}

/-- Before the first act no start is in force. -/
theorem not_inForce_nil : ¬ InForce period origin [] t₀ identity := by
  rintro ⟨before, draw, after, h, -⟩
  simp at h

/-- A start is in force if its first probe is not beyond the clock. No other start is. -/
theorem inForce_start {identity' : Option Identity} {draw : Nat} :
    InForce period origin (acts ++ [.start identity' draw]) t₀ identity ↔
      t₀ = clock origin acts ∧ identity = identity' ∧
        t₀ + period < 0x8000000000000000 * 1000000000 := by
  constructor
  · rintro ⟨before, draw', after, h, hp, rfl, hb⟩
    rcases concat_eq_append_cons.mp h with ⟨rfl, he, rfl⟩ | ⟨after', rfl, -⟩
    · cases he
      exact ⟨rfl, rfl, hb⟩
    · obtain ⟨span, hs⟩ := hp _ (List.mem_append_right _ (List.mem_singleton_self _))
      cases hs
  · rintro ⟨rfl, rfl, hb⟩
    exact ⟨acts, draw, [], rfl, by simp, rfl, hb⟩

/-- After a stop no start is in force. -/
theorem not_inForce_stop : ¬ InForce period origin (acts ++ [.stop]) t₀ identity := by
  rintro ⟨before, draw, after, h, hp, -⟩
  rcases concat_eq_append_cons.mp h with ⟨-, he, -⟩ | ⟨after', rfl, -⟩
  · cases he
  · obtain ⟨span, hs⟩ := hp _ (List.mem_append_right _ (List.mem_singleton_self _))
    cases hs

/-- A start stays in force while time passes. -/
theorem inForce_pass {span : Nat} :
    InForce period origin (acts ++ [.pass span]) t₀ identity ↔
      InForce period origin acts t₀ identity := by
  constructor
  · rintro ⟨before, draw, after, h, hp, ht⟩
    rcases concat_eq_append_cons.mp h with ⟨-, he, -⟩ | ⟨after', rfl, rfl⟩
    · cases he
    · exact ⟨before, draw, after', rfl, fun a ha ↦ hp a (List.mem_append_left _ ha), ht⟩
  · rintro ⟨before, draw, after, rfl, hp, ht⟩
    refine ⟨before, draw, after ++ [.pass span], by simp, fun a ha ↦ ?_, ht⟩
    rcases List.mem_append.mp ha with ha | ha
    · exact hp a ha
    · exact ⟨span, List.mem_singleton.mp ha⟩

/-- A probe was due during the last act or before it. -/
theorem wasDue_concat {a : Act} {t : Nat} :
    WasDue period origin (acts ++ [a]) t identity ↔
      WasDue period origin acts t identity ∨ ∃ span, a = .pass span ∧
        clock origin acts < t ∧ t ≤ clock origin acts + span ∧
        ∃ t₀ n, InForce period origin acts t₀ identity ∧ t = t₀ + (n + 1) * period := by
  constructor
  · rintro ⟨before, span, after, t₀, n, h, hf, hlt, hle, ht⟩
    rcases concat_eq_append_cons.mp h with ⟨rfl, rfl, rfl⟩ | ⟨after', rfl, rfl⟩
    · exact .inr ⟨span, rfl, hlt, hle, t₀, n, hf, ht⟩
    · exact .inl ⟨before, span, after', t₀, n, rfl, hf, hlt, hle, ht⟩
  · rintro (⟨before, span, after, t₀, n, rfl, hd⟩ | ⟨span, rfl, hlt, hle, t₀, n, hf, ht⟩)
    · exact ⟨before, span, after ++ [a], t₀, n, by simp, hd⟩
    · exact ⟨acts, span, [], t₀, n, rfl, hf, hlt, hle, ht⟩

end

/-! ## The schedule in use -/

/-- The interval that is used is the larger of the one given and the shortest. -/
theorem interval_validated (c : KeepaliveConfig) :
    c.validated.interval.nanos = max c.interval.nanos 100000000 := by
  have hl : leastInterval.nanos = 100000000 := by decide
  unfold validated
  split
  · dsimp only
    omega
  · omega

/-- Settings without jitter have none when they are used. -/
theorem drawCount_withInterval (d : Duration) : (withInterval d).validated.drawCount = 0 := by
  rw [drawCount, jitter_validated]
  simp [withInterval, Duration.zero]

/-- Without jitter the first probe is one interval later, if the clock can tell that instant. -/
theorem start?_of_jitter {k : Keepalive} (h : k.config.drawCount = 0) (now draw : Nat)
    (identity : Option Identity) :
    k.start? now draw identity =
      if now + k.interval < 0x8000000000000000 * 1000000000 then
        some { k with schedule := some ⟨identity, now + k.interval⟩ }
      else none := by
  have hd : k.config.Draws draw := fun hj ↦ absurd h hj
  have hl : k.config.lateness draw = 0 := if_pos h
  rw [start?_of_draws hd, hl, Nat.add_zero]

/-- The instants at which a start at `t₀` has probes due, after now, are those of a schedule whose
next one is the first of them. -/
theorem due_iff {period now t₀ due n : Nat} (h : due = t₀ + (n + 1) * period) (hn : now < due)
    (hd : due ≤ now + period) (t : Nat) :
    (now < t ∧ ∃ m, t = t₀ + (m + 1) * period) ↔ ∃ j, t = due + j * period := by
  constructor
  · rintro ⟨ht, m, rfl⟩
    have hm : n ≤ m := by
      have hlt : (n + 1) * period < (m + 2) * period := by
        rw [show m + 2 = (m + 1) + 1 from rfl, Nat.succ_mul (m + 1)]
        omega
      have := Nat.lt_of_mul_lt_mul_right hlt
      omega
    refine ⟨m - n, ?_⟩
    rw [h, Nat.add_assoc, ← Nat.add_mul]
    congr 2
    omega
  · rintro ⟨j, rfl⟩
    refine ⟨by omega, n + j, ?_⟩
    rw [h, Nat.add_assoc, ← Nat.add_mul]
    congr 2
    omega

namespace Watch

/-- What a schedule says of the acts: it is that of the start in force, and its next probe is the
first one after now. -/
def Planned (period origin : Nat) (acts : List Act) (now : Nat) : Option Schedule → Prop
  | none => ∀ t₀ identity, ¬ InForce period origin acts t₀ identity
  | some s => ∃ t₀ n,
    (∀ t identity, InForce period origin acts t identity ↔ t = t₀ ∧ identity = s.identity) ∧
      s.due = t₀ + (n + 1) * period ∧ now < s.due ∧ s.due ≤ now + period

/-- The schedule is the right one, and the probes were made one after another and counted. -/
structure Punctual (period origin : Nat) (acts : List Act) (w : Watch) : Prop where
  now : w.now = clock origin acts
  interval : w.monitor.interval = period
  jitter : w.monitor.config.drawCount = 0
  planned : Planned period origin acts w.now w.monitor.schedule
  made : ∀ p ∈ w.probes, p.1 ≤ w.now
  ordered : w.probes.Pairwise (·.1 < ·.1)
  sent : w.monitor.sent = .ofNat w.probes.length

variable {period origin : Nat} {acts : List Act} {w : Watch}

/-- An act that takes no time may change the schedule and nothing else. -/
theorem Punctual.reschedule (h : w.Punctual period origin acts) {a : Act} (ha : a.span = 0)
    {next : Option Schedule} (hp : Planned period origin (acts ++ [a]) w.now next) :
    Punctual period origin (acts ++ [a])
      { w with monitor := { w.monitor with schedule := next } } :=
  ⟨by simp [h.now, ha], h.interval, h.jitter, hp, h.made, h.ordered, h.sent⟩

theorem Punctual.start (hp : 0 < period) (h : w.Punctual period origin acts)
    (identity : Option Identity) (draw : Nat) :
    (w.act (.start identity draw)).Punctual period origin (acts ++ [.start identity draw]) := by
  have hs := start?_of_jitter h.jitter w.now draw identity
  rw [h.interval] at hs
  by_cases hb : w.now + period < 0x8000000000000000 * 1000000000
  · rw [if_pos hb] at hs
    simp only [act, hs, Option.getD_some]
    refine h.reschedule rfl ⟨w.now, 0, fun t i ↦ ?_, by simp, by simpa, Nat.le_refl _⟩
    rw [inForce_start, ← h.now]
    constructor
    · rintro ⟨rfl, rfl, -⟩
      exact ⟨rfl, rfl⟩
    · rintro ⟨rfl, rfl⟩
      exact ⟨rfl, rfl, hb⟩
  · rw [if_neg hb] at hs
    simp only [act, hs, Option.getD_none]
    refine h.reschedule rfl fun t i hf ↦ ?_
    obtain ⟨rfl, -, ht⟩ := inForce_start.mp hf
    exact hb (h.now ▸ ht)

theorem Punctual.stop (h : w.Punctual period origin acts) :
    (w.act .stop).Punctual period origin (acts ++ [.stop]) :=
  h.reschedule rfl fun _ _ ↦ not_inForce_stop

/-- The probes that are made while time passes are those that the start in force has due by then. -/
theorem Punctual.mem_pass (hp : 0 < period) (h : w.Punctual period origin acts) (span t : Nat)
    (identity : Option Identity) :
    (t, identity) ∈ (w.monitor.pass (w.now + span)).2 ↔
      w.now < t ∧ t ≤ w.now + span ∧
        ∃ t₀ n, InForce period origin acts t₀ identity ∧ t = t₀ + (n + 1) * period := by
  have hl := h.planned
  cases hs : w.monitor.schedule with
  | none =>
    rw [hs] at hl
    rw [pass_of_none hs]
    simp only [List.not_mem_nil, false_iff]
    rintro ⟨-, -, t₀, n, hf, -⟩
    exact hl t₀ identity hf
  | some s =>
    rw [hs] at hl
    obtain ⟨t₀, n, hf, hd, hn, hle⟩ := hl
    rw [Keepalive.mem_pass hs (h.interval ▸ hp), h.interval, ← due_iff hd hn hle t]
    constructor
    · rintro ⟨rfl, ht, hlt, m, hm⟩
      exact ⟨hlt, ht, t₀, m, (hf _ _).mpr ⟨rfl, rfl⟩, hm⟩
    · rintro ⟨hlt, ht, t₁, m, hf', hm⟩
      obtain ⟨rfl, rfl⟩ := (hf _ _).mp hf'
      exact ⟨rfl, ht, hlt, m, hm⟩

/-- After time has passed the schedule is still the right one. -/
theorem Punctual.planned_pass (hp : 0 < period) (h : w.Punctual period origin acts) (span : Nat) :
    Planned period origin (acts ++ [.pass span]) (w.now + span)
      (w.monitor.pass (w.now + span)).1.schedule := by
  have hl := h.planned
  cases hs : w.monitor.schedule with
  | none =>
    rw [hs] at hl
    rw [pass_of_none hs, hs]
    exact fun t i hf ↦ hl t i (inForce_pass.mp hf)
  | some s =>
    rw [hs] at hl
    obtain ⟨t₀, n, hf, hd, hn, hle⟩ := hl
    rw [pass_of_some hs, h.interval]
    obtain ⟨hlt, hle'⟩ := due_after hp (show s.due ≤ w.now + span + period by omega)
    refine ⟨t₀, n + dueCount period s.due (w.now + span), fun t i ↦ ?_, ?_, hlt, hle'⟩
    · rw [inForce_pass, hf]
    · change s.due + _ * period = _
      rw [hd, Nat.add_assoc, ← Nat.add_mul]
      congr 2
      omega

theorem Punctual.pass (hp : 0 < period) (h : w.Punctual period origin acts) (span : Nat) :
    (w.act (.pass span)).Punctual period origin (acts ++ [.pass span]) where
  now := by simp [act, h.now, Act.span]
  interval := by simpa [act, Keepalive.interval] using h.interval
  jitter := by simpa [act] using h.jitter
  planned := h.planned_pass hp span
  made := by
    simp only [act, List.mem_append]
    rintro ⟨t, i⟩ (hm | hm)
    · have := h.made _ hm
      omega
    · exact ((h.mem_pass hp span t i).mp hm).2.1
  ordered := by
    refine List.pairwise_append.mpr ⟨h.ordered, pairwise_pass _ (h.interval ▸ hp) _, ?_⟩
    rintro p hm ⟨t, i⟩ hm'
    exact Nat.lt_of_le_of_lt (h.made p hm) ((h.mem_pass hp span t i).mp hm').1
  sent := by
    simp only [act, sent_pass, h.sent, List.length_append]
    exact (UInt64.ofNat_add _ _).symm

theorem Punctual.act (hp : 0 < period) (h : w.Punctual period origin acts) (a : Act) :
    (w.act a).Punctual period origin (acts ++ [a]) := by
  cases a with
  | start identity draw => exact h.start hp identity draw
  | stop => exact h.stop
  | pass span => exact h.pass hp span

/-- No interval in use is empty. -/
theorem interval_pos (d : Duration) : 0 < max d.nanos 100000000 :=
  Nat.lt_of_lt_of_le (by decide) (Nat.le_max_right _ _)

/-- Without jitter every monitor is punctual, whatever is done to it. -/
theorem punctual_run (d : Duration) (origin : Nat) (acts : List Act) :
    (run (.withInterval d) origin acts).Punctual (max d.nanos 100000000) origin acts := by
  induction acts using List.reverseRecOn with
  | nil =>
    refine ⟨rfl, interval_validated _, drawCount_withInterval d, fun _ _ ↦ not_inForce_nil, ?_, ?_,
      rfl⟩
    · simp [run]
    · simp [run]
  | append_singleton acts a ih =>
    rw [run_concat]
    exact ih.act (interval_pos d) a

/-- The probes that were made are those that were due. -/
theorem mem_probes (d : Duration) (origin : Nat) (acts : List Act) (t : Nat)
    (identity : Option Identity) :
    (t, identity) ∈ (run (.withInterval d) origin acts).probes ↔
      WasDue (max d.nanos 100000000) origin acts t identity := by
  induction acts using List.reverseRecOn with
  | nil => simp [run, WasDue]
  | append_singleton acts a ih =>
    rw [run_concat, wasDue_concat, ← ih]
    cases a with
    | start identity' draw => simp [act]
    | stop => simp [act]
    | pass span =>
      have hr := punctual_run d origin acts
      have hm := hr.mem_pass (interval_pos d) span t identity
      rw [hr.now] at hm
      simp [act, hr.now, hm]

end Watch

/-- Whatever is done to a monitor without jitter, and whenever: it runs exactly if a start is in
force. The probes that were made are those that the start in force had due at whole intervals after
it, and they name whom it was given. They follow each other in time, so no two are made together,
and all are counted. A start fails only if its first probe is beyond the clock. -/
theorem probes_on_schedule (d : Duration) (origin : Nat) (acts : List Act) :
    let w := Watch.run (.withInterval d) origin acts
    let period := max d.nanos 100000000
    (w.monitor.isRunning = true ↔ ∃ t₀ identity, InForce period origin acts t₀ identity) ∧
    (∀ t identity, (t, identity) ∈ w.probes ↔ WasDue period origin acts t identity) ∧
    w.probes.Pairwise (·.1 < ·.1) ∧
    w.monitor.sent = .ofNat w.probes.length ∧
    ∀ identity draw, (w.monitor.start? w.now draw identity).isSome = true ↔
      clock origin acts + period < 0x8000000000000000 * 1000000000 := by
  intro w period
  have hw : w.Punctual period origin acts := Watch.punctual_run d origin acts
  refine ⟨?_, Watch.mem_probes d origin acts, hw.ordered, hw.sent, fun identity draw ↦ ?_⟩
  · have hl := hw.planned
    unfold isRunning
    cases hs : w.monitor.schedule with
    | none =>
      rw [hs] at hl
      simp only [Option.isSome_none, Bool.false_eq_true, false_iff]
      rintro ⟨t₀, identity, hf⟩
      exact hl t₀ identity hf
    | some s =>
      rw [hs] at hl
      obtain ⟨t₀, n, hf, -⟩ := hl
      exact iff_of_true rfl ⟨t₀, s.identity, (hf _ _).mpr ⟨rfl, rfl⟩⟩
  · rw [start?_of_jitter hw.jitter, hw.interval, hw.now]
    split
    case isTrue hlt => exact iff_of_true rfl hlt
    case isFalse hge => exact iff_of_false Bool.false_ne_true hge

/-- With the longest interval, the first probe is beyond the clock at any time. -/
theorem longest_interval_unstarted :
    (Watch.run (.withInterval (.ofParts 18446744073709551615 999999999)) 0
      [.start none 0]).monitor.isRunning = false := by
  decide

/-! ## The first probe with jitter -/

theorem config_start? {k k' : Keepalive} {now draw : Nat} {identity : Option Identity}
    (h : k.start? now draw identity = some k') : k'.config = k.config := by
  obtain ⟨due, -, rfl⟩ := Option.map_eq_some_iff.mp h
  rfl

namespace Watch

@[simp] theorem config_act (w : Watch) (a : Act) :
    (w.act a).monitor.config = w.monitor.config := by
  cases a with
  | start identity draw =>
    change ((w.monitor.start? w.now draw identity).getD w.monitor.stop).config = _
    cases h : w.monitor.start? w.now draw identity with
    | none => rfl
    | some k => exact config_start? h
  | stop => rfl
  | pass span => exact config_pass _ _

/-- Whatever is done to a monitor, its settings stay. -/
theorem config_run (c : KeepaliveConfig) (origin : Nat) (acts : List Act) :
    (run c origin acts).monitor.config = c.validated := by
  induction acts using List.reverseRecOn with
  | nil => rfl
  | append_singleton acts a ih => rw [run_concat, config_act, ih]

end Watch

/-- Whatever was done to a monitor before: a start that succeeds fixes the instant of the first probe,
which is later by the interval, or by no more than the jitter beyond that. No probe is made before. -/
theorem first_probe_in_bounds (c : KeepaliveConfig) (origin : Nat) (acts : List Act) :
    let w := Watch.run c origin acts
    ∀ draw identity k, c.validated.Draws draw → w.monitor.start? w.now draw identity = some k →
      ∃ due, w.now + c.validated.interval.nanos ≤ due ∧
        due ≤ w.now + c.validated.interval.nanos + c.jitter.nanos ∧
        ∀ limit, (k.pass limit).2.head? = if due ≤ limit then some (due, identity) else none := by
  intro w draw identity k h hs
  have hc : w.monitor.config = c.validated := Watch.config_run c origin acts
  have hl : c.validated.lateness draw ≤ c.jitter.nanos := c.jitter_validated ▸ h.lateness_le
  rw [start?_of_draws (hc ▸ h), interval, hc] at hs
  split at hs
  · obtain rfl := Option.some.inj hs
    refine ⟨w.now + (c.validated.interval.nanos + c.validated.lateness draw), ?_, ?_, ?_⟩
    · omega
    · omega
    · exact head?_pass (s := ⟨identity, _⟩) rfl
  · cases hs

end SealedSession.Keepalive
