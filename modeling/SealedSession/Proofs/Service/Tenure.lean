import Mathlib.Data.List.Induction
import SealedSession.Proofs.Service.Fatal

/-!
# The task of a connection

A connection is served from its acceptance to the first event that is fatal for it. Until then the
application is handed its requests, each once and in order, and the service answers the rest by
itself. The fatal event ends the session for the reason that goes with it, and nothing that comes
afterwards is taken.

The invariant that carries this is that a connection which is served has one deadline, which is as
far off as its silence leaves it.

* `logOf_turn`: what the application is handed in a turn.
* `tended_turn`, `over_of_fatal`: a turn that is not fatal for a connection, and one that is.
* `Tenure`, `exists_tenure`: what becomes of a connection, in any run of its service.
-/

namespace SealedSession

namespace Service

variable {A : Type} (g : Settings A) {c : ConnectionId}

/-! ## Notes -/

theorem log_arrive {d : ConnectionId} {s : Service (Noted A)} (hs : s.isServed d = true)
    (a : Arrival) :
    (arrive g.noted d a s).app.log = s.app.log ++ (asked? g.noted d a s).toList.map ((d, ·)) := by
  rw [← log_receive g d a s]
  cases he : (receive g.noted d a s).1 with
  | none => rw [arrive_of_none g.noted hs he]; rfl
  | some exit => rw [arrive_of_some g.noted hs he, app_conclude]

theorem app_pass (span : Nat) (s : Service A) : (s.pass span).app = s.app :=
  pass_induction (P := fun s' ↦ s'.app = s.app) (fun _ ↦ rfl)
    (fun s' d exit h ↦ (app_conclude d exit s').trans h) span

end Service

/-- The request that a turn hands to the application for a connection that is served. -/
def Turn.handed? {A : Type} (g : Service.Settings A) (c : ConnectionId) (s : Service A) :
    Turn → Option Request
  | .arrive d a => if d = c then s.asked? g c a else none
  | _ => none

/-- How long a connection has been silent, when it was silent for a while and there is a turn. -/
def Turn.hush (c : ConnectionId) (silence : Nat) : Turn → Nat
  | .arrive d _ => if d = c then 0 else silence
  | .pass span => silence + span
  | _ => silence

namespace Hosted

open Service

variable {A : Type} (g : Settings A) (c : ConnectionId)

/-- What the application was handed for a connection. -/
def logOf (h : Hosted (Noted A)) : List Request := h.service.app.logOf c

/-- How long a connection has been silent after some turns. -/
def silence (ts : List Turn) : Nat := ts.foldl (Turn.hush c) 0

/-- The requests that a connection brings in some turns, as they are decoded when they arrive, and
without the probes. -/
def requests (h : Hosted A) : List Turn → List Request
  | [] => []
  | t :: ts => (t.handed? g c h.service).toList ++ requests (turn g h t) ts

theorem requests_concat (h : Hosted A) (ts : List Turn) (t : Turn) :
    requests g c h (ts ++ [t]) =
      requests g c h ts ++ (t.handed? g c (run g h ts).service).toList := by
  induction ts generalizing h with
  | nil => exact List.append_nil _
  | cons u ts ih => rw [List.cons_append, requests, ih, requests, run_cons, List.append_assoc]

theorem silence_concat (ts : List Turn) (t : Turn) :
    silence c (ts ++ [t]) = t.hush c (silence c ts) := by
  rw [silence, List.foldl_append]
  rfl

variable {c}

/-- What does not arrive on a connection hands nothing over for it. -/
theorem logOf_turn_of_ne {h : Hosted (Noted A)} {t : Turn} (ht : ∀ a, t ≠ .arrive c a) :
    (turn g.noted h t).logOf c = h.logOf c := by
  cases t with
  | accept => rfl
  | impair d fault => rfl
  | pass span => exact congrArg (Noted.logOf c) (app_pass span h.service)
  | arrive d a =>
    have hd : d ≠ c := fun hd ↦ ht a (congrArg (Turn.arrive · a) hd)
    change Noted.logOf c (arrive g.noted d a h.service).app = _
    cases hs : h.service.isServed d with
    | false => rw [arrive_of_not_served g.noted hs, logOf]
    | true =>
      rw [logOf, Noted.logOf, Noted.logOf, log_arrive g hs]
      cases h.service.asked? g.noted d a <;> simp [hd]

theorem handed?_of_ne {s : Service A} {t : Turn} (ht : ∀ a, t ≠ .arrive c a) :
    t.handed? g c s = none := by
  cases t with
  | arrive d a => exact if_neg fun hd ↦ ht a (congrArg (Turn.arrive · a) hd)
  | _ => rfl

/-- For a connection that is served the application is handed what the turn brings. -/
theorem logOf_turn {h : Hosted (Noted A)} (hs : h.service.isServed c = true) (t : Turn) :
    (turn g.noted h t).logOf c = h.logOf c ++ (t.handed? g.noted c h.service).toList := by
  by_cases ht : ∃ a, t = .arrive c a
  · obtain ⟨a, rfl⟩ := ht
    change Noted.logOf c (arrive g.noted c a h.service).app = _
    rw [Turn.handed?, if_pos rfl, logOf, Noted.logOf, Noted.logOf, log_arrive g hs]
    cases h.service.asked? g.noted c a <;> simp
  · have hn : ∀ a, t ≠ .arrive c a := fun a ha ↦ ht ⟨a, ha⟩
    rw [logOf_turn_of_ne g hn, handed?_of_ne g.noted hn, Option.toList_none, List.append_nil]

/-- For a connection that is not served any more the application is handed nothing. -/
theorem logOf_turn_of_over {h : Hosted (Noted A)} (ho : Over c h) (t : Turn) :
    (turn g.noted h t).logOf c = h.logOf c := by
  by_cases ht : ∃ a, t = .arrive c a
  · obtain ⟨a, rfl⟩ := ht
    rw [turn_arrive_of_over g.noted ho]
  · exact logOf_turn_of_ne g fun a ha ↦ ht ⟨a, ha⟩

theorem logOf_run_of_over {h : Hosted (Noted A)} (ho : Over c h) (ts : List Turn) :
    (run g.noted h ts).logOf c = h.logOf c := by
  induction ts generalizing h with
  | nil => rfl
  | cons t ts ih => rw [run_cons, ih (over_turn g.noted ho t), logOf_turn_of_over g ho]

/-! ## The deadline of a connection -/

/-- Nothing is known of connections that were not accepted yet. -/
structure Fresh (h : Hosted (Noted A)) : Prop where
  served : ∀ t ∈ h.service.served, t.connection.value < h.accepted
  noted : ∀ p ∈ h.service.app.log, p.1.value < h.accepted

theorem fresh_start (app : A) : Fresh (start g.noted ⟨app, []⟩) where
  served t ht := by cases ht
  noted p hp := by cases hp

theorem connection_mem_conclude {P : ConnectionId → Prop} {d : ConnectionId} {exit : Exit}
    {s : Service A} (h : ∀ t ∈ s.served, P t.connection) :
    ∀ t ∈ (s.conclude d exit).2.served, P t.connection := by
  rw [conclude_served]
  exact fun t ht ↦ h t (List.mem_filter.mp ht).1

theorem connection_mem_arrive {P : ConnectionId → Prop} {s : Service A}
    (h : ∀ t ∈ s.served, P t.connection) (d : ConnectionId) (a : Arrival) :
    ∀ t ∈ (arrive g d a s).served, P t.connection := by
  cases hs : s.isServed d with
  | false => rwa [arrive_of_not_served g hs]
  | true =>
    have hr : ∀ t ∈ (receive g d a s).2.served, P t.connection := by rwa [(served_receive g d a s).1]
    cases he : (receive g d a s).1 with
    | none =>
      rw [arrive_of_none g hs he]
      intro t ht
      obtain ⟨u, hu, rfl⟩ := List.mem_map.mp ht
      split
      · exact hr u hu
      · exact hr u hu
    | some exit =>
      rw [arrive_of_some g hs he]
      exact connection_mem_conclude hr

theorem fresh_turn {h : Hosted (Noted A)} (hf : Fresh h) (t : Turn) :
    Fresh (turn g.noted h t) := by
  cases t with
  | accept =>
    refine ⟨fun t ht ↦ ?_, fun p hp ↦ Nat.lt_succ_of_lt (hf.noted p hp)⟩
    obtain ht | ht := List.mem_append.mp ht
    · exact Nat.lt_succ_of_lt (hf.served t ht)
    · rw [List.mem_singleton.mp ht]
      exact Nat.lt_succ_self _
  | impair d fault => exact ⟨hf.served, hf.noted⟩
  | pass span =>
    refine ⟨?_, ?_⟩
    · exact pass_induction (P := fun s ↦ ∀ t ∈ s.served, t.connection.value < h.accepted)
        (fun _ ↦ hf.served)
        (fun s d exit hs ↦ connection_mem_conclude (P := fun c ↦ c.value < h.accepted) hs) span
    · change ∀ p ∈ (h.service.pass span).app.log, _
      rw [app_pass]
      exact hf.noted
  | arrive d a =>
    refine ⟨connection_mem_arrive (P := fun c ↦ c.value < h.accepted) g.noted hf.served d a, ?_⟩
    change ∀ p ∈ (arrive g.noted d a h.service).app.log, _
    cases hs : h.service.isServed d with
    | false =>
      rw [arrive_of_not_served g.noted hs]
      exact hf.noted
    | true =>
      rw [log_arrive g hs]
      intro p hp
      obtain hp | hp := List.mem_append.mp hp
      · exact hf.noted p hp
      · obtain ⟨r, -, rfl⟩ := List.mem_map.mp hp
        obtain ⟨t, ht, hd⟩ := List.any_eq_true.mp hs
        rw [← of_decide_eq_true hd]
        exact hf.served t ht

theorem fresh_run (app : A) (ts : List Turn) : Fresh (run g.noted (start g.noted ⟨app, []⟩) ts) :=
  run_induction g.noted (fresh_start g app) (fun _ t hf ↦ fresh_turn g hf t) ts

/-- A connection is being served, and its deadline is set from the last that arrived on it. -/
structure Tended (c : ConnectionId) (silence : Nat) (h : Hosted A) : Prop where
  numbered : c.value < h.accepted
  watched : ∃ deadline, h.service.watches c = [⟨c, deadline⟩] ∧
    deadline + silence = h.service.now + g.idleTimeout.nanos

theorem Tended.served {silence : Nat} {h : Hosted A} (ht : Tended g c silence h) :
    h.service.isServed c = true := by
  obtain ⟨deadline, hw, -⟩ := ht.watched
  exact isServed_of_watches hw

/-- A new connection is served, and nothing was handed over for it. -/
theorem tended_accept {h : Hosted (Noted A)} (hf : Fresh h) :
    Tended g.noted h.next 0 (turn g.noted h .accept) ∧ (turn g.noted h .accept).logOf h.next = [] := by
  refine ⟨⟨Nat.lt_succ_self _, _, ?_, rfl⟩, ?_⟩
  · have hn : h.service.watches h.next = [] := by
      refine List.filter_eq_nil_iff.mpr fun t ht hc ↦ ?_
      have hlt := hf.served t ht
      rw [of_decide_eq_true hc] at hlt
      exact Nat.lt_irrefl _ hlt
    refine (List.filter_append _ _).trans ?_
    rw [List.filter_cons, List.filter_nil, if_pos (decide_eq_true rfl)]
    exact congrArg (· ++ _) hn
  · refine List.map_eq_nil_iff.mpr (List.filter_eq_nil_iff.mpr fun p hp hc ↦ ?_)
    have hlt := hf.noted p hp
    rw [of_decide_eq_true hc] at hlt
    exact Nat.lt_irrefl _ hlt

theorem watches_await {s : Service A} {deadline : Nat} (hw : s.watches c = [⟨c, deadline⟩]) :
    (s.await g c).watches c = [⟨c, s.deadline g⟩] := by
  have hm : (s.await g c).watches c =
      (s.watches c).map fun t ↦ { t with deadline := s.deadline g } := by
    unfold await watches
    induction s.served with
    | nil => rfl
    | cons t ts ih =>
      rw [List.map_cons, List.filter_cons, List.filter_cons, ih]
      by_cases ht : t.connection = c <;> simp [ht]
  rw [hm, hw]
  rfl

/-- A turn that is not fatal for a connection leaves it served. -/
theorem tended_turn {silence : Nat} {h : Hosted A} {t : Turn} (ht : Tended g c silence h)
    (hn : ∀ exit, ¬Fatal g c silence h.service t exit) :
    Tended g c (t.hush c silence) (turn g h t) := by
  obtain ⟨deadline, hw, hd⟩ := ht.watched
  cases t with
  | accept =>
    exact ⟨Nat.lt_succ_of_lt ht.numbered, deadline, (watches_accept g ht.numbered).trans hw, hd⟩
  | impair d fault => exact ⟨ht.numbered, deadline, hw, hd⟩
  | pass span =>
    have hlt : silence + span < g.idleTimeout.nanos :=
      Nat.lt_of_not_le fun hle ↦ hn .idle (.idle hle)
    have hu : Undisturbed c (h.service.later span) (h.service.pass span) :=
      pass_of_watch_gt hw (by omega)
    refine ⟨ht.numbered, deadline, hu.watches.trans hw, ?_⟩
    have hnow : (turn g h (.pass span)).service.now = h.service.now + span := hu.now
    rw [hnow, Turn.hush]
    omega
  | arrive d a =>
    by_cases hc : c = d
    · subst hc
      have he : (receive g c a h.service).1 = none := by
        refine Option.eq_none_iff_forall_ne_some.mpr fun exit he ↦ ?_
        exact hn exit (receive_exit_iff.mp he)
      have ha : (turn g h (.arrive c a)).service = (receive g c a h.service).2.await g c :=
        arrive_of_none g ht.served he
      obtain ⟨hs, hnow⟩ := served_receive g c a h.service
      have hw' : (receive g c a h.service).2.watches c = [⟨c, deadline⟩] := by
        rw [watches, hs]
        exact hw
      refine ⟨ht.numbered, _, ha ▸ watches_await g hw', ?_⟩
      rw [Turn.hush, if_pos rfl, ha]
      rfl
    · obtain ⟨hnow, -, hw'⟩ := arrive_of_ne g hc a h.service
      refine ⟨ht.numbered, deadline, hw'.trans hw, ?_⟩
      rw [Turn.hush, if_neg (Ne.symm hc), hd]
      exact congrArg (· + _) hnow.symm

/-! ## From the first arrival to the last -/

variable (c)

/-- The service at the moment when a connection is told of its end. -/
def parting (t : Turn) (s : Service A) : Service A :=
  match t with
  | .arrive _ a => (receive g c a s).2
  | _ => s

variable {c}

/-- A turn that is fatal for a connection ends it: its socket is told why, and it is over. -/
theorem over_of_fatal {silence : Nat} {h : Hosted A} {t : Turn} {exit : Exit}
    (ht : Tended g c silence h) (hf : Fatal g c silence h.service t exit) :
    Over c (turn g h t) ∧
    (turn g h t).service.exchange.links c = farewell exit ((parting g c t h.service).record? c)
      ((parting g c t h.service).exchange.links c) := by
  cases t with
  | accept => cases hf
  | impair d fault => cases hf
  | pass span =>
    cases hf with
    | idle hle =>
      obtain ⟨deadline, hw, hd⟩ := ht.watched
      have hcome : deadline ≤ h.service.now + span := by omega
      obtain ⟨-, hl, hr, hs⟩ := pass_of_watch_le hw hcome
      exact ⟨⟨ht.numbered, hs, hr⟩, hl⟩
  | arrive d a =>
    obtain rfl : c = d := by cases hf <;> rfl
    have ha : (turn g h (.arrive c a)).service = ((receive g c a h.service).2.conclude c exit).2 :=
      arrive_of_some g ht.served (receive_exit_iff.mpr hf)
    rw [ha]
    refine ⟨⟨ht.numbered, ?_, ?_⟩, link_conclude exit _⟩
    · rw [ha]
      exact isServed_conclude c exit _
    · rw [ha]
      exact (conclude_spec c exit _).2.1

/-- What becomes of a connection, which is accepted and then lives through some turns, of which
those that are `late` begin with the first that is fatal for it. -/
structure Tenure (c : ConnectionId) (h : Hosted (Noted A)) (early late : List Turn) : Prop where
  /-- No event is fatal before those that are late. -/
  lasting : ∀ ts t, ts ++ [t] <+: early → ∀ exit,
    ¬Fatal g.noted c (silence c ts) (run g.noted h ts).service t exit
  /-- Up to then the connection is served, and the application is handed its requests, each once
  and in order. -/
  served : ∀ ts, ts <+: early → (run g.noted h ts).service.isServed c = true ∧
    (run g.noted h ts).logOf c = requests g.noted c h ts
  /-- Whatever arrives up to then is an envelope, and has the effect that it ought to have. -/
  taken : ∀ ts a, ts ++ [.arrive c a] <+: early → ∃ bytes, a = .envelope bytes ∧
    Taken g c bytes (run g.noted h ts).service (run g.noted h (ts ++ [.arrive c a])).service
  /-- The first fatal event ends the session for its reason. The application is still handed the
  request that it brings, if it brings one, and after that nothing is taken. -/
  ended : ∀ t rest, late = t :: rest → ∃ exit,
    Fatal g.noted c (silence c early) (run g.noted h early).service t exit ∧
    (run g.noted h (early ++ [t])).service.exchange.links c =
      farewell exit ((parting g.noted c t (run g.noted h early).service).record? c)
        ((parting g.noted c t (run g.noted h early).service).exchange.links c) ∧
    ∀ ts, ts <+: rest → Over c (run g.noted h (early ++ t :: ts)) ∧
      (run g.noted h (early ++ t :: ts)).logOf c = requests g.noted c h (early ++ [t]) ∧
      ∀ a, turn g.noted (run g.noted h (early ++ t :: ts)) (.arrive c a) =
        run g.noted h (early ++ t :: ts)

/-- A connection that lives through turns that are not fatal for it is tended, and the application
is handed its requests. -/
theorem tended_run {h : Hosted (Noted A)} (ht : Tended g.noted c 0 h) (hl : h.logOf c = [])
    (ts : List Turn) (hn : ∀ ts' t, ts' ++ [t] <+: ts → ∀ exit,
      ¬Fatal g.noted c (silence c ts') (run g.noted h ts').service t exit) :
    Tended g.noted c (silence c ts) (run g.noted h ts) ∧
    (run g.noted h ts).logOf c = requests g.noted c h ts := by
  induction ts using List.reverseRecOn with
  | nil => exact ⟨ht, hl⟩
  | append_singleton ts t ih =>
    obtain ⟨ht', hl'⟩ := ih fun ts' t' hp ↦ hn ts' t' (hp.trans (List.prefix_append ts [t]))
    rw [run_concat, silence_concat, requests_concat]
    refine ⟨tended_turn g.noted ht' (hn ts t (List.prefix_refl _)), ?_⟩
    rw [logOf_turn g ht'.served, hl']

/-- In some turns there is a first that is fatal, or there is none. -/
theorem exists_first {P : List Turn → Turn → Prop} (ts : List Turn) : ∃ early late,
    ts = early ++ late ∧ (∀ ts' t, ts' ++ [t] <+: early → ¬P ts' t) ∧
      ∀ t rest, late = t :: rest → P early t := by
  induction ts using List.reverseRecOn with
  | nil =>
    refine ⟨[], [], rfl, fun ts' t hp ↦ ?_, fun t rest hl ↦ by cases hl⟩
    exact absurd (List.prefix_nil.mp hp) (List.concat_ne_nil t ts')
  | append_singleton ts t ih =>
    obtain ⟨early, late, rfl, hn, hp⟩ := ih
    cases late with
    | cons u rest =>
      refine ⟨early, u :: rest ++ [t], by rw [List.append_assoc], hn, fun t' rest' hl ↦ ?_⟩
      cases hl
      exact hp u rest rfl
    | nil =>
      rw [List.append_nil]
      by_cases ht : P early t
      · refine ⟨early, [t], rfl, hn, fun t' rest hl ↦ ?_⟩
        cases hl
        exact ht
      · refine ⟨early ++ [t], [], (List.append_nil _).symm, fun ts' t' hp' ↦ ?_,
          fun _ _ hl ↦ by cases hl⟩
        obtain he | hp' := List.prefix_concat_iff.mp hp'
        · obtain ⟨rfl, he'⟩ := List.append_inj' he rfl
          obtain rfl := List.singleton_inj.mp he'
          exact ht
        · exact hn ts' t' hp'

/-- A connection that a service accepts, after any turns, is served as it ought to be in any turns
that follow. -/
theorem exists_tenure (app : A) (before ts : List Turn) : ∃ early late, ts = early ++ late ∧
    Tenure g (run g.noted (start g.noted ⟨app, []⟩) before).next
      (run g.noted (start g.noted ⟨app, []⟩) (before ++ [.accept])) early late := by
  obtain ⟨ht, hl⟩ := tended_accept g (fresh_run g app before)
  rw [run_concat]
  generalize (run g.noted (start g.noted ⟨app, []⟩) before).next = c at ht hl ⊢
  generalize turn g.noted _ .accept = h at ht hl ⊢
  obtain ⟨early, late, hts, hn, hf⟩ := exists_first (P := fun ts' t ↦
    ∃ exit, Fatal g.noted c (silence c ts') (run g.noted h ts').service t exit) ts
  have lasting : ∀ ts' t, ts' ++ [t] <+: early → ∀ exit,
      ¬Fatal g.noted c (silence c ts') (run g.noted h ts').service t exit :=
    fun ts' t hp exit he ↦ hn ts' t hp ⟨exit, he⟩
  have tended : ∀ ts', ts' <+: early → Tended g.noted c (silence c ts') (run g.noted h ts') ∧
      (run g.noted h ts').logOf c = requests g.noted c h ts' :=
    fun ts' hp ↦ tended_run g ht hl ts' fun u t hu ↦ lasting u t (hu.trans hp)
  refine ⟨early, late, hts, lasting, fun ts' hp ↦ ⟨(tended ts' hp).1.served, (tended ts' hp).2⟩,
    fun ts' a hp ↦ ?_, fun t rest hr ↦ ?_⟩
  · have hs := (tended ts' ((List.prefix_append ts' _).trans hp)).1.served
    have he : (receive g.noted c a (run g.noted h ts').service).1 = none := by
      refine Option.eq_none_iff_forall_ne_some.mpr fun exit he ↦ ?_
      exact lasting ts' _ hp exit (receive_exit_iff.mp he)
    cases a with
    | envelope bytes =>
      refine ⟨bytes, rfl, ?_⟩
      rw [run_concat]
      exact taken_of_none g hs he
    | closed info => cases he
    | broken system => cases he
  · obtain ⟨exit, hfatal⟩ := hf t rest hr
    obtain ⟨hte, hle⟩ := tended early (List.prefix_refl _)
    obtain ⟨ho, hfare⟩ := over_of_fatal g.noted hte hfatal
    refine ⟨exit, hfatal, by rwa [run_concat], fun ts' _ ↦ ?_⟩
    have hrun : run g.noted h (early ++ t :: ts') =
        run g.noted (turn g.noted (run g.noted h early) t) ts' := run_append g.noted h early (t :: ts')
    rw [hrun]
    have ho' := over_run g.noted ho ts'
    refine ⟨ho', ?_, turn_arrive_of_over g.noted ho'⟩
    rw [logOf_run_of_over g ho, logOf_turn g hte.served, hle, requests_concat]

end Hosted

end SealedSession
