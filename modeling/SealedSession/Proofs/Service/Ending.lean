import SealedSession.Proofs.Service.Noted

/-!
# How a connection ends, and what it is to the others

A connection that is being served is watched: at its deadline its task ends, unless something has
arrived. The end of a task is a matter of its own connection. The connections that are overdue at
the same time end one after another, and each of them finds its socket and its record as they were.

* `Undisturbed`: what the end of other connections leaves alone.
* `farewell`, `link_conclude`: what the socket of a connection is told at its end.
* `pass_of_watch_gt`, `pass_of_watch_le`: time passes, before the deadline of a connection or not.
* `arrive_of_ne`: something arrives on another connection.
* `over_turn`: who is not served any more stays so, gets no record and is not listened to.
-/

namespace SealedSession

namespace Service

variable {A : Type} {c : ConnectionId}

/-- The deadlines of a connection. -/
def watches (c : ConnectionId) (s : Service A) : List Served :=
  s.served.filter fun t ↦ t.connection = c

theorem isServed_iff {s : Service A} : s.isServed c = true ↔ s.watches c ≠ [] := by
  simp [isServed, watches]

theorem isServed_of_watches {s : Service A} {t : Served} {ts : List Served}
    (h : s.watches c = t :: ts) : s.isServed c = true :=
  isServed_iff.mpr (h ▸ List.cons_ne_nil t ts)

/-! ## The end of others -/

/-- What the end of other connections leaves alone. -/
structure Undisturbed (c : ConnectionId) (s s' : Service A) : Prop where
  app : s'.app = s.app
  now : s'.now = s.now
  link : s'.exchange.links c = s.exchange.links c
  record : s'.record? c = s.record? c
  watches : s'.watches c = s.watches c

namespace Undisturbed

theorem refl (s : Service A) : Undisturbed c s s := ⟨rfl, rfl, rfl, rfl, rfl⟩

theorem trans {s s' s'' : Service A} (h : Undisturbed c s s') (h' : Undisturbed c s' s'') :
    Undisturbed c s s'' where
  app := h'.app.trans h.app
  now := h'.now.trans h.now
  link := h'.link.trans h.link
  record := h'.record.trans h.record
  watches := h'.watches.trans h.watches

end Undisturbed

theorem now_conclude (d : ConnectionId) (exit : Exit) (s : Service A) :
    (s.conclude d exit).2.now = s.now := by
  unfold conclude
  cases s.exchange.directory.record? d <;> rfl

theorem watches_conclude_of_ne {d : ConnectionId} (h : c ≠ d) (exit : Exit) (s : Service A) :
    (s.conclude d exit).2.watches c = s.watches c := by
  rw [watches, conclude_served, List.filter_filter, watches]
  congr 1
  funext t
  by_cases ht : t.connection = c
  · simp [ht, h]
  · simp [ht]

/-- The end of another connection leaves this one alone. -/
theorem undisturbed_conclude {d : ConnectionId} (h : c ≠ d) (exit : Exit) (s : Service A) :
    Undisturbed c s (s.conclude d exit).2 where
  app := app_conclude d exit s
  now := now_conclude d exit s
  link := by
    rw [conclude_exchange]
    exact Switchboard.links_notify_of_ne _ h _ _ _
  record := (conclude_of_ne h exit s).2.1
  watches := watches_conclude_of_ne h exit s

theorem undisturbed_foldl {ts : List Served} (h : ∀ t ∈ ts, t.connection ≠ c) (s : Service A) :
    Undisturbed c s (ts.foldl (fun s t ↦ (s.conclude t.connection .idle).2) s) := by
  induction ts generalizing s with
  | nil => exact .refl s
  | cons t ts ih =>
    have ht : c ≠ t.connection := (h t List.mem_cons_self).symm
    exact (undisturbed_conclude ht .idle s).trans (ih (fun u hu ↦ h u (List.mem_cons_of_mem t hu)) _)

/-! ## The end of a connection -/

/-- What the socket of a connection is told at its end: why, if it had been identified and is still
open, and else that it is closed. -/
def farewell (exit : Exit) (record : Option SessionRecord) (l : Socket) : Socket :=
  match record with
  | none => (l.close exit.reason.code "Session stopped").2
  | some _ =>
    if l.isOpen then
      match Envelope.encodePlain
          (Response.sessionFailed (.sessionError exit.reason exit.message)) with
      | .ok bytes => (l.send bytes).2
      | .error _ => l
    else l

theorem link_conclude (exit : Exit) (s : Service A) :
    (s.conclude c exit).2.exchange.links c = farewell exit (s.record? c) (s.exchange.links c) := by
  rw [conclude_exchange, record?]
  cases s.exchange.directory.record? c with
  | none => exact Switchboard.links_setLink _ c _
  | some r =>
    unfold Switchboard.notify farewell
    change (if (s.exchange.links c).isOpen then _ else _ :
      Except DirectoryError Unit × Exchange).2.links c = _
    dsimp only
    split
    · change (match Envelope.encodePlain (Response.sessionFailed
        (.sessionError exit.reason exit.message)) with
        | .ok bytes => _
        | .error e => _ : Except DirectoryError Unit × Exchange).2.links c = _
      cases Envelope.encodePlain
          (Response.sessionFailed (.sessionError exit.reason exit.message)) with
      | error e => rfl
      | ok bytes => exact Switchboard.links_setLink _ c _
    · rfl

/-! ## Time passes -/

/-- A connection that is watched once is overdue once, if its deadline has come. -/
theorem filter_overdue {s : Service A} {deadline : Nat} (hw : s.watches c = [⟨c, deadline⟩]) :
    s.overdue.filter (fun t ↦ t.connection = c) =
      if deadline ≤ s.now then [⟨c, deadline⟩] else [] := by
  have hp : (s.overdue.filter fun t ↦ t.connection = c).Perm
      ((s.watches c).filter fun t ↦ t.deadline ≤ s.now) := by
    refine ((List.mergeSort_perm _ _).filter _).trans (.of_eq ?_)
    rw [watches, List.filter_filter, List.filter_filter]
    exact List.filter_congr fun t _ ↦ Bool.and_comm _ _
  rw [hw, List.filter_cons, List.filter_nil] at hp
  split
  · next hd => exact (hp.trans (.of_eq (if_pos (decide_eq_true hd)))).eq_singleton
  · next hd => exact (hp.trans (.of_eq (if_neg (mt of_decide_eq_true hd)))).eq_nil

/-- A connection whose deadline has not come is left alone. -/
theorem pass_of_watch_gt {s : Service A} {deadline span : Nat}
    (hw : s.watches c = [⟨c, deadline⟩]) (hd : s.now + span < deadline) :
    Undisturbed c (s.later span) (s.pass span) := by
  rw [pass_eq]
  refine undisturbed_foldl (fun t ht hc ↦ ?_) _
  have hf : (s.later span).overdue.filter (fun t ↦ t.connection = c) = [] :=
    (filter_overdue (s := s.later span) hw).trans (if_neg (Nat.not_le_of_lt hd))
  exact List.filter_eq_nil_iff.mp hf t ht (decide_eq_true hc)

/-- A connection whose deadline has come ends. -/
theorem pass_of_watch_le {s : Service A} {deadline span : Nat}
    (hw : s.watches c = [⟨c, deadline⟩]) (hd : deadline ≤ s.now + span) :
    (s.pass span).app = s.app ∧
    (s.pass span).exchange.links c = farewell .idle (s.record? c) (s.exchange.links c) ∧
    (s.pass span).record? c = none ∧ (s.pass span).isServed c = false := by
  have hf : (s.later span).overdue.filter (fun t ↦ t.connection = c) = [⟨c, deadline⟩] :=
    (filter_overdue (s := s.later span) hw).trans (if_pos hd)
  obtain ⟨pre, post, ho, hpre, -, hpost⟩ := List.filter_eq_cons_iff.mp hf
  rw [pass_eq, ho, List.foldl_append, List.foldl_cons]
  -- the others that are overdue end before this connection or after it
  have others {ts : List Served} (h : ∀ t ∈ ts, ¬decide (t.connection = c) = true) (s : Service A) :=
    undisturbed_foldl (fun t ht hc ↦ h t ht (decide_eq_true hc)) s
  have hb := others hpre (s.later span)
  generalize List.foldl _ (s.later span) pre = s' at hb ⊢
  have ha := others (List.filter_eq_nil_iff.mp hpost) (s'.conclude c .idle).2
  refine ⟨?_, ?_, ?_, ?_⟩
  · rw [ha.app, app_conclude, hb.app]
    rfl
  · rw [ha.link, link_conclude, hb.record, hb.link]
    rfl
  · rw [ha.record]
    exact (conclude_spec c .idle s').2.1
  · rw [Bool.eq_false_iff, Ne, isServed_iff, ha.watches, ← isServed_iff]
    exact Bool.eq_false_iff.mp (isServed_conclude c .idle s')

/-! ## Arrivals -/

variable (g : Settings A)

theorem served_receive (d : ConnectionId) (a : Arrival) (s : Service A) :
    (receive g d a s).2.served = s.served ∧ (receive g d a s).2.now = s.now := by
  have same := afterReading_eq g d a s
  rcases receive_cases g d a s with ⟨r, -, h⟩ | ⟨-, m, h⟩ | ⟨-, exit, l, h⟩
  · rw [h, exitOn_snd, same]
    exact ⟨rfl, rfl⟩
  · rw [h, exitOn_snd, same]
    exact ⟨rfl, rfl⟩
  · rw [h, same]
    exact ⟨rfl, rfl⟩

/-- A connection that brings nothing fatal is served on. -/
theorem arrive_of_none {a : Arrival} {s : Service A} (hs : s.isServed c = true)
    (h : (receive g c a s).1 = none) : arrive g c a s = (receive g c a s).2.await g c := by
  rw [arrive, if_pos hs]
  revert h
  rcases receive g c a s with ⟨_ | exit, s'⟩ <;> intro h
  · rfl
  · cases h

/-- A connection that brings something fatal ends. -/
theorem arrive_of_some {a : Arrival} {s : Service A} {exit : Exit} (hs : s.isServed c = true)
    (h : (receive g c a s).1 = some exit) :
    arrive g c a s = ((receive g c a s).2.conclude c exit).2 := by
  rw [arrive, if_pos hs]
  revert h
  rcases receive g c a s with ⟨_ | exit', s'⟩ <;> intro h <;> cases h
  rfl

theorem watches_await_of_ne {d : ConnectionId} (h : c ≠ d) (s : Service A) :
    (s.await g d).watches c = s.watches c := by
  unfold await watches
  induction s.served with
  | nil => rfl
  | cons t ts ih =>
    rw [List.map_cons, List.filter_cons, List.filter_cons, ih]
    split_ifs with hd <;> simp_all

/-- What arrives on another connection does not concern the record and the deadline of this one. -/
theorem arrive_of_ne {d : ConnectionId} (h : c ≠ d) (a : Arrival) (s : Service A) :
    (arrive g d a s).now = s.now ∧ (arrive g d a s).record? c = s.record? c ∧
    (arrive g d a s).watches c = s.watches c := by
  cases hs : s.isServed d with
  | false =>
    rw [arrive_of_not_served g hs]
    exact ⟨rfl, rfl, rfl⟩
  | true =>
    obtain ⟨hs', hn⟩ := served_receive g d a s
    have hr := record?_receive_of_ne g h a s
    have hw : (receive g d a s).2.watches c = s.watches c := by rw [watches, hs', watches]
    cases he : (receive g d a s).1 with
    | none =>
      rw [arrive_of_none g hs he]
      exact ⟨hn, hr, (watches_await_of_ne g h _).trans hw⟩
    | some exit =>
      rw [arrive_of_some g hs he]
      have hu := undisturbed_conclude h exit (receive g d a s).2
      exact ⟨hu.now.trans hn, hu.record.trans hr, hu.watches.trans hw⟩

end Service

/-! ## After the end -/

namespace Hosted

open Service

variable {A : Type} (g : Settings A) {c : ConnectionId}

/-- A connection has been served, and is not any more. -/
structure Over (c : ConnectionId) (h : Hosted A) : Prop where
  numbered : c.value < h.accepted
  unserved : h.service.isServed c = false
  unrecorded : h.service.record? c = none

/-- No new connection gets the number of an old one. -/
theorem next_ne {h : Hosted A} (hc : c.value < h.accepted) : h.next ≠ c := by
  rintro rfl
  exact Nat.lt_irrefl _ hc

theorem watches_accept {h : Hosted A} (hc : c.value < h.accepted) :
    (turn g h .accept).service.watches c = h.service.watches c := by
  refine (List.filter_append _ _).trans ?_
  rw [List.filter_cons_of_neg (by simpa using next_ne hc), List.filter_nil, List.append_nil]
  rfl

/-- Who is not served any more stays so, gets no record and is not listened to. -/
theorem over_turn {h : Hosted A} (ho : Over c h) (t : Turn) : Over c (turn g h t) := by
  have unserved {s : Service A} (hw : s.watches c = h.service.watches c) :
      s.isServed c = false := by
    rw [Bool.eq_false_iff, Ne, isServed_iff, hw, ← isServed_iff]
    exact Bool.eq_false_iff.mp ho.unserved
  cases t with
  | accept =>
    exact ⟨Nat.lt_succ_of_lt ho.numbered, unserved (watches_accept g ho.numbered), ho.unrecorded⟩
  | arrive d a =>
    by_cases hd : c = d
    · subst hd
      refine ⟨ho.numbered, ?_, ?_⟩
      · exact (congrArg (isServed c) (arrive_of_not_served g ho.unserved)).trans ho.unserved
      · exact (congrArg (record? c) (arrive_of_not_served g ho.unserved)).trans ho.unrecorded
    · obtain ⟨-, hr, hw⟩ := arrive_of_ne g hd a h.service
      exact ⟨ho.numbered, unserved hw, hr.trans ho.unrecorded⟩
  | pass span =>
    have hp : (h.service.pass span).isServed c = false ∧ (h.service.pass span).record? c = none := by
      refine pass_induction (P := fun s ↦ s.isServed c = false ∧ s.record? c = none)
        (fun _ ↦ ⟨ho.unserved, ho.unrecorded⟩) (fun s d exit hs ↦ ?_) span
      by_cases hd : c = d
      · subst hd
        exact ⟨isServed_conclude c exit s, (conclude_spec c exit s).2.1⟩
      · obtain ⟨-, hr, hi, -⟩ := conclude_of_ne hd exit s
        exact ⟨hi.trans hs.1, hr.trans hs.2⟩
    exact ⟨ho.numbered, hp.1, hp.2⟩
  | impair d fault => exact ⟨ho.numbered, ho.unserved, ho.unrecorded⟩

theorem over_run {h : Hosted A} (ho : Over c h) (ts : List Turn) : Over c (run g h ts) :=
  run_induction g ho (fun _ t h' ↦ over_turn g h' t) ts

/-- Nothing that arrives is taken after the end. -/
theorem turn_arrive_of_over {h : Hosted A} (ho : Over c h) (a : Arrival) :
    turn g h (.arrive c a) = h :=
  congrArg (Hosted.mk · h.accepted) (arrive_of_not_served g ho.unserved)

end Hosted

end SealedSession
