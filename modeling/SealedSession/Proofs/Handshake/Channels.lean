import SealedSession.Proofs.Handshake.Modes

/-!
# One channel among others

A channel belongs to one connection. It is bound when the handshake begins there, its sending end is
dropped when the client lets go of it, and only the writer of the connection empties it. Whatever else
is done to the handshake spares the channel.

* `Operation.Spares`: the operations of which neither binds a channel nor empties it.
* `Outbound.Spared`: what such an operation may do to the channel; `Traffic.spared` says that it does
  no more.
* `Outbound.Linked`: the sending end of a channel is held exactly while the channel is bound.
* `Moment.sent`: what was queued at a moment, on whatever channel.
* `sent_of_bound`: what is queued until the client disconnects is all that is ever queued on the
  channel.
-/

namespace SealedSession

namespace Operation

variable {W : Type}

/-- Whether an operation is one of the handshake itself: it makes no channel, binds none and empties
none. -/
def isInternal : Operation W → Bool
  | .onOpen _ _ | .createChannel | .takeEnvelope _ | .dropReceiving _ => false
  | _ => true

/-- An operation neither binds a channel nor empties it. -/
def Spares (n : Nat) : Operation W → Prop
  | .onOpen c _ | .takeEnvelope c | .dropReceiving c => c ≠ n
  | _ => True

theorem spares_of_isInternal {op : Operation W} (h : op.isInternal = true) (n : Nat) : op.Spares n := by
  cases op with
  | onOpen _ _ | takeEnvelope _ | dropReceiving _ => cases h
  | _ => exact trivial

end Operation

namespace Outbound

variable {n : Nat} {o p q : Outbound}

/-- The sending end of a channel is held as it was. -/
def SameSending (n : Nat) (o p : Outbound) : Prop :=
  ∀ ch, o.channels[n]? = some ch → ∃ ch', p.channels[n]? = some ch' ∧ ch'.sending = ch.sending

theorem SameSending.of_eq (h : p.channels[n]? = o.channels[n]?) : SameSending n o p :=
  fun ch hc ↦ ⟨ch, h.trans hc, rfl⟩

theorem getElem?_adjust_ne {c : Nat} (h : c ≠ n) (f : Channel → Channel) :
    (o.adjust c f).channels[n]? = o.channels[n]? := by
  simp [adjust, h]

theorem getElem?_adjust_eq (f : Channel → Channel) :
    (o.adjust n f).channels[n]? = (o.channels[n]?).map f := by
  simp [adjust]

/-- What is done to a queue alone leaves all sending ends as they are. -/
theorem sameSending_adjust (c : Nat) {f : Channel → Channel}
    (hf : ∀ ch, (f ch).sending = ch.sending) : SameSending n o (o.adjust c f) := by
  by_cases h : c = n
  · subst h
    exact fun ch hc ↦ ⟨f ch, by rw [getElem?_adjust_eq, hc]; rfl, hf ch⟩
  · exact .of_eq (getElem?_adjust_ne h f)

theorem sameSending_send (bytes : Bytes) : SameSending n o (o.send bytes).1 := by
  unfold send
  split
  · exact .of_eq rfl
  · split
    · split
      · exact sameSending_adjust _ fun _ ↦ rfl
      · exact .of_eq rfl
    · exact .of_eq rfl

theorem sameSending_taken (c : Nat) : SameSending n o (o.taken c) := by
  unfold taken take?
  split
  · exact sameSending_adjust _ fun _ ↦ rfl
  · exact .of_eq rfl

theorem sameSending_create : SameSending n o o.create.1 := by
  intro ch hc
  obtain ⟨hn, -⟩ := List.getElem?_eq_some_iff.mp hc
  exact ⟨ch, by rw [create, List.getElem?_append_left hn, hc], rfl⟩

@[simp] theorem length_adjust (c : Nat) (f : Channel → Channel) :
    (o.adjust c f).channels.length = o.channels.length := by simp [adjust]

@[simp] theorem length_send (bytes : Bytes) :
    (o.send bytes).1.channels.length = o.channels.length := by
  unfold send
  split
  · rfl
  · split
    · split
      · exact length_adjust _ _
      · rfl
    · rfl

@[simp] theorem length_unbind : o.unbind.channels.length = o.channels.length := by
  unfold unbind
  split
  · exact length_adjust _ _
  · rfl

@[simp] theorem length_taken (c : Nat) : (o.taken c).channels.length = o.channels.length := by
  unfold taken take?
  split
  · exact length_adjust _ _
  · rfl

/-- What may be done to a channel by others than its writer: nothing, or it is unbound and its sending
end dropped. -/
inductive Spared (n : Nat) (o p : Outbound) : Prop where
  | kept (bound : p.bound = some n ↔ o.bound = some n) (same : SameSending n o p)
  | unbound (unbound : p.bound = none) (dropped : p.channels[n]? = (o.dropSending n).channels[n]?)

theorem spared_unbind : Spared n o o.unbind := by
  unfold unbind
  cases hb : o.bound with
  | none => exact .kept Iff.rfl (.of_eq rfl)
  | some c =>
    by_cases h : c = n
    · subst h
      exact .unbound rfl rfl
    · exact .kept (by simp [hb, h]) (.of_eq (getElem?_adjust_ne h _))

/-- A channel whose sending end is held exactly while it is bound. -/
def Linked (n : Nat) (o : Outbound) : Prop :=
  ∃ ch, o.channels[n]? = some ch ∧ (ch.sending = true ↔ o.bound = some n)

theorem Linked.spared (h : o.Linked n) (hs : Spared n o p) : p.Linked n := by
  obtain ⟨ch, hc, hb⟩ := h
  cases hs with
  | kept bound same =>
    obtain ⟨ch', hc', hs⟩ := same ch hc
    exact ⟨ch', hc', by rw [hs, hb, bound]⟩
  | unbound unbound dropped =>
    refine ⟨{ ch with sending := false }, ?_, by simp [unbound]⟩
    rw [dropped, dropSending, getElem?_adjust_eq, hc]
    rfl

theorem Linked.lt_length (h : o.Linked n) : n < o.channels.length := by
  obtain ⟨ch, hc, -⟩ := h
  exact (List.getElem?_eq_some_iff.mp hc).1

end Outbound

namespace Handshake

variable {S W : Type} {g : Settings S W} {h h' : Handshake S W} {op : Operation W} {n : Nat}

/-! ## Operations of others -/

theorem Posting.sameSending {P : Request → Prop} (hp : Posting g P h h') :
    Outbound.SameSending n h.outbound h'.outbound ∧ h'.outbound.bound = h.outbound.bound := by
  cases hp with
  | silent ho => exact ⟨.of_eq (by rw [ho]), by rw [ho]⟩
  | posted r hr bytes w he hs ho =>
    rw [ho]
    exact ⟨Outbound.sameSending_send bytes, Outbound.bound_send _ _⟩

/-- An operation that spares a channel does nothing to it, or unbinds it. -/
theorem Traffic.spared (ht : Traffic g h op h') (ho : op.Spares n) :
    Outbound.Spared n h.outbound h'.outbound := by
  cases ht with
  | posting hp =>
    obtain ⟨he, hb⟩ := hp.sameSending (n := n)
    exact .kept (by rw [hb]) he
  | opened channel lock hb hp =>
    obtain ⟨he, hb'⟩ := hp.sameSending (n := n)
    have hn : channel ≠ n := ho
    refine .kept ?_ he
    rw [hb', hb]
    simp [withOutbound, hn]
  | refused channel lock hq =>
    rw [hq]
    exact .kept Iff.rfl (.of_eq (Outbound.getElem?_adjust_ne ho _))
  | left hu =>
    rcases hu.2 with hq | hq
    · rw [hq]
      exact Outbound.spared_unbind
    · exact .kept (by rw [hq]) (.of_eq (by rw [hq]))
  | created hq =>
    rw [hq]
    exact .kept Iff.rfl Outbound.sameSending_create
  | taken channel hq =>
    rw [hq]
    exact .kept (by rw [Outbound.bound_taken]) (Outbound.sameSending_taken channel)
  | dropped channel hq =>
    rw [hq]
    exact .kept Iff.rfl (.of_eq (Outbound.getElem?_adjust_ne ho _))

/-- A channel is bound by opening it alone. -/
theorem Traffic.bound_of_bound (ht : Traffic g h op h') (hb : h'.outbound.bound = some n) :
    h.outbound.bound = some n ∨ ∃ lock, op = .onOpen n lock := by
  cases ht with
  | posting hp => exact .inl ((hp.sameSending (n := n)).2 ▸ hb)
  | opened channel lock _ hp =>
    rw [(hp.sameSending (n := n)).2] at hb
    cases hb
    exact .inr ⟨lock, rfl⟩
  | refused channel lock hq =>
    rw [hq] at hb
    exact .inl hb
  | left hu =>
    rcases hu.2 with hq | hq
    · have hn : h'.outbound.isBound = false := by rw [hq, Outbound.isBound_unbind]
      rw [Outbound.isBound, hb] at hn
      cases hn
    · exact .inl (hq ▸ hb)
  | created hq =>
    rw [hq] at hb
    exact .inl hb
  | taken channel hq =>
    rw [hq, Outbound.bound_taken] at hb
    exact .inl hb
  | dropped channel hq =>
    rw [hq] at hb
    exact .inl hb

/-- No channel is ever removed. -/
theorem Traffic.length_le (ht : Traffic g h op h') :
    h.outbound.channels.length ≤ h'.outbound.channels.length := by
  have posting {P : Request → Prop} {k : Handshake S W} (hp : Posting g P k h') :
      h'.outbound.channels.length = k.outbound.channels.length := by
    cases hp with
    | silent hq => rw [hq]
    | posted r hr bytes w he hs hq => rw [hq, Outbound.length_send]
  cases ht with
  | posting hp => exact Nat.le_of_eq (posting hp).symm
  | opened channel lock hb hp => exact Nat.le_of_eq (posting hp).symm
  | refused channel lock hq => simp [hq, Outbound.dropSending]
  | left hu => rcases hu.2 with hq | hq <;> simp [hq]
  | created hq => simp [hq, Outbound.create]
  | taken channel hq => simp [hq]
  | dropped channel hq => simp [hq, Outbound.dropReceiving]

/-! ## Runs that spare a channel -/

/-- Operations that spare a channel take nothing away from it. -/
theorem spared_run (h : Handshake S W) {ops : List (Operation W)} (ho : ∀ op ∈ ops, op.Spares n) :
    (run g h ops).queued n = h.queued n ++ (history g h ops).flatMap (·.posted n) := by
  induction ops generalizing h with
  | nil => exact (List.append_nil _).symm
  | cons op ops ih =>
    obtain ⟨ho₁, ho₂⟩ := List.forall_mem_cons.mp ho
    have ht : (moment g h op).taken n = [] := by
      cases op with
      | takeEnvelope c => exact if_neg (Ne.symm ho₁)
      | _ => rfl
    rcases taken_append_posted g h op n with he | ⟨rfl, -⟩
    · rw [history, List.flatMap_cons, ← List.append_assoc, ← he, ht, List.nil_append]
      exact ih _ ho₂
    · exact absurd rfl ho₁

/-- A writer takes the oldest envelope of its channel, and nothing is queued meanwhile. -/
theorem queued_takeEnvelope {bytes : Bytes} {rest : List Bytes} (hq : h.queued n = bytes :: rest) :
    (perform g h (.takeEnvelope n)).2.queued n = rest ∧
      (moment g h (.takeEnvelope n)).posted n = [] := by
  have ht : (perform g h (.takeEnvelope n)).2.queued n = rest := by
    have h' := Outbound.queued_taken h.outbound n n
    rw [if_pos rfl] at h'
    exact h'.trans (congrArg List.tail hq)
  refine ⟨ht, ?_⟩
  simp only [Moment.posted, moment, ht, hq]
  simp

/-- No operation but an opening unlinks a channel. -/
theorem linked_perform (hl : h.outbound.Linked n) (ho : ∀ lock, op ≠ .onOpen n lock) :
    (perform g h op).2.outbound.Linked n := by
  by_cases hs : op.Spares n
  · exact hl.spared ((traffic_perform g h op).spared hs)
  · obtain ⟨ch, hc, hb⟩ := hl
    cases op with
    | onOpen c lock => exact absurd (not_not.mp hs ▸ rfl) (ho lock)
    | takeEnvelope c =>
      obtain ⟨ch', hc', he⟩ := Outbound.sameSending_taken (n := n) c ch hc
      refine ⟨ch', hc', ?_⟩
      rw [he, hb]
      exact iff_of_eq (congrArg (· = some n) (Outbound.bound_taken _ c).symm)
    | dropReceiving c =>
      obtain rfl : c = n := not_not.mp hs
      exact ⟨_, (Outbound.getElem?_adjust_eq _).trans (congrArg (Option.map _) hc), hb⟩
    | _ => exact absurd trivial hs

theorem linked_run (hl : h.outbound.Linked n) {ops : List (Operation W)}
    (ho : ∀ lock, .onOpen n lock ∉ ops) : (run g h ops).outbound.Linked n := by
  induction ops generalizing h with
  | nil => exact hl
  | cons op ops ih =>
    refine ih (linked_perform hl ?_) fun lock hm ↦ ho lock (List.mem_cons_of_mem _ hm)
    exact fun lock hl ↦ ho lock (hl ▸ List.mem_cons_self)

/-- The channels of a client only become more. -/
theorem length_le_run (h : Handshake S W) (ops : List (Operation W)) :
    h.outbound.channels.length ≤ (run g h ops).outbound.channels.length := by
  induction ops generalizing h with
  | nil => exact Nat.le_refl _
  | cons op ops ih => exact Nat.le_trans (traffic_perform g h op).length_le (ih _)

/-- On a channel that is not made yet, nothing is queued. -/
theorem queued_of_unmade (hn : h.outbound.channels.length ≤ n) : h.queued n = [] := by
  simp [queued, Outbound.queued, List.getElem?_eq_none hn]

/-- On a channel that is not made by then, nothing was queued. -/
theorem posted_of_unmade (h : Handshake S W) (ops : List (Operation W))
    (hn : (run g h ops).outbound.channels.length ≤ n) :
    (history g h ops).flatMap (·.posted n) = [] := by
  induction ops generalizing h with
  | nil => rfl
  | cons op ops ih =>
    have hq : (moment g h op).after.queued n = [] :=
      queued_of_unmade (Nat.le_trans (length_le_run (perform g h op).2 ops) hn)
    rw [history, List.flatMap_cons, ih _ hn, List.append_nil, Moment.posted, hq, List.drop_nil]

/-! ## Until the client disconnects -/

/-- What was queued at a moment, on whatever channel was bound by then. -/
def Moment.sent (t : Moment S W) : List Bytes :=
  (t.after.outbound.bound.map t.posted).getD []

/-- Nothing is queued elsewhere. -/
theorem posted_of_ne (hb : (perform g h op).2.outbound.bound ≠ some n) :
    (moment g h op).posted n = [] := by
  by_contra hp
  exact hb (sends_of_posted g hp).2.1

/-- Whether the client was active by the end of a moment. -/
def Moment.isActive (t : Moment S W) : Bool := t.after.state ≠ .disconnected

/-- A channel that is bound no more is never bound again. -/
theorem unbound_perform (hb : h.outbound.bound ≠ some n) (ho : ∀ lock, op ≠ .onOpen n lock) :
    (perform g h op).2.outbound.bound ≠ some n := by
  intro hb'
  rcases (traffic_perform g h op).bound_of_bound hb' with hb' | ⟨lock, rfl⟩
  · exact hb hb'
  · exact ho lock rfl

section

variable {ops : List (Operation W)} (ho : ∀ lock, .onOpen n lock ∉ ops)

include ho

theorem unbound_run (hb : h.outbound.bound ≠ some n) : (run g h ops).outbound.bound ≠ some n := by
  induction ops generalizing h with
  | nil => exact hb
  | cons op ops ih =>
    refine ih (fun lock hm ↦ ho lock (List.mem_cons_of_mem _ hm)) (unbound_perform hb ?_)
    exact fun lock hl ↦ ho lock (hl ▸ List.mem_cons_self)

/-- Nothing is queued on it any more. -/
theorem posted_of_unbound (hb : h.outbound.bound ≠ some n) :
    (history g h ops).flatMap (·.posted n) = [] := by
  induction ops generalizing h with
  | nil => rfl
  | cons op ops ih =>
    have hb' : (perform g h op).2.outbound.bound ≠ some n :=
      unbound_perform hb fun lock hl ↦ ho lock (hl ▸ List.mem_cons_self)
    rw [history, List.flatMap_cons, posted_of_ne hb', List.nil_append]
    exact ih (fun lock hm ↦ ho lock (List.mem_cons_of_mem _ hm)) hb'

/-- Once the client was disconnected, the channel is bound no more. -/
theorem unbound_of_left (hs : h.standing.Sound g.refreshLimit) {t : Moment S W}
    (ht : t ∈ history g h ops) (hd : t.after.state = .disconnected) :
    (run g h ops).outbound.bound ≠ some n := by
  induction ops generalizing h with
  | nil => cases ht
  | cons op ops ih =>
    have hs' := hs.step (step_perform g h op)
    have ho' : ∀ lock, .onOpen n lock ∉ ops := fun lock hm ↦ ho lock (List.mem_cons_of_mem _ hm)
    obtain rfl | ht := List.mem_cons.mp ht
    · have hn : (perform g h op).2.outbound.bound ≠ some n := fun hb ↦
        hs'.bound_iff.mp (by simp [Outbound.isBound, hb]) hd
      exact unbound_run (h := (perform g h op).2) ho' hn
    · exact ih ho' hs' ht

end

/-- A channel that is bound no more was so until the client disconnected. -/
theorem left_of_unbound (hb : h.outbound.bound = some n) {ops : List (Operation W)}
    (hn : (run g h ops).outbound.bound ≠ some n) :
    ∃ t ∈ history g h ops, t.after.state = .disconnected := by
  induction ops generalizing h with
  | nil => exact absurd hb hn
  | cons op ops ih =>
    rcases (traffic_perform g h op).bound hb with hb' | hd
    · obtain ⟨t, ht, hd⟩ := ih hb' hn
      exact ⟨t, List.mem_cons_of_mem _ ht, hd⟩
    · exact ⟨_, List.mem_cons_self, hd⟩

end Handshake

end SealedSession
