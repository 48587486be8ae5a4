import SealedSession.IdentityStore.Scripted
import SealedSession.Proofs.Handshake.Lineage

/-!
# What is presented after the stores were reset

A server that does not trust a client expects it to reset its stores before it connects again. When
no store is installed, a client that connects presents nothing at first. What it presents later comes
from the stores that it opens on the connection, unless it still holds one from an earlier connection:
that one is replaced when a device is approved, and stays in use otherwise.

* `Moment.Opens`: the stores that are opened at a moment.
* `Moment.Adopts`: one of them is in use from then on.
* `Moment.Draws`: what is presented at a moment comes from stores with a property.
* `draws_moment`: these are the stores opened then, if one of them is put to use, and the store held
  before otherwise.
* `presented_from_opened`: what is presented after a connection was opened without a store.
-/

namespace SealedSession.Handshake

variable {S W : Type} (g : Settings S W)

/-! ## The stores that are opened -/

/-- The stores that an operation opens: to introduce the client, for the account that the server has
named, or for a device that was approved. -/
def Opens (h : Handshake S W) : Operation W → S → Prop
  | .onOpen _ _, s => h.outbound.bound = none ∧ Found g h s
  | .receive bytes, s => OpenedBy g bytes h s
  | _, _ => False

/-- A store is opened at a moment. -/
def Moment.Opens (t : Moment S W) (s : S) : Prop := Handshake.Opens g t.before t.operation s

/-- What has become of the stores that were opened at some moments. -/
def OpenedIn (ts : List (Moment S W)) (s : S) : Prop :=
  ∃ t ∈ ts, ∃ o, t.Opens g o ∧ Descends g o s

/-- The store that is in use after a moment was opened at that moment. -/
def Moment.Adopts (t : Moment S W) : Prop := ∃ s, t.after.store = some s ∧ OpenedIn g [t] s

/-- A connection is opened while no store is installed. -/
def Moment.IsBlank (t : Moment S W) : Prop :=
  t.before.outbound.bound = none ∧ (∃ channel lock, t.operation = .onOpen channel lock) ∧
    (g.stores.installed t.before.world).1 = false

section

variable {g}

theorem hereditary_openedIn (ts : List (Moment S W)) : Hereditary g (OpenedIn g ts) := by
  rintro s u ⟨t, ht, o, ho, hs⟩ hd
  exact ⟨t, ht, o, ho, hs.trans g hd⟩

theorem OpenedIn.of_mem {ts : List (Moment S W)} {t : Moment S W} (ht : t ∈ ts) {s : S}
    (h : OpenedIn g [t] s) : OpenedIn g ts s := by
  obtain ⟨u, hu, hs⟩ := h
  obtain rfl := List.mem_singleton.mp hu
  exact ⟨u, ht, hs⟩

theorem Moment.Opens.openedIn {t : Moment S W} {s : S} (h : t.Opens g s) : OpenedIn g [t] s :=
  ⟨t, List.mem_singleton_self t, s, h, .refl⟩

theorem Moment.Adopts.opens {t : Moment S W} (h : t.Adopts g) : ∃ o, t.Opens g o := by
  obtain ⟨s, -, u, hu, o, ho, -⟩ := h
  obtain rfl := List.mem_singleton.mp hu
  exact ⟨o, ho⟩

end

/-! ## What is presented at a moment -/

variable (P : S → Prop)

/-- The identities and prekeys that are presented at a moment come from stores with a property. What
the application sends by itself says nothing of a store. -/
structure Moment.Presents (t : Moment S W) : Prop where
  events : ∀ i, .identified i ∈ t.after.events.drop t.before.events.length → Yields g P i
  requests : (∀ r, t.operation ≠ .send r) → Conveys g (Drawn g P) t.before t.after

/-- So does the store that is in use afterwards. -/
structure Moment.Draws (t : Moment S W) : Prop extends t.Presents g P where
  store : ∀ s, t.after.store = some s → P s

/-- If a store is put to use that was opened at a moment, then everything is drawn from such stores;
and from stores with a property otherwise. -/
structure Moment.DrawsEither (t : Moment S W) : Prop where
  adopted : t.Adopts g → t.Draws g (OpenedIn g [t])
  kept : ¬t.Adopts g → t.Draws g P

section

variable {g P} {Q : S → Prop} {h : Handshake S W} {op : Operation W}

theorem Yields.mono (hpq : ∀ s, P s → Q s) {i : Identity} (h : Yields g P i) : Yields g Q i := by
  obtain ⟨s, w, hs, hi⟩ := h
  exact ⟨s, w, hpq s hs, hi⟩

theorem Drawn.mono (hpq : ∀ s, P s → Q s) {r : Request} (h : Drawn g P r) : Drawn g Q r := by
  cases h with
  | stranger => exact .stranger
  | identify hi token => exact .identify (hi.mono hpq) token
  | sendPreKeys hs issued => exact .sendPreKeys (hpq _ hs) issued
  | startSession hi serverId => exact .startSession (hi.mono hpq) serverId
  | checkTrust hi => exact .checkTrust (hi.mono hpq)
  | keepAlive i => exact .keepAlive i

theorem Moment.Draws.mono {t : Moment S W} (hpq : ∀ s, P s → Q s) (h : t.Draws g P) :
    t.Draws g Q where
  events i hi := (h.events i hi).mono hpq
  requests hr n bytes hb := by
    obtain ⟨r, w, hd, he⟩ := h.requests hr n bytes hb
    exact ⟨r, w, hd.mono hpq, he⟩
  store s hs := hpq s (h.store s hs)

theorem Emits.drop {E : Event → Prop} {h h' : Handshake S W} (he : Emits E h h') :
    ∀ e ∈ h'.events.drop h.events.length, E e := by
  obtain ⟨es, hes, hp⟩ := he
  rwa [hes, List.drop_left]

theorem presents_of_emits
    (he : Emits (fun e ↦ ∀ i, e = .identified i → Yields g P i) h (perform g h op).2)
    (hc : Conveys g (Drawn g P) h (perform g h op).2) : (moment g h op).Presents g P where
  events i hi := he.drop _ hi i rfl
  requests _ := hc

/-- What comes of an operation is what is drawn at its moment. -/
theorem Draws.moment (hd : Draws g P h (perform g h op).2) : (moment g h op).Draws g P where
  toPresents := presents_of_emits hd.events hd.requests
  store := hd.store

/-- When neither an event nor an envelope is added, nothing is presented. -/
theorem draws_of_length_le (hs : ∀ s, h.store = some s → P s)
    (hst : (perform g h op).2.store = h.store)
    (he : (perform g h op).2.events.length ≤ h.events.length)
    (hq : ∀ n, ((perform g h op).2.queued n).length ≤ (h.queued n).length) :
    (moment g h op).Draws g P where
  events i hi := by
    change .identified i ∈ (perform g h op).2.events.drop h.events.length at hi
    rw [List.drop_eq_nil_of_le he] at hi
    cases hi
  requests _ n bytes hb := by
    change bytes ∈ ((perform g h op).2.queued n).drop (h.queued n).length at hb
    rw [List.drop_eq_nil_of_le (hq n)] at hb
    cases hb
  store := by
    change ∀ s, (perform g h op).2.store = some s → P s
    rwa [hst]

end

/-! ## One operation -/

section

variable {g P} {h : Handshake S W}

/-- An operation that has nothing to do with opening a store draws from the store in use. -/
theorem draws_aside (hp : Hereditary g P) (hs : ∀ s, h.store = some s → P s) {op : Operation W}
    (ho : ∀ channel lock, op ≠ .onOpen channel lock) (hr : ∀ bytes, op ≠ .receive bytes) :
    (moment g h op).Draws g P := by
  cases op with
  | onOpen channel lock => exact absurd rfl (ho channel lock)
  | receive bytes => exact absurd rfl (hr bytes)
  | onClose close =>
    apply Draws.moment
    change Draws g P h (onClose g close h)
    unfold onClose
    split
    · exact (draws_leave g hp (h := h.emit _) hs).after (Emits.emit (.of_events rfl) rfl)
        fun _ ↦ rfl
    · exact draws_leave g hp hs
  | onFailure => exact Draws.moment (draws_leave g hp hs)
  | disconnect => exact Draws.moment (draws_changeState g hp hs)
  | fail message =>
    exact Draws.moment ((draws_changeState g hp (h := h.emit (.error message)) hs).after
      (Emits.emit (.of_events rfl) rfl) fun _ ↦ rfl)
  | saveOnShutdown =>
    apply Draws.moment
    change Draws g P h (saveOnShutdown g h)
    unfold saveOnShutdown
    split <;> exact .silent hs (.of_events rfl) fun _ ↦ rfl
  | startSession serverId => exact Draws.moment (draws_startSession g serverId hs)
  | send r =>
    obtain ⟨he, hst⟩ : Calm h (send g r h).2 ∧ (send g r h).2.store = h.store := by
      by_cases hc : h.state = .connected
      · rw [send_of_connected g r hc]
        exact ⟨calm_sendRequest g r h, store_sendRequest g r h⟩
      · rw [send_of_ne g r hc]
        exact ⟨.of_events rfl, rfl⟩
    refine ⟨⟨fun i hi ↦ he.draws.drop _ hi i rfl, fun hr ↦ absurd rfl (hr r)⟩, ?_⟩
    change ∀ s, (send g r h).2.store = some s → P s
    rwa [hst]
  | sendKeepalive i => exact Draws.moment (draws_sendRequest g hs (.keepAlive i))
  | takeEvents => exact draws_of_length_le hs rfl (Nat.zero_le _) fun n ↦ Nat.le_refl _
  | createChannel =>
    exact draws_of_length_le hs rfl (Nat.le_refl _) fun n ↦
      Nat.le_of_eq (congrArg List.length (Outbound.queued_create h.outbound n))
  | takeEnvelope channel =>
    refine draws_of_length_le hs rfl (Nat.le_refl _) fun n ↦ ?_
    change ((h.outbound.taken channel).queued n).length ≤ _
    rw [Outbound.queued_taken]
    split
    · exact (List.tail_sublist _).length_le
    · exact Nat.le_refl _
  | dropReceiving channel =>
    refine draws_of_length_le hs rfl (Nat.le_refl _) fun n ↦ ?_
    change ((h.outbound.dropReceiving channel).queued n).length ≤ _
    rw [Outbound.queued_dropReceiving]
    split
    · exact Nat.zero_le _
    · exact Nat.le_refl _
  | elapse change => exact draws_of_length_le hs rfl (Nat.le_refl _) fun n ↦ Nat.le_refl _

/-- What comes of the stores that an operation opens is what is drawn at its moment. -/
theorem Settles.draws {op : Operation W}
    (ht : Settles g (Handshake.Opens g h op) h (perform g h op).2) (hp : Hereditary g P)
    (hs : ∀ s, h.store = some s → P s) : (moment g h op).DrawsEither g P := by
  cases ht with
  | kept hn hd =>
    refine ⟨fun ha ↦ ?_, fun _ ↦ (hd P hp hs).moment⟩
    obtain ⟨o, ho⟩ := ha.opens
    exact absurd ho (hn o)
  | untouched hst hd =>
    refine ⟨?_, fun _ ↦ (hd P hs).moment⟩
    rintro ⟨s, has, ho⟩
    refine (hd _ fun u hu ↦ ?_).moment
    have hus : some u = some s := by
      rw [← hu, ← hst]
      exact has
    cases hus
    exact ho
  | @turned s hst hd =>
    have hd : (moment g h op).Draws g (OpenedIn g [moment g h op]) :=
      (hd _ (hereditary_openedIn _) fun o ho ↦ Moment.Opens.openedIn (t := moment g h op) ho).moment
    exact ⟨fun _ ↦ hd, fun hn ↦ absurd ⟨s, hst, hd.store s hst⟩ hn⟩

/-- An operation that puts a store to use which it has opened draws from that store; any other draws
from the store in use. -/
theorem draws_moment (hp : Hereditary g P) (hs : ∀ s, h.store = some s → P s) (op : Operation W) :
    (moment g h op).DrawsEither g P := by
  have aside (hn : ∀ s, ¬Handshake.Opens g h op s) (hd : (moment g h op).Draws g P) :
      (moment g h op).DrawsEither g P := by
    refine ⟨fun ha ↦ ?_, fun _ ↦ hd⟩
    obtain ⟨o, ho⟩ := ha.opens
    exact absurd ho (hn o)
  cases op with
  | onOpen channel lock => exact (settles_onOpen g channel lock h).draws hp hs
  | receive bytes => exact (settles_receive g bytes h).draws hp hs
  | _ => exact aside (fun _ ↦ id) (draws_aside hp hs (by simp) (by simp))

/-! ## Runs -/

/-- A property of the store in use that all stores have that are put to use is kept. -/
theorem held_run (hp : Hereditary g P) (hs : ∀ s, h.store = some s → P s) {ops : List (Operation W)}
    (ha : ∀ t ∈ history g h ops, t.Adopts g → ∀ s, OpenedIn g [t] s → P s) :
    ∀ s, (run g h ops).store = some s → P s := by
  induction ops generalizing h with
  | nil => exact hs
  | cons op ops ih =>
    refine ih (h := (perform g h op).2) ?_ fun t ht ↦ ha t (List.mem_cons_of_mem _ ht)
    have ht := draws_moment hp hs op
    by_cases hc : (moment g h op).Adopts g
    · exact fun s hst ↦ ha _ List.mem_cons_self hc s ((ht.adopted hc).store s hst)
    · exact (ht.kept hc).store

theorem draws_run (hp : Hereditary g P) (hs : ∀ s, h.store = some s → P s) {ops : List (Operation W)}
    {past : List (Moment S W)} {t : Moment S W} (hh : history g h ops = past ++ [t])
    (ha : ∀ u ∈ past ++ [t], u.Adopts g → ∀ s, OpenedIn g [u] s → P s) : t.Draws g P := by
  obtain ⟨ops', op, rfl, rfl⟩ := history_split_cons g hh
  have ht := draws_moment hp (held_run hp hs fun t ht ↦ ha t (List.mem_append_left _ ht)) op
  by_cases hc : (moment g (run g h ops') op).Adopts g
  · exact (ht.adopted hc).mono (ha _ (List.mem_append_right _ (List.mem_singleton_self _)) hc)
  · exact ht.kept hc

/-- Once a store is put to use, everything is drawn from stores that were opened. -/
theorem draws_run_of_adopts {ops : List (Operation W)} {past : List (Moment S W)} {t u : Moment S W}
    (hh : history g h ops = past ++ [t]) (hu : u ∈ past ++ [t]) (ha : u.Adopts g) :
    t.Draws g (OpenedIn g (past ++ [t])) := by
  obtain ⟨before, since, hsplit⟩ := List.append_of_mem hu
  obtain ⟨ops₁, op, ops₂, -, hm, hn⟩ := history_split_at g (hh.trans hsplit)
  have hd : u.Draws g (OpenedIn g (past ++ [t])) := by
    refine Moment.Draws.mono (fun _ ↦ OpenedIn.of_mem hu) ?_
    rw [hm] at ha ⊢
    exact (draws_moment (P := fun _ ↦ True) (fun _ _ _ _ ↦ trivial)
      (fun _ _ ↦ trivial) op).adopted ha
  rcases List.eq_nil_or_concat since with rfl | ⟨since, v, rfl⟩
  · obtain ⟨-, hv⟩ := List.append_inj' hsplit rfl
    obtain rfl : t = u := List.singleton_inj.mp hv
    exact hd
  · rw [List.concat_eq_append, ← List.cons_append, ← List.append_assoc] at hsplit
    obtain ⟨-, hv⟩ := List.append_inj' hsplit rfl
    obtain rfl : t = v := List.singleton_inj.mp hv
    rw [hm] at hd
    refine draws_run (hereditary_openedIn _) hd.store
      (hn.symm.trans (List.concat_eq_append ..)) fun w hw _ _ ↦ OpenedIn.of_mem ?_
    rw [hsplit, List.append_assoc]
    exact List.mem_append_right _ (List.mem_cons_of_mem _ hw)

end

/-! ## A connection without a store -/

/-- A client that opens a connection while no store is installed presents itself as a stranger, and
keeps the store that it has, if any. -/
theorem presents_of_blank {h : Handshake S W} {op : Operation W} (hb : (moment g h op).IsBlank g) :
    (moment g h op).Presents g (fun _ ↦ False) ∧ (perform g h op).2.store = h.store := by
  obtain ⟨hu, ⟨channel, lock, hop⟩, hi⟩ := hb
  obtain rfl : op = .onOpen channel lock := hop
  have hu : h.outbound.bound = none := hu
  obtain ⟨k, hk, hc, hq, hs, hw⟩ := exists_introduce g channel lock hu
  have ho : (perform g h (.onOpen channel lock)).2 = (introduce g k).2 := congrArg Prod.snd hk
  have nothing (s : S) : ¬Found g k s := by
    rintro ⟨hf, -⟩
    rw [hw] at hf
    exact Bool.false_ne_true (hi.symm.trans hf)
  -- the introduction sends at most one request, which presents nobody
  obtain ⟨hc', hd, hs'⟩ : Calm k (introduce g k).2 ∧
      Conveys g (Drawn g fun _ ↦ False) k (introduce g k).2 ∧ (introduce g k).2.store = k.store := by
    rcases introduce_cases g k with
      ⟨e, w, hr⟩ | ⟨w, hr⟩ | ⟨s, w, hf, hr⟩ | ⟨s, i, t, w, ⟨hf, -⟩, hr⟩
    · rw [hr]
      exact ⟨.of_events rfl, .of_queued fun _ ↦ rfl, rfl⟩
    · rw [hr]
      have hd : Posting g (Drawn g fun _ ↦ False) k
          (sendRequest g .identifyUnknown (k.inWorld w)).2 := posting_of_sendRequest g .stranger rfl
      exact ⟨(calm_sendRequest g _ _).from_events rfl, hd.conveys, store_sendRequest g _ _⟩
    · exact absurd hf (nothing s)
    · exact absurd hf (nothing s)
  refine ⟨presents_of_emits ?_ ?_, by rw [ho, hs', hs]⟩
  · rw [ho]
    exact (hc.trans hc').draws
  · rw [ho]
    intro n
    rw [← hq]
    exact hd n

/-- A client that opens a connection while no store is installed presents nothing then. If it held no
store, or has put one to use since, then what it presents later, and the store that it holds, come
from the stores that it has opened since; until the next connection is opened, these are the stores
that it has opened on this one. If it held a store, and has put no other to use, they come from the
store that was left over. -/
theorem presented_from_opened (world : W) (ops : List (Operation W))
    {earlier later : List (Moment S W)} {o : Moment S W}
    (hh : history g (start world) ops = earlier ++ o :: later) (hb : o.IsBlank g) :
    o.Presents g (fun _ ↦ False) ∧
    ∀ past t future, later = past ++ t :: future →
      ((o.before.store = none ∨ ∃ u ∈ past ++ [t], u.Adopts g) →
        t.Draws g (OpenedIn g (past ++ [t]))) ∧
      ∀ s, o.before.store = some s → (∀ u ∈ past ++ [t], ¬u.Adopts g) →
        t.Draws g (Descends g s) := by
  obtain ⟨ops₀, op, ops₁, -, rfl, rfl⟩ := history_split_at g hh
  obtain ⟨h, hw⟩ : ∃ h : Handshake S W, h = run g (start world) ops₀ := ⟨_, rfl⟩
  rw [← hw] at hb ⊢
  obtain ⟨hp, hs⟩ := presents_of_blank g hb
  refine ⟨hp, fun past t future hl ↦ ?_⟩
  rw [← List.singleton_append, ← List.append_assoc] at hl
  obtain ⟨ops₂, -, -, hl, -⟩ := history_split g hl
  refine ⟨?_, fun s hst hn ↦ ?_⟩
  · rintro (hn | ⟨u, hu, ha⟩)
    · refine draws_run (hereditary_openedIn _) ?_ hl.symm fun u hu _ _ ↦
        OpenedIn.of_mem hu
      rw [hs, show h.store = none from hn]
      rintro s ⟨⟩
    · exact draws_run_of_adopts hl.symm hu ha
  · refine draws_run (hereditary_descends g s) ?_ hl.symm fun u hu ha ↦ absurd ha (hn u hu)
    rw [hs, show h.store = some s from hst]
    rintro u ⟨⟩
    exact .refl

/-- A client whose store is never found installed. -/
def forgetful : Settings Identity Scripted.Ledger where
  stores := Scripted.stores ⟨false, true, ⟨default, [1], none⟩, [], none, []⟩
  session := ⟨default, "player", "server", .unverified, none⟩
  complaint _ := ""

/-- On its first connection, such a client presents the identity of the store that it opens there. -/
theorem presented_from_opened_first :
    let h := run forgetful (start []) [.createChannel]
    let o := moment forgetful h (.onOpen 0 none)
    let t := moment forgetful o.after (.hear (.identify default [] []))
    o.IsBlank forgetful ∧ o.before.store = none ∧
      .identified ⟨default, [1], none⟩ ∈ t.after.events.drop t.before.events.length ∧
      t.Draws forgetful (OpenedIn forgetful [t]) := by
  intro h o t
  have hh : history forgetful (start []) [.createChannel, .onOpen 0 none,
      .hear (.identify default [] [])] = [moment forgetful (start []) .createChannel] ++ o :: [t] :=
    rfl
  have hb : o.IsBlank forgetful := ⟨rfl, ⟨0, none, rfl⟩, rfl⟩
  have ht := ((presented_from_opened forgetful [] _ hh hb).2 [] t [] rfl).1 (.inl rfl)
  exact ⟨hb, rfl, by decide +kernel, ht⟩

/-- When a client has registered its device, is disconnected, and connects again while no store is
installed, it still presents the store of its first connection; and it opens no other. -/
theorem stale_identity_presented :
    let first : List (Operation Scripted.Ledger) := [.createChannel, .onOpen 0 none,
      .hear (.registerDevice "url" "token"), .hear (.deviceRegistered default 7), .disconnect]
    let h := run forgetful (start []) first
    let h' := run forgetful h [.createChannel, .onOpen 1 none, .hear (.identify default [] [])]
    (forgetful.stores.installed h.world).1 = false ∧ h'.world = h.world ∧
      .identified ⟨default, [1], some 7⟩ ∈ h'.events.drop h.events.length ∧
      (h'.queued 1).map (fun bytes ↦ (Envelope.decode Request (fun _ ↦ "") none none bytes).toOption) =
        [some (some (.identify none none)),
          some (some (.startSession ⟨default, [1], some 7⟩ forgetful.session none))] := by
  decide +kernel

end SealedSession.Handshake
