import Mathlib.Data.Multiset.Defs
import SealedSession.Proofs.Directory.Tasks
import SealedSession.Switchboard.Recorded

/-!
# Looking up, in any order

A look-up goes through the records in an order that nobody has promised, and stops at the first one
with an answer. Several connections may have the same identity, and only some of them a player. So
what is found may depend on the order, but not whether something is found, and whatever is found
belongs to a record that the log tells of.

* `Live`: a record that the log tells of.
* `Finds`: a look-up that is sound and complete; `finds_search` says so of every search.
* `lookups_in_any_order`: all look-ups.
* `companions_in_any_order`: the players among some candidates who are on the same game server.
-/

namespace SealedSession

/-- A record is the last thing that the log says of its connection. -/
def Live (log : List Entry) (r : SessionRecord) : Prop := LastIdentified r.connection r log

/-- A look-up comes up with the answer of a live record, if there is a live record with an answer,
and only then. -/
structure Finds {α : Type} (log : List Entry) (answers : SessionRecord → α → Prop)
    (found : Option α) : Prop where
  complete : found.isSome = true ↔ ∃ r a, Live log r ∧ answers r a
  sound : ∀ a, found = some a → ∃ r, Live log r ∧ answers r a

theorem Finds.eq_none_iff {α : Type} {log : List Entry} {answers : SessionRecord → α → Prop}
    {found : Option α} (h : Finds log answers found) :
    found = none ↔ ¬∃ r a, Live log r ∧ answers r a := by
  rw [← h.complete, Bool.not_eq_true, Option.isSome_eq_false_iff, Option.isNone_iff_eq_none]

theorem Finds.of_iff {α : Type} {log : List Entry} {answers answers' : SessionRecord → α → Prop}
    {found : Option α} (h : Finds log answers found) (hi : ∀ r a, answers r a ↔ answers' r a) :
    Finds log answers' found := by
  have he : answers = answers' := by
    funext r a
    exact propext (hi r a)
  exact he ▸ h

namespace Directory

/-- What a record answers under a condition. -/
theorem answering_eq_some_iff {α : Type} {p : SessionRecord → Bool} {f : SessionRecord → α}
    {r : SessionRecord} {a : α} : answering p f r = some a ↔ p r = true ∧ f r = a := by
  unfold answering
  split
  · next h => simp [h]
  · next h => simp [h]

theorem boundTo_iff {r : SessionRecord} {account : Uuid} :
    r.boundTo account = true ↔ ∃ p, r.player = some p ∧ p.id = account := by
  simp [SessionRecord.boundTo, Option.any_eq_true]

end Directory

namespace Shared

section

variable {κ : Type} {w : Shared κ} {order : List SessionRecord}

/-- A search that goes through all records finds the answer of a live one. -/
theorem Sound.finds_search {α : Type} (h : w.Sound) (ho : order.Perm w.board.directory.records)
    (f : SessionRecord → Option α) :
    Finds w.log (fun r a ↦ f r = some a) ((⟨order⟩ : Directory).search f) where
  complete := by
    rw [Directory.search, List.findSome?_isSome_iff]
    constructor
    · rintro ⟨r, hr, ha⟩
      obtain ⟨a, ha⟩ := Option.isSome_iff_exists.mp ha
      exact ⟨r, a, h.mem_records_iff.mp (ho.mem_iff.mp hr), ha⟩
    · rintro ⟨r, a, hr, ha⟩
      exact ⟨r, ho.mem_iff.mpr (h.mem_records_iff.mpr hr), Option.isSome_iff_exists.mpr ⟨a, ha⟩⟩
  sound a ha := by
    obtain ⟨r, hr, ha⟩ := List.exists_of_findSome?_eq_some ha
    exact ⟨r, h.mem_records_iff.mp (ho.mem_iff.mp hr), ha⟩

theorem Sound.finds_answering {α : Type} (h : w.Sound)
    (ho : order.Perm w.board.directory.records) (p : SessionRecord → Bool)
    (f : SessionRecord → α) : Finds w.log (fun r a ↦ p r = true ∧ f r = a)
      ((⟨order⟩ : Directory).search (Directory.answering p f)) :=
  (h.finds_search ho _).of_iff fun _ _ ↦ Directory.answering_eq_some_iff

theorem Sound.finds_boundPlayer (h : w.Sound) (ho : order.Perm w.board.directory.records)
    (i : Identity) : Finds w.log (fun r p ↦ r.identity = i ∧ r.player = some p)
      ((⟨order⟩ : Directory).boundPlayer? i) := by
  refine (h.finds_search ho _).of_iff fun r p ↦ ?_
  split
  · next hi => exact (and_iff_right hi).symm
  · next hi => exact iff_of_false nofun fun hp ↦ hi hp.1

end

variable {κ : Type} [Link κ]

/-- Whatever tasks have done with a switchboard, and in whatever order the records are gone through,
every look-up finds what a live record has to say, exactly if there is such a record.

A player of an identity is found if some record of that identity has one, whatever other records
there are; and the two ways to look for it agree, also when they go through the records in different
orders. -/
theorem lookups_in_any_order (ciphers : List CipherUse → Cipher) (links : ConnectionId → κ)
    (moves : List (Move κ)) {order order' : List SessionRecord}
    (h : order.Perm (run (start ciphers links) moves).board.directory.records)
    (h' : order'.Perm (run (start ciphers links) moves).board.directory.records) :
    let log := (run (start ciphers links) moves).log
    let d : Directory := ⟨order⟩
    let d' : Directory := ⟨order'⟩
    (∀ i, Finds log (fun r c ↦ r.identity = i ∧ r.connection = c) (d.connectionFor? i)) ∧
    (∀ p, Finds log (fun r i ↦ r.player = some p ∧ r.identity = i) (d.identityForPlayer? p)) ∧
    (∀ i, Finds log (fun r p ↦ r.identity = i ∧ r.player = some p) (d.boundPlayer? i)) ∧
    (∀ i, Finds log (fun r p ↦ (r.identity = i ∧ r.player.isSome = true) ∧ ⟨r.identity, r.player⟩ = p)
      (d.findPlayer? i)) ∧
    (∀ owner, Finds log (fun r s ↦ r.identity.owner = owner ∧ r = s) (d.recordByOwner? owner)) ∧
    (∀ account, Finds log (fun r s ↦ (∃ p, r.player = some p ∧ p.id = account) ∧ r = s)
      (d.recordByPlayer? account)) ∧
    (∀ account, Finds log (fun r i ↦ (∃ p, r.player = some p ∧ p.id = account) ∧ r.identity = i)
      (d.identityByPlayerId? account)) ∧
    (∀ profile, Finds log (fun r p ↦ r.identity.owner = profile ∧ ⟨r.identity, r.player⟩ = p)
      (d.findPlayerByProfile? profile)) ∧
    ∀ i, ((d.boundPlayer? i).isSome = true ↔
        ∃ r, Live log r ∧ r.identity = i ∧ r.player.isSome = true) ∧
      (d'.findPlayer? i).isSome = (d.boundPlayer? i).isSome := by
  intro log d d'
  have hs := sound_run ciphers links moves
  have hb := hs.finds_boundPlayer h
  have hf {order : List SessionRecord} (ho : order.Perm _) (i : Identity) :
      Finds log (fun r p ↦ (r.identity = i ∧ r.player.isSome = true) ∧ ⟨r.identity, r.player⟩ = p)
        ((⟨order⟩ : Directory).findPlayer? i) :=
    (hs.finds_answering ho _ _).of_iff fun r p ↦ by simp [SessionRecord.toPlayer]
  have some_bound (i : Identity) : (d.boundPlayer? i).isSome = true ↔
      ∃ r, Live log r ∧ r.identity = i ∧ r.player.isSome = true := by
    rw [(hb i).complete]
    constructor
    · rintro ⟨r, p, hr, hi, hp⟩
      exact ⟨r, hr, hi, Option.isSome_iff_exists.mpr ⟨p, hp⟩⟩
    · rintro ⟨r, hr, hi, hp⟩
      obtain ⟨p, hp⟩ := Option.isSome_iff_exists.mp hp
      exact ⟨r, p, hr, hi, hp⟩
  refine ⟨fun i ↦ ?_, fun p ↦ ?_, hb, hf h, fun owner ↦ ?_, fun account ↦ ?_, fun account ↦ ?_,
    fun profile ↦ ?_, fun i ↦ ⟨some_bound i, ?_⟩⟩
  · exact (hs.finds_answering h _ _).of_iff fun r c ↦ by simp
  · exact (hs.finds_answering h _ _).of_iff fun r i ↦ by simp
  · exact (hs.finds_answering h _ _).of_iff fun r s ↦ by simp
  · exact (hs.finds_answering h _ _).of_iff fun r s ↦ and_congr_left' Directory.boundTo_iff
  · exact (hs.finds_answering h _ _).of_iff fun r i ↦ and_congr_left' Directory.boundTo_iff
  · exact (hs.finds_answering h _ _).of_iff fun r p ↦ by simp [SessionRecord.toPlayer]
  · refine Bool.eq_iff_iff.mpr ?_
    rw [some_bound, (hf h' i).complete]
    constructor
    · rintro ⟨r, p, hr, ⟨hi, hp⟩, -⟩
      exact ⟨r, hr, hi, hp⟩
    · rintro ⟨r, hr, hi, hp⟩
      exact ⟨r, r.toPlayer, hr, ⟨hi, hp⟩, rfl⟩

/-- One task identifies two connections alike, and only the second with a player. -/
def doubling : List (Move RecordedLink) := [
  .spawn (.identify ⟨0⟩ default none (fun _ _ ↦ .done) fun _ ↦
    .identify ⟨1⟩ default (some ⟨default, "alpha"⟩) (fun _ _ ↦ .done) fun _ ↦ .done),
  .turn 0, .turn 0, .turn 0]

/-- What comes of it. -/
def doubled : Shared RecordedLink := run (start (fun _ ↦ .clear) fun _ ↦ {}) doubling

/-- The record without a player. -/
def single : SessionRecord := ⟨⟨0⟩, default, none⟩

/-- The record with a player. -/
def paired : SessionRecord := ⟨⟨1⟩, default, some ⟨default, "alpha"⟩⟩

/-- Which connection is found depends on the order, whether a player is found does not. -/
theorem lookups_in_any_order_doubled :
    let d : Directory := ⟨[paired, single]⟩
    let d' : Directory := ⟨[single, paired]⟩
    [paired, single].Perm doubled.board.directory.records ∧
    [single, paired].Perm doubled.board.directory.records ∧
    Finds doubled.log (fun r c ↦ r.identity = default ∧ r.connection = c)
      (d.connectionFor? default) ∧
    Finds doubled.log (fun r p ↦ r.identity = default ∧ r.player = some p)
      (d.boundPlayer? default) ∧
    (d'.findPlayer? default).isSome = (d.boundPlayer? default).isSome ∧
    d.connectionFor? default ≠ d'.connectionFor? default ∧
    d'.findPlayer? default = some ⟨default, some ⟨default, "alpha"⟩⟩ := by
  intro d d'
  have h : [paired, single].Perm doubled.board.directory.records := .swap single paired []
  have h' : [single, paired].Perm doubled.board.directory.records := .refl _
  obtain ⟨hc, -, hb, -, -, -, -, -, ha⟩ :=
    lookups_in_any_order (fun _ ↦ .clear) (fun _ ↦ ({} : RecordedLink)) doubling h h'
  exact ⟨h, h', hc default, hb default, (ha default).2, by decide, by decide⟩

end Shared

/-! ## Players on the same game server -/

/-- A record is bound to a player on the same game server who is among the candidates. -/
def Joins (p : BoundPlayer) (candidates : List Uuid) (r : SessionRecord) : Prop :=
  ∃ q, r.player = some q ∧ q.server = p.server ∧ q.id ∈ candidates

/-- A list has every live record that joins a player, once for each connection, and no others. -/
structure Hits (log : List Entry) (p : BoundPlayer) (candidates : List Uuid)
    (hits : List SessionRecord) : Prop where
  distinct : (hits.map SessionRecord.connection).Nodup
  mem_iff : ∀ s, s ∈ hits ↔ Live log s ∧ Joins p candidates s

/-- All players of an identity are on one game server. -/
def Together (log : List Entry) (i : Identity) : Prop :=
  ∀ r s p q, Live log r → Live log s → r.identity = i ∧ r.player = some p →
    s.identity = i ∧ s.player = some q → p.server = q.server

/-- A single record of an identity has a player. -/
def BoundOnce (log : List Entry) (i : Identity) : Prop :=
  ∃! r, Live log r ∧ r.identity = i ∧ r.player.isSome = true

/-- The player of a single record is on one game server. -/
theorem BoundOnce.together {log : List Entry} {i : Identity} (h : BoundOnce log i) :
    Together log i := by
  intro r s p q hr hs hp hq
  have same : r = s := h.unique ⟨hr, hp.1, Option.isSome_of_eq_some hp.2⟩
    ⟨hs, hq.1, Option.isSome_of_eq_some hq.2⟩
  subst same
  cases hp.2.symm.trans hq.2
  rfl

namespace Directory

variable {d d' : Directory} {i : Identity} {p q : BoundPlayer} {candidates candidates' : List Uuid}

/-- The players that are found, in no order. -/
def companions (d : Directory) (i : Identity) (candidates : List Uuid) :
    Except DirectoryError (Multiset Player) :=
  (d.findPlayers i candidates).map (↑)

theorem joins_iff {r : SessionRecord} :
    SessionRecord.joins p candidates r = true ↔ Joins p candidates r := by
  simp [SessionRecord.joins, BoundPlayer.inServerWith, Joins, Option.any_eq_true]

/-- Only the server of the caller and the set of the candidates matter. -/
theorem joins_congr (hs : p.server = q.server)
    (hc : ∀ account, account ∈ candidates ↔ account ∈ candidates') :
    SessionRecord.joins p candidates = SessionRecord.joins q candidates' := by
  funext r
  refine Bool.eq_iff_iff.mpr ?_
  simp only [joins_iff, Joins, hs, hc]

theorem findPlayers_of_some (h : d.boundPlayer? i = some p) :
    d.findPlayers i candidates = .ok ((d.records.filter
      (SessionRecord.joins p candidates)).map SessionRecord.toPlayer) := by
  rw [findPlayers, h]

theorem findPlayers_of_none (h : d.boundPlayer? i = none) :
    d.findPlayers i candidates = .error (.noBoundPlayer i) := by
  rw [findPlayers, h]

theorem findPlayers_eq_error_iff :
    d.findPlayers i candidates = .error (.noBoundPlayer i) ↔ d.boundPlayer? i = none := by
  refine ⟨fun h ↦ ?_, findPlayers_of_none⟩
  cases hp : d.boundPlayer? i with
  | none => rfl
  | some p => cases (findPlayers_of_some hp).symm.trans h

theorem findPlayers_congr (hc : ∀ account, account ∈ candidates ↔ account ∈ candidates') :
    d.findPlayers i candidates = d.findPlayers i candidates' := by
  cases hp : d.boundPlayer? i with
  | none => rw [findPlayers_of_none hp, findPlayers_of_none hp]
  | some p => rw [findPlayers_of_some hp, findPlayers_of_some hp, joins_congr rfl hc]

/-- Two orders of the records that lead to the same server lead to the same players. -/
theorem companions_eq (ho : d.records.Perm d'.records) (h : d.boundPlayer? i = some p)
    (h' : d'.boundPlayer? i = some q) (hs : p.server = q.server) :
    d.companions i candidates = d'.companions i candidates := by
  have hf := (ho.filter (SessionRecord.joins p candidates)).map SessionRecord.toPlayer
  rw [companions, companions, findPlayers_of_some h, findPlayers_of_some h',
    ← joins_congr hs fun _ ↦ .rfl]
  exact congrArg Except.ok (Multiset.coe_eq_coe.mpr hf)

end Directory

namespace Shared

theorem Sound.hits {κ : Type} {w : Shared κ} {order : List SessionRecord} (h : w.Sound)
    (ho : order.Perm w.board.directory.records) (p : BoundPlayer) (candidates : List Uuid) :
    Hits w.log p candidates (order.filter (Directory.SessionRecord.joins p candidates)) where
  distinct := by
    have hd : (order.map SessionRecord.connection).Nodup :=
      (ho.map _).nodup_iff.mpr h.directory.distinct
    exact hd.sublist (List.filter_sublist.map _)
  mem_iff s := by
    rw [List.mem_filter, ho.mem_iff, h.mem_records_iff, Directory.joins_iff]
    rfl

/-- Whatever tasks have done with a switchboard, and in whatever order the records are gone through,
the players among some candidates who are on the game server of an identity are found exactly if a
live record binds that identity to a player, and then for the server of such a player: each live
record of that server and of a candidate comes once, and so does the one that was asked for if it is
a candidate itself.

How the candidates are listed does not matter. If a single record of the identity has a player, or
if all its players are on one server, the order of the records decides on nothing but the order of
the result. -/
theorem companions_in_any_order {κ : Type} [Link κ] (ciphers : List CipherUse → Cipher)
    (links : ConnectionId → κ) (moves : List (Move κ)) {order order' : List SessionRecord}
    (h : order.Perm (run (start ciphers links) moves).board.directory.records)
    (h' : order'.Perm (run (start ciphers links) moves).board.directory.records) (i : Identity)
    {candidates candidates' : List Uuid}
    (hc : ∀ account, account ∈ candidates ↔ account ∈ candidates') :
    let log := (run (start ciphers links) moves).log
    let d : Directory := ⟨order⟩
    let d' : Directory := ⟨order'⟩
    (d.findPlayers i candidates = .error (.noBoundPlayer i) ↔
      ¬∃ r p, Live log r ∧ r.identity = i ∧ r.player = some p) ∧
    ((∃ r p, Live log r ∧ r.identity = i ∧ r.player = some p) →
      ∃ r p hits, (Live log r ∧ r.identity = i ∧ r.player = some p) ∧
        d.findPlayers i candidates = .ok (hits.map fun r ↦ ⟨r.identity, r.player⟩) ∧
        Hits log p candidates hits ∧ (p.id ∈ candidates → r ∈ hits)) ∧
    d.findPlayers i candidates = d.findPlayers i candidates' ∧
    (BoundOnce log i → d.companions i candidates = d'.companions i candidates') ∧
    (Together log i → d.companions i candidates = d'.companions i candidates') := by
  intro log d d'
  have hs := sound_run ciphers links moves
  have hb := hs.finds_boundPlayer h i
  have hb' := hs.finds_boundPlayer h' i
  have together (ht : Together log i) :
      d.companions i candidates = d'.companions i candidates' := by
    have hcd : d'.companions i candidates = d'.companions i candidates' := by
      rw [Directory.companions, Directory.companions, Directory.findPlayers_congr hc]
    rw [← hcd]
    by_cases hr : ∃ r p, Live log r ∧ r.identity = i ∧ r.player = some p
    · obtain ⟨p, hp⟩ := Option.isSome_iff_exists.mp (hb.complete.mpr hr)
      obtain ⟨q, hq⟩ := Option.isSome_iff_exists.mp (hb'.complete.mpr hr)
      obtain ⟨r, hl, hrp⟩ := hb.sound p hp
      obtain ⟨s, hl', hsq⟩ := hb'.sound q hq
      exact Directory.companions_eq (h.trans h'.symm) hp hq (ht r s p q hl hl' hrp hsq)
    · rw [Directory.companions, Directory.companions,
        Directory.findPlayers_of_none (hb.eq_none_iff.mpr hr),
        Directory.findPlayers_of_none (hb'.eq_none_iff.mpr hr)]
  refine ⟨Directory.findPlayers_eq_error_iff.trans hb.eq_none_iff, fun hr ↦ ?_,
    Directory.findPlayers_congr hc, fun ho ↦ together ho.together, together⟩
  obtain ⟨p, hp⟩ := Option.isSome_iff_exists.mp (hb.complete.mpr hr)
  obtain ⟨r, hl, hi, hrp⟩ := hb.sound p hp
  have hh := hs.hits h p candidates
  exact ⟨r, p, _, ⟨hl, hi, hrp⟩, Directory.findPlayers_of_some hp, hh,
    fun hid ↦ (hh.mem_iff r).mpr ⟨hl, p, hrp, rfl, hid⟩⟩

theorem boundOnce_doubled : BoundOnce doubled.log default := by
  have hs := sound_run (fun _ ↦ .clear) (fun _ ↦ ({} : RecordedLink)) doubling
  have hl : Live doubled.log paired := hs.mem_records_iff.mp (by decide)
  refine ⟨paired, ⟨hl, rfl, rfl⟩, ?_⟩
  rintro r ⟨hr, -, hb⟩
  have hm : r ∈ [single, paired] := hs.mem_records_iff.mpr hr
  rcases List.mem_pair.mp hm with rfl | rfl
  · cases hb
  · rfl

/-- The record without a player is in nobody's way, whichever comes first. -/
theorem companions_in_any_order_doubled :
    let d : Directory := ⟨[paired, single]⟩
    let d' : Directory := ⟨[single, paired]⟩
    [paired, single].Perm doubled.board.directory.records ∧
    [single, paired].Perm doubled.board.directory.records ∧
    (∀ account : Uuid, account ∈ [default] ↔ account ∈ [default, default]) ∧
    (∃ r p hits, (Live doubled.log r ∧ r.identity = default ∧ r.player = some p) ∧
      d.findPlayers default [default] = .ok (hits.map fun r ↦ ⟨r.identity, r.player⟩) ∧
      Hits doubled.log p [default] hits ∧ (p.id ∈ [default] → r ∈ hits)) ∧
    d.companions default [default] = d'.companions default [default, default] ∧
    d.findPlayers default [default] = .ok [⟨default, some ⟨default, "alpha"⟩⟩] := by
  intro d d'
  have h : [paired, single].Perm doubled.board.directory.records := .swap single paired []
  have h' : [single, paired].Perm doubled.board.directory.records := .refl _
  have hc (account : Uuid) : account ∈ [default] ↔ account ∈ [default, default] := by simp
  have hl : Live doubled.log paired :=
    (sound_run (fun _ ↦ .clear) (fun _ ↦ ({} : RecordedLink)) doubling).mem_records_iff.mp
      (by decide)
  obtain ⟨-, hf, -, ho, -⟩ :=
    companions_in_any_order (fun _ ↦ .clear) (fun _ ↦ ({} : RecordedLink)) doubling h h' default hc
  exact ⟨h, h', hc, hf ⟨paired, _, hl, rfl, rfl⟩, ho boundOnce_doubled, rfl⟩

end Shared

end SealedSession
