import SealedSession.Switchboard

/-!
# The records of a directory

A directory is changed in two ways, and each of them concerns one connection. The lemmas below say
what becomes of the record of that connection and of all others.

* `identify_of_bound`, `identify_of_free`: a connection is identified.
* `record?_remove`, `record?_remove_of_ne`: a record is removed.
* `Directory.Distinct`: no connection has two records; `mem_records_iff` is what follows from it.
* `Switchboard.directory_stop`, `Switchboard.record?_identify_of_ne`: the same for a switchboard.
-/

namespace SealedSession

/-- Whether a record has a player. -/
def SessionRecord.isBound (r : SessionRecord) : Bool := r.player.isSome

namespace Directory

/-- The record of a connection names it. -/
theorem connection_of_record? {d : Directory} {c : ConnectionId} {r : SessionRecord}
    (h : d.record? c = some r) : r.connection = c := by
  simpa using List.find?_some h

/-! ## Putting a record in -/

/-- The record that was put in is found. -/
theorem find?_insert (r : SessionRecord) (rs : List SessionRecord) :
    (insert r rs).find? (fun s ↦ s.connection = r.connection) = some r := by
  induction rs with
  | nil => simp [insert]
  | cons s rs ih =>
    unfold insert
    split
    · simp
    · next h => rw [List.find?_cons_of_neg (by simpa using h), ih]

/-- The records of other connections are found as before. -/
theorem find?_insert_of_ne (r : SessionRecord) (rs : List SessionRecord) {c : ConnectionId}
    (h : r.connection ≠ c) :
    (insert r rs).find? (fun s ↦ s.connection = c) = rs.find? (fun s ↦ s.connection = c) := by
  induction rs with
  | nil => simp [insert, h]
  | cons s rs ih =>
    unfold insert
    split
    · next hs =>
      have hn : s.connection ≠ c := fun hc ↦ h (hs.symm.trans hc)
      rw [List.find?_cons_of_neg (by simpa using h), List.find?_cons_of_neg (by simpa using hn)]
    · rw [List.find?_cons, List.find?_cons, ih]

/-- A connection that has a player is not identified again. -/
theorem identify_of_bound {d : Directory} {c : ConnectionId}
    (h : (d.record? c).any SessionRecord.isBound = true) (i : Identity)
    (player : Option BoundPlayer) : d.identify c i player = .error (.alreadyBound c) := if_pos h

/-- Any other connection is, and its player is reported if it gets one. -/
theorem identify_of_free {d : Directory} {c : ConnectionId}
    (h : (d.record? c).any SessionRecord.isBound = false) (i : Identity)
    (player : Option BoundPlayer) :
    d.identify c i player = .ok (⟨insert ⟨c, i, player⟩ d.records⟩,
      player.map fun p ↦ ⟨i, some p⟩) := by
  have hn : ¬((d.record? c).any fun r ↦ r.player.isSome) = true :=
    fun hb ↦ Bool.false_ne_true (h.symm.trans hb)
  refine (if_neg hn).trans ?_
  cases player <;> rfl

/-- Identifying fails only for a connection that has been identified. -/
theorem identify_cases (d : Directory) (c : ConnectionId) (i : Identity)
    (player : Option BoundPlayer) :
    (∃ d' p, d.identify c i player = .ok (d', p) ∧ d'.record? c = some ⟨c, i, player⟩) ∨
    ∃ e, d.identify c i player = .error e ∧ d.record? c ≠ none := by
  cases h : (d.record? c).any SessionRecord.isBound with
  | true =>
    refine .inr ⟨.alreadyBound c, identify_of_bound h i player, ?_⟩
    intro hn
    rw [hn] at h
    cases h
  | false => exact .inl ⟨_, _, identify_of_free h i player, find?_insert ⟨c, i, player⟩ d.records⟩

/-! ## Removing a record -/

@[simp] theorem record?_remove (d : Directory) (c : ConnectionId) :
    (d.remove c).1.record? c = none := by
  simp [remove, record?]

theorem record?_remove_of_ne (d : Directory) {b c : ConnectionId} (h : c ≠ b) :
    (d.remove b).1.record? c = d.record? c := by
  simp only [remove, record?]
  induction d.records with
  | nil => rfl
  | cons r rs ih =>
    by_cases hr : r.connection = b
    · rw [List.filter_cons_of_neg (by simpa using hr), ih,
        List.find?_cons_of_neg (by simpa [hr] using fun hc ↦ h hc.symm)]
    · rw [List.filter_cons_of_pos (by simpa using hr), List.find?_cons, List.find?_cons, ih]

/-! ## One record for a connection -/

/-- No connection has two records. -/
def Distinct (d : Directory) : Prop := (d.records.map SessionRecord.connection).Nodup

theorem connection_mem_insert {r : SessionRecord} {rs : List SessionRecord} {c : ConnectionId}
    (h : c ∈ (insert r rs).map SessionRecord.connection) :
    c = r.connection ∨ c ∈ rs.map SessionRecord.connection := by
  induction rs with
  | nil => exact .inl (by simpa [insert] using h)
  | cons s rs ih =>
    unfold insert at h
    split at h
    · rw [List.map_cons, List.mem_cons] at h
      exact h.imp_right (List.mem_cons_of_mem _)
    · rw [List.map_cons, List.mem_cons] at h
      obtain rfl | h := h
      · exact .inr List.mem_cons_self
      · exact (ih h).imp_right (List.mem_cons_of_mem _)

theorem Distinct.insert {d : Directory} (hd : d.Distinct) (r : SessionRecord) :
    (⟨Directory.insert r d.records⟩ : Directory).Distinct := by
  obtain ⟨rs⟩ := d
  unfold Distinct at hd ⊢
  dsimp only at hd ⊢
  induction rs with
  | nil => simp [Directory.insert]
  | cons s rs ih =>
    obtain ⟨hs, hd⟩ := List.nodup_cons.mp hd
    unfold Directory.insert
    split
    · next h => exact List.nodup_cons.mpr ⟨h ▸ hs, hd⟩
    · next h =>
      refine List.nodup_cons.mpr ⟨?_, ih hd⟩
      intro hm
      exact (connection_mem_insert hm).elim h hs

theorem Distinct.remove {d : Directory} (hd : d.Distinct) (c : ConnectionId) :
    (d.remove c).1.Distinct :=
  List.Nodup.sublist (List.filter_sublist.map _) hd

/-- The records of a directory are those that are found in it. -/
theorem mem_records_iff {d : Directory} (hd : d.Distinct) (r : SessionRecord) :
    r ∈ d.records ↔ d.record? r.connection = some r := by
  refine ⟨fun hr ↦ ?_, fun hr ↦ List.mem_of_find?_eq_some hr⟩
  obtain ⟨rs⟩ := d
  unfold Distinct at hd
  unfold record?
  dsimp only at hd hr ⊢
  induction rs with
  | nil => cases hr
  | cons s rs ih =>
    obtain ⟨hs, hd⟩ := List.nodup_cons.mp hd
    obtain rfl | hr := List.mem_cons.mp hr
    · exact List.find?_cons_of_pos (by simp)
    · have hn : s.connection ≠ r.connection :=
        fun hc ↦ hs (hc ▸ List.mem_map_of_mem hr)
      rw [List.find?_cons_of_neg (by simpa using hn)]
      exact ih hd hr

end Directory

/-! ## The connections of a switchboard -/

namespace Switchboard

section

variable {κ : Type} (b : Switchboard κ)

/-- Putting a connection back where it was changes nothing. -/
theorem setLink_self (c : ConnectionId) : b.setLink c (b.links c) = b := by
  have hl : (fun x ↦ if x = c then b.links c else b.links x) = b.links := by
    funext x
    split
    · next h => rw [h]
    · rfl
  rw [setLink, hl]

@[simp] theorem links_setLink (c : ConnectionId) (l : κ) : (b.setLink c l).links c = l := if_pos rfl

theorem links_setLink_of_ne {c d : ConnectionId} (h : c ≠ d) (l : κ) :
    (b.setLink d l).links c = b.links c := if_neg h

/-- To make an envelope uses the cipher at most. -/
theorem encode_eq (c : ConnectionId) (recipient : Option Identity) (m : Response) :
    (b.encode c recipient m).2 = { b with uses := (b.encode c recipient m).2.uses } := by
  unfold encode
  split <;> rfl

variable [Link κ]

theorem send_of_error {c : ConnectionId} {recipient : Option Identity} {m : Response}
    {e : EnvelopeError} (h : (b.encode c recipient m).1 = .error e) :
    b.send c recipient m = (.error (.envelope e), (b.encode c recipient m).2) := by
  unfold send
  generalize b.encode c recipient m = x at h ⊢
  obtain ⟨r, b'⟩ := x
  cases h
  rfl

theorem send_of_ok {c : ConnectionId} {recipient : Option Identity} {m : Response} {bytes : Bytes}
    (h : (b.encode c recipient m).1 = .ok bytes) :
    b.send c recipient m = (b.encode c recipient m).2.transmit c bytes := by
  unfold send
  generalize b.encode c recipient m = x at h ⊢
  obtain ⟨r, b'⟩ := x
  cases h
  rfl

/-- What is sent to another connection does not show. -/
theorem links_send_of_ne {c d : ConnectionId} (h : c ≠ d) (recipient : Option Identity)
    (m : Response) : (b.send d recipient m).2.links c = b.links c := by
  have he := congrArg links (b.encode_eq d recipient m)
  cases hr : (b.encode d recipient m).1 with
  | error e =>
    rw [b.send_of_error hr]
    exact congrFun he c
  | ok bytes =>
    rw [b.send_of_ok hr]
    exact (links_setLink_of_ne _ h _).trans (congrFun he c)

/-- The end of a session is told to its own connection. -/
theorem links_notify_of_ne {c d : ConnectionId} (h : c ≠ d)
    (removed : Option SessionRecord) (reason : StopReason) (message : String) :
    (b.notify d removed reason message).2.links c = b.links c := by
  cases removed with
  | none => exact links_setLink_of_ne b h _
  | some r =>
    unfold notify
    dsimp only
    split
    · cases Envelope.encodePlain (Response.sessionError reason message) with
      | error e => rfl
      | ok bytes => exact links_setLink_of_ne b h _
    · rfl

/-- To tell of the end of a session changes the connections alone. -/
theorem notify_eq (c : ConnectionId) (removed : Option SessionRecord) (reason : StopReason)
    (message : String) : (b.notify c removed reason message).2 =
      { b with links := (b.notify c removed reason message).2.links } := by
  cases removed with
  | none => rfl
  | some r =>
    unfold notify
    dsimp only
    split
    · cases Envelope.encodePlain (Response.sessionError reason message) <;> rfl
    · rfl

/-- To send a response changes the connections, and may use the cipher. -/
theorem send_eq (c : ConnectionId) (recipient : Option Identity) (m : Response) :
    (b.send c recipient m).2 =
      { b with uses := (b.send c recipient m).2.uses, links := (b.send c recipient m).2.links } := by
  cases hr : (b.encode c recipient m).1 with
  | error e =>
    rw [b.send_of_error hr, b.encode_eq]
  | ok bytes =>
    rw [b.send_of_ok hr, b.encode_eq]
    rfl

end

/-! ## The records of a switchboard -/

variable {κ : Type}

theorem identify_of_bound {b : Switchboard κ} {c : ConnectionId}
    (h : (b.directory.record? c).any SessionRecord.isBound = true) (i : Identity)
    (p : Option BoundPlayer) : b.identify c i p = (.error (.alreadyBound c), b) := by
  rw [identify, Directory.identify_of_bound h]

theorem identify_of_free {b : Switchboard κ} {c : ConnectionId}
    (h : (b.directory.record? c).any SessionRecord.isBound = false) (i : Identity)
    (p : Option BoundPlayer) : b.identify c i p = (.ok (p.map fun q ↦ ⟨i, some q⟩),
      { b with directory := ⟨Directory.insert ⟨c, i, p⟩ b.directory.records⟩ }) := by
  rw [identify, Directory.identify_of_free h]

theorem directory_notify [Link κ] (b : Switchboard κ) (c : ConnectionId)
    (removed : Option SessionRecord) (reason : StopReason) (message : String) :
    (b.notify c removed reason message).2.directory = b.directory := by
  rw [notify_eq]

/-- Sending changes no record. -/
theorem directory_send [Link κ] (b : Switchboard κ) (c : ConnectionId)
    (recipient : Option Identity) (m : Response) :
    (b.send c recipient m).2.directory = b.directory := by
  rw [send_eq]

/-- Identifying a connection changes the record of no other. -/
theorem record?_identify_of_ne (b : Switchboard κ) {c d : ConnectionId} (h : c ≠ d) (i : Identity)
    (player : Option BoundPlayer) :
    (b.identify d i player).2.directory.record? c = b.directory.record? c := by
  cases hb : (b.directory.record? d).any SessionRecord.isBound with
  | true => rw [identify_of_bound hb]
  | false =>
    rw [identify_of_free hb]
    exact Directory.find?_insert_of_ne ⟨d, i, player⟩ b.directory.records h.symm

/-- Ending a session takes the record of its connection away. -/
theorem directory_stop [Link κ] (b : Switchboard κ) (c : ConnectionId) (reason : StopReason)
    (message : String) :
    (b.stop c reason message fun _ _ b ↦ b).2.directory = (b.directory.remove c).1 := by
  unfold stop release
  rw [directory_notify]
  dsimp only
  split <;> rfl

end Switchboard

end SealedSession
