import SealedSession.Cipher

/-! # The pair cipher

A deterministic cipher that hides nothing from anyone and yet attributes: its ciphertext names
the owner who sent it and the owner it is for, sixteen bytes each, before the masked payload. It
is decrypted only by the named recipient and only as coming from the named sender.
-/

namespace SealedSession.Cipher.Pair

/-- Every payload byte is combined with this one. -/
def mask : UInt8 := 0x5A

/-- Masks a payload; masking twice gives it back. -/
def masked (bytes : Bytes) : Bytes :=
  bytes.map (· ^^^ mask)

/-- The length of the two owners in front of a payload. -/
def headLength : Nat := 32

/-- Names sender and recipient before the masked payload. -/
def enclose (sender recipient : Uuid) (plain : Bytes) : Bytes :=
  sender.bytes ++ (recipient.bytes ++ masked plain)

/-- Takes a ciphertext apart, provided that it names this sender and this recipient. -/
def disclose (sender : Identity) (recipient : Uuid) (sealed : Bytes) :
    Except CipherError Bytes :=
  if sealed.length < headLength then .error (.decrypt "ciphertext too short")
  else if sealed.take 16 = sender.owner.bytes ∧ (sealed.drop 16).take 16 = recipient.bytes then
    .ok (masked (sealed.drop headLength))
  else .error (.decrypt ("no session with " ++ sender.text))

@[simp] theorem masked_masked (bytes : Bytes) : masked (masked bytes) = bytes := by
  induction bytes with
  | nil => rfl
  | cons b rest ih =>
    simp only [masked, List.map_map, List.map_cons] at ih ⊢
    rw [ih, UInt8.xor_assoc, UInt8.xor_self, UInt8.xor_zero]

@[simp] theorem length_masked (bytes : Bytes) : (masked bytes).length = bytes.length := by
  simp [masked]

@[simp] theorem length_enclose (sender recipient : Uuid) (plain : Bytes) :
    (enclose sender recipient plain).length = 32 + plain.length := by
  simp [enclose]; omega

end Pair

/-- The pair cipher of one party. -/
def pair (self : Identity) : Cipher where
  encrypt plain recipient := .ok (Pair.enclose self.owner recipient.owner plain)
  decrypt sealed sender := Pair.disclose sender self.owner sealed

end SealedSession.Cipher
