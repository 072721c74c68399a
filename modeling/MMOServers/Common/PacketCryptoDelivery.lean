/-
MMOServers.Common.PacketCryptoDelivery — what one end encrypts the other end
decrypts.

Two ends that share a key, and the frames on their way from the sender to the
receiver. Frames arrive in the order they were made; some are lost, and between
them the receiver is given byte strings that it rejects. Both ends also work in
the other direction, which does not touch the counters of this one.

`number` is the count of sequence numbers drawn before a frame, so the number in
the frame is `number` modulo 2^32. A number is also missing when the call that
drew it failed. As long as fewer than a thousand consecutive numbers are missing,
`ValidateSequence` accepts the next frame, whichever of its branches the number
goes through (`validateSequence_ahead`). The invariant `Synced` keeps the
counters of both ends and the frames in between in step.
-/
import MMOServers.Common.PacketCryptoTheorems

namespace MMOServers.Common

open LittleEndian CryptoConstants Transition

variable {Key : Type} (B : BCrypt Key)

/-! ## Block padding -/

/-- What the cipher makes under a key and an IV is at least one block, and it
    gives the plaintext back under the same key and IV. -/
def BCrypt.Inverts : Prop :=
  ∀ k iv plaintext size cipher, iv.length = ivSize → plaintext ≠ [] →
    B.encryptSize k iv plaintext = some size → B.encrypt k iv plaintext size = some cipher →
      aesBlockSize ≤ cipher.length ∧
        ∃ size', B.decryptSize k iv cipher = some size' ∧
          B.decrypt k iv cipher size' = some plaintext

/-- A provider that pads to whole blocks, each padding byte being their number,
    and does not encipher. -/
def BCrypt.padded : BCrypt Unit where
  openAlgorithmProvider := true
  setChainingModeCBC := true
  generateSymmetricKey _ := some ()
  hashSha256 m := some m
  encryptSize _ _ plaintext := some ((plaintext.length / 16 + 1) * 16)
  encrypt _ _ plaintext _ :=
    let n := 16 - plaintext.length % 16
    some (plaintext ++ List.replicate n (UInt8.ofNat n))
  decryptSize _ _ cipher := some cipher.length
  decrypt _ _ cipher _ :=
    some (cipher.take (cipher.length - (cipher.getLastD 0).toNat))

theorem BCrypt.padded_inverts : BCrypt.padded.Inverts := by
  intro k iv plaintext size cipher _ _ _ hcipher
  simp only [padded, Option.some.injEq] at hcipher
  have hpos : 0 < 16 - plaintext.length % 16 := by omega
  have hsmall : 16 - plaintext.length % 16 < 256 := by omega
  have hblock : 16 ≤ plaintext.length + (16 - plaintext.length % 16) := by omega
  generalize 16 - plaintext.length % 16 = n at hcipher hpos hsmall hblock
  obtain ⟨n, rfl⟩ := Nat.exists_eq_succ_of_ne_zero (Nat.ne_of_gt hpos)
  subst hcipher
  have hlast : (plaintext ++ List.replicate (n + 1) (UInt8.ofNat (n + 1))).getLastD 0
      = UInt8.ofNat (n + 1) := by
    rw [List.replicate_succ', ← List.append_assoc, List.getLastD_concat]
  refine ⟨by simpa [aesBlockSize] using hblock, _, rfl, ?_⟩
  simp only [padded, hlast, UInt8.toNat_ofNat', Nat.mod_eq_of_lt hsmall, List.length_append,
    List.length_replicate, Nat.add_sub_cancel, List.take_left]

/-! ## One frame -/

theorem readU32_frame (x : UInt32) (rest : List UInt8) : readU32 (writeU32 x ++ rest) = x := by
  have hx : x.toNat < 4294967296 := x.toNat_lt
  apply UInt32.toNat_inj.mp
  simp only [writeU32, List.cons_append, List.nil_append, readU32, UInt32.toNat_ofNat',
    UInt8.toNat_ofNat']
  omega

namespace PacketCrypto

/-- A frame with a number within the next thousand is accepted. The two sides of
    the wrap of the counter go through different branches. -/
theorem validateSequence_ahead {c : PacketCrypto Key} {next n : Nat}
    (hc : c.recvSequence = UInt32.ofNat (next - 1)) (hlo : next ≤ n) (hgap : n ≤ next + 999) :
    c.validateSequence (UInt32.ofNat n) = true := by
  have hsub : ∀ a b : UInt32, (a - b).toNat = (2 ^ 32 - b.toNat + a.toNat) % 2 ^ 32 :=
    fun a b => UInt32.toNat_sub a b
  unfold validateSequence
  rw [hc]
  split
  · rfl
  · rename_i hfirst
    split
    · -- the counter has wrapped around in between
      rename_i hle
      rw [UInt32.le_iff_toNat_le, UInt32.toNat_ofNat', UInt32.toNat_ofNat'] at hle
      refine if_neg ?_
      rw [UInt32.lt_iff_toNat_lt, hsub, UInt32.toNat_ofNat', UInt32.toNat_ofNat',
        show sequenceWindow.toNat = 100 from rfl]
      simp only [← UInt32.toNat_inj, UInt32.toNat_ofNat', UInt32.toNat_zero] at hfirst
      omega
    · rename_i hle
      rw [UInt32.le_iff_toNat_le, UInt32.toNat_ofNat', UInt32.toNat_ofNat'] at hle
      refine if_neg ?_
      rw [gt_iff_lt, UInt32.lt_iff_toNat_lt, hsub, UInt32.toNat_ofNat', UInt32.toNat_ofNat',
        show (sequenceWindow * 10).toNat = 1000 from rfl]
      omega

/-- The frame carries the number and a ciphertext of the payload under the key. -/
def Framed (k : Key) (number : UInt32) (payload frame : List UInt8) : Prop :=
  ∃ iv cipher, iv.length = ivSize ∧ frame = writeU32 number ++ iv ++ cipher ∧
    aesBlockSize ≤ cipher.length ∧
      ∃ size, B.decryptSize k iv cipher = some size ∧
        B.decrypt k iv cipher size = some payload

variable {B}

/-- A call of `encrypt` fails and draws no number, or draws one and fails or
    makes a frame with it. -/
theorem encrypt_cases (hB : B.Inverts) {c : PacketCrypto Key} {k : Key}
    (hinit : c.initialized = true) (hk : c.hKey = some k) {iv : Option (List UInt8)}
    (hiv : ∀ bytes, iv = some bytes → bytes.length = ivSize) (plaintext : List UInt8) :
    (∃ msg, c.encrypt B iv plaintext = (.error msg, c)) ∨
    (∃ msg, c.encrypt B iv plaintext
      = (.error msg, { c with sendSequence := c.sendSequence + 1 })) ∨
    (∃ frame, c.encrypt B iv plaintext
      = (.ok frame, { c with sendSequence := c.sendSequence + 1 }) ∧
        Framed B k c.sendSequence plaintext frame) := by
  unfold encrypt
  rw [hinit, hk]
  dsimp only
  split
  · exact Or.inl ⟨_, rfl⟩
  · rename_i hlen
    split
    · exact Or.inr (Or.inl ⟨_, rfl⟩)
    · rename_i bytes
      split
      · exact Or.inr (Or.inl ⟨_, rfl⟩)
      · rename_i size hsize
        split
        · exact Or.inr (Or.inl ⟨_, rfl⟩)
        · rename_i cipher hcipher
          refine Or.inr (Or.inr ⟨_, rfl, bytes, cipher, hiv bytes rfl, rfl, ?_⟩)
          exact hB k bytes plaintext size cipher (hiv bytes rfl)
            (fun h => hlen (by rw [h]; rfl)) hsize hcipher

theorem Framed.parts {k : Key} {number : UInt32} {payload frame : List UInt8}
    (h : Framed B k number payload frame) :
    sequenceNumSize + ivSize + aesBlockSize ≤ frame.length ∧ readU32 frame = number ∧
      ∃ size, B.decryptSize k (frameIv frame) (frameBody frame) = some size ∧
        B.decrypt k (frameIv frame) (frameBody frame) size = some payload := by
  obtain ⟨iv, cipher, hiv, rfl, hcipher, hdecrypt⟩ := h
  have hnumber : (writeU32 number).length = sequenceNumSize := rfl
  have hframeIv : frameIv (writeU32 number ++ iv ++ cipher) = iv := by
    rw [frameIv, List.append_assoc, List.drop_left' hnumber, List.take_left' hiv]
  have hframeBody : frameBody (writeU32 number ++ iv ++ cipher) = cipher := by
    rw [frameBody, List.drop_left' (by rw [List.length_append, hnumber, hiv])]
  refine ⟨?_, ?_, ?_⟩
  · rw [List.length_append, List.length_append, hnumber, hiv]
    omega
  · rw [List.append_assoc, readU32_frame]
  · rw [hframeIv, hframeBody]
    exact hdecrypt

/-- A frame with a number that passes is deciphered. -/
theorem decrypt_framed {c : PacketCrypto Key} {k : Key} (hinit : c.initialized = true)
    (hk : c.hKey = some k) {number : UInt32} {payload frame : List UInt8}
    (hframe : Framed B k number payload frame) (hvalid : c.validateSequence number = true) :
    c.decrypt B frame = (.ok payload, { c with recvSequence := number }) := by
  obtain ⟨hlen, hnumber, size, hsize, hdecrypt⟩ := hframe.parts
  unfold decrypt
  rw [hinit, hk]
  dsimp only
  rw [if_neg (Nat.not_lt.mpr hlen), hnumber, hvalid, hsize]
  simp only [Bool.not_true, Bool.false_eq_true, if_false, hdecrypt]

end PacketCrypto

/-! ## Two ends -/

/-- The output of `GenerateRandomIV`. -/
def Iv : Type := { bytes : List UInt8 // bytes.length = ivSize }

/-- A frame with the payload it was made of. -/
structure SentFrame where
  number : Nat
  payload : List UInt8
  frame : List UInt8

structure Channel (Key : Type) where
  sender : PacketCrypto Key
  receiver : PacketCrypto Key
  /-- How many numbers the sender has drawn. -/
  drawn : Nat := 0
  /-- Frames that have not arrived yet, the oldest first. -/
  inFlight : List SentFrame := []
  /-- The number after that of the last frame delivered. -/
  next : Nat := 0
  /-- The delivered frames with what `Decrypt` made of them, the newest first. -/
  delivered : List (SentFrame × Except String (List UInt8)) := []

namespace Channel

inductive Label where
  | encrypt (iv : Option Iv) (payload : List UInt8)
  | lose
  | deliver
  /-- A byte string that is no frame of the sender's, and on which `Decrypt` fails. -/
  | inject (bytes : List UInt8)
  | receiverEncrypts (iv : Option Iv) (payload : List UInt8)
  | senderDecrypts (bytes : List UInt8)

/-- Both ends after `Initialize` with one key. -/
def start (key : List UInt8) : Channel Key where
  sender := (PacketCrypto.initializeKey B {} key).2
  receiver := (PacketCrypto.initializeKey B {} key).2

def ivBytes (iv : Option Iv) : Option (List UInt8) := iv.map fun iv => iv.val

def step (s : Channel Key) : Label → Option (Channel Key)
  | .encrypt iv payload =>
      let (result, sender) := s.sender.encrypt B (ivBytes iv) payload
      let drawn := if sender.sendSequence = s.sender.sendSequence then s.drawn else s.drawn + 1
      match result with
      | .error _ => some { s with sender := sender, drawn := drawn }
      | .ok frame =>
          some { s with sender := sender, drawn := drawn
                        inFlight := s.inFlight ++ [⟨s.drawn, payload, frame⟩] }
  | .lose =>
      match s.inFlight with
      | [] => none
      | _ :: rest => some { s with inFlight := rest }
  | .deliver =>
      match s.inFlight with
      | [] => none
      | f :: rest =>
          let (result, receiver) := s.receiver.decrypt B f.frame
          some { s with receiver := receiver, inFlight := rest, next := f.number + 1
                        delivered := (f, result) :: s.delivered }
  | .inject bytes =>
      match s.receiver.decrypt B bytes with
      | (.ok _, _) => none
      | (.error _, receiver) => some { s with receiver := receiver }
  | .receiverEncrypts iv payload =>
      some { s with receiver := (s.receiver.encrypt B (ivBytes iv) payload).2 }
  | .senderDecrypts bytes => some { s with sender := (s.sender.decrypt B bytes).2 }

/-- At most 999 numbers are missing before a frame that is delivered. -/
def WithinGap (s : Channel Key) : Label → Prop
  | .deliver =>
      match s.inFlight with
      | [] => True
      | f :: _ => f.number ≤ s.next + 999
  | _ => True

instance (s : Channel Key) (label : Label) : Decidable (s.WithinGap label) := by
  unfold WithinGap
  repeat' split
  all_goals infer_instance

/-- Every delivered frame was deciphered to its payload. -/
def Intact (s : Channel Key) : Prop := ∀ d ∈ s.delivered, d.2 = .ok d.1.payload

/-- An end holds the key. -/
def Holds (k : Key) (c : PacketCrypto Key) : Prop := c.initialized = true ∧ c.hKey = some k

structure Synced (k : Key) (s : Channel Key) : Prop where
  sender : Holds k s.sender
  receiver : Holds k s.receiver
  sendSequence : s.sender.sendSequence = UInt32.ofNat s.drawn
  recvSequence : s.receiver.recvSequence = UInt32.ofNat (s.next - 1)
  framed : ∀ f ∈ s.inFlight, PacketCrypto.Framed B k (UInt32.ofNat f.number) f.payload f.frame
  ordered : s.inFlight.Pairwise fun f g => f.number < g.number
  bounds : ∀ f ∈ s.inFlight, s.next ≤ f.number ∧ f.number < s.drawn
  next_le : s.next ≤ s.drawn
  intact : s.Intact

variable {B}

theorem encrypt_holds {k : Key} {c : PacketCrypto Key} (h : Holds k c)
    (iv : Option (List UInt8)) (plaintext : List UInt8) :
    Holds k (c.encrypt B iv plaintext).2 := by
  unfold PacketCrypto.encrypt
  repeat' split
  all_goals exact h

/-- Receiving does not touch the sending side. -/
theorem decrypt_keeps {k : Key} {c : PacketCrypto Key} (h : Holds k c) (bytes : List UInt8) :
    Holds k (c.decrypt B bytes).2 ∧ (c.decrypt B bytes).2.sendSequence = c.sendSequence := by
  rcases PacketCrypto.decrypt_cases B c bytes with ⟨msg, hdec⟩ | ⟨plain, hdec, -, -⟩
  · rw [hdec]
    exact ⟨h, rfl⟩
  · rw [hdec]
    exact ⟨h, rfl⟩

theorem succ_ne_self (n : UInt32) : n + 1 ≠ n := by
  intro h
  have := congrArg UInt32.toNat h
  rw [UInt32.toNat_add, UInt32.toNat_one] at this
  have := n.toNat_lt
  omega

theorem encrypt_synced (hB : B.Inverts) {k : Key} {s s' : Channel Key} (h : Synced B k s)
    {iv : Option Iv} {payload : List UInt8} (hstep : step B s (.encrypt iv payload) = some s') :
    Synced B k s' := by
  have hiv : ∀ bytes, ivBytes iv = some bytes → bytes.length = ivSize := by
    intro bytes hbytes
    obtain ⟨iv, -, rfl⟩ := Option.map_eq_some_iff.mp hbytes
    exact iv.property
  have hnext : UInt32.ofNat s.drawn + 1 = UInt32.ofNat (s.drawn + 1) :=
    (UInt32.ofNat_add s.drawn 1).symm
  have hnumber : ∀ f ∈ s.inFlight, s.next ≤ f.number ∧ f.number < s.drawn + 1 :=
    fun f hf => ⟨(h.bounds f hf).1, Nat.lt_succ_of_lt (h.bounds f hf).2⟩
  simp only [step] at hstep
  rcases PacketCrypto.encrypt_cases hB h.sender.1 h.sender.2 hiv payload with
    ⟨msg, henc⟩ | ⟨msg, henc⟩ | ⟨frame, henc, hframed⟩
  · rw [henc] at hstep
    simp only [if_true, Option.some.injEq] at hstep
    subst hstep
    exact h
  · rw [henc] at hstep
    simp only [if_neg (succ_ne_self _), Option.some.injEq] at hstep
    subst hstep
    exact { h with
      sendSequence := by rw [← hnext, ← h.sendSequence]
      bounds := hnumber
      next_le := Nat.le_succ_of_le h.next_le }
  · rw [henc] at hstep
    simp only [if_neg (succ_ne_self _), Option.some.injEq] at hstep
    subst hstep
    rw [h.sendSequence] at hframed
    refine { h with
      sendSequence := by rw [← hnext, ← h.sendSequence]
      framed := ?_, ordered := ?_, bounds := ?_
      next_le := Nat.le_succ_of_le h.next_le }
    · intro f hf
      rcases List.mem_append.mp hf with hf | hf
      · exact h.framed f hf
      · rw [List.mem_singleton] at hf
        subst hf
        exact hframed
    · refine List.pairwise_append.mpr ⟨h.ordered, List.pairwise_singleton _ _, ?_⟩
      intro f hf g hg
      rw [List.mem_singleton] at hg
      subst hg
      exact (h.bounds f hf).2
    · intro f hf
      rcases List.mem_append.mp hf with hf | hf
      · exact hnumber f hf
      · rw [List.mem_singleton] at hf
        subst hf
        exact ⟨h.next_le, Nat.lt_succ_self _⟩

/-- A frame within the gap arrives intact. -/
theorem deliver_synced {k : Key} {s s' : Channel Key} (h : Synced B k s)
    (hgap : s.WithinGap .deliver) (hstep : step B s .deliver = some s') : Synced B k s' := by
  simp only [step] at hstep
  split at hstep
  · cases hstep
  · rename_i f rest hflight
    have hf : f ∈ s.inFlight := by simp [hflight]
    have hrest : ∀ g ∈ rest, g ∈ s.inFlight := by
      intro g hg
      simp [hflight, hg]
    have hordered := h.ordered
    rw [hflight, List.pairwise_cons] at hordered
    simp only [WithinGap, hflight] at hgap
    have hvalid := PacketCrypto.validateSequence_ahead h.recvSequence (h.bounds f hf).1 hgap
    rw [PacketCrypto.decrypt_framed h.receiver.1 h.receiver.2 (h.framed f hf) hvalid,
      Option.some.injEq] at hstep
    subst hstep
    exact { h with
      recvSequence := rfl
      framed := fun g hg => h.framed g (hrest g hg)
      ordered := hordered.2
      bounds := fun g hg => ⟨hordered.1 g hg, (h.bounds g (hrest g hg)).2⟩
      next_le := (h.bounds f hf).2
      intact := List.forall_mem_cons.mpr ⟨rfl, h.intact⟩ }

theorem step_synced (hB : B.Inverts) {k : Key} {s s' : Channel Key} {label : Label}
    (h : Synced B k s) (hgap : s.WithinGap label) (hstep : step B s label = some s') :
    Synced B k s' := by
  cases label with
  | encrypt iv payload => exact encrypt_synced hB h hstep
  | lose =>
      simp only [step] at hstep
      split at hstep
      · cases hstep
      · rename_i f rest hflight
        obtain rfl := Option.some.inj hstep
        have hrest : ∀ g ∈ rest, g ∈ s.inFlight := by
          intro g hg
          simp [hflight, hg]
        have hordered := h.ordered
        rw [hflight, List.pairwise_cons] at hordered
        exact { h with
          framed := fun g hg => h.framed g (hrest g hg)
          ordered := hordered.2
          bounds := fun g hg => h.bounds g (hrest g hg) }
  | deliver => exact deliver_synced h hgap hstep
  | inject bytes =>
      simp only [step] at hstep
      rcases PacketCrypto.decrypt_cases B s.receiver bytes with
        ⟨msg, hdec⟩ | ⟨plain, hdec, -, -⟩
      · rw [hdec] at hstep
        obtain rfl := Option.some.inj hstep
        exact h
      · rw [hdec] at hstep
        cases hstep
  | receiverEncrypts iv payload =>
      obtain rfl := Option.some.inj hstep
      exact { h with
        receiver := encrypt_holds h.receiver _ _
        recvSequence := (PacketCrypto.encrypt_recvSequence _ _ _).trans h.recvSequence }
  | senderDecrypts bytes =>
      obtain rfl := Option.some.inj hstep
      obtain ⟨hsender, hsequence⟩ := decrypt_keeps (B := B) h.sender bytes
      exact { h with sender := hsender, sendSequence := hsequence.trans h.sendSequence }

theorem initializeKey_holds {key : List UInt8}
    (hkey : (PacketCrypto.initializeKey B {} key).1 = true) :
    ∃ k, Holds k (PacketCrypto.initializeKey B {} key).2 ∧
      (PacketCrypto.initializeKey B {} key).2.sendSequence = 0 ∧
      (PacketCrypto.initializeKey B {} key).2.recvSequence = 0 := by
  unfold PacketCrypto.initializeKey at hkey ⊢
  dsimp only at hkey ⊢
  repeat' split at hkey
  all_goals simp_all [Holds]

theorem start_synced {key : List UInt8} (hkey : (PacketCrypto.initializeKey B {} key).1 = true) :
    ∃ k, Synced B k (start B key) := by
  obtain ⟨k, hholds, hsend, hrecv⟩ := initializeKey_holds hkey
  exact ⟨k, hholds, hholds, hsend, hrecv, fun _ h => (nomatch h), List.Pairwise.nil,
    fun _ h => (nomatch h), Nat.le_refl 0, fun _ h => (nomatch h)⟩

/-- With a cipher that inverts, every frame delivered in order and within the
    gap is accepted and deciphered to its payload, however long the run. -/
theorem delivered_intact (B : BCrypt Key) (hB : B.Inverts) (key : List UInt8)
    (hkey : (PacketCrypto.initializeKey B {} key).1 = true) (labels : List Label)
    (hgap : Meets (step B) WithinGap (start B key) labels) :
    Always (step B) Intact (start B key) labels := by
  obtain ⟨k, hstart⟩ := start_synced hkey
  exact (always_of_meets (step_synced hB) hstart hgap).imp fun _ h => h.intact

/-- Two frames of which the first is lost, with a rejected byte string between. -/
theorem delivered_intact_oneLost :
    Always (step .padded) Intact (start .padded Receiver.zeroKey)
      [.encrypt (some ⟨Receiver.zeroKey, rfl⟩) [1, 2, 3], .lose,
        .encrypt (some ⟨Receiver.zeroKey, rfl⟩) [4, 5], .inject [9], .deliver] :=
  delivered_intact .padded BCrypt.padded_inverts Receiver.zeroKey rfl _ (by decide +kernel)

end Channel

end MMOServers.Common
