/-
MMOServers.Common.PacketCryptoTheorems — replay protection of one receiver.

A receiver is a `PacketCrypto` object together with the frames its `decrypt`
has accepted so far. The question is whether a frame can be accepted twice.

`ValidateSequence` has two branches that let an old number through. The
first-packet exception holds as long as the stored number is 0, so it is open
for every frame numbered 0 until a later number arrives. The wrap-around branch
takes every number at least `SEQUENCE_WINDOW` behind the stored one. On a run
that uses neither (`Strict`), the accepted numbers strictly increase, and
increasing numbers cannot belong to one frame twice. The invariant `Ordered`
carries that argument through the run.
-/
import MMOServers.Common.PacketCrypto
import MMOServers.Lib.Run
import Mathlib.Data.List.Pairwise
import Mathlib.Order.Basic

namespace MMOServers.Common

open LittleEndian CryptoConstants Transition

variable {Key : Type} (B : BCrypt Key)

/-! ## Sequence validation -/

namespace PacketCrypto

/-- The wrap-around branch: a number so far behind the stored one that it is
    taken for the start of a new cycle. -/
def wrapsAround (c : PacketCrypto Key) (seq : UInt32) : Prop :=
  seq ≤ c.recvSequence ∧ sequenceWindow ≤ c.recvSequence - seq

instance (c : PacketCrypto Key) (seq : UInt32) : Decidable (c.wrapsAround seq) :=
  inferInstanceAs (Decidable (_ ∧ _))

/-- A number that passes is the first packet's, wraps around, or is new. -/
theorem validateSequence_cases {c : PacketCrypto Key} {seq : UInt32}
    (h : c.validateSequence seq = true) :
    (c.recvSequence = 0 ∧ seq = 0) ∨ c.wrapsAround seq ∨ c.recvSequence < seq := by
  unfold validateSequence at h
  split at h
  · rename_i hfirst
    exact Or.inl hfirst
  · split at h
    · rename_i hle
      split at h
      · cases h
      · rename_i hnear
        exact Or.inr (Or.inl ⟨hle, UInt32.not_lt.mp hnear⟩)
    · rename_i hle
      exact Or.inr (Or.inr (UInt32.not_le.mp hle))

/-- BCrypt deciphers the frame under the key the object holds. -/
def deciphers (c : PacketCrypto Key) (frame : List UInt8) : Bool :=
  match c.hKey with
  | none => false
  | some k =>
      match B.decryptSize k (frameIv frame) (frameBody frame) with
      | none => false
      | some plainSize =>
          (B.decrypt k (frameIv frame) (frameBody frame) plainSize).isSome

variable {B}

/-- A call of `decrypt` either fails and leaves the object as it was, or stores
    the number of a frame that is valid and deciphers. -/
theorem decrypt_cases (B : BCrypt Key) (c : PacketCrypto Key) (frame : List UInt8) :
    (∃ msg, c.decrypt B frame = (.error msg, c)) ∨
    (∃ plain, c.decrypt B frame = (.ok plain, { c with recvSequence := readU32 frame }) ∧
      c.validateSequence (readU32 frame) = true ∧ c.deciphers B frame = true) := by
  unfold decrypt
  split
  · rename_i k _ hk
    split
    · exact Or.inl ⟨_, rfl⟩
    · dsimp only
      split
      · exact Or.inl ⟨_, rfl⟩
      · rename_i hvalid
        split
        · exact Or.inl ⟨_, rfl⟩
        · rename_i size hsize
          split
          · exact Or.inl ⟨_, rfl⟩
          · rename_i plain hplain
            refine Or.inr ⟨plain, rfl, by simpa using hvalid, ?_⟩
            simp [deciphers, hk, hsize, hplain]
  · exact Or.inl ⟨_, rfl⟩

/-- Sending does not touch the receiving side. -/
theorem encrypt_recvSequence (c : PacketCrypto Key) (iv : Option (List UInt8))
    (plaintext : List UInt8) :
    (c.encrypt B iv plaintext).2.recvSequence = c.recvSequence := by
  unfold encrypt
  repeat' split
  all_goals rfl

end PacketCrypto

/-! ## Receivers -/

/-- What is called on one object, in any order. -/
inductive CryptoCall where
  | encrypt (iv : Option (List UInt8)) (plaintext : List UInt8)
  | decrypt (frame : List UInt8)

/-- An object and the frames it has accepted, the newest first. -/
structure Receiver (Key : Type) where
  crypto : PacketCrypto Key
  accepted : List (List UInt8)

namespace Receiver

/-- A fresh object after `Initialize`. -/
def start (key : List UInt8) : Receiver Key :=
  ⟨(PacketCrypto.initializeKey B {} key).2, []⟩

def step (s : Receiver Key) : CryptoCall → Option (Receiver Key)
  | .encrypt iv plaintext => some { s with crypto := (s.crypto.encrypt B iv plaintext).2 }
  | .decrypt frame =>
      match s.crypto.decrypt B frame with
      | (.ok _, c) => some ⟨c, frame :: s.accepted⟩
      | (.error _, c) => some { s with crypto := c }

/-- No accepted frame was accepted before. -/
def NoReplay (s : Receiver Key) : Prop := s.accepted.Nodup

instance (s : Receiver Key) : Decidable s.NoReplay :=
  inferInstanceAs (Decidable s.accepted.Nodup)

/-- The call takes neither lenient branch of `ValidateSequence` with a frame
    that deciphers, the first-packet exception before any acceptance aside. -/
def Strict (s : Receiver Key) : CryptoCall → Prop
  | .encrypt _ _ => True
  | .decrypt frame =>
      s.crypto.deciphers B frame = true →
        ¬ s.crypto.wrapsAround (readU32 frame) ∧
        (s.crypto.recvSequence = 0 ∧ readU32 frame = 0 → s.accepted = [])

instance (s : Receiver Key) : (call : CryptoCall) → Decidable (s.Strict B call)
  | .encrypt _ _ => isTrue trivial
  | .decrypt frame => inferInstanceAs (Decidable (s.crypto.deciphers B frame = true → _ ∧ _))

/-- Accepted numbers increase, and none exceeds the stored one. -/
structure Ordered (s : Receiver Key) : Prop where
  bounded : ∀ f ∈ s.accepted, readU32 f ≤ s.crypto.recvSequence
  increasing : s.accepted.Pairwise fun f g => readU32 g < readU32 f

variable {B}

theorem Ordered.noReplay {s : Receiver Key} (h : s.Ordered) : s.NoReplay := by
  refine h.increasing.imp ?_
  rintro f g hlt rfl
  exact UInt32.lt_irrefl _ hlt

theorem start_ordered (key : List UInt8) : (start B key).Ordered :=
  ⟨by simp [start], by simp [start]⟩

/-- A strict acceptance is of a number above every accepted one. -/
theorem strict_fresh {s : Receiver Key} {frame : List UInt8} (ho : s.Ordered)
    (hvalid : s.crypto.validateSequence (readU32 frame) = true)
    (hwrap : ¬ s.crypto.wrapsAround (readU32 frame))
    (hfirst : s.crypto.recvSequence = 0 ∧ readU32 frame = 0 → s.accepted = []) :
    ∀ f ∈ s.accepted, readU32 f < readU32 frame := by
  rcases PacketCrypto.validateSequence_cases hvalid with hzero | hback | hnew
  · simp [hfirst hzero]
  · exact absurd hback hwrap
  · intro f hf
    exact UInt32.lt_of_le_of_lt (ho.bounded f hf) hnew

theorem step_ordered {s s' : Receiver Key} {call : CryptoCall} (ho : s.Ordered)
    (hstrict : s.Strict B call) (hstep : step B s call = some s') : s'.Ordered := by
  cases call with
  | encrypt iv plaintext =>
      simp only [step, Option.some.injEq] at hstep
      subst hstep
      refine ⟨?_, ho.increasing⟩
      intro f hf
      rw [PacketCrypto.encrypt_recvSequence]
      exact ho.bounded f hf
  | decrypt frame =>
      rcases PacketCrypto.decrypt_cases B s.crypto frame with
        ⟨msg, hdec⟩ | ⟨plain, hdec, hvalid, hdeciphers⟩
      · simp only [step, hdec, Option.some.injEq] at hstep
        exact hstep ▸ ho
      · simp only [step, hdec, Option.some.injEq] at hstep
        subst hstep
        obtain ⟨hwrap, hfirst⟩ := hstrict hdeciphers
        have hfresh := strict_fresh ho hvalid hwrap hfirst
        refine ⟨?_, List.pairwise_cons.mpr ⟨hfresh, ho.increasing⟩⟩
        intro f hf
        rcases List.mem_cons.mp hf with rfl | hf
        · exact UInt32.le_refl _
        · exact UInt32.le_of_lt (hfresh f hf)

/-- On every run that keeps off the lenient branches no frame is accepted
    twice. -/
theorem strict_noReplay (B : BCrypt Key) (key : List UInt8) (calls : List CryptoCall)
    (h : Meets (step B) (Strict B) (start B key) calls) :
    Always (step B) NoReplay (start B key) calls :=
  (always_of_meets step_ordered (start_ordered key) h).imp fun _ => Ordered.noReplay

/-! ### Both lenient branches replay -/

def zeroKey : List UInt8 := List.replicate 16 0

/-- The frame a peer whose counter stands at `n` sends for a block of zeros. -/
def peerFrame (n : UInt32) : List UInt8 :=
  match (PacketCrypto.encrypt .plain
      { initialized := true, hKey := some (), sendSequence := n }
      (some zeroKey) zeroKey).1 with
  | .ok frame => frame
  | .error _ => []

theorem strict_noReplay_inOrder :
    Always (step BCrypt.plain) NoReplay (start BCrypt.plain zeroKey)
      [.decrypt (peerFrame 0), .decrypt (peerFrame 1), .decrypt (peerFrame 1)] :=
  strict_noReplay BCrypt.plain zeroKey _ (by decide)

/-- The frame numbered 0 delivered twice, and the frame numbered 1 delivered
    again once the one numbered 101 has been accepted. -/
theorem replay_accepted :
    ¬ Always (step BCrypt.plain) NoReplay (start BCrypt.plain zeroKey)
      [.decrypt (peerFrame 0), .decrypt (peerFrame 0)] ∧
    ¬ Always (step BCrypt.plain) NoReplay (start BCrypt.plain zeroKey)
      [.decrypt (peerFrame 1), .decrypt (peerFrame 101), .decrypt (peerFrame 1)] := by
  decide

end Receiver

end MMOServers.Common
