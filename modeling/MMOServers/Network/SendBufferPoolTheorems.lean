/-
MMOServers.Network.SendBufferPoolTheorems — no buffer is in two hands.

`Tracked` is the bookkeeping of the shared pointers. Every buffer is in the pool
or belongs to one control block, and a block has the copies that it says: one in
the call of `Send` that made it, one in a task or a queue. It has a part for the
blocks, one for the calls and one for the references, and is stated for any of
them, so that the steps are rules about each part: a call gets a buffer
(`Tracked.acquired`), its task gets a copy (`Tracked.shared`), a copy goes
(`Tracked.left`, `Tracked.returned`).

A call writes before its task has a copy, so nobody else sees the buffer then,
and what a reference points to stays what its call wrote (`Safe.frames`). Seen by
value, each session is a `Sender` (`step_sender`), so what is written is what was
sent, in this order (`always_sound`). This is so as long as no copy goes past its
buffer, which only a message of 65532 bytes or more can do (`packetIn_inside`).
-/
import MMOServers.Network.SendBufferPool
import MMOServers.Lib.Custody

namespace MMOServers.Network

open MMOServers.Common Transition Custody

/-! ## Copies -/

theorem writeAt_header_length (buffer : SendBuffer) (h : PacketHeader) :
    (writeAt buffer.bytes 0 h.bytes).length = maxPacketSize := by
  simp only [writeAt, List.take_zero, List.nil_append, List.length_append, List.length_drop,
    bytes_length, buffer.size]
  unfold maxPacketSize PacketHeader.byteSize
  omega

/-- The memory grows where a copy goes past the buffer. -/
theorem writeAt_length (buffer : SendBuffer) (h : PacketHeader) (payload : List UInt8) :
    (writeAt (writeAt buffer.bytes 0 h.bytes) PacketHeader.byteSize payload).length
      = max maxPacketSize (PacketHeader.byteSize + payload.length) := by
  rw [writeAt_header]
  simp only [List.length_append, List.length_drop, bytes_length, buffer.size]
  omega

theorem pooledSend_inside {buffer : SendBuffer} {pktId : UInt16} {payload : List UInt8}
    {p : Posted} (hp : pooledSend buffer pktId payload = some p) :
    p.memory.length = maxPacketSize ↔
      ¬ (65536 - PacketHeader.byteSize ≤ payload.length ∧ payload.length < 65536) := by
  have hsent : ¬ Dropped payload.length := by
    rw [← pooledSend_eq_none_iff buffer pktId, hp]
    exact Option.some_ne_none p
  have hcut : (UInt16.ofNat payload.length).toNat = payload.length % 65536 := UInt16.toNat_ofNat'
  unfold pooledSend at hp
  dsimp only at hp
  split at hp
  · cases hp
  · obtain rfl := Option.some.inj hp
    rw [serializeToArray, hcut]
    split
    · -- longer than the size it is given, so it is not copied at all
      rename_i hlong
      refine iff_of_true (writeAt_header_length ..) fun hshort => ?_
      omega
    · rw [writeAt_length]
      unfold Dropped maxPacketSize PacketHeader.byteSize at *
      omega

theorem copiedSend_inside {buffer : SendBuffer} {pktId : UInt16} {payload : List UInt8}
    {p : Posted} (hp : copiedSend buffer pktId payload = some p) :
    p.memory.length = maxPacketSize ↔ payload.length ≤ maxPacketSize - PacketHeader.byteSize := by
  unfold copiedSend at hp
  dsimp only at hp
  split at hp
  · cases hp
  · obtain rfl := Option.some.inj hp
    rw [writeAt_length]
    unfold maxPacketSize PacketHeader.byteSize
    omega

/-- The copies that stay in the buffer are those of the messages that do not overrun
    it. -/
theorem packetIn_inside {buffer : SendBuffer} {pktId : UInt16} {payload : List UInt8}
    {kind : SendingSession} {p : Posted} (hp : packetIn buffer pktId payload kind = some p) :
    p.memory.length = maxPacketSize ↔ ¬ Overruns kind payload.length := by
  cases kind with
  | clientSession =>
      have hsent : ¬ Dropped payload.length := by
        rw [← copiedSend_eq_none_iff buffer pktId]
        exact fun h => Option.some_ne_none p (hp.symm.trans h)
      rw [copiedSend_inside hp]
      unfold Overruns
      dsimp only
      rw [and_iff_left hsent, not_lt]
  | gatewaySession => exact pooledSend_inside hp
  | serverSession => exact pooledSend_inside hp
  | loginSession => exact pooledSend_inside hp

/-! ## The pool -/

namespace SendBufferPool

/-- The buffers in the pool and those that blocks have, with the addresses below
    the next one. -/
structure Kept (s : SendBufferPool) (holds : Nat → Option Nat) : Prop where
  custody : Conserved s.live s.pool holds
  below : ∀ a ∈ s.live, a < s.nextAddress

variable {s : SendBufferPool} {holds : Nat → Option Nat}

theorem Kept.initializePool (h : s.Kept holds) (bufferCount : Nat) :
    (s.initializePool bufferCount).Kept holds := by
  unfold SendBufferPool.initializePool
  split
  · exact h
  · refine ⟨h.custody.supply (List.nodup_range' ..) fun a ha hlive => ?_, fun a ha => ?_⟩
    · have hnew := (List.mem_range'_1.mp ha).1
      exact Nat.not_lt.mpr hnew (h.below a hlive)
    · rcases List.mem_append.mp ha with ha | ha
      · exact Nat.lt_add_right _ (h.below a ha)
      · exact (List.mem_range'_1.mp ha).2

theorem Kept.acquire (h : s.Kept holds) {b : Nat} (hb : holds b = none) :
    s.acquire.2.Kept (Function.update holds b (some s.acquire.1)) := by
  unfold SendBufferPool.acquire
  cases hpool : s.pool with
  | cons buf rest =>
      have hcustody := h.custody
      rw [hpool] at hcustody
      exact ⟨hcustody.withdraw hb, h.below⟩
  | nil =>
      have hcustody := h.custody
      rw [hpool] at hcustody
      have hnew := hcustody.supply (List.nodup_singleton s.nextAddress) (by
        intro a ha hlive
        rw [List.mem_singleton] at ha
        exact Nat.lt_irrefl _ (ha ▸ h.below a hlive))
      refine ⟨hnew.withdraw hb, fun a ha => ?_⟩
      rcases List.mem_append.mp ha with ha | ha
      · exact Nat.lt_succ_of_lt (h.below a ha)
      · rw [List.mem_singleton.mp ha]
        exact Nat.lt_succ_self _

theorem Kept.release (h : s.Kept holds) {b buf : Nat} (hb : holds b = some buf) (pushed : Bool) :
    (s.release buf pushed).Kept (Function.update holds b none) := by
  cases pushed with
  | true => exact ⟨h.custody.deposit hb, h.below⟩
  | false => exact ⟨h.custody.discard hb, fun a ha => h.below a (List.mem_of_mem_erase ha)⟩

end SendBufferPool

/-! ## Shared pointers -/

namespace Buffers

/-- The buffer of each block. -/
def holds (s : Buffers) (b : Nat) : Option Nat := (s.blocks b).map Block.pointer

theorem holds_update (s : Buffers) (b : Nat) (block : Option Block) :
    (fun x => ((Function.update s.blocks b block) x).map Block.pointer)
      = Function.update s.holds b (block.map Block.pointer) := by
  funext x
  by_cases hx : x = b
  · subst hx
    simp
  · simp [hx, holds]

/-- The blocks after a change of one of them; it is gone when no copy is left. -/
def changed (blocks : Nat → Option Block) (b : Nat) (block : Block) : Nat → Option Block :=
  Function.update blocks b (if block.inSend || block.inSession then some block else none)

theorem changed_self {blocks : Nat → Option Block} {b : Nat} {block : Block}
    (h : block.inSend = true ∨ block.inSession = true) : changed blocks b block b = some block := by
  rw [changed, Function.update_self, if_pos (Bool.or_eq_true_iff.mpr h)]

theorem changed_other {blocks : Nat → Option Block} {b x : Nat} {block : Block} (h : x ≠ b) :
    changed blocks b block x = blocks x := Function.update_of_ne h _ _

theorem changed_cases {blocks : Nat → Option Block} {b x : Nat} {block k : Block}
    (h : changed blocks b block x = some k) :
    (x = b ∧ k = block ∧ (block.inSend = true ∨ block.inSession = true)) ∨
      (x ≠ b ∧ blocks x = some k) := by
  by_cases hx : x = b
  · subst hx
    rw [changed, Function.update_self] at h
    split at h
    · rename_i hany
      exact Or.inl ⟨rfl, (Option.some.inj h).symm, Bool.or_eq_true_iff.mp hany⟩
    · cases h
  · exact Or.inr ⟨hx, (changed_other hx).symm.trans h⟩

theorem settle_blocks (s : Buffers) (b : Nat) (block : Block) (pushed : Bool) :
    (s.settle b block pushed).blocks = changed s.blocks b block := by
  unfold settle changed
  split <;> rfl

theorem settle_nextBlock (s : Buffers) (b : Nat) (block : Block) (pushed : Bool) :
    (s.settle b block pushed).nextBlock = s.nextBlock := by
  unfold settle
  split <;> rfl

/-- A copy more is a change that releases nothing. -/
theorem share_eq_settle {s : Buffers} {b : Nat} {block : Block} (hb : s.blocks b = some block)
    (pushed : Bool) : s.share b = s.settle b { block with inSession := true } pushed := by
  rw [share, hb, settle, if_pos (Bool.or_true _)]

theorem settle_kept {s : Buffers} (h : s.pool.Kept s.holds) {b : Nat} {block : Block}
    (hb : s.holds b = some block.pointer) (pushed : Bool) :
    (s.settle b block pushed).pool.Kept (s.settle b block pushed).holds := by
  unfold settle
  split
  · have hsame : holds { s with blocks := Function.update s.blocks b (some block) } = s.holds := by
      refine (holds_update s b (some block)).trans ?_
      rw [Option.map_some, ← hb, Function.update_eq_self]
    rw [hsame]
    exact h
  · have hnone : holds { s with blocks := Function.update s.blocks b none,
                                pool := s.pool.release block.pointer pushed }
        = Function.update s.holds b none := holds_update s b none
    rw [hnone]
    exact h.release hb pushed

end Buffers

/-! ## Who has a copy -/

variable {ι θ : Type}

/-- The blocks by themselves. -/
structure BlocksTracked (s : Buffers) : Prop where
  kept : s.pool.Kept s.holds
  fresh : ∀ b block, s.blocks b = some block → b < s.nextBlock
  copies : ∀ b block, s.blocks b = some block → block.inSend = true ∨ block.inSession = true

/-- The blocks against the calls of `Send`. -/
structure CallsTracked (blocks : Nat → Option Block) (calls : θ → Option (SendCall ι)) : Prop where
  call : ∀ t c, calls t = some c → ∃ block, blocks c.block = some block ∧
    block.pointer = c.pointer ∧ block.inSend = true ∧ (c.posted = false → block.inSession = false)
  callSole : ∀ t t' c c', calls t = some c → calls t' = some c' → c.block = c'.block → t = t'
  sendOwner : ∀ b block, blocks b = some block → block.inSend = true →
    ∃ t c, calls t = some c ∧ c.block = b

/-- The blocks against the references of the sessions. -/
structure RefsTracked (blocks : Nat → Option Block) (refs : ι → List BufferRef) : Prop where
  ref : ∀ i, ∀ r ∈ refs i, ∃ block, blocks r.block = some block ∧
    block.pointer = r.pointer ∧ block.inSession = true
  refNodup : ∀ i, ((refs i).map BufferRef.block).Nodup
  refSole : ∀ i j, ∀ r ∈ refs i, ∀ r' ∈ refs j, r.block = r'.block → i = j
  sessionOwner : ∀ b block, blocks b = some block → block.inSession = true →
    ∃ i, ∃ r ∈ refs i, r.block = b

structure Tracked (s : Buffers) (calls : θ → Option (SendCall ι)) (refs : ι → List BufferRef) :
    Prop extends BlocksTracked s, CallsTracked s.blocks calls, RefsTracked s.blocks refs

theorem Tracked.start : Tracked {} (fun _ : θ => none) (fun _ : ι => []) where
  kept := ⟨conserved_nil, fun a ha => absurd ha List.not_mem_nil⟩
  fresh b block h := by cases h
  copies b block h := by cases h
  call t c h := by cases h
  callSole t t' c c' h := by cases h
  sendOwner b block h := by cases h
  ref i r h := by cases h
  refNodup i := List.nodup_nil
  refSole i j r h := by cases h
  sessionOwner b block h := by cases h

/-! ### The blocks -/

section Blocks

variable {s : Buffers}

theorem BlocksTracked.settled (h : BlocksTracked s) {b : Nat} {block block' : Block}
    (hb : s.blocks b = some block) (hpointer : block'.pointer = block.pointer) (pushed : Bool) :
    BlocksTracked (s.settle b block' pushed) where
  kept := by
    refine Buffers.settle_kept h.kept ?_ pushed
    rw [Buffers.holds, hb, Option.map_some, hpointer]
  fresh x k hk := by
    rw [Buffers.settle_blocks] at hk
    rw [Buffers.settle_nextBlock]
    rcases Buffers.changed_cases hk with ⟨rfl, -⟩ | ⟨-, hk⟩
    · exact h.fresh x block hb
    · exact h.fresh x k hk
  copies x k hk := by
    rw [Buffers.settle_blocks] at hk
    rcases Buffers.changed_cases hk with ⟨-, rfl, hany⟩ | ⟨-, hk⟩
    · exact hany
    · exact h.copies x k hk

theorem BlocksTracked.next_none (h : BlocksTracked s) : s.blocks s.nextBlock = none := by
  cases hb : s.blocks s.nextBlock with
  | none => rfl
  | some block => exact absurd (h.fresh _ _ hb) (Nat.lt_irrefl _)

theorem acquire_blocks (s : Buffers) :
    s.acquire.blocks = Buffers.changed s.blocks s.nextBlock ⟨s.pool.acquire.1, true, false⟩ := rfl

theorem BlocksTracked.acquired (h : BlocksTracked s) : BlocksTracked s.acquire where
  kept := by
    have hholds : s.acquire.holds = Function.update s.holds s.nextBlock (some s.pool.acquire.1) :=
      Buffers.holds_update s s.nextBlock (some ⟨s.pool.acquire.1, true, false⟩)
    rw [hholds]
    exact h.kept.acquire (by rw [Buffers.holds, h.next_none, Option.map_none])
  fresh b block hb := by
    rw [acquire_blocks] at hb
    rcases Buffers.changed_cases hb with ⟨rfl, -⟩ | ⟨-, hb⟩
    · exact Nat.lt_succ_self _
    · exact Nat.lt_succ_of_lt (h.fresh b block hb)
  copies b block hb := by
    rw [acquire_blocks] at hb
    rcases Buffers.changed_cases hb with ⟨-, rfl, hany⟩ | ⟨-, hb⟩
    · exact hany
    · exact h.copies b block hb

end Blocks

/-! ### The references -/

section References

variable {blocks : Nat → Option Block} {refs : ι → List BufferRef}

/-- The references of a session change places. -/
theorem RefsTracked.moved (h : RefsTracked blocks refs) {refs' : ι → List BufferRef}
    (hperm : ∀ i, (refs' i).Perm (refs i)) : RefsTracked blocks refs' where
  ref i r hr := h.ref i r ((hperm i).mem_iff.mp hr)
  refNodup i := ((hperm i).map _).nodup_iff.mpr (h.refNodup i)
  refSole i j r hr r' hr' :=
    h.refSole i j r ((hperm i).mem_iff.mp hr) r' ((hperm j).mem_iff.mp hr')
  sessionOwner b block hb hsession := by
    obtain ⟨i, r, hr, hblock⟩ := h.sessionOwner b block hb hsession
    exact ⟨i, r, (hperm i).mem_iff.mpr hr, hblock⟩

/-- A block changes, and the session's copy of it stays as it is. -/
theorem RefsTracked.changed (h : RefsTracked blocks refs) {b : Nat} {block block' : Block}
    (hb : blocks b = some block) (hpointer : block'.pointer = block.pointer)
    (hsession : block'.inSession = block.inSession) :
    RefsTracked (Buffers.changed blocks b block') refs where
  ref i r hr := by
    obtain ⟨k, hk, hkp, hks⟩ := h.ref i r hr
    by_cases hx : r.block = b
    · rw [hx] at hk ⊢
      obtain rfl := Option.some.inj (hb.symm.trans hk)
      have hcopy := hsession.trans hks
      exact ⟨block', Buffers.changed_self (Or.inr hcopy), hpointer.trans hkp, hcopy⟩
    · exact ⟨k, (Buffers.changed_other hx).trans hk, hkp, hks⟩
  refNodup := h.refNodup
  refSole := h.refSole
  sessionOwner x k hk hks := by
    rcases Buffers.changed_cases hk with ⟨rfl, rfl, -⟩ | ⟨-, hk⟩
    · exact h.sessionOwner x block hb (hsession.symm.trans hks)
    · exact h.sessionOwner x k hk hks

/-- There is a block that no session has a copy of. -/
theorem RefsTracked.acquired (h : RefsTracked blocks refs) {b : Nat} {block : Block}
    (hb : blocks b = none) (hsession : block.inSession = false) :
    RefsTracked (Buffers.changed blocks b block) refs where
  ref i r hr := by
    obtain ⟨k, hk, hrest⟩ := h.ref i r hr
    have hx : r.block ≠ b := by
      rintro hx
      rw [hx, hb] at hk
      cases hk
    exact ⟨k, (Buffers.changed_other hx).trans hk, hrest⟩
  refNodup := h.refNodup
  refSole := h.refSole
  sessionOwner x k hk hks := by
    rcases Buffers.changed_cases hk with ⟨-, rfl, -⟩ | ⟨-, hk⟩
    · exact absurd (hsession.symm.trans hks) Bool.false_ne_true
    · exact h.sessionOwner x k hk hks

variable [DecidableEq ι]

/-- The references after one is gone have other blocks than it. -/
theorem RefsTracked.rest_other (h : RefsTracked blocks refs) {i : ι} {r : BufferRef}
    {rest : List BufferRef} (hrefs : refs i = r :: rest) {j : ι} {r' : BufferRef}
    (hr' : r' ∈ Function.update refs i rest j) : r' ∈ refs j ∧ r'.block ≠ r.block := by
  have hmem : r ∈ refs i := by rw [hrefs]; exact List.mem_cons_self
  by_cases hj : j = i
  · subst hj
    have hnodup := h.refNodup j
    rw [hrefs, List.map_cons, List.nodup_cons] at hnodup
    rw [Function.update_self] at hr'
    refine ⟨by rw [hrefs]; exact List.mem_cons_of_mem _ hr', fun hsame => ?_⟩
    exact hnodup.1 (hsame ▸ List.mem_map_of_mem hr')
  · rw [Function.update_of_ne hj] at hr'
    exact ⟨hr', fun hsame => hj (h.refSole j i r' hr' r hmem hsame)⟩

/-- A session's copy goes. -/
theorem RefsTracked.returned (h : RefsTracked blocks refs) {i : ι} {r : BufferRef}
    {rest : List BufferRef} (hrefs : refs i = r :: rest) (block : Block) :
    RefsTracked (Buffers.changed blocks r.block { block with inSession := false })
      (Function.update refs i rest) where
  ref j r' hr' := by
    obtain ⟨hr', hother⟩ := h.rest_other hrefs hr'
    obtain ⟨k, hk, hrest⟩ := h.ref j r' hr'
    exact ⟨k, (Buffers.changed_other hother).trans hk, hrest⟩
  refNodup j := by
    by_cases hj : j = i
    · subst hj
      have hnodup := h.refNodup j
      rw [hrefs, List.map_cons, List.nodup_cons] at hnodup
      rw [Function.update_self]
      exact hnodup.2
    · rw [Function.update_of_ne hj]
      exact h.refNodup j
  refSole j j' r₁ hr₁ r₂ hr₂ hsame :=
    h.refSole j j' r₁ (h.rest_other hrefs hr₁).1 r₂ (h.rest_other hrefs hr₂).1 hsame
  sessionOwner x k hk hks := by
    rcases Buffers.changed_cases hk with ⟨-, rfl, -⟩ | ⟨hx, hk⟩
    · cases hks
    · obtain ⟨j, r', hr', rfl⟩ := h.sessionOwner x k hk hks
      by_cases hj : j = i
      · subst hj
        rw [hrefs] at hr'
        rcases List.mem_cons.mp hr' with rfl | hr'
        · exact absurd rfl hx
        · exact ⟨j, r', by rwa [Function.update_self], rfl⟩
      · exact ⟨j, r', by rwa [Function.update_of_ne hj], rfl⟩

theorem mem_update_append {i j : ι} {r r' : BufferRef}
    (h : r' ∈ Function.update refs i (refs i ++ [r]) j) : (r' = r ∧ j = i) ∨ r' ∈ refs j := by
  by_cases hj : j = i
  · subst hj
    rw [Function.update_self, List.mem_append, List.mem_singleton] at h
    exact h.elim Or.inr fun h => Or.inl ⟨h, rfl⟩
  · rw [Function.update_of_ne hj] at h
    exact Or.inr h

/-- A session gets a copy of a block that none had one of. -/
theorem RefsTracked.shared (h : RefsTracked blocks refs) {r : BufferRef} {block : Block}
    (hb : blocks r.block = some block) (hpointer : block.pointer = r.pointer)
    (hunshared : block.inSession = false) (i : ι) :
    RefsTracked (Buffers.changed blocks r.block { block with inSession := true })
      (Function.update refs i (refs i ++ [r])) := by
  have hnew : ∀ j, ∀ r' ∈ refs j, r'.block ≠ r.block := by
    intro j r' hr' hsame
    obtain ⟨k, hk, -, hks⟩ := h.ref j r' hr'
    rw [hsame, hb] at hk
    obtain rfl := Option.some.inj hk
    exact absurd (hunshared.symm.trans hks) Bool.false_ne_true
  constructor
  · intro j r' hr'
    rcases mem_update_append hr' with ⟨rfl, -⟩ | hr'
    · exact ⟨_, Buffers.changed_self (Or.inr rfl), hpointer, rfl⟩
    · obtain ⟨k, hk, hrest⟩ := h.ref j r' hr'
      exact ⟨k, (Buffers.changed_other (hnew j r' hr')).trans hk, hrest⟩
  · intro j
    by_cases hj : j = i
    · subst hj
      rw [Function.update_self, List.map_append, List.nodup_append]
      refine ⟨h.refNodup j, List.nodup_singleton _, ?_⟩
      rintro b hb' b' hb'' rfl
      obtain ⟨r', hr', rfl⟩ := List.mem_map.mp hb'
      rw [List.map_singleton, List.mem_singleton] at hb''
      exact hnew j r' hr' hb''
    · rw [Function.update_of_ne hj]
      exact h.refNodup j
  · intro j j' r₁ hr₁ r₂ hr₂ hsame
    rcases mem_update_append hr₁ with ⟨hr, hj⟩ | hold₁ <;>
      rcases mem_update_append hr₂ with ⟨hr', hj'⟩ | hold₂
    · exact hj.trans hj'.symm
    · exact absurd (hr ▸ hsame.symm) (hnew j' r₂ hold₂)
    · exact absurd (hr' ▸ hsame) (hnew j r₁ hold₁)
    · exact h.refSole j j' r₁ hold₁ r₂ hold₂ hsame
  · intro x k hk hks
    rcases Buffers.changed_cases hk with ⟨rfl, -⟩ | ⟨-, hk⟩
    · refine ⟨i, r, ?_, rfl⟩
      rw [Function.update_self]
      exact List.mem_append_right _ (List.mem_singleton_self r)
    · obtain ⟨j, r', hr', hrb⟩ := h.sessionOwner x k hk hks
      refine ⟨j, r', ?_, hrb⟩
      by_cases hj : j = i
      · subst hj
        rw [Function.update_self]
        exact List.mem_append_left _ hr'
      · rwa [Function.update_of_ne hj]

end References

/-! ### The calls -/

section Calls

variable {blocks : Nat → Option Block} {calls : θ → Option (SendCall ι)}

/-- A block changes, and the copy of its call stays as it is. -/
theorem CallsTracked.changed (h : CallsTracked blocks calls) {b : Nat} {block block' : Block}
    (hb : blocks b = some block) (hpointer : block'.pointer = block.pointer)
    (hsend : block'.inSend = block.inSend)
    (hunshared : ∀ t c, calls t = some c → c.block = b → c.posted = false →
      block'.inSession = false) :
    CallsTracked (Buffers.changed blocks b block') calls where
  call t c hc := by
    obtain ⟨k, hk, hkp, hks, hku⟩ := h.call t c hc
    by_cases hx : c.block = b
    · have hposted := hunshared t c hc hx
      rw [hx] at hk ⊢
      obtain rfl := Option.some.inj (hb.symm.trans hk)
      have hcopy := hsend.trans hks
      exact ⟨block', Buffers.changed_self (Or.inl hcopy), hpointer.trans hkp, hcopy, hposted⟩
    · exact ⟨k, (Buffers.changed_other hx).trans hk, hkp, hks, hku⟩
  callSole := h.callSole
  sendOwner x k hk hks := by
    rcases Buffers.changed_cases hk with ⟨rfl, rfl, -⟩ | ⟨-, hk⟩
    · exact h.sendOwner x block hb (hsend.symm.trans hks)
    · exact h.sendOwner x k hk hks

variable [DecidableEq θ]

/-- A call goes on with its buffer, and may have posted now. -/
theorem CallsTracked.recalled (h : CallsTracked blocks calls) {t : θ} {c c' : SendCall ι}
    (ht : calls t = some c) (hblock : c'.block = c.block) (hpointer : c'.pointer = c.pointer)
    (hposted : c'.posted = false → c.posted = false) :
    CallsTracked blocks (Function.update calls t (some c')) := by
  have hcases : ∀ {x d}, Function.update calls t (some c') x = some d →
      ∃ e, calls x = some e ∧ d.block = e.block ∧ d.pointer = e.pointer ∧
        (d.posted = false → e.posted = false) := by
    intro x d hd
    rcases update_some hd with ⟨rfl, rfl⟩ | ⟨-, hd⟩
    · exact ⟨c, ht, hblock, hpointer, hposted⟩
    · exact ⟨d, hd, rfl, rfl, id⟩
  constructor
  · intro x d hd
    obtain ⟨e, he, hb, hp, hpost⟩ := hcases hd
    obtain ⟨block, hblock, hbp, hsend, hunshared⟩ := h.call x e he
    exact ⟨block, hb ▸ hblock, hbp.trans hp.symm, hsend, fun hd => hunshared (hpost hd)⟩
  · intro x x' d d' hd hd' hsame
    obtain ⟨e, he, hb, -⟩ := hcases hd
    obtain ⟨e', he', hb', -⟩ := hcases hd'
    exact h.callSole x x' e e' he he' (hb.symm.trans (hsame.trans hb'))
  · intro b block hb hsend
    obtain ⟨x, d, hd, hdb⟩ := h.sendOwner b block hb hsend
    by_cases hx : x = t
    · subst hx
      obtain rfl : c = d := Option.some.inj (ht.symm.trans hd)
      exact ⟨x, c', Function.update_self .., hblock.trans hdb⟩
    · exact ⟨x, d, by rwa [Function.update_of_ne hx], hdb⟩

/-- The call of a block has posted, and a session gets a copy. -/
theorem CallsTracked.shared (h : CallsTracked blocks calls) {t : θ} {c : SendCall ι}
    (ht : calls t = some c) {block : Block} (hb : blocks c.block = some block) :
    CallsTracked (Buffers.changed blocks c.block { block with inSession := true })
      (Function.update calls t (some { c with posted := true })) := by
  have hposted : CallsTracked blocks (Function.update calls t (some { c with posted := true })) :=
    h.recalled ht rfl rfl Bool.noConfusion
  refine hposted.changed hb rfl rfl fun x d hd hsame hunposted => ?_
  rcases update_some hd with ⟨-, rfl⟩ | ⟨hx, hd⟩
  · cases hunposted
  · exact absurd (h.callSole x t d c hd ht hsame) hx

/-- A call gets a new block. -/
theorem CallsTracked.acquired (h : CallsTracked blocks calls) {t : θ} (ht : calls t = none)
    {c : SendCall ι} (hb : blocks c.block = none) {block : Block} (hsend : block.inSend = true)
    (hsession : block.inSession = false) (hpointer : block.pointer = c.pointer) :
    CallsTracked (Buffers.changed blocks c.block block) (Function.update calls t (some c)) := by
  have hother : ∀ {x d}, calls x = some d → d.block ≠ c.block := by
    intro x d hd hsame
    obtain ⟨k, hk, -⟩ := h.call x d hd
    rw [hsame, hb] at hk
    cases hk
  constructor
  · intro x d hd
    rcases update_some hd with ⟨-, rfl⟩ | ⟨-, hd⟩
    · exact ⟨block, Buffers.changed_self (Or.inl hsend), hpointer, hsend, fun _ => hsession⟩
    · obtain ⟨k, hk, hrest⟩ := h.call x d hd
      exact ⟨k, (Buffers.changed_other (hother hd)).trans hk, hrest⟩
  · intro x x' d d' hd hd' hsame
    rcases update_some hd with ⟨hx, hnew⟩ | ⟨-, hold⟩ <;>
      rcases update_some hd' with ⟨hx', hnew'⟩ | ⟨-, hold'⟩
    · exact hx.trans hx'.symm
    · exact absurd (hnew ▸ hsame.symm) (hother hold')
    · exact absurd (hnew' ▸ hsame) (hother hold)
    · exact h.callSole x x' d d' hold hold' hsame
  · intro b k hk hks
    rcases Buffers.changed_cases hk with ⟨rfl, -⟩ | ⟨-, hk⟩
    · exact ⟨t, c, Function.update_self .., rfl⟩
    · obtain ⟨x, d, hd, hdb⟩ := h.sendOwner b k hk hks
      have hx : x ≠ t := by
        rintro rfl
        rw [ht] at hd
        cases hd
      exact ⟨x, d, by rwa [Function.update_of_ne hx], hdb⟩

/-- A call returns. -/
theorem CallsTracked.left (h : CallsTracked blocks calls) {t : θ} {c : SendCall ι}
    (ht : calls t = some c) (block : Block) :
    CallsTracked (Buffers.changed blocks c.block { block with inSend := false })
      (Function.update calls t none) where
  call x d hd := by
    obtain ⟨hx, hd⟩ := update_none hd
    obtain ⟨k, hk, hrest⟩ := h.call x d hd
    have hother : d.block ≠ c.block := fun hsame => hx (h.callSole x t d c hd ht hsame)
    exact ⟨k, (Buffers.changed_other hother).trans hk, hrest⟩
  callSole x x' d d' hd hd' hsame :=
    h.callSole x x' d d' (update_none hd).2 (update_none hd').2 hsame
  sendOwner b k hk hks := by
    rcases Buffers.changed_cases hk with ⟨-, rfl, -⟩ | ⟨hx, hk⟩
    · cases hks
    · obtain ⟨x, d, hd, rfl⟩ := h.sendOwner b k hk hks
      have hx' : x ≠ t := by
        rintro rfl
        obtain rfl := Option.some.inj (ht.symm.trans hd)
        exact hx rfl
      exact ⟨x, d, by rwa [Function.update_of_ne hx'], rfl⟩

end Calls

/-! ### All three -/

section Rules

variable {s : Buffers} {calls : θ → Option (SendCall ι)} {refs : ι → List BufferRef}

theorem Tracked.initializePool (h : Tracked s calls refs) (bufferCount : Nat) :
    Tracked { s with pool := s.pool.initializePool bufferCount } calls refs :=
  { h with kept := h.kept.initializePool bufferCount }

theorem Tracked.moved (h : Tracked s calls refs) {refs' : ι → List BufferRef}
    (hperm : ∀ i, (refs' i).Perm (refs i)) : Tracked s calls refs' :=
  ⟨h.toBlocksTracked, h.toCallsTracked, h.toRefsTracked.moved hperm⟩

theorem Tracked.recalled [DecidableEq θ] (h : Tracked s calls refs) {t : θ} {c c' : SendCall ι}
    (ht : calls t = some c) (hblock : c'.block = c.block) (hpointer : c'.pointer = c.pointer)
    (hposted : c'.posted = false → c.posted = false) :
    Tracked s (Function.update calls t (some c')) refs :=
  ⟨h.toBlocksTracked, h.toCallsTracked.recalled ht hblock hpointer hposted, h.toRefsTracked⟩

/-- A call gets its buffer. -/
theorem Tracked.acquired [DecidableEq θ] (h : Tracked s calls refs) {t : θ} (ht : calls t = none)
    {c : SendCall ι} (hblock : c.block = s.nextBlock) (hpointer : c.pointer = s.pool.acquire.1) :
    Tracked s.acquire (Function.update calls t (some c)) refs := by
  have hb : s.blocks c.block = none := hblock ▸ h.next_none
  refine ⟨h.toBlocksTracked.acquired, ?_, ?_⟩
  · rw [acquire_blocks, ← hblock]
    exact h.toCallsTracked.acquired ht hb rfl rfl hpointer.symm
  · rw [acquire_blocks, ← hblock]
    exact h.toRefsTracked.acquired hb rfl

/-- A call returns. -/
theorem Tracked.left [DecidableEq θ] (h : Tracked s calls refs) {t : θ} {c : SendCall ι}
    (ht : calls t = some c) (pushed : Bool) :
    Tracked (s.dropSend c.block pushed) (Function.update calls t none) refs := by
  obtain ⟨block, hb, -⟩ := h.call t c ht
  rw [Buffers.dropSend, hb]
  dsimp only
  refine ⟨h.toBlocksTracked.settled hb (by rfl) pushed, ?_, ?_⟩
  · rw [Buffers.settle_blocks]
    exact h.toCallsTracked.left ht block
  · rw [Buffers.settle_blocks]
    exact h.toRefsTracked.changed hb rfl rfl

variable [DecidableEq ι]

/-- The task of a call gets its copy. -/
theorem Tracked.shared [DecidableEq θ] (h : Tracked s calls refs) {t : θ} {c : SendCall ι}
    (ht : calls t = some c) (hposted : c.posted = false) {r : BufferRef}
    (hblock : r.block = c.block) (hpointer : r.pointer = c.pointer) (i : ι) :
    Tracked (s.share c.block) (Function.update calls t (some { c with posted := true }))
      (Function.update refs i (refs i ++ [r])) := by
  obtain ⟨block, hb, hbp, -, hunshared⟩ := h.call t c ht
  rw [Buffers.share_eq_settle hb true]
  refine ⟨h.toBlocksTracked.settled hb (by rfl) true, ?_, ?_⟩
  · rw [Buffers.settle_blocks]
    exact h.toCallsTracked.shared ht hb
  · rw [Buffers.settle_blocks, ← hblock]
    exact h.toRefsTracked.shared (hblock ▸ hb) (hbp.trans hpointer.symm) (hunshared hposted) i

/-- A session's copy goes. -/
theorem Tracked.returned (h : Tracked s calls refs) {i : ι} {r : BufferRef}
    {rest : List BufferRef} (hrefs : refs i = r :: rest) (pushed : Bool) :
    Tracked (s.dropSession r.block pushed) calls (Function.update refs i rest) := by
  obtain ⟨block, hb, -, -⟩ := h.ref i r (by rw [hrefs]; exact List.mem_cons_self)
  rw [Buffers.dropSession, hb]
  dsimp only
  refine ⟨h.toBlocksTracked.settled hb (by rfl) pushed, ?_, ?_⟩
  · rw [Buffers.settle_blocks]
    exact h.toCallsTracked.changed hb rfl rfl fun _ _ _ _ _ => rfl
  · rw [Buffers.settle_blocks]
    exact h.toRefsTracked.returned hrefs block

/-- The copies at the front go, one after the other. -/
theorem Tracked.returnedAll (h : Tracked s calls refs) {i : ι} (gone : List BufferRef)
    {rest : List BufferRef} (hrefs : refs i = gone ++ rest) (pushed : Nat → Bool) :
    Tracked (BufferSystem.dropAll s pushed gone) calls (Function.update refs i rest) := by
  induction gone generalizing s refs with
  | nil =>
      rw [List.nil_append] at hrefs
      rw [← hrefs, Function.update_eq_self]
      exact h
  | cons r gone ih =>
      have hreturned := ih (h.returned hrefs (pushed r.block)) (Function.update_self ..)
      rw [Function.update_idem] at hreturned
      exact hreturned

end Rules

namespace BufferSystem

/-! ## The sessions by value -/

/-- The references of a session: its queue, and the tasks that are to fill it. -/
def refs (s : BufferSystem ι θ) (i : ι) : List BufferRef := (s.writes i).queue ++ s.tasks i

/-- The session with its packets in place of the references to them, and with the
    bytes that were written. -/
def sender (s : BufferSystem ι θ) (i : ι) : Sender where
  writes := (s.writes i).map BufferRef.packet
  accepted := s.accepted i
  completed := s.wire i
  failed := s.failed i

structure Safe (s : BufferSystem ι θ) : Prop where
  tracked : Tracked s.buffers s.calls s.refs
  steady : ∀ i, (s.writes i).Steady
  frames : ∀ i, ∀ r ∈ s.refs i, s.view r = r.packet
  written : ∀ t c p, s.calls t = some c → c.written = some p →
    (s.memory c.pointer).bytes.take p.totalSize.toNat = p.frame
  unposted : ∀ t c, s.calls t = some c → c.written = none → c.posted = false

theorem start_safe : (start : BufferSystem ι θ).Safe :=
  ⟨Tracked.start, fun _ => rfl, fun _ _ h => absurd h List.not_mem_nil,
    fun _ _ _ h => (by cases h), fun _ _ h => (by cases h)⟩

/-- Two blocks do not have one buffer. -/
theorem Safe.sole {s : BufferSystem ι θ} (h : s.Safe) {b b' : Nat} {block block' : Block}
    (hb : s.buffers.blocks b = some block) (hb' : s.buffers.blocks b' = some block')
    (hpointer : block.pointer = block'.pointer) : b = b' := by
  refine h.tracked.kept.custody.sole b b' block.pointer ?_ ?_
  · rw [Buffers.holds, hb, Option.map_some]
  · rw [Buffers.holds, hb', Option.map_some, hpointer]

/-- A call that has not posted is alone with its buffer. -/
theorem Safe.alone {s : BufferSystem ι θ} (h : s.Safe) {t : θ} {c : SendCall ι}
    (ht : s.calls t = some c) (hposted : c.posted = false) :
    (∀ i, ∀ r ∈ s.refs i, r.pointer ≠ c.pointer) ∧
      ∀ t' c', s.calls t' = some c' → t' ≠ t → c'.pointer ≠ c.pointer := by
  obtain ⟨block, hb, hbp, -, hunshared⟩ := h.tracked.call t c ht
  constructor
  · intro i r hr hsame
    obtain ⟨block', hb', hbp', hsession⟩ := h.tracked.ref i r hr
    have hblock : r.block = c.block := h.sole hb' hb (by rw [hbp', hbp, hsame])
    rw [hblock, hb] at hb'
    obtain rfl := Option.some.inj hb'
    rw [hunshared hposted] at hsession
    cases hsession
  · intro t' c' ht' hne hsame
    obtain ⟨block', hb', hbp', -⟩ := h.tracked.call t' c' ht'
    exact hne (h.tracked.callSole t' t c' c ht' ht (h.sole hb' hb (by rw [hbp', hbp, hsame])))

/-! ## Steps -/

/-- A handler of a session works with the references that are there, and not with
    the memory. -/
theorem Safe.handled {s s' : BufferSystem ι θ} (h : s.Safe) (hcalls : s'.calls = s.calls)
    (hmemory : s'.memory = s.memory) (htracked : Tracked s'.buffers s.calls s'.refs)
    (hsub : ∀ i, ∀ r ∈ s'.refs i, r ∈ s.refs i) (hsteady : ∀ i, (s'.writes i).Steady) :
    s'.Safe := by
  refine ⟨hcalls ▸ htracked, hsteady, ?_, ?_, ?_⟩
  · intro i r hr
    have hview : s'.view r = s.view r := by rw [view, hmemory, view]
    rw [hview]
    exact h.frames i r (hsub i r hr)
  · rw [hcalls, hmemory]
    exact h.written
  · rw [hcalls]
    exact h.unposted

section Sessions

variable [DecidableEq ι]

theorem refs_session {s s' : BufferSystem ι θ} {i : ι} {writes : WriteQueue BufferRef}
    {tasks : List BufferRef} (hwrites : s'.writes = Function.update s.writes i writes)
    (htasks : s'.tasks = Function.update s.tasks i tasks) :
    s'.refs = Function.update s.refs i (writes.queue ++ tasks) := by
  funext j
  unfold refs
  rw [hwrites, htasks]
  by_cases hj : j = i
  · subst hj
    simp
  · simp [Function.update_of_ne hj]

theorem update_steady {s : BufferSystem ι θ} (h : s.Safe) {i : ι} {writes : WriteQueue BufferRef}
    (hwrites : writes.Steady) (j : ι) : (Function.update s.writes i writes j).Steady := by
  by_cases hj : j = i
  · subst hj
    rwa [Function.update_self]
  · rw [Function.update_of_ne hj]
    exact h.steady j

/-- The references that are left are some of those there were. -/
theorem update_sub {s : BufferSystem ι θ} {i : ι} {rest : List BufferRef}
    (hrest : ∀ r ∈ rest, r ∈ s.refs i) (j : ι) :
    ∀ r ∈ Function.update s.refs i rest j, r ∈ s.refs j := by
  intro r hr
  by_cases hj : j = i
  · subst hj
    rw [Function.update_self] at hr
    exact hrest r hr
  · rwa [Function.update_of_ne hj] at hr

end Sessions

variable [DecidableEq θ]

theorem acquire_safe {s : BufferSystem ι θ} (h : s.Safe) {t : θ} (ht : s.calls t = none) {i : ι}
    {pktId : UInt16} {payload : List UInt8} {c : SendCall ι}
    (hc : c = { session := i, pktId := pktId, payload := payload, block := s.buffers.nextBlock,
                pointer := s.buffers.pool.acquire.1 }) :
    Safe { s with buffers := s.buffers.acquire, calls := Function.update s.calls t (some c) } := by
  subst hc
  refine ⟨h.tracked.acquired ht rfl rfl, h.steady, h.frames, ?_, ?_⟩
  · intro x d p hd hp
    rcases update_some hd with ⟨-, rfl⟩ | ⟨-, hd⟩
    · cases hp
    · exact h.written x d p hd hp
  · intro x d hd hp
    rcases update_some hd with ⟨-, rfl⟩ | ⟨-, hd⟩
    · rfl
    · exact h.unposted x d hd hp

/-- No call has a message that overruns its buffer. -/
def Contained (kind : ι → SendingSession) (s : BufferSystem ι θ) : Prop :=
  ∀ t c, s.calls t = some c → ¬ Overruns (kind c.session) c.payload.length

/-- The label does not give one to a call. -/
def Label.Contained (kind : ι → SendingSession) : Label ι θ → Prop
  | .acquire _ i _ payload => ¬ Overruns (kind i) payload.length
  | _ => True

/-- Writing into the buffer of a call changes nothing that others see. -/
theorem write_safe {s : BufferSystem ι θ} (h : s.Safe) {t : θ} {c : SendCall ι}
    (ht : s.calls t = some c) (hunwritten : c.written = none) {p : Posted}
    (hlength : p.memory.length = maxPacketSize) :
    Safe { s with memory := Function.update s.memory c.pointer ⟨p.memory, hlength⟩,
                  calls := Function.update s.calls t (some { c with written := some p }) } := by
  obtain ⟨hrefs, hothers⟩ := h.alone ht (h.unposted t c ht hunwritten)
  refine ⟨h.tracked.recalled ht rfl rfl id, h.steady, ?_, ?_, ?_⟩
  · intro i r hr
    have hsame : Function.update s.memory c.pointer ⟨p.memory, hlength⟩ r.pointer
        = s.memory r.pointer := Function.update_of_ne (hrefs i r hr) ..
    rw [← h.frames i r hr]
    simp only [view, hsame]
  · intro x d p' hd hp'
    rcases update_some hd with ⟨-, rfl⟩ | ⟨hx, hd⟩
    · obtain rfl := Option.some.inj hp'
      show (Function.update s.memory c.pointer _ c.pointer).bytes.take _ = _
      rw [Function.update_self]
      rfl
    · have hsame : Function.update s.memory c.pointer ⟨p.memory, hlength⟩ d.pointer
          = s.memory d.pointer := Function.update_of_ne (hothers x d hd hx) ..
      show (Function.update s.memory c.pointer ⟨p.memory, hlength⟩ d.pointer).bytes.take _ = _
      rw [hsame]
      exact h.written x d p' hd hp'
  · intro x d hd hp'
    rcases update_some hd with ⟨-, rfl⟩ | ⟨-, hd⟩
    · cases hp'
    · exact h.unposted x d hd hp'

theorem leave_safe {s : BufferSystem ι θ} (h : s.Safe) {t : θ} {c : SendCall ι}
    (ht : s.calls t = some c) (pushed : Bool) :
    Safe { s with buffers := s.buffers.dropSend c.block pushed,
                  calls := Function.update s.calls t none } := by
  refine ⟨h.tracked.left ht pushed, h.steady, h.frames, ?_, ?_⟩
  · intro x d p hd hp
    exact h.written x d p (update_none hd).2 hp
  · intro x d hd hp
    exact h.unposted x d (update_none hd).2 hp

variable [DecidableEq ι]

theorem post_safe {s s' : BufferSystem ι θ} (h : s.Safe) {t : θ} {c : SendCall ι}
    (ht : s.calls t = some c) {p : Posted} (hwritten : c.written = some p)
    (hposted : c.posted = false)
    (hs' : s' = { s with
      buffers := s.buffers.share c.block
      calls := Function.update s.calls t (some { c with posted := true })
      tasks := Function.update s.tasks c.session
        (s.tasks c.session ++ [⟨c.block, c.pointer, p.totalSize, p.frame⟩]) }) :
    s'.Safe := by
  have hsession : s'.refs = Function.update s.refs c.session ((s.writes c.session).queue ++
      (s.tasks c.session ++ [⟨c.block, c.pointer, p.totalSize, p.frame⟩])) :=
    refs_session (by rw [hs', Function.update_eq_self]) (by rw [hs'])
  have hrefs : s'.refs = Function.update s.refs c.session
      (s.refs c.session ++ [⟨c.block, c.pointer, p.totalSize, p.frame⟩]) :=
    hsession.trans (by rw [refs, List.append_assoc])
  have hshared : Tracked s'.buffers s'.calls s'.refs := by
    rw [hrefs, hs']
    exact h.tracked.shared ht hposted (by rfl) (by rfl) c.session
  have hcalls : s'.calls = Function.update s.calls t (some { c with posted := true }) := by
    rw [hs']
  have hmemory : s'.memory = s.memory := by rw [hs']
  refine ⟨hshared, by rw [hs']; exact h.steady, ?_, ?_, ?_⟩
  · intro i r hr
    have hview : s'.view r = s.view r := by rw [view, hmemory, view]
    rw [hrefs] at hr
    rw [hview]
    by_cases hi : i = c.session
    · subst hi
      rw [Function.update_self, List.mem_append, List.mem_singleton] at hr
      rcases hr with hr | rfl
      · exact h.frames _ r hr
      · exact congrArg (Packet.mk c.block) (h.written t c p ht hwritten)
    · rw [Function.update_of_ne hi] at hr
      exact h.frames i r hr
  · intro x d p' hd hp'
    rw [hcalls] at hd
    rw [hmemory]
    rcases update_some hd with ⟨rfl, rfl⟩ | ⟨-, hd⟩
    · exact h.written x c p' ht hp'
    · exact h.written x d p' hd hp'
  · intro x d hd hp'
    rw [hcalls] at hd
    rcases update_some hd with ⟨-, rfl⟩ | ⟨-, hd⟩
    · exact absurd (hwritten.symm.trans hp') (Option.some_ne_none p)
    · exact h.unposted x d hd hp'

variable {kind : ι → SendingSession}

omit [DecidableEq θ] in
/-- A task takes its reference to the end of the queue, or drops it. -/
theorem runTask_safe {s s' : BufferSystem ι θ} (h : s.Safe) {i : ι} {r : BufferRef}
    {rest : List BufferRef} (htasks : s.tasks i = r :: rest) {pushed : Bool}
    (hs' : s' = runTask kind { s with tasks := Function.update s.tasks i rest } i r pushed) :
    s'.Safe := by
  have hbefore : s.refs i = (s.writes i).queue ++ r :: rest := by rw [refs, htasks]
  unfold runTask at hs'
  split at hs'
  · have hwrites : s'.writes = Function.update s.writes i ((s.writes i).push r) := by rw [hs']
    have hrefs : s'.refs = Function.update s.refs i (((s.writes i).push r).queue ++ rest) :=
      refs_session hwrites (by rw [hs'])
    rw [WriteQueue.push_queue, List.append_assoc, List.singleton_append, ← hbefore,
      Function.update_eq_self] at hrefs
    refine h.handled (by rw [hs']) (by rw [hs']) ?_ ?_ ?_
    · rw [hrefs, hs']
      exact h.tracked
    · rw [hrefs]
      exact fun _ _ hr => hr
    · rw [hwrites]
      exact update_steady h (WriteQueue.push_steady (h.steady i) r)
  · have hwrites : s'.writes = Function.update s.writes i (s.writes i) := by
      rw [hs', Function.update_eq_self]
    have hrefs : s'.refs = Function.update s.refs i ((s.writes i).queue ++ rest) :=
      refs_session hwrites (by rw [hs'])
    have hperm : (r :: ((s.writes i).queue ++ rest)).Perm (s.refs i) :=
      hbefore ▸ List.perm_middle.symm
    have hmoved : Tracked s.buffers s.calls
        (Function.update s.refs i (r :: ((s.writes i).queue ++ rest))) := by
      refine h.tracked.moved fun j => ?_
      by_cases hj : j = i
      · subst hj
        rw [Function.update_self]
        exact hperm
      · rw [Function.update_of_ne hj]
    refine h.handled (by rw [hs']) (by rw [hs']) ?_ ?_ ?_
    · have hreturned := hmoved.returned (Function.update_self ..) pushed
      rw [Function.update_idem] at hreturned
      rw [hrefs, hs']
      exact hreturned
    · rw [hrefs]
      exact update_sub fun x hx => hperm.mem_iff.mp (List.mem_cons_of_mem r hx)
    · rw [hwrites]
      exact update_steady h (h.steady i)

omit [DecidableEq θ] in
/-- The references that go after a write are those in front of the queue that is
    left. -/
theorem writeEnds_safe {s s' : BufferSystem ι θ} (h : s.Safe) {i : ι} {r : BufferRef}
    (hr : r ∈ (s.writes i).outstanding) {ec : ErrorCode} {pushed : Nat → Bool}
    (hs' : s' = s.writeEnds i r ec pushed) : s'.Safe := by
  obtain ⟨-, hqueue⟩ := WriteQueue.Steady.queue_eq (h.steady i) hr
  have hgone : ∀ (gone : List BufferRef) (writes : WriteQueue BufferRef),
      s.refs i = gone ++ (writes.queue ++ s.tasks i) → writes.Steady →
      s'.writes = Function.update s.writes i writes → s'.tasks = s.tasks →
      s'.buffers = dropAll s.buffers pushed gone → s'.calls = s.calls → s'.memory = s.memory →
        s'.Safe := by
    intro gone writes hsplit hsteady hwrites htasks hbuffers hcalls hmemory
    have hrefs : s'.refs = Function.update s.refs i (writes.queue ++ s.tasks i) :=
      refs_session hwrites (by rw [htasks, Function.update_eq_self])
    refine h.handled hcalls hmemory ?_ ?_ ?_
    · rw [hrefs, hbuffers]
      exact h.tracked.returnedAll gone hsplit pushed
    · rw [hrefs]
      refine update_sub fun x hx => ?_
      rw [hsplit]
      exact List.mem_append_right _ hx
    · rw [hwrites]
      exact update_steady h hsteady
  unfold writeEnds at hs'
  split at hs'
  · refine hgone (s.writes i).queue.head?.toList ((s.writes i).complete r) ?_
      (WriteQueue.complete_steady (h.steady i) hr) ?_ ?_ ?_ ?_ ?_
    · rw [WriteQueue.complete_queue, refs, hqueue]
      rfl
    all_goals rw [hs']
  · refine hgone (s.writes i).queue ((s.writes i).fail r) rfl
      (WriteQueue.fail_steady (h.steady i) hr) ?_ ?_ ?_ ?_ ?_
    all_goals rw [hs']

/-- A call keeps its session and its message. -/
theorem step_contained {s s' : BufferSystem ι θ} {label : Label ι θ} (h : s.Contained kind)
    (hlabel : label.Contained kind) (hstep : s.step kind label = some s') : s'.Contained kind := by
  have hcall : ∀ {t : θ} {c c' : SendCall ι}, s'.calls = Function.update s.calls t (some c') →
      s.calls t = some c → c'.session = c.session → c'.payload = c.payload →
        s'.Contained kind := by
    intro t c c' hcalls ht hsession hpayload x d hd
    rw [hcalls] at hd
    rcases update_some hd with ⟨-, rfl⟩ | ⟨-, hd⟩
    · rw [hsession, hpayload]
      exact h t c ht
    · exact h x d hd
  cases label with
  | acquire t i pktId payload =>
      simp only [step] at hstep
      split at hstep
      · obtain rfl := Option.some.inj hstep
        intro x d hd
        rcases update_some hd with ⟨-, rfl⟩ | ⟨-, hd⟩
        · exact hlabel
        · exact h x d hd
      · cases hstep
  | write t spilled =>
      simp only [step] at hstep
      split at hstep
      · cases hstep
      · rename_i c ht
        split at hstep
        · cases hstep
        · split at hstep
          · cases hstep
          · obtain rfl := Option.some.inj hstep
            exact hcall rfl ht rfl rfl
  | post t =>
      simp only [step] at hstep
      split at hstep
      · cases hstep
      · rename_i c ht
        split at hstep
        · obtain rfl := Option.some.inj hstep
          exact hcall rfl ht rfl rfl
        · cases hstep
  | leave t pushed =>
      simp only [step] at hstep
      split at hstep
      · cases hstep
      · split at hstep
        · obtain rfl := Option.some.inj hstep
          exact fun x d hd => h x d (update_none hd).2
        · cases hstep
  | initializePool bufferCount =>
      obtain rfl := Option.some.inj hstep
      exact h
  | runTask i pushed =>
      simp only [step] at hstep
      split at hstep
      · cases hstep
      · obtain rfl := Option.some.inj hstep
        unfold runTask
        split <;> exact h
  | writeEnds i r ec pushed =>
      simp only [step] at hstep
      split at hstep
      · obtain rfl := Option.some.inj hstep
        unfold writeEnds
        split <;> exact h
      · cases hstep

theorem step_safe {s s' : BufferSystem ι θ} {label : Label ι θ} (h : s.Safe)
    (hcontained : s.Contained kind) (hstep : s.step kind label = some s') : s'.Safe := by
  cases label with
  | initializePool bufferCount =>
      obtain rfl := Option.some.inj hstep
      exact ⟨h.tracked.initializePool bufferCount, h.steady, h.frames, h.written, h.unposted⟩
  | acquire t i pktId payload =>
      simp only [step] at hstep
      split at hstep
      · rename_i hready
        obtain rfl := Option.some.inj hstep
        exact acquire_safe h (Option.isNone_iff_eq_none.mp hready.1) rfl
      · cases hstep
  | write t spilled =>
      simp only [step] at hstep
      split at hstep
      · cases hstep
      · rename_i c ht
        split at hstep
        · cases hstep
        · rename_i hwritten
          have hunwritten : c.written = none := by
            cases hc : c.written with
            | none => rfl
            | some p => exact absurd (by rw [hc]; rfl) hwritten
          split at hstep
          · cases hstep
          · rename_i p hpacket
            have hlength := (packetIn_inside hpacket).mpr (hcontained t c ht)
            rw [dif_pos hlength] at hstep
            obtain rfl := Option.some.inj hstep
            exact write_safe h ht hunwritten hlength
  | post t =>
      simp only [step] at hstep
      split at hstep
      · cases hstep
      · rename_i c ht
        split at hstep
        · rename_i p hwritten hposted
          exact post_safe h ht hwritten hposted (Option.some.inj hstep).symm
        · cases hstep
  | leave t pushed =>
      simp only [step] at hstep
      split at hstep
      · cases hstep
      · rename_i c ht
        split at hstep
        · obtain rfl := Option.some.inj hstep
          exact leave_safe h ht pushed
        · cases hstep
  | runTask i pushed =>
      simp only [step] at hstep
      split at hstep
      · cases hstep
      · rename_i r rest htasks
        exact runTask_safe h htasks (Option.some.inj hstep).symm
  | writeEnds i r ec pushed =>
      simp only [step] at hstep
      split at hstep
      · rename_i hr
        exact writeEnds_safe h hr (Option.some.inj hstep).symm
      · cases hstep

/-! ## By value -/

omit [DecidableEq θ] [DecidableEq ι] in
theorem sender_takes (s : BufferSystem ι θ) (i : ι) :
    (s.sender i).takes (kind i) = s.takes kind i := by
  unfold Sender.takes takes sender WriteQueue.map
  cases (kind i).queueLimit <;> simp

omit [DecidableEq θ] in
/-- Seen by value, a task of a session is a send task, and nothing changes for
    others. -/
theorem runTask_sender {s : BufferSystem ι θ} {i : ι} {r : BufferRef} {rest : List BufferRef}
    {pushed : Bool} (j : ι) :
    (runTask kind { s with tasks := Function.update s.tasks i rest } i r pushed).sender j
      = if j = i then (s.sender i).sendTask (kind i) r.packet else s.sender j := by
  have htakes : takes kind { s with tasks := Function.update s.tasks i rest } i
      = s.takes kind i := rfl
  unfold runTask Sender.sendTask
  rw [sender_takes, htakes]
  by_cases hj : j = i
  · subst hj
    split
    · simp [sender, WriteQueue.push_map]
    · simp [sender]
  · split <;> simp [sender, hj]

omit [DecidableEq θ] in
theorem writeEnds_sender {s : BufferSystem ι θ} (h : s.Safe) {i : ι} {r : BufferRef}
    (hr : r ∈ (s.writes i).outstanding) {ec : ErrorCode} {pushed : Nat → Bool} (j : ι) :
    (s.writeEnds i r ec pushed).sender j
      = if j = i then (s.sender i).written r.packet ec else s.sender j := by
  obtain ⟨-, hqueue⟩ := WriteQueue.Steady.queue_eq (h.steady i) hr
  have hview : s.view r = r.packet := by
    refine h.frames i r (List.mem_append_left _ ?_)
    rw [hqueue]
    exact List.mem_cons_self
  unfold writeEnds Sender.written
  by_cases hj : j = i
  · subst hj
    rw [if_pos rfl]
    split
    · rw [hview]
      have hmap : ((s.writes j).map BufferRef.packet).queue ≠ [] := by
        show (s.writes j).queue.map BufferRef.packet ≠ []
        rw [hqueue]
        exact List.cons_ne_nil _ _
      simp [sender, hmap, WriteQueue.complete_map (h.steady j) hr]
    · simp [sender, WriteQueue.fail_map (h.steady j) hr]
  · rw [if_neg hj]
    split <;> simp [sender, hj]

/-- A step is a step of the sender that it is about, and of no other. -/
theorem step_sender {s s' : BufferSystem ι θ} {label : Label ι θ} (h : s.Safe)
    (hstep : s.step kind label = some s') (i : ι) :
    s'.sender i = s.sender i ∨
      ∃ task, Sender.step (kind i) (s.sender i) task = some (s'.sender i) := by
  cases label with
  | runTask j pushed =>
      simp only [step] at hstep
      split at hstep
      · cases hstep
      · rename_i r rest htasks
        obtain rfl := Option.some.inj hstep
        rw [runTask_sender]
        split
        · rename_i hi
          subst hi
          exact Or.inr ⟨.send r.packet, rfl⟩
        · exact Or.inl rfl
  | writeEnds j r ec pushed =>
      simp only [step] at hstep
      split at hstep
      · rename_i hr
        obtain rfl := Option.some.inj hstep
        rw [writeEnds_sender h hr]
        split
        · rename_i hi
          subst hi
          refine Or.inr ⟨.written r.packet ec, if_pos ?_⟩
          exact List.mem_map_of_mem hr
        · exact Or.inl rfl
      · cases hstep
  | initializePool bufferCount =>
      obtain rfl := Option.some.inj hstep
      exact Or.inl rfl
  | acquire t j pktId payload =>
      simp only [step] at hstep
      split at hstep
      · obtain rfl := Option.some.inj hstep
        exact Or.inl rfl
      · cases hstep
  | write t spilled =>
      left
      simp only [step] at hstep
      repeat' split at hstep
      all_goals cases hstep
      all_goals rfl
  | post t =>
      left
      simp only [step] at hstep
      repeat' split at hstep
      all_goals cases hstep
      rfl
  | leave t pushed =>
      left
      simp only [step] at hstep
      repeat' split at hstep
      all_goals cases hstep
      rfl

/-! ## Runs -/

/-- A buffer is in the pool, or one block has it; a block is there for a call of
    `Send` or for a reference of a session; the buffer of a write in progress is
    the writer's own; and each session has gone through a run of a sender that
    works with the packets themselves. -/
structure Sound (kind : ι → SendingSession) (s : BufferSystem ι θ) : Prop where
  once : ∀ a ∈ s.buffers.pool.live,
    (s.buffers.pool.pool.count a = 1 ∧ ∀ b, s.buffers.holds b ≠ some a) ∨
      (s.buffers.pool.pool.count a = 0 ∧
        ∃ b, s.buffers.holds b = some a ∧ ∀ b', s.buffers.holds b' = some a → b' = b)
  owned : ∀ b a, s.buffers.holds b = some a →
    (∃ t c, s.calls t = some c ∧ c.block = b) ∨ ∃ i, ∃ r ∈ s.refs i, r.block = b
  writing : ∀ i, ∀ r ∈ (s.writes i).outstanding,
    r.pointer ∈ s.buffers.pool.live ∧ r.pointer ∉ s.buffers.pool.pool ∧ s.view r = r.packet
  byValue : ∀ i, ∃ tasks, exec (Sender.step (kind i)) {} tasks = some (s.sender i)
  inOrder : ∀ i, s.failed i = false →
    s.accepted i = s.wire i ++ (s.writes i).queue.map BufferRef.packet

omit [DecidableEq θ] [DecidableEq ι] in
theorem Safe.sound {s : BufferSystem ι θ} (h : s.Safe)
    (hvalue : ∀ i, ∃ tasks, exec (Sender.step (kind i)) {} tasks = some (s.sender i)) :
    s.Sound kind := by
  have hcustody := h.tracked.kept.custody
  refine ⟨fun a ha => hcustody.once ha, ?_, ?_, hvalue, ?_⟩
  · intro b a hb
    obtain ⟨block, hblock, -⟩ := Option.map_eq_some_iff.mp hb
    rcases h.tracked.copies b block hblock with hsend | hsession
    · exact Or.inl (h.tracked.sendOwner b block hblock hsend)
    · exact Or.inr (h.tracked.sessionOwner b block hblock hsession)
  · intro i r hr
    have hmem : r ∈ s.refs i := by
      refine List.mem_append_left _ ?_
      rw [(WriteQueue.Steady.queue_eq (h.steady i) hr).2]
      exact List.mem_cons_self
    obtain ⟨block, hblock, hpointer, -⟩ := h.tracked.ref i r hmem
    have hheld : s.buffers.holds r.block = some r.pointer := by
      rw [Buffers.holds, hblock, Option.map_some, hpointer]
    exact ⟨hcustody.heldAll _ _ hheld, hcustody.heldOut _ _ hheld, h.frames i r hmem⟩
  · intro i hfailed
    obtain ⟨tasks, hrun⟩ := hvalue i
    have hstart : ({} : Sender).failed = false → ({} : Sender).InOrder :=
      fun _ => .of_steady rfl rfl rfl
    exact (exec_inv (fun h hstep => Sender.step_inOrder h hstep) hstart hrun hfailed).inOrder

/-- Whatever the threads and the sessions do, no buffer is lost, handed out twice
    or written to while it is being sent, and the bytes that go out are those that
    `Send` was called with, in this order, as long as no message is copied past the
    end of its buffer. -/
theorem always_sound (kind : ι → SendingSession) {labels : List (Label ι θ)}
    (hcontained : ∀ label ∈ labels, label.Contained kind) :
    Always (step kind) (Sound kind) start labels := by
  let Inv : BufferSystem ι θ → Prop := fun s =>
    (s.Safe ∧ s.Contained kind) ∧
      ∀ i, ∃ tasks, exec (Sender.step (kind i)) {} tasks = some (s.sender i)
  have hstep : ∀ {s label s'}, Inv s → label.Contained kind → step kind s label = some s' →
      Inv s' := by
    rintro s label s' ⟨⟨hsafe, hcalls⟩, hvalue⟩ hlabel hs'
    refine ⟨⟨step_safe hsafe hcalls hs', step_contained hcalls hlabel hs'⟩, fun i => ?_⟩
    obtain ⟨tasks, hrun⟩ := hvalue i
    rcases step_sender hsafe hs' i with hsame | ⟨task, htask⟩
    · exact ⟨tasks, hrun.trans (congrArg some hsame.symm)⟩
    · refine ⟨tasks ++ [task], exec_append_some.mpr ⟨_, hrun, ?_⟩⟩
      exact exec_cons_some.mpr ⟨_, htask, rfl⟩
  have hstart : Inv start :=
    ⟨⟨start_safe, fun t c h => (by cases h)⟩, fun _ => ⟨[], rfl⟩⟩
  have hmeets : Meets (step kind) (fun _ label => label.Contained kind) start labels :=
    meets_of_labels Inv hstep (fun _ hlabel _ => hlabel) hstart hcontained
  exact (always_of_meets hstep hstart hmeets).imp fun _ h => h.1.1.sound h.2

/-- Two packets of one session and one of another, with one buffer in the pool; the
    second packet gets the buffer of the first, which was written by then. -/
def threeSends : List (Label Nat Nat) :=
  [.initializePool 1,
    .acquire 0 0 5 [1, 2], .acquire 1 1 5 [3], .write 1 fun _ => .fresh,
    .write 0 fun _ => .fresh, .post 0, .leave 0 true, .runTask 0 true,
    .writeEnds 0 ⟨0, 0, 6, [6, 0, 5, 0, 1, 2]⟩ .success fun _ => true,
    .post 1, .acquire 0 0 5 [4], .write 0 fun _ => .fresh, .runTask 1 true]

theorem always_sound_threeSends : ∃ s : BufferSystem Nat Nat,
    exec (step fun _ => .gatewaySession) start threeSends = some s ∧
      s.Sound (fun _ => .gatewaySession) ∧ s.wire 0 = [⟨0, [6, 0, 5, 0, 1, 2]⟩] ∧
      (s.memory 0).bytes.take 5 = [5, 0, 5, 0, 4] := by
  have hseen : (exec (step fun _ => .gatewaySession) start threeSends).map
      (fun s => (s.wire 0, (s.memory 0).bytes.take 5))
        = some ([⟨0, [6, 0, 5, 0, 1, 2]⟩], [5, 0, 5, 0, 4]) := by decide +kernel
  obtain ⟨s, hs, hvalues⟩ := Option.map_eq_some_iff.mp hseen
  obtain ⟨hwire, hmemory⟩ := Prod.mk.inj hvalues
  have hcontained : ∀ label ∈ threeSends, label.Contained (fun _ => .gatewaySession) := by
    simp [threeSends, Label.Contained, Overruns, PacketHeader.byteSize]
  have hsound := always_iff_exec.mp (always_sound _ hcontained) threeSends (List.prefix_refl _) s hs
  exact ⟨s, hs, hsound, hwire, hmemory⟩

end BufferSystem

end MMOServers.Network
