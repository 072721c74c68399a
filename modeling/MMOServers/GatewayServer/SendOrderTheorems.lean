/-
MMOServers.GatewayServer.SendOrderTheorems — frames in the order of their
numbers.

The frames that have gone out and those still to go, in the order in which they
will, are one list (`upcoming`). Steps from the strand on only shorten it, a new
frame is appended with a number above all others, and a post keeps the numbers
in it where they are as long as it is in turn. So the numbers of the line
increase, and those of the wire are a prefix of it.
-/
import MMOServers.GatewayServer.SendOrder

namespace MMOServers.GatewayServer

open MMOServers.Common Transition

variable {F Key : Type} {env : GatewayEnv F Key}

namespace SendOrder

/-! ## In order -/

/-- The numbers in frames that have one. -/
def numbersOf (s : SendOrder Key) (frames : List Packet) : List Nat :=
  frames.filterMap fun p => s.numbers p.buffer

/-- The frames went out in the order of their numbers, and the peer has rejected
    none. -/
def Delivered (s : SendOrder Key) : Prop :=
  (s.numbersOf s.wire).Pairwise (· < ·) ∧ s.rejected = []

/-- A call with a number posts its frame after all calls with earlier numbers,
    and at most 999 numbers are missing before a frame that arrives. -/
def InTurn (s : SendOrder Key) : Label → Prop
  | .post n =>
      s.numbersOf (s.waiting[n]?).toList = [] ∨ s.numbersOf (s.waiting.take n) = []
  | .arrive => ∀ n ∈ s.numbersOf (s.wire[s.arrived]?).toList, n ≤ s.next + 999
  | _ => True

instance (s : SendOrder Key) : Decidable s.Delivered :=
  inferInstanceAs (Decidable (_ ∧ _))

instance (s : SendOrder Key) (label : Label) : Decidable (s.InTurn label) := by
  unfold InTurn
  split <;> infer_instance

/-! ## The line -/

/-- The frames on the strand. -/
def posted (tasks : List SessionTask) : List Packet :=
  tasks.filterMap fun
    | .send p => some p
    | _ => none

/-- The frames still to go out: queued behind the front one, posted, waiting. -/
def upcoming (s : SendOrder Key) : List Packet :=
  s.session.writes.queue.tail ++ posted s.session.strand ++ s.waiting

theorem posted_append (tasks tasks' : List SessionTask) :
    posted (tasks ++ tasks') = posted tasks ++ posted tasks' :=
  List.filterMap_append ..

theorem numbersOf_append (s : SendOrder Key) (frames frames' : List Packet) :
    s.numbersOf (frames ++ frames') = s.numbersOf frames ++ s.numbersOf frames' :=
  List.filterMap_append ..

structure Lined (s : SendOrder Key) : Prop where
  /-- The number in the next frame is the one that `Encrypt` stamps on it. -/
  sequence : s.session.crypto.sendSequence = UInt32.ofNat s.drawn
  fresh : ∀ p ∈ s.wire ++ s.upcoming, p.buffer < s.nextBuffer
  drawn : ∀ b n, s.numbers b = some n → n < s.drawn
  unused : ∀ b, s.nextBuffer ≤ b → s.numbers b = none
  increasing : (s.numbersOf (s.wire ++ s.upcoming)).Pairwise (· < ·)
  arrived : s.arrived ≤ s.wire.length
  peer : s.peer.recvSequence = UInt32.ofNat (s.next - 1)
  next_le : s.next ≤ s.drawn
  ahead : ∀ n ∈ s.numbersOf (s.wire.drop s.arrived ++ s.upcoming), s.next ≤ n
  accepted : s.rejected = []

theorem start_lined : (start : SendOrder Key).Lined where
  sequence := rfl
  fresh _ hp := (nomatch hp)
  drawn _ _ h := (nomatch h)
  unused _ _ := rfl
  increasing := List.Pairwise.nil
  arrived := Nat.le_refl 0
  peer := rfl
  next_le := Nat.le_refl 0
  ahead _ hn := (nomatch hn)
  accepted := rfl

theorem Lined.delivered {s : SendOrder Key} (h : s.Lined) : s.Delivered := by
  have hincreasing := h.increasing
  rw [numbersOf_append] at hincreasing
  exact ⟨(List.pairwise_append.mp hincreasing).1, h.accepted⟩

/-- Frames move up, and some may drop out. -/
theorem Lined.moved {s s' : SendOrder Key} (h : s.Lined) (written : List Packet)
    (hsequence : s'.session.crypto.sendSequence = s.session.crypto.sendSequence)
    (hbuffer : s'.nextBuffer = s.nextBuffer) (hdrawn : s'.drawn = s.drawn)
    (hnumbers : s'.numbers = s.numbers) (hwire : s'.wire = s.wire ++ written)
    (harrived : s'.arrived = s.arrived) (hpeer : s'.peer = s.peer) (hnext : s'.next = s.next)
    (hrejected : s'.rejected = s.rejected)
    (hmem : ∀ p ∈ written ++ s'.upcoming, p ∈ s.upcoming)
    (hline : (s.numbersOf (written ++ s'.upcoming)).Sublist (s.numbersOf s.upcoming)) :
    s'.Lined := by
  have hof : s'.numbersOf = s.numbersOf := by
    unfold numbersOf
    rw [hnumbers]
  refine ⟨?_, ?_, ?_, ?_, ?_, ?_, ?_, ?_, ?_, ?_⟩
  · rw [hsequence, hdrawn, h.sequence]
  · intro p hp
    rw [hwire, List.append_assoc, List.mem_append] at hp
    rw [hbuffer]
    exact h.fresh p (List.mem_append.mpr (hp.imp_right (hmem p)))
  · rw [hnumbers, hdrawn]
    exact h.drawn
  · rw [hnumbers, hbuffer]
    exact h.unused
  · rw [hof, hwire, List.append_assoc, numbersOf_append]
    have hincreasing := h.increasing
    rw [numbersOf_append] at hincreasing
    exact hincreasing.sublist (List.Sublist.append (List.Sublist.refl _) hline)
  · rw [harrived, hwire, List.length_append]
    exact Nat.le_add_right_of_le h.arrived
  · rw [hpeer, hnext, h.peer]
  · rw [hnext, hdrawn]
    exact h.next_le
  · intro n hn
    rw [hof, harrived, hwire, List.drop_append_of_le_length h.arrived, List.append_assoc,
      numbersOf_append, List.mem_append] at hn
    rw [hnext]
    refine h.ahead n ?_
    rw [numbersOf_append, List.mem_append]
    exact hn.imp_right (hline.mem ·)
  · rw [hrejected, h.accepted]

/-- One more frame, at the end of the line. -/
def join (s : SendOrder Key) (data : List UInt8) (n : Option Nat) : SendOrder Key :=
  { s with
      waiting := s.waiting ++ [⟨s.nextBuffer, data⟩]
      nextBuffer := s.nextBuffer + 1
      numbers := Function.update s.numbers s.nextBuffer n }

theorem join_upcoming (s : SendOrder Key) (data : List UInt8) (n : Option Nat) :
    (s.join data n).upcoming = s.upcoming ++ [⟨s.nextBuffer, data⟩] :=
  (List.append_assoc ..).symm

theorem join_numbersOf {s : SendOrder Key} {frames : List Packet}
    (hframes : ∀ p ∈ frames, p.buffer < s.nextBuffer) (data : List UInt8) (n : Option Nat) :
    (s.join data n).numbersOf (frames ++ [⟨s.nextBuffer, data⟩])
      = s.numbersOf frames ++ n.toList := by
  have hof : (s.join data n).numbersOf frames = s.numbersOf frames :=
    List.filterMap_congr fun p hp => Function.update_of_ne (Nat.ne_of_lt (hframes p hp)) _ _
  have hlast : (s.join data n).numbersOf [⟨s.nextBuffer, data⟩] = n.toList := by
    cases n <;> simp [numbersOf, join]
  rw [numbersOf_append, hof, hlast]

/-- A frame joins the end of the line, with no number or with one above all
    others. -/
theorem Lined.joined {s : SendOrder Key} (h : s.Lined) (data : List UInt8) {n : Option Nat}
    (hn : ∀ k, n = some k → (∀ b m, s.numbers b = some m → m < k) ∧ s.next ≤ k ∧ k < s.drawn) :
    (s.join data n).Lined where
  sequence := h.sequence
  fresh p hp := by
    rw [join_upcoming, ← List.append_assoc, List.mem_append, List.mem_singleton] at hp
    rcases hp with hp | rfl
    · exact Nat.lt_succ_of_lt (h.fresh p hp)
    · exact Nat.lt_succ_self _
  drawn b m hb := by
    by_cases hbuffer : b = s.nextBuffer
    · subst hbuffer
      simp only [join, Function.update_self] at hb
      exact (hn m hb).2.2
    · simp only [join, Function.update_of_ne hbuffer] at hb
      exact h.drawn b m hb
  unused b hb :=
    (Function.update_of_ne (Nat.ne_of_gt hb) _ _).trans (h.unused b (Nat.le_of_succ_le hb))
  increasing := by
    rw [join_upcoming, ← List.append_assoc]
    show ((s.join data n).numbersOf (s.wire ++ s.upcoming ++ _)).Pairwise _
    rw [join_numbersOf h.fresh, List.pairwise_append]
    refine ⟨h.increasing, ?_, fun m hm k hk => ?_⟩
    · cases n <;> simp
    · obtain ⟨p, -, hp⟩ := List.mem_filterMap.mp hm
      exact (hn k (by simpa using hk)).1 _ _ hp
  arrived := h.arrived
  peer := h.peer
  next_le := h.next_le
  ahead k hk := by
    have hknown : ∀ p ∈ s.wire.drop s.arrived ++ s.upcoming, p.buffer < s.nextBuffer := by
      intro p hp
      refine h.fresh p ?_
      rw [List.mem_append] at hp ⊢
      exact hp.imp_left List.mem_of_mem_drop
    rw [join_upcoming, ← List.append_assoc] at hk
    replace hk : k ∈ (s.join data n).numbersOf (s.wire.drop s.arrived ++ s.upcoming ++ _) := hk
    rw [join_numbersOf hknown, List.mem_append] at hk
    rcases hk with hk | hk
    · exact h.ahead k hk
    · exact (hn k (by simpa using hk)).2.1
  accepted := h.accepted

/-! ## The cipher -/

theorem encrypt_sequence (B : BCrypt Key) (c : PacketCrypto Key) (iv : Option (List UInt8))
    (plaintext : List UInt8) :
    (c.encrypt B iv plaintext).2.sendSequence = c.sendSequence + 1 ∨
      (c.encrypt B iv plaintext).2.sendSequence = c.sendSequence ∧
        ∃ msg, (c.encrypt B iv plaintext).1 = .error msg := by
  unfold PacketCrypto.encrypt
  repeat' split
  all_goals first
    | exact Or.inl rfl
    | exact Or.inr ⟨rfl, _, rfl⟩

/-- A payload comes without a number, or the number has been drawn. -/
theorem encode_sequence (env : GatewayEnv F Key) (c : ClientSession Key)
    (iv : Option (List UInt8)) (serialized : List UInt8) :
    (c.encode env iv serialized).2.crypto.sendSequence = c.crypto.sendSequence + 1 ∨
      (c.encode env iv serialized).2.crypto.sendSequence = c.crypto.sendSequence ∧
        ((c.encode env iv serialized).1 = none ∨
          (c.cryptoEnabled && c.crypto.initialized) = false) := by
  have hencrypt := encrypt_sequence env.bcrypt c.crypto iv
    (serialized.take (serialized.length % 65536))
  unfold ClientSession.encode
  split
  · generalize c.crypto.encrypt env.bcrypt iv (serialized.take (serialized.length % 65536)) = r
      at hencrypt ⊢
    obtain ⟨result, crypto⟩ := r
    rcases hencrypt with hdrawn | ⟨hsame, msg, hmsg⟩
    · cases result <;> exact Or.inl hdrawn
    · obtain rfl : result = .error msg := hmsg
      exact Or.inr ⟨hsame, Or.inl rfl⟩
  · rename_i hplain
    exact Or.inr ⟨rfl, Or.inr (Bool.eq_false_iff.mpr hplain)⟩

/-- The number of a frame is the one the peer reads from it. -/
theorem encode_stamped {s : SendOrder Key} (h : s.Lined) {iv : Option (List UInt8)}
    {serialized payload : List UInt8}
    (hon : (s.session.cryptoEnabled && s.session.crypto.initialized) = true)
    (hpayload : (s.session.encode env iv serialized).1 = some payload) :
    LittleEndian.readU32 payload = UInt32.ofNat s.drawn := by
  unfold ClientSession.encode PacketCrypto.encrypt at hpayload
  rw [if_pos hon] at hpayload
  split at hpayload
  · rename_i data crypto hencrypt
    obtain rfl := Option.some.inj hpayload
    repeat' split at hencrypt
    all_goals cases hencrypt
    rw [List.append_assoc, readU32_frame, h.sequence]
  · cases hpayload

theorem enableEncryption_sequence (env : GatewayEnv F Key) (c : ClientSession Key) :
    (c.enableEncryption env).crypto.sendSequence = c.crypto.sendSequence ∧
      (c.enableEncryption env).writes = c.writes ∧
      (c.enableEncryption env).strand = c.strand := by
  have hinit : (c.crypto.initializeWithPassphrase env.bcrypt
      SecurityConstants.sharedPassphrase.toUTF8.toList).2.sendSequence
        = c.crypto.sendSequence := by
    unfold PacketCrypto.initializeWithPassphrase PacketCrypto.initializeKey
    dsimp only
    repeat' split
    all_goals rfl
  unfold ClientSession.enableEncryption
  generalize c.crypto.initializeWithPassphrase env.bcrypt
    SecurityConstants.sharedPassphrase.toUTF8.toList = r at hinit ⊢
  obtain ⟨_ | _, crypto⟩ := r
  all_goals exact ⟨hinit, rfl, rfl⟩

theorem openPayload_sequence (env : GatewayEnv F Key) (c : ClientSession Key)
    (bytes : List UInt8) :
    (c.openPayload env bytes).2.crypto.sendSequence = c.crypto.sendSequence ∧
      (c.openPayload env bytes).2.writes = c.writes ∧
      (c.openPayload env bytes).2.strand = c.strand := by
  have hdecrypt : (c.crypto.decrypt env.bcrypt bytes).2.sendSequence = c.crypto.sendSequence := by
    rcases PacketCrypto.decrypt_cases env.bcrypt c.crypto bytes with
      ⟨msg, hdec⟩ | ⟨plain, hdec, -, -⟩ <;> rw [hdec]
  unfold ClientSession.openPayload
  generalize c.crypto.decrypt env.bcrypt bytes = r at hdecrypt ⊢
  obtain ⟨result, crypto⟩ := r
  split
  · cases result <;> exact ⟨hdecrypt, rfl, rfl⟩
  · exact ⟨rfl, rfl, rfl⟩

/-! ## One step -/

/-- A step that leaves the line alone. -/
theorem Lined.session {s : SendOrder Key} (h : s.Lined) {c : ClientSession Key}
    (hsequence : c.crypto.sendSequence = s.session.crypto.sendSequence)
    (hwrites : c.writes = s.session.writes) (hstrand : posted c.strand = posted s.session.strand) :
    Lined { s with session := c } := by
  have hline : upcoming { s with session := c } = s.upcoming := by
    unfold upcoming
    rw [hwrites, hstrand]
  refine h.moved [] hsequence rfl rfl rfl (List.append_nil _).symm rfl rfl rfl rfl ?_ ?_
  · rw [List.nil_append, hline]
    exact fun p hp => hp
  · rw [List.nil_append, hline]

/-- A task of the strand takes the first frame posted, or writes the next one. -/
theorem runTask_lined {s : SendOrder Key} (h : s.Lined) {task : SessionTask}
    {rest : List SessionTask} (hstrand : s.session.strand = task :: rest) :
    (runTask { s with session := { s.session with strand := rest } } task).Lined := by
  have hmoved : ∀ (written : List Packet) (writes : WriteQueue Packet),
      (written ++ (writes.queue.tail ++ posted rest ++ s.waiting)).Sublist s.upcoming →
        Lined { s with session := { s.session with writes := writes, strand := rest },
                       wire := s.wire ++ written } := by
    intro written writes hsub
    exact h.moved written rfl rfl rfl rfl rfl rfl rfl rfl rfl (fun p hp => hsub.subset hp)
      (hsub.filterMap _)
  have hline : s.upcoming = s.session.writes.queue.tail ++ posted (task :: rest) ++ s.waiting := by
    rw [upcoming, hstrand]
  have hkept : ∀ writes : WriteQueue Packet,
      (writes.queue.tail ++ posted rest ++ s.waiting).Sublist s.upcoming →
        Lined { s with session := { s.session with writes := writes, strand := rest } } := by
    intro writes hsub
    have h' := hmoved [] writes hsub
    rwa [List.append_nil] at h'
  cases task with
  | send p =>
      have hposted : posted (.send p :: rest) = p :: posted rest := rfl
      rw [hposted] at hline
      unfold runTask
      dsimp only
      cases hqueue : s.session.writes.queue with
      | nil =>
          have hpush : (enqueue s.session.writes p).queue = [p] := by
            simp [enqueue, hqueue, sendQueueMaxSize]
          rw [if_pos rfl, doWrite]
          dsimp only
          rw [hpush]
          refine hmoved [p] _ ?_
          rw [hpush, hline, hqueue]
          exact List.Sublist.refl _
      | cons q queue =>
          rw [if_neg (List.cons_ne_nil _ _)]
          refine hkept _ ?_
          rw [hline, hqueue]
          unfold enqueue
          split
          · rw [hqueue]
            exact ((List.sublist_cons_self p _).append_left _).append_right _
          · rw [WriteQueue.push_queue, hqueue]
            simp
  | written p ec =>
      have hposted : posted (.written p ec :: rest) = posted rest := rfl
      rw [hposted] at hline
      unfold runTask
      dsimp only
      split
      · rw [doWrite]
        dsimp only
        refine hmoved _ _ ?_
        rw [WriteQueue.complete_queue, hline]
        cases s.session.writes.queue.tail with
        | nil => exact List.Sublist.refl _
        | cons q queue => exact List.Sublist.refl _
      · refine hkept _ ?_
        rw [hline, List.append_assoc, List.append_assoc]
        exact (List.nil_sublist _).append (List.Sublist.refl _)

theorem post_lined {s s' : SendOrder Key} (h : s.Lined) {n : Nat} (hturn : s.InTurn (.post n))
    (hstep : step env s (.post n) = some s') : s'.Lined := by
  simp only [step] at hstep
  split at hstep
  · cases hstep
  rename_i p hp
  obtain rfl := Option.some.inj hstep
  obtain ⟨hn, hget⟩ := List.getElem?_eq_some_iff.mp hp
  have hwaiting : s.waiting = s.waiting.take n ++ p :: s.waiting.drop (n + 1) := by
    rw [← hget, ← List.drop_eq_getElem_cons hn, List.take_append_drop]
  have hposted : posted (s.session.strand ++ [.send p]) = posted s.session.strand ++ [p] :=
    posted_append ..
  simp only [InTurn, hp, Option.toList_some] at hturn
  refine h.moved [] rfl rfl rfl rfl (List.append_nil _).symm rfl rfl rfl rfl ?_ ?_
  · intro q hq
    simp only [List.nil_append, upcoming, hposted, List.mem_append, List.mem_singleton] at hq
    unfold upcoming
    simp only [List.mem_append]
    rcases hq with (hq | hq | rfl) | hq
    · exact Or.inl (Or.inl hq)
    · exact Or.inl (Or.inr hq)
    · exact Or.inr (List.mem_of_getElem? hp)
    · exact Or.inr (List.mem_of_mem_eraseIdx hq)
  · have hnumbers : s.numbersOf (p :: s.waiting.eraseIdx n) = s.numbersOf s.waiting :=
      calc s.numbersOf (p :: s.waiting.eraseIdx n)
        _ = s.numbersOf ([p] ++ (s.waiting.take n ++ s.waiting.drop (n + 1))) := by
            rw [List.eraseIdx_eq_take_drop_succ, List.singleton_append]
        _ = s.numbersOf (s.waiting.take n ++ ([p] ++ s.waiting.drop (n + 1))) := by
            simp only [numbersOf_append]
            rcases hturn with hnone | hnone <;> rw [hnone, List.nil_append, List.nil_append]
        _ = s.numbersOf s.waiting := congrArg s.numbersOf hwaiting.symm
    rw [List.nil_append]
    unfold upcoming
    dsimp only
    rw [hposted, List.append_assoc _ _ (s.waiting.eraseIdx n), List.append_assoc _ [p],
      List.singleton_append, numbersOf_append, numbersOf_append, hnumbers, List.append_assoc,
      numbersOf_append, numbersOf_append]

/-- A frame that is made joins the end of the line. -/
theorem encode_lined {s : SendOrder Key} (h : s.Lined) (iv : Option (List UInt8))
    (pktId : UInt16) (serialized : List UInt8) : (s.encode env iv pktId serialized).Lined := by
  have hsequence := encode_sequence env s.session iv serialized
  obtain ⟨hwrites, hstrand⟩ := Gateway.encode_strand env s.session iv serialized
  unfold encode
  generalize s.session.encode env iv serialized = r at *
  obtain ⟨payload, c⟩ := r
  dsimp only at hsequence hwrites hstrand ⊢
  -- the count of numbers goes with the counter, whatever becomes of the frame
  generalize hdrawn : (if c.crypto.sendSequence = s.session.crypto.sendSequence then s.drawn
    else s.drawn + 1) = drawn
  have hle : s.drawn ≤ drawn := by
    rw [← hdrawn]
    split <;> omega
  have hcounted : Lined { s with session := c, drawn := drawn } := by
    have hline : upcoming { s with session := c, drawn := drawn } = s.upcoming := by
      unfold upcoming
      rw [hwrites, hstrand]
    refine ⟨?_, ?_, fun b n hn => Nat.lt_of_lt_of_le (h.drawn b n hn) hle, h.unused, ?_,
      h.arrived, h.peer, Nat.le_trans h.next_le hle, ?_, h.accepted⟩
    · rcases hsequence with hnew | ⟨hsame, -⟩
      · rw [← hdrawn, if_neg (by rw [hnew]; exact Channel.succ_ne_self _), hnew, h.sequence]
        exact (UInt32.ofNat_add s.drawn 1).symm
      · rw [← hdrawn, if_pos hsame, hsame, h.sequence]
    · rw [hline]
      exact h.fresh
    · rw [hline]
      exact h.increasing
    · rw [hline]
      exact h.ahead
  split
  · exact hcounted
  · rename_i data hdata
    obtain ⟨bytes, hbytes, -⟩ := Option.bind_eq_some_iff.mp hdata
    by_cases hon : (s.session.cryptoEnabled && s.session.crypto.initialized) = true
    · rw [if_pos hon]
      have hnew : c.crypto.sendSequence = s.session.crypto.sendSequence + 1 := by
        rcases hsequence with hnew | ⟨-, hnone | hplain⟩
        · exact hnew
        · rw [hbytes] at hnone
          cases hnone
        · rw [hon] at hplain
          cases hplain
      refine hcounted.joined data (n := some s.drawn) fun n hn => ?_
      obtain rfl : s.drawn = n := Option.some.inj hn
      refine ⟨h.drawn, h.next_le, ?_⟩
      rw [← hdrawn, if_neg (by rw [hnew]; exact Channel.succ_ne_self _)]
      exact Nat.lt_succ_self _
    · rw [if_neg hon]
      have hjoined := hcounted.joined data (n := none) nofun
      have hnumbers : Function.update s.numbers s.nextBuffer none = s.numbers :=
        Function.update_eq_self_iff.mpr (h.unused _ (Nat.le_refl _)).symm
      rwa [join, hnumbers] at hjoined

/-- The peer accepts the next frame. -/
theorem arrive_lined {s s' : SendOrder Key} (h : s.Lined) (hturn : s.InTurn .arrive)
    (hstep : step env s .arrive = some s') : s'.Lined := by
  obtain ⟨p, hp, rfl⟩ := Option.map_eq_some_iff.mp hstep
  obtain ⟨hlt, hget⟩ := List.getElem?_eq_some_iff.mp hp
  have hdrop : s.wire.drop s.arrived = p :: s.wire.drop (s.arrived + 1) := by
    rw [← hget, ← List.drop_eq_getElem_cons hlt]
  have hrest : ∀ k ∈ s.numbersOf (s.wire.drop (s.arrived + 1) ++ s.upcoming),
      k ∈ s.numbersOf (s.wire.drop s.arrived ++ s.upcoming) := by
    intro k hk
    rw [hdrop, List.cons_append, ← List.singleton_append, numbersOf_append]
    exact List.mem_append_right _ hk
  unfold arrive
  dsimp only
  cases hnumber : s.numbers p.buffer with
  | none =>
      exact { h with arrived := hlt, ahead := fun k hk => h.ahead k (hrest k hk) }
  | some n =>
      have hfirst : s.numbersOf [p] = [n] := by simp [numbersOf, hnumber]
      have hlo : s.next ≤ n := by
        refine h.ahead n ?_
        rw [hdrop, List.cons_append, ← List.singleton_append, numbersOf_append, hfirst]
        exact List.mem_append_left _ (List.mem_singleton_self n)
      have hhi : n ≤ s.next + 999 := by
        simp only [InTurn, hp, Option.toList_some] at hturn
        exact hturn n (by rw [hfirst]; exact List.mem_singleton_self n)
      have hvalid := PacketCrypto.validateSequence_ahead h.peer hlo hhi
      have hlater : ∀ k ∈ s.numbersOf (s.wire.drop (s.arrived + 1) ++ s.upcoming), n + 1 ≤ k := by
        intro k hk
        have hincreasing := h.increasing
        rw [← List.take_append_drop s.arrived s.wire, hdrop, List.append_assoc, List.cons_append,
          ← List.singleton_append, numbersOf_append, numbersOf_append, hfirst,
          List.pairwise_append] at hincreasing
        exact List.rel_of_pairwise_cons hincreasing.2.1 hk
      dsimp only
      rw [if_pos hvalid]
      exact { h with
        arrived := hlt
        peer := rfl
        next_le := h.drawn _ _ hnumber
        ahead := hlater }

theorem step_lined {s s' : SendOrder Key} {label : Label} (h : s.Lined) (hturn : s.InTurn label)
    (hstep : step env s label = some s') : s'.Lined := by
  cases label with
  | enable =>
      obtain rfl := Option.some.inj hstep
      obtain ⟨hsequence, hwrites, hstrand⟩ := enableEncryption_sequence env s.session
      exact h.session hsequence hwrites (by rw [hstrand])
  | encode iv pktId serialized =>
      obtain rfl := Option.some.inj hstep
      exact encode_lined h iv pktId serialized
  | post n => exact post_lined h hturn hstep
  | runStrand =>
      simp only [step] at hstep
      split at hstep
      · cases hstep
      · rename_i task rest hstrand
        obtain rfl := Option.some.inj hstep
        exact runTask_lined h hstrand
  | writeEnds p ec =>
      simp only [step] at hstep
      split at hstep
      · obtain rfl := Option.some.inj hstep
        exact h.session rfl rfl ((posted_append ..).trans (List.append_nil _))
      · cases hstep
  | payloadRead bytes =>
      obtain rfl := Option.some.inj hstep
      obtain ⟨hsequence, hwrites, hstrand⟩ := openPayload_sequence env s.session bytes
      exact h.session hsequence hwrites (by rw [hstrand])
  | arrive => exact arrive_lined h hturn hstep

/-! ## Runs -/

/-- In a run in which the calls post in turn, the frames go out in the order of
    their numbers and the peer rejects none. -/
theorem delivered_of_inTurn (env : GatewayEnv F Key) (labels : List Label)
    (h : Meets (step env) InTurn start labels) : Always (step env) Delivered start labels :=
  (always_of_meets step_lined start_lined h).imp fun _ h => h.delivered

/-- Two calls encrypt. -/
def twoCalls : List Label :=
  [.enable, .encode (some (List.replicate 16 0)) PacketId.gatewayClientChatRes [10, 1, 97],
    .encode (some (List.replicate 16 0)) PacketId.gatewayClientChatRes [10, 1, 98]]

/-- What was posted goes out and arrives: the frame made as the `n`-th first. -/
def goOut (p : Packet) : List Label :=
  [.runStrand, .runStrand, .writeEnds p .success, .runStrand, .arrive, .arrive]

/-- The frame of the `n`-th call, with the one byte in which the two differ. -/
def frameWith (n : Nat) (b : UInt8) : Packet :=
  ⟨n, PacketHeader.bytes ⟨27, PacketId.gatewayClientChatRes⟩ ++
    LittleEndian.writeU32 (UInt32.ofNat n) ++ List.replicate 16 0 ++ [10, 1, b]⟩

/-- The call that encrypted first posts first. -/
theorem delivered_inOrder :
    Always (step .sample) Delivered (start : SendOrder Unit)
      (twoCalls ++ [.post 0, .post 0] ++ goOut (frameWith 0 97)) :=
  delivered_of_inTurn .sample _ (by decide +kernel)

/-- The call that encrypted last posts first, and the peer rejects the other
    frame. -/
theorem delivered_outOfOrder :
    ¬ Always (step .sample) Delivered (start : SendOrder Unit)
      (twoCalls ++ [.post 1, .post 0] ++ goOut (frameWith 1 98)) := by
  decide +kernel

end SendOrder

end MMOServers.GatewayServer
