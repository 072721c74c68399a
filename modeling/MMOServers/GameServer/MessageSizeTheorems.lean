/-
MMOServers.GameServer.MessageSizeTheorems — whether the messages for an area of
interest fit into a packet.

`GatewaySession::Send` drops what does not, for everybody at once. The handlers of
moves and attacks name at most `MAX_AOI_BROADCAST` accounts, which always fit. The
chat handler and the attack callback of the monsters name everybody around, and
the chat handler passes a text on as it comes, so these two fit exactly when the
names, the text and the other fields add up to no more than a payload
(`aoiMessages_fit_iff`). What fits is posted whole (`sentWhole_of_fits`).

Of protobuf the format of the messages is relied on (`WireFormat`), and not the order
in which it writes the fields of one. The names of accounts have 1 to 50 bytes, so each
takes two bytes more in a message. `bits` are the 32 bits of a float; no length depends
on which they are.
-/
import MMOServers.GameServer.AudienceTheorems
import MMOServers.GameServer.AttackTheorems
import MMOServers.Lib.Protobuf
import MMOServers.Lib.Run
import MMOServers.Network.SendBuffer

namespace MMOServers.Common

open Protobuf

/-! ## The messages on the wire -/

section Wire

variable {F : Type} (bits : F → UInt32)

def GameGatewayMoveRes.wire (m : GameGatewayMoveRes F) : List UInt8 :=
  stringField 1 m.accountId ++ floatField 2 (bits m.x) ++ floatField 3 (bits m.y) ++
    floatField 4 (bits m.z) ++ floatField 5 (bits m.yaw) ++ stringsField 6 m.targetAccountIds

def GameGatewayAttackRes.wire (m : GameGatewayAttackRes) : List UInt8 :=
  uint64Field 1 m.attackerUid ++ uint64Field 2 m.targetUid ++ int32Field 3 m.damage ++
    int32Field 4 m.targetRemainHp ++ stringsField 5 m.targetAccountIds ++
    stringField 6 m.targetAccountId

def GameGatewayChatRes.wire (m : GameGatewayChatRes) : List UInt8 :=
  stringField 1 m.accountId ++ stringField 2 m.msg ++ stringsField 3 m.targetAccountIds

def TokenNotify.wire (m : TokenNotify) : List UInt8 :=
  stringField 1 m.accountId ++ stringField 2 m.sessionToken ++
    int64Field 3 (Int64.ofInt m.expireTimeMs)

end Wire

/-! ## Names -/

/-- The length that a name of an account has. -/
def Named (accId : String) : Prop := 1 ≤ accId.utf8ByteSize ∧ accId.utf8ByteSize ≤ 50

/-- What a list of names takes in a message. -/
def namesSize (accIds : List String) : Nat := (accIds.map fun id => id.utf8ByteSize + 2).sum

theorem Named.ne_empty {accId : String} (h : Named accId) : accId ≠ "" := by
  rintro rfl
  exact absurd h.1 (by decide)

theorem Named.stringField_length {accId : String} (h : Named accId) {field : Nat}
    (hfield : field < 16) : (stringField field accId).length = accId.utf8ByteSize + 2 := by
  have hmax := h.2
  rw [Protobuf.stringField_length hfield h.ne_empty (by omega), if_pos (by omega)]

theorem stringsField_named {accIds : List String} (h : ∀ id ∈ accIds, Named id) {field : Nat}
    (hfield : field < 16) : (stringsField field accIds).length = namesSize accIds :=
  stringsField_length hfield fun id hid => Nat.lt_of_le_of_lt (h id hid).2 (by decide)

theorem namesSize_le {accIds : List String} (h : ∀ id ∈ accIds, Named id) :
    namesSize accIds ≤ 52 * accIds.length := by
  induction accIds with
  | nil => exact Nat.le_refl 0
  | cons id rest ih =>
      obtain ⟨hid, hrest⟩ := List.forall_mem_cons.mp h
      have hmax := hid.2
      have hsum := ih hrest
      simp only [namesSize, List.map_cons, List.sum_cons, List.length_cons] at hsum ⊢
      omega

end MMOServers.Common

namespace MMOServers.GameServer

open MMOServers.Common MMOServers.Network Protobuf Transition

/-- The fields of a message, in the order of their numbers. -/
def ToGateway.wire {F : Type} (bits : F → UInt32) : ToGateway F → List UInt8
  | .moveRes m => m.wire bits
  | .attackRes m => m.wire
  | .chatRes m => m.wire
  | .tokenNotify m => m.wire

/-- What protobuf makes of a message is the bytes of its fields. -/
structure WireFormat {F : Type} (bits : F → UInt32) (serialize : ToGateway F → List UInt8) :
    Prop where
  perm : ∀ m, (serialize m).Perm (m.wire bits)

theorem WireFormat.length_eq {F : Type} {bits : F → UInt32}
    {serialize : ToGateway F → List UInt8} (h : WireFormat bits serialize) (m : ToGateway F) :
    (serialize m).length = (m.wire bits).length :=
  (h.perm m).length_eq

/-- The payload of a packet of the largest size. -/
def maxPayload : Nat := maxPacketSize - PacketHeader.byteSize

def ToGateway.Fits {F : Type} (serialize : ToGateway F → List UInt8) (m : ToGateway F) : Prop :=
  (serialize m).length ≤ maxPayload

/-- What fits is not dropped. -/
theorem sentWhole_of_fits {F : Type} {serialize : ToGateway F → List UInt8} {m : ToGateway F}
    (h : m.Fits serialize) (buffer : SendBuffer) (pktId : UInt16) :
    ∃ p, pooledSend buffer pktId (serialize m) = some p ∧ p.Whole pktId (serialize m) := by
  have hkept : ¬ Dropped (serialize m).length := by
    have hlen : (serialize m).length ≤ 4092 := h
    rintro ⟨hlarge, -⟩
    rw [Nat.mod_eq_of_lt (by omega)] at hlarge
    exact absurd hlen (Nat.not_le.mpr hlarge)
  obtain ⟨p, hp⟩ := Option.ne_none_iff_exists'.mp
    (mt (pooledSend_eq_none_iff buffer pktId (serialize m)).mp hkept)
  exact ⟨p, hp, (pooledSend_whole_iff buffer pktId _).mpr (Or.inl h) p hp⟩

/-! ## Sizes of the messages -/

section Sizes

variable {F : Type} {bits : F → UInt32} {serialize : ToGateway F → List UInt8}

/-- A message about a move with few names. -/
theorem moveRes_fits (hwire : WireFormat bits serialize) {m : GameGatewayMoveRes F}
    (hacc : (stringField 1 m.accountId).length ≤ 100)
    (hnamed : ∀ id ∈ m.targetAccountIds, Named id)
    (hfew : m.targetAccountIds.length ≤ GameConstants.Network.maxAoiBroadcast) :
    (ToGateway.moveRes m).Fits serialize := by
  have hnames := namesSize_le hnamed
  have hfew' : m.targetAccountIds.length ≤ 20 := hfew
  have hx := floatField_length_le (show 2 < 16 by decide) (bits m.x)
  have hy := floatField_length_le (show 3 < 16 by decide) (bits m.y)
  have hz := floatField_length_le (show 4 < 16 by decide) (bits m.z)
  have hyaw := floatField_length_le (show 5 < 16 by decide) (bits m.yaw)
  show (serialize (.moveRes m)).length ≤ 4092
  simp only [hwire.length_eq, ToGateway.wire, GameGatewayMoveRes.wire, List.length_append,
    stringsField_named hnamed (show 6 < 16 by decide)]
  omega

/-- A message about an attack with few names. -/
theorem attackRes_fits (hwire : WireFormat bits serialize) {m : GameGatewayAttackRes}
    (hacc : (stringField 6 m.targetAccountId).length ≤ 100)
    (hnamed : ∀ id ∈ m.targetAccountIds, Named id)
    (hfew : m.targetAccountIds.length ≤ GameConstants.Network.maxAoiBroadcast) :
    (ToGateway.attackRes m).Fits serialize := by
  have hnames := namesSize_le hnamed
  have hfew' : m.targetAccountIds.length ≤ 20 := hfew
  have hattacker := uint64Field_length_le (show 1 < 16 by decide) m.attackerUid
  have htarget := uint64Field_length_le (show 2 < 16 by decide) m.targetUid
  have hdamage := int32Field_length_le (show 3 < 16 by decide) m.damage
  have hhp := int32Field_length_le (show 4 < 16 by decide) m.targetRemainHp
  show (serialize (.attackRes m)).length ≤ 4092
  simp only [hwire.length_eq, ToGateway.wire, GameGatewayAttackRes.wire, List.length_append,
    stringsField_named hnamed (show 5 < 16 by decide)]
  omega

end Sizes

/-! ## The calls that build the messages -/

/-- The three handlers and the attack callback of the monsters. -/
inductive AoiCall (σ : Type) where
  | moveReq (gw : σ) (order : IterationOrder) (payload : List UInt8)
  | attackReq (order : IterationOrder) (payload : List UInt8)
  | chatReq (gw : σ) (order : IterationOrder) (payload : List UInt8)
  | attackCallback (order : IterationOrder) (attackerUid targetUid : Nat) (damage : Int)

namespace GameContext

variable {K σ : Type} {bits : K → UInt32} {serialize : ToGateway K → List UInt8}

/-- All messages that a call has added fit. -/
def MessagesFit (serialize : ToGateway K → List UInt8) (s s' : GameContext K σ) : Prop :=
  ∀ new, s'.sent = new ++ s.sent → ∀ o ∈ new, o.message.Fits serialize

theorem messagesFit_iff {s s' : GameContext K σ} {new : List (Outgoing K σ)}
    (h : s'.sent = new ++ s.sent) :
    MessagesFit serialize s s' ↔ ∀ o ∈ new, o.message.Fits serialize := by
  constructor
  · intro hfit
    exact hfit new h
  · intro hfit new' h'
    rwa [← List.append_cancel_right (h.symm.trans h')]

theorem messagesFit_silent {s s' : GameContext K σ} (h : s'.sent = s.sent) :
    MessagesFit serialize s s' := by
  have hnew : s'.sent = [] ++ s.sent := h
  rw [messagesFit_iff hnew]
  simp

theorem messagesFit_single {s s' : GameContext K σ} {o : Outgoing K σ}
    (h : s'.sent = o :: s.sent) : MessagesFit serialize s s' ↔ o.message.Fits serialize := by
  have hnew : s'.sent = [o] ++ s.sent := h
  rw [messagesFit_iff hnew]
  simp

/-- Accounts have names and monsters have ids of 64 bits. -/
structure Sized (s : GameContext K σ) : Prop where
  accounts : ∀ uid accId, s.uidToAccount uid = some accId → Named accId
  players : ∀ accId p, s.playerMap accId = some p → Named accId
  monsters : ∀ m ∈ s.monsters, m.monsterId < 2 ^ 64

theorem Sized.accounts_named {s : GameContext K σ} (h : s.Sized) (uids : List Nat) :
    ∀ id ∈ s.accounts uids, Named id := by
  intro id hid
  obtain ⟨uid, -, hacc⟩ := List.mem_filterMap.mp hid
  exact h.accounts uid id hacc

theorem length_named_le (names : Nat → Option String) (uids : List Nat) (n : Nat) :
    ((uids.take n).filterMap names).length ≤ n :=
  (List.length_filterMap_le _ _).trans (List.length_take_le n uids)

/-! ## Moves -/

/-- The accounts after a move are named when the mover is. -/
theorem Sized.movedAccounts_named {s : GameContext K σ} (h : s.Sized) {accId : String}
    (hacc : Named accId) {uid : Nat} {id : String} (hid : s.movedAccounts accId uid = some id) :
    Named id := by
  cases hp : s.playerMap accId with
  | some p =>
      simp only [movedAccounts, hp] at hid
      exact h.accounts uid id hid
  | none =>
      simp only [movedAccounts, hp, Function.update_apply] at hid
      split at hid
      · exact Option.some.inj hid ▸ hacc
      · exact h.accounts uid id hid

section Moves

variable [DecidableEq σ] [IntCast K] [Div K] [LT K] [LE K] [DecidableLT K] [DecidableLE K]
  [TruncInt K] {env : GameEnv K}

theorem handleGatewayGameMoveReq_fits (hwire : WireFormat bits serialize) {s : GameContext K σ}
    (h : s.Sized) (gw : σ) (order : IterationOrder) {payload : List UInt8}
    (hacc : ∀ req, env.parseMoveReq payload = some req → Named req.accountId) :
    MessagesFit serialize s (s.handleGatewayGameMoveReq env gw order payload) := by
  cases hparse : env.parseMoveReq payload with
  | none => exact messagesFit_silent (by simp only [handleGatewayGameMoveReq, hparse])
  | some req =>
      have hreq := hacc req hparse
      rw [messagesFit_single (handleGatewayGameMoveReq_answer s gw order hparse)]
      refine moveRes_fits hwire ?_ ?_ (length_named_le _ _ _)
      · have hmax := hreq.2
        rw [hreq.stringField_length (by decide)]
        omega
      · intro id hid
        obtain ⟨uid, -, huid⟩ := List.mem_filterMap.mp hid
        exact h.movedAccounts_named hreq huid

/-! ## Chat -/

/-- The fields of the answer to a chat request add up to no more than a payload. -/
def ChatHasRoom (env : GameEnv K) (s : GameContext K σ) (order : IterationOrder)
    (payload : List UInt8) : Prop :=
  ∀ req p, env.parseChatReq payload = some req → s.playerMap req.accountId = some p →
    (req.accountId.utf8ByteSize + 2) + (stringField 2 req.msg).length +
      namesSize (s.accounts (s.zone.getPlayersInAOI order p.x p.y)) ≤ maxPayload

omit [DecidableEq σ] [IntCast K] [Div K] [LT K] [LE K] [DecidableLT K] [DecidableLE K]
  [TruncInt K] in
theorem chatRes_length {s : GameContext K σ} (h : s.Sized) {accId : String} (msg : String)
    {p : PlayerInfo K} (hp : s.playerMap accId = some p) (uids : List Nat) :
    (GameGatewayChatRes.wire ⟨accId, msg, s.accounts uids⟩).length
      = (accId.utf8ByteSize + 2) + (stringField 2 msg).length + namesSize (s.accounts uids) := by
  simp only [GameGatewayChatRes.wire, List.length_append,
    (h.players _ p hp).stringField_length (show 1 < 16 by decide),
    stringsField_named (h.accounts_named _) (show 3 < 16 by decide)]

omit [DecidableEq σ] in
theorem handleGatewayGameChatReq_fits_iff (hwire : WireFormat bits serialize)
    {s : GameContext K σ} (h : s.Sized) (gw : σ) (order : IterationOrder)
    (payload : List UInt8) :
    MessagesFit serialize s (s.handleGatewayGameChatReq env gw order payload)
      ↔ s.ChatHasRoom env order payload := by
  by_cases hplayer : ∃ req p, env.parseChatReq payload = some req ∧
      s.playerMap req.accountId = some p
  · obtain ⟨req, p, hparse, hp⟩ := hplayer
    rw [messagesFit_single (handleGatewayGameChatReq_answer s gw order hparse hp)]
    have hlength := (hwire.length_eq (.chatRes ⟨_, _, _⟩)).trans
      (chatRes_length h req.msg hp (s.zone.getPlayersInAOI order p.x p.y))
    constructor
    · intro hfits req' p' hparse' hp'
      rw [hparse, Option.some.injEq] at hparse'
      subst hparse'
      rw [hp, Option.some.injEq] at hp'
      subst hp'
      exact hlength ▸ hfits
    · intro hroom
      exact hlength.le.trans (hroom req p hparse hp)
  · have hsame : s.handleGatewayGameChatReq env gw order payload = s :=
      handleGatewayGameChatReq_silent fun req p hparse hp => hplayer ⟨req, p, hparse, hp⟩
    rw [hsame]
    exact iff_of_true (messagesFit_silent rfl) fun req p hparse hp =>
      absurd ⟨req, p, hparse, hp⟩ hplayer

end Moves

/-! ## Attacks of players -/

variable [Field K] [LinearOrder K] [FloorRing K] [HasSqrt K]

omit [Field K] [LinearOrder K] [FloorRing K] [HasSqrt K] in
/-- The name that a monster goes by in a message. -/
theorem monsterName_field_le {id : Nat} (hid : id < 2 ^ 64) :
    (stringField 6 (monsterName id)).length ≤ 100 := by
  have hdigits : (Nat.toDigits 10 id).length ≤ 20 :=
    (Nat.length_toDigits_le_iff (by decide) (by decide)).mpr (hid.trans (by decide))
  have hbytes : (toString id).utf8ByteSize ≤ 4 * (Nat.toDigits 10 id).length :=
    utf8ByteSize_ofList_le _
  have hsize : (monsterName id).utf8ByteSize = 8 + (toString id).utf8ByteSize := by
    rw [monsterName, String.utf8ByteSize_append]
    rfl
  have hne : monsterName id ≠ "" := by
    intro h
    have hzero : (monsterName id).utf8ByteSize = 0 := by rw [h]; rfl
    omega
  rw [stringField_length (by decide) hne (by omega), if_pos (by omega)]
  omega

omit [FloorRing K] in
theorem nearestMonster_mem {s : GameContext K σ} {p : PlayerInfo K} {ids : List Nat}
    {radius : K} {i : Nat} {m : Monster K}
    (h : s.nearestMonster p.x p.y ids none radius = some (i, m)) : m ∈ s.monsters := by
  rw [nearestMonster_eq_scan] at h
  rcases Nearest.scan_cases ids none radius with ⟨hscan, -⟩ | ⟨found, hscan, hwithin, -⟩
  · rw [hscan] at h
    cases h
  · rw [hscan, Option.some.injEq] at h
    subst h
    obtain ⟨⟨id, -, hfound⟩, -⟩ := hwithin
    exact List.mem_of_getElem? (livingMonster_some.mp hfound).2.1

theorem handleGatewayGameAttackReq_fits (hwire : WireFormat bits serialize) {env : GameEnv K}
    {s : GameContext K σ} (h : s.Sized) (order : IterationOrder) (payload : List UInt8) :
    MessagesFit serialize s (s.handleGatewayGameAttackReq env order payload) := by
  unfold handleGatewayGameAttackReq
  cases env.parseAttackReq payload with
  | none => exact messagesFit_silent rfl
  | some req =>
      dsimp only
      cases hp : s.playerMap req.accountId with
      | none => exact messagesFit_silent rfl
      | some p =>
          dsimp only
          cases hnearest : s.nearestMonster p.x p.y (s.zone.getMonstersInAOI order p.x p.y) none
              GameConstants.Combat.playerAttackRange with
          | none =>
              rw [messagesFit_single rfl]
              refine attackRes_fits hwire (show (stringField 6 "").length ≤ 100 by decide) ?_
                (show 1 ≤ GameConstants.Network.maxAoiBroadcast by decide)
              simpa using h.players _ p hp
          | some found =>
              obtain ⟨i, m⟩ := found
              have hid := h.monsters m (nearestMonster_mem hnearest)
              rw [messagesFit_single rfl]
              exact attackRes_fits hwire (monsterName_field_le hid) (h.accounts_named _)
                (length_named_le _ _ _)

/-! ## Attacks of monsters -/

/-- The fields of the message about the hit of a monster add up to no more than a
    payload. -/
def CallbackHasRoom (s : GameContext K σ) (order : IterationOrder)
    (attackerUid targetUid : Nat) (damage : Int) : Prop :=
  ∀ accId p, s.playerOf targetUid = some (accId, p) →
    (uint64Field 1 (UInt64.ofNat attackerUid)).length +
      (uint64Field 2 (UInt64.ofNat targetUid)).length +
      (int32Field 3 (Int32.ofInt damage)).length +
      (int32Field 4 (Int32.ofInt (p.takeDamage damage).hp)).length +
      namesSize (s.accounts (s.zone.getPlayersInAOI order p.x p.y)) +
      (accId.utf8ByteSize + 2) ≤ maxPayload

omit [Field K] [LinearOrder K] [FloorRing K] [HasSqrt K] in
theorem playerOf_named {s : GameContext K σ} (h : s.Sized) {uid : Nat} {accId : String}
    {p : PlayerInfo K} (hplayer : s.playerOf uid = some (accId, p)) : Named accId := by
  obtain ⟨a, hacc, hmap⟩ := Option.bind_eq_some_iff.mp hplayer
  obtain ⟨q, -, heq⟩ := Option.map_eq_some_iff.mp hmap
  exact (Prod.mk.inj heq).1 ▸ h.accounts uid a hacc

omit [LinearOrder K] [FloorRing K] [HasSqrt K] in
/-- The message to a player that has died, about the spawn point. -/
theorem homeMessage_fits (hwire : WireFormat bits serialize) {accId : String}
    (h : Named accId) :
    (ToGateway.moveRes ⟨accId, (GameConstants.Player.spawnX : K),
      (GameConstants.Player.spawnY : K), 0, 0, [accId]⟩).Fits serialize := by
  refine moveRes_fits hwire ?_ (fun id hid => ?_)
    (show 1 ≤ GameConstants.Network.maxAoiBroadcast by decide)
  · have hmax := h.2
    rw [h.stringField_length (by decide)]
    omega
  · rwa [List.mem_singleton.mp hid]

/-- The message about the hit of a monster. -/
def hitMessage (s : GameContext K σ) (order : IterationOrder) (attackerUid targetUid : Nat)
    (damage : Int) (accId : String) (p : PlayerInfo K) : GameGatewayAttackRes :=
  ⟨UInt64.ofNat attackerUid, UInt64.ofNat targetUid, Int32.ofInt damage,
    Int32.ofInt (p.takeDamage damage).hp, s.accounts (s.zone.getPlayersInAOI order p.x p.y),
    accId⟩

omit [HasSqrt K] in
/-- The attack callback sends the message about the hit, and after it perhaps one
    about the spawn point. -/
theorem attackPlayer_sent {s : GameContext K σ} (order : IterationOrder) (attackerUid : Nat)
    (damage : Int) {targetUid : Nat} {accId : String} {p : PlayerInfo K}
    (hplayer : s.playerOf targetUid = some (accId, p)) :
    ∃ after : List (Outgoing K σ),
      (s.attackPlayer order attackerUid targetUid damage).sent
        = (after ++ [.broadcast (.attackRes
          (s.hitMessage order attackerUid targetUid damage accId p))]) ++ s.sent ∧
      ∀ o ∈ after, o = .broadcast (.moveRes ⟨accId, (GameConstants.Player.spawnX : K),
        (GameConstants.Player.spawnY : K), 0, 0, [accId]⟩) := by
  simp only [attackPlayer, hplayer]
  split
  · refine ⟨[_], rfl, fun o ho => ?_⟩
    exact List.mem_singleton.mp ho
  · exact ⟨[], rfl, fun o ho => absurd ho List.not_mem_nil⟩

omit [HasSqrt K] in
theorem attackPlayer_fits_iff (hwire : WireFormat bits serialize) {s : GameContext K σ}
    (h : s.Sized) (order : IterationOrder) (attackerUid targetUid : Nat) (damage : Int) :
    MessagesFit serialize s (s.attackPlayer order attackerUid targetUid damage)
      ↔ s.CallbackHasRoom order attackerUid targetUid damage := by
  cases hplayer : s.playerOf targetUid with
  | none =>
      refine iff_of_true (messagesFit_silent ?_) fun accId p hp => ?_
      · simp only [attackPlayer, hplayer]
      · rw [hplayer] at hp
        cases hp
  | some found =>
      obtain ⟨accId, p⟩ := found
      have hnamed := playerOf_named h hplayer
      obtain ⟨after, hsent, hafter⟩ := attackPlayer_sent order attackerUid damage hplayer
      have hsize : (serialize (.attackRes
            (s.hitMessage order attackerUid targetUid damage accId p))).length
          = (uint64Field 1 (UInt64.ofNat attackerUid)).length +
            (uint64Field 2 (UInt64.ofNat targetUid)).length +
            (int32Field 3 (Int32.ofInt damage)).length +
            (int32Field 4 (Int32.ofInt (p.takeDamage damage).hp)).length +
            namesSize (s.accounts (s.zone.getPlayersInAOI order p.x p.y)) +
            (accId.utf8ByteSize + 2) := by
        simp only [hwire.length_eq, ToGateway.wire, hitMessage, GameGatewayAttackRes.wire,
          List.length_append, hnamed.stringField_length (show 6 < 16 by decide),
          stringsField_named (h.accounts_named _) (show 5 < 16 by decide)]
      rw [messagesFit_iff hsent]
      constructor
      · intro hfits accId' p' hplayer'
        rw [hplayer, Option.some.injEq, Prod.mk.injEq] at hplayer'
        obtain ⟨rfl, rfl⟩ := hplayer'
        exact hsize ▸ hfits _ (List.mem_append_right _ (List.mem_singleton_self _))
      · intro hroom o ho
        rcases List.mem_append.mp ho with ho | ho
        · rw [hafter o ho]
          exact homeMessage_fits hwire hnamed
        · rw [List.mem_singleton.mp ho]
          exact hsize.le.trans (hroom accId p hplayer)

omit [HasSqrt K] in
/-- The hit of a monster is told to 76 accounts, whatever their names are. -/
theorem callbackHasRoom_of_few {s : GameContext K σ} (h : s.Sized) (order : IterationOrder)
    (attackerUid targetUid : Nat) (damage : Int)
    (hfew : ∀ accId p, s.playerOf targetUid = some (accId, p) →
      (s.accounts (s.zone.getPlayersInAOI order p.x p.y)).length ≤ 76) :
    s.CallbackHasRoom order attackerUid targetUid damage := by
  intro accId p hplayer
  have hnames := namesSize_le (h.accounts_named (s.zone.getPlayersInAOI order p.x p.y))
  have hcount := hfew accId p hplayer
  have hacc := (playerOf_named h hplayer).2
  have hattacker := uint64Field_length_le (show 1 < 16 by decide) (UInt64.ofNat attackerUid)
  have htarget := uint64Field_length_le (show 2 < 16 by decide) (UInt64.ofNat targetUid)
  have hdamage := int32Field_length_le (show 3 < 16 by decide) (Int32.ofInt damage)
  have hhp := int32Field_length_le (show 4 < 16 by decide)
    (Int32.ofInt (p.takeDamage damage).hp)
  show _ ≤ 4092
  omega

/-! ## All calls -/

variable [DecidableEq σ]

/-- The state after a call. -/
def run (env : GameEnv K) (s : GameContext K σ) : AoiCall σ → GameContext K σ
  | .moveReq gw order payload => s.handleGatewayGameMoveReq env gw order payload
  | .attackReq order payload => s.handleGatewayGameAttackReq env order payload
  | .chatReq gw order payload => s.handleGatewayGameChatReq env gw order payload
  | .attackCallback order attackerUid targetUid damage =>
      s.attackPlayer order attackerUid targetUid damage

/-- The account that a first move brings in has a name. -/
def CallerNamed (env : GameEnv K) : AoiCall σ → Prop
  | .moveReq _ _ payload => ∀ req, env.parseMoveReq payload = some req → Named req.accountId
  | _ => True

/-- What the messages of a call are made of adds up to no more than a payload. -/
def HasRoomFor (env : GameEnv K) (s : GameContext K σ) : AoiCall σ → Prop
  | .moveReq _ _ _ => True
  | .attackReq _ _ => True
  | .chatReq _ order payload => s.ChatHasRoom env order payload
  | .attackCallback order attackerUid targetUid damage =>
      s.CallbackHasRoom order attackerUid targetUid damage

/-- The messages about moves and about the attacks of players always fit, and those
    about chats and about the attacks of monsters when there is room. -/
theorem aoiMessages_fit_iff (hwire : WireFormat bits serialize) (env : GameEnv K)
    {s : GameContext K σ} (h : s.Sized) {call : AoiCall σ} (hcall : CallerNamed env call) :
    MessagesFit serialize s (s.run env call) ↔ s.HasRoomFor env call := by
  cases call with
  | moveReq gw order payload =>
      exact iff_of_true (handleGatewayGameMoveReq_fits hwire h gw order hcall) trivial
  | attackReq order payload =>
      exact iff_of_true (handleGatewayGameAttackReq_fits hwire h order payload) trivial
  | chatReq gw order payload => exact handleGatewayGameChatReq_fits_iff hwire h gw order payload
  | attackCallback order attackerUid targetUid damage =>
      exact attackPlayer_fits_iff hwire h order attackerUid targetUid damage

/-! ## A long text -/

/-- 50 bytes. -/
@[irreducible] def longName : String := String.ofList (List.replicate 50 'a')

/-- 4000 bytes. -/
@[irreducible] def longText : String := String.ofList (List.replicate 4000 'x')

def longNameMove : List UInt8 := stringField 1 longName ++ floatField 2 0x41200000

def longTextChat : List UInt8 := stringField 1 longName ++ stringField 2 longText

/-- The protobuf encoding of a move to (10, 0) and of a chat. -/
def longEnv : GameEnv ℚ :=
  { GameEnv.sample with
      parseMoveReq := fun payload =>
        if payload = longNameMove then some ⟨longName, 10, 0, 0, 0⟩ else none
      parseChatReq := fun payload =>
        if payload = longTextChat then some ⟨longName, longText⟩ else none }

/-- The bits of the coordinates in the answer to the move. -/
def longBits (v : ℚ) : UInt32 := if v = 10 then 0x41200000 else 0

/-- The fields are written in the order of their numbers. -/
def longSerialize (m : ToGateway ℚ) : List UInt8 := m.wire longBits

theorem longSerialize_wireFormat : WireFormat longBits longSerialize :=
  ⟨fun m => List.Perm.refl (m.wire longBits)⟩

/-- One player is online, alone on the map. -/
def alone : GameContext ℚ Nat :=
  (start []).handleGatewayGameMoveReq longEnv 0 .listed longNameMove

theorem longName_size : longName.utf8ByteSize = 50 := by
  unfold longName
  rw [utf8ByteSize_replicate]
  rfl

theorem longText_size : longText.utf8ByteSize = 4000 := by
  have hchar : 'x'.utf8Size = 1 := rfl
  unfold longText
  rw [utf8ByteSize_replicate, hchar]

theorem longName_named : Named longName := by
  rw [Named, longName_size]
  decide

theorem longText_field : (stringField 2 longText).length = 4003 := by
  have hsize := longText_size
  have hne : longText ≠ "" := by
    intro h
    have hzero : longText.utf8ByteSize = 0 := by rw [h]; rfl
    omega
  rw [stringField_length (by decide) hne (by omega), hsize]
  rfl

theorem longTextChat_length : longTextChat.length = 4055 := by
  have hname := longName_named.stringField_length (show 1 < 16 by decide)
  rw [longTextChat, List.length_append, hname, longName_size, longText_field]

theorem longEnv_move : longEnv.parseMoveReq longNameMove = some ⟨longName, 10, 0, 0, 0⟩ :=
  if_pos rfl

theorem longEnv_chat : longEnv.parseChatReq longTextChat = some ⟨longName, longText⟩ :=
  if_pos rfl

theorem clamp_ten : clamp GameConstants.Map.width (10 : ℚ) = 10 := by decide +kernel

theorem clamp_zero : clamp GameConstants.Map.height (0 : ℚ) = 0 := by decide +kernel

theorem alone_uidToAccount :
    alone.uidToAccount = Function.update (fun _ => none) 1 (some longName) := by
  simp only [alone, handleGatewayGameMoveReq, longEnv_move]
  rfl

theorem alone_playerMap : alone.playerMap = Function.update (fun _ => none) longName
    (some { uid := 1, x := 10, y := 0 }) := by
  simp only [alone, handleGatewayGameMoveReq, longEnv_move, clamp_ten, clamp_zero]
  exact Function.update_idem _ _ _

theorem alone_around : alone.zone.getPlayersInAOI .listed (10 : ℚ) 0 = [1] := by
  have hzone : alone.zone = (Zone.enterZone { size := mapSize } 1 (10 : ℚ) 0).updatePosition
      1 (10 : ℚ) 0 10 0 := by
    simp only [alone, handleGatewayGameMoveReq, longEnv_move, clamp_ten, clamp_zero]
    rfl
  rw [hzone]
  decide +kernel

theorem alone_sized : alone.Sized := by
  refine ⟨fun uid accId h => ?_, fun accId p h => ?_, fun m h => ?_⟩
  · rw [alone_uidToAccount, Function.update_apply] at h
    split at h
    · exact Option.some.inj h ▸ longName_named
    · cases h
  · rw [alone_playerMap, Function.update_apply] at h
    split at h
    · rename_i hacc
      exact hacc ▸ longName_named
    · cases h
  · have hnone : alone.monsters = [] := by
      simp only [alone, handleGatewayGameMoveReq, longEnv_move]
      rfl
    rw [hnone] at h
    cases h

theorem alone_player : alone.playerMap longName = some { uid := 1, x := 10, y := 0 } := by
  rw [alone_playerMap, Function.update_self]

theorem alone_named : alone.accounts [1] = [longName] := by
  simp [accounts, alone_uidToAccount]

/-- The answer to the chat. -/
theorem alone_chat :
    (alone.run longEnv (.chatReq 0 .listed longTextChat)).sent
      = .send 0 (.chatRes ⟨longName, longText, [longName]⟩) :: alone.sent := by
  have hanswer := handleGatewayGameChatReq_answer alone 0 .listed longEnv_chat alone_player
  rwa [alone_around, alone_named] at hanswer

theorem alone_chat_length :
    (longSerialize (.chatRes ⟨longName, longText, [longName]⟩)).length = 4107 := by
  have hnames : namesSize [longName] = 52 := by
    simp [namesSize, longName_size]
  have hlength := chatRes_length alone_sized longText alone_player [1]
  rw [alone_named, longName_size, longText_field, hnames] at hlength
  exact hlength

theorem aoiMessages_fit_alone :
    MessagesFit longSerialize alone (alone.run longEnv (.chatReq 0 .listed longTextChat))
      ↔ alone.HasRoomFor longEnv (.chatReq 0 .listed longTextChat) :=
  aoiMessages_fit_iff longSerialize_wireFormat longEnv alone_sized trivial

/-- The first move of one player and a text of 4000 bytes, which fits into the
    request but not into the answer. -/
theorem aoiMessages_longText :
    exec (step longEnv) (start []) [.packet 0 PacketId.gatewayGameMoveReq longNameMove .listed]
        = some alone ∧
      alone.Sized ∧ longTextChat.length ≤ maxPayload ∧
      ¬ MessagesFit longSerialize alone (alone.run longEnv (.chatReq 0 .listed longTextChat)) ∧
      ∃ m, (alone.run longEnv (.chatReq 0 .listed longTextChat)).sent = .send 0 m :: alone.sent ∧
        ∀ buffer, pooledSend buffer PacketId.gameGatewayChatRes (longSerialize m) = none := by
  refine ⟨rfl, alone_sized, ?_, ?_, _, alone_chat, fun buffer => ?_⟩
  · rw [longTextChat_length]
    decide
  · rw [messagesFit_single alone_chat]
    intro hfits
    have hlength : (longSerialize (.chatRes ⟨longName, longText, [longName]⟩)).length ≤ 4092 :=
      hfits
    rw [alone_chat_length] at hlength
    exact absurd hlength (by decide)
  · rw [pooledSend_eq_none_iff, alone_chat_length]
    decide

end GameContext

end MMOServers.GameServer
