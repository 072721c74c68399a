/-
MMOServers.WorldServer.WorldContext — the world server.

Login servers and game servers connect to it, and so can anybody else; a peer is
named by a type `π`. Every peer with a session gets every token notice, and the
one that asked gets the answer. One thread runs the handlers, so a request is one
step; the session token and the clock reading it takes are arguments.

`posted` are the packets that were sent to a peer and have not arrived, the
oldest first. Sizes are not cut to 16 bits here: what the server sends is made
from one packet it has read, and stays far below that.
-/
import MMOServers.Common.PacketHeader
import MMOServers.Common.Protocol
import Mathlib.Logic.Function.Basic

namespace MMOServers.Common

namespace SecurityConstants

def tokenLifetimeMs : Int := 300000

end SecurityConstants

/-- A packet between servers. -/
structure S2SPacket where
  id : UInt16
  payload : List UInt8
  deriving DecidableEq

/-- The packet of a message, none when it is too large to be sent. -/
def S2SPacket.frame (id : UInt16) (serialized : List UInt8) : Option S2SPacket :=
  if PacketHeader.byteSize + serialized.length > maxPacketSize then none else some ⟨id, serialized⟩

/-- What `GenerateSessionToken(32)` returns: 32 bytes in hexadecimal. -/
def IsSessionToken (token : String) : Prop :=
  token.length = 64 ∧ ∀ c ∈ token.toList, c ∈ "0123456789abcdef".toList

instance (token : String) : Decidable (IsSessionToken token) :=
  @instDecidableAnd _ _ _ (List.decidableBAll _ _)

end MMOServers.Common

namespace MMOServers.WorldServer

open MMOServers.Common

/-- The protobuf functions and the settings of the server. -/
structure WorldEnv where
  parseLoginWorldSelectReq : List UInt8 → Option LoginWorldSelectReq
  serializeTokenNotify : TokenNotify → List UInt8
  serializeWorldLoginSelectRes : WorldLoginSelectRes → List UInt8
  serializeMonsterBuffReq : WorldGameMonsterBuffReq → List UInt8
  gatewayServerPort : Int32

structure TokenEntry where
  accountId : String
  token : String
  expireMs : Int
  deriving DecidableEq

structure WorldContext (π : Type) where
  /-- Who has a session in `g_serverSessions`. -/
  serverSessions : π → Bool := fun _ => false
  tokenStore : String → Option TokenEntry := fun _ => none
  posted : π → List S2SPacket := fun _ => []

namespace WorldContext

variable {π : Type} [DecidableEq π] (env : WorldEnv)

/-! ## Sending -/

/-- `ServerSession::Send` of a serialized message. -/
def send (s : WorldContext π) (p : π) (id : UInt16) (serialized : List UInt8) : WorldContext π :=
  if !s.serverSessions p then s
  else
    { s with
        posted := Function.update s.posted p
          (s.posted p ++ (S2SPacket.frame id serialized).toList) }

/-- The loops over `g_serverSessions`. -/
def sendToAll (s : WorldContext π) (id : UInt16) (serialized : List UInt8) : WorldContext π :=
  { s with
      posted := fun p =>
        if s.serverSessions p then s.posted p ++ (S2SPacket.frame id serialized).toList
        else s.posted p }

/-! ## The token store -/

def storeToken (s : WorldContext π) (accountId token : String) (nowMs : Int) : WorldContext π :=
  { s with
      tokenStore := Function.update s.tokenStore accountId
        (some ⟨accountId, token, nowMs + SecurityConstants.tokenLifetimeMs⟩) }

def getExpireTime (s : WorldContext π) (accountId : String) : Int :=
  match s.tokenStore accountId with
  | none => 0
  | some entry => entry.expireMs

/-! ## Handlers -/

def handleWorldLoginSelectReq (s : WorldContext π) (p : π) (payload : List UInt8)
    (newToken : String) (nowMs : Int) : WorldContext π :=
  match env.parseLoginWorldSelectReq payload with
  | none => s
  | some req =>
      let s := s.storeToken req.accountId newToken nowMs
      let expireMs := s.getExpireTime req.accountId
      let s := s.sendToAll PacketId.worldGameTokenNotify
        (env.serializeTokenNotify ⟨req.accountId, newToken, expireMs⟩)
      s.send p PacketId.worldLoginSelectRes (env.serializeWorldLoginSelectRes
        ⟨req.accountId, true, "127.0.0.1", env.gatewayServerPort, newToken⟩)

/-- `g_s2s_dispatcher.Dispatch`. -/
def dispatch (s : WorldContext π) (p : π) (packet : S2SPacket) (newToken : String)
    (nowMs : Int) : WorldContext π :=
  if packet.id = PacketId.loginWorldSelectReq then
    s.handleWorldLoginSelectReq env p packet.payload newToken nowMs
  else s

/-- `AdminServiceImpl::BuffMonsterHp`. -/
def buffMonsterHp (s : WorldContext π) (addHp : Int32) : WorldContext π :=
  if addHp ≤ 0 then s
  else
    s.sendToAll PacketId.worldGameMonsterBuff
      (env.serializeMonsterBuffReq ⟨10000, 100000, addHp⟩)

/-! ## Connections -/

/-- A peer connects or its connection breaks. What was on its way on the old
    connection is lost. -/
def setLink (s : WorldContext π) (p : π) (linked : Bool) : WorldContext π :=
  { s with serverSessions := Function.update s.serverSessions p linked
           posted := Function.update s.posted p [] }

/-- The next packet arrives at the peer. -/
def pop (s : WorldContext π) (p : π) : WorldContext π :=
  { s with posted := Function.update s.posted p (s.posted p).tail }

/-! ## What is posted -/

/-- The packet is a world selection. -/
def selectReqOf (env : WorldEnv) (packet : S2SPacket) : Option LoginWorldSelectReq :=
  if packet.id = PacketId.loginWorldSelectReq then env.parseLoginWorldSelectReq packet.payload
  else none

/-- At most this packet is posted to a peer, and to nobody without a session. -/
def Posts (s s' : WorldContext π) (packet : S2SPacket) : Prop :=
  ∀ q, ∃ xs, s'.posted q = s.posted q ++ xs ∧ xs.Sublist [packet] ∧
    (s.serverSessions q = false → xs = [])

omit [DecidableEq π] in
/-- Nothing is posted to a peer without a session. -/
theorem Posts.unlinked {s s' : WorldContext π} {packet : S2SPacket} (h : Posts s s' packet)
    {q : π} (hq : s.serverSessions q = false) : s'.posted q = s.posted q := by
  obtain ⟨xs, hposted, -, hnil⟩ := h q
  rw [hposted, hnil hq, List.append_nil]

omit [DecidableEq π] in
theorem frame_sublist (id : UInt16) (serialized : List UInt8) :
    (S2SPacket.frame id serialized).toList.Sublist [⟨id, serialized⟩] := by
  unfold S2SPacket.frame
  split
  · exact List.nil_sublist _
  · exact List.Sublist.refl _

theorem send_posts (s : WorldContext π) (p : π) (id : UInt16) (serialized : List UInt8) :
    Posts s (s.send p id serialized) ⟨id, serialized⟩ := by
  intro q
  unfold send
  split
  · exact ⟨[], by simp, List.nil_sublist _, fun _ => rfl⟩
  · rename_i hlinked
    by_cases hq : q = p
    · subst hq
      refine ⟨_, Function.update_self _ _ _, frame_sublist id serialized, fun hnone => ?_⟩
      simp [hnone] at hlinked
    · exact ⟨[], by simp [hq], List.nil_sublist _, fun _ => rfl⟩

omit [DecidableEq π] in
theorem sendToAll_posts (s : WorldContext π) (id : UInt16) (serialized : List UInt8) :
    Posts s (s.sendToAll id serialized) ⟨id, serialized⟩ := by
  intro q
  by_cases hq : s.serverSessions q = true
  · exact ⟨_, if_pos hq, frame_sublist id serialized, fun hnone => by simp [hq] at hnone⟩
  · exact ⟨[], by simp [sendToAll, hq], List.nil_sublist _, fun _ => rfl⟩

theorem dispatch_ignored {packet : S2SPacket} (h : selectReqOf env packet = none)
    (s : WorldContext π) (p : π) (newToken : String) (nowMs : Int) :
    s.dispatch env p packet newToken nowMs = s := by
  unfold selectReqOf at h
  unfold dispatch handleWorldLoginSelectReq
  split
  · rename_i hid
    rw [if_pos hid] at h
    rw [h]
  · rfl

/-- A world selection posts a notice to everybody, and then the answer. -/
theorem dispatch_posts {packet : S2SPacket} {req : LoginWorldSelectReq}
    (h : selectReqOf env packet = some req) (s : WorldContext π) (p : π) (newToken : String)
    (nowMs : Int) :
    ∃ s₁ expireMs,
      Posts s s₁ ⟨PacketId.worldGameTokenNotify,
        env.serializeTokenNotify ⟨req.accountId, newToken, expireMs⟩⟩ ∧
      s₁.serverSessions = s.serverSessions ∧
      Posts s₁ (s.dispatch env p packet newToken nowMs) ⟨PacketId.worldLoginSelectRes,
        env.serializeWorldLoginSelectRes
          ⟨req.accountId, true, "127.0.0.1", env.gatewayServerPort, newToken⟩⟩ := by
  unfold selectReqOf at h
  split at h
  · rename_i hid
    let stored := s.storeToken req.accountId newToken nowMs
    let expireMs := stored.getExpireTime req.accountId
    refine ⟨stored.sendToAll PacketId.worldGameTokenNotify
      (env.serializeTokenNotify ⟨req.accountId, newToken, expireMs⟩), expireMs,
      sendToAll_posts stored _ _, rfl, ?_⟩
    unfold dispatch handleWorldLoginSelectReq
    rw [if_pos hid, h]
    exact send_posts _ p _ _
  · cases h

/-- The token a world selection makes, and what it posts in front of the answer. -/
theorem dispatch_select {packet : S2SPacket} {req : LoginWorldSelectReq}
    (h : selectReqOf env packet = some req) (s : WorldContext π) (p : π) (newToken : String)
    (nowMs : Int) :
    (s.dispatch env p packet newToken nowMs).tokenStore
        = Function.update s.tokenStore req.accountId
          (some ⟨req.accountId, newToken, nowMs + SecurityConstants.tokenLifetimeMs⟩) ∧
      ∀ q, ∃ payload answers, (s.dispatch env p packet newToken nowMs).posted q
          = s.posted q ++ ((if s.serverSessions q then (S2SPacket.frame
            PacketId.worldGameTokenNotify (env.serializeTokenNotify ⟨req.accountId, newToken,
              nowMs + SecurityConstants.tokenLifetimeMs⟩)).toList else []) ++ answers) ∧
        answers.Sublist [⟨PacketId.worldLoginSelectRes, payload⟩] := by
  unfold selectReqOf at h
  split at h
  · rename_i hid
    let stored := s.storeToken req.accountId newToken nowMs
    have hexpire : stored.getExpireTime req.accountId
        = nowMs + SecurityConstants.tokenLifetimeMs := by
      simp [stored, storeToken, getExpireTime]
    unfold dispatch handleWorldLoginSelectReq
    rw [if_pos hid, h]
    dsimp only
    rw [hexpire]
    set notified := stored.sendToAll PacketId.worldGameTokenNotify (env.serializeTokenNotify
      ⟨req.accountId, newToken, nowMs + SecurityConstants.tokenLifetimeMs⟩) with hnotified
    refine ⟨?_, fun q => ?_⟩
    · unfold send
      split <;> rfl
    · obtain ⟨answers, hanswers, hsub, -⟩ := send_posts notified p PacketId.worldLoginSelectRes
        (env.serializeWorldLoginSelectRes
          ⟨req.accountId, true, "127.0.0.1", env.gatewayServerPort, newToken⟩) q
      refine ⟨_, answers, ?_, hsub⟩
      rw [hanswers, ← List.append_assoc]
      congr 1
      simp only [hnotified, sendToAll, stored, storeToken]
      split <;> simp
  · cases h

theorem dispatch_serverSessions (s : WorldContext π) (p : π) (packet : S2SPacket)
    (newToken : String) (nowMs : Int) :
    (s.dispatch env p packet newToken nowMs).serverSessions = s.serverSessions := by
  unfold dispatch handleWorldLoginSelectReq send
  dsimp only
  repeat' split
  all_goals rfl

omit [DecidableEq π] in
theorem buffMonsterHp_posts (s : WorldContext π) (addHp : Int32) :
    ∃ payload, Posts s (s.buffMonsterHp env addHp) ⟨PacketId.worldGameMonsterBuff, payload⟩ := by
  unfold buffMonsterHp
  split
  · exact ⟨[], fun q => ⟨[], by simp, List.nil_sublist _, fun _ => rfl⟩⟩
  · exact ⟨_, sendToAll_posts s _ _⟩

theorem dispatch_unlinked (s : WorldContext π) {q : π} (hq : s.serverSessions q = false) (p : π)
    (packet : S2SPacket) (newToken : String) (nowMs : Int) :
    (s.dispatch env p packet newToken nowMs).posted q = s.posted q := by
  cases hreq : selectReqOf env packet with
  | none => rw [dispatch_ignored env hreq]
  | some req =>
      obtain ⟨s₁, expireMs, hnotify, hsessions, hanswer⟩ :=
        dispatch_posts env hreq s p newToken nowMs
      rw [hanswer.unlinked (hsessions ▸ hq), hnotify.unlinked hq]

omit [DecidableEq π] in
theorem buffMonsterHp_serverSessions (s : WorldContext π) (addHp : Int32) :
    (s.buffMonsterHp env addHp).serverSessions = s.serverSessions := by
  unfold buffMonsterHp
  split <;> rfl

omit [DecidableEq π] in
theorem buffMonsterHp_tokenStore (s : WorldContext π) (addHp : Int32) :
    (s.buffMonsterHp env addHp).tokenStore = s.tokenStore := by
  unfold buffMonsterHp
  split <;> rfl

theorem setLink_posted (s : WorldContext π) (p : π) (linked : Bool) (q : π) :
    ((s.setLink p linked).posted q).Sublist (s.posted q) := by
  by_cases hq : q = p
  · simp [setLink, hq]
  · simp [setLink, hq]

theorem pop_posted (s : WorldContext π) (p q : π) :
    ((s.pop p).posted q).Sublist (s.posted q) := by
  by_cases hq : q = p
  · simpa [pop, hq] using List.tail_sublist _
  · simp [pop, hq]

end WorldContext

end MMOServers.WorldServer
