/-
MMOServers.GameServer.AudienceTheorems — whether a message gets to everybody it
names.

A message to a gateway names the accounts that are to see it, and the gateway
passes it on to those that are its own. The answers to move and chat requests go
to the session of the request only, whoever they name; attacks are sent to all
sessions. So an answer gets to everybody it names exactly when the players
around the requester have come in through the session of the request
(`reachesTargets_iff_namesOwn`).
-/
import MMOServers.GameServer.PlayerFrames
import MMOServers.Lib.Run

namespace MMOServers.GameServer

open MMOServers.Common Transition

/-! ## Messages and who gets them -/

section Messages

variable {F σ : Type}

/-- The `target_account_ids` of a message. -/
def ToGateway.targetAccountIds : ToGateway F → List String
  | .moveRes m => m.targetAccountIds
  | .attackRes m => m.targetAccountIds
  | .chatRes m => m.targetAccountIds
  | .tokenNotify _ => []

def Outgoing.message : Outgoing F σ → ToGateway F
  | .send _ m => m
  | .broadcast m => m

/-- The message is sent to the gateway session. -/
def Outgoing.SentTo (gw : σ) : Outgoing F σ → Prop
  | .send target _ => target = gw
  | .broadcast _ => True

end Messages

namespace GameContext

variable {K σ : Type}

/-- The message is sent to the gateway sessions of everybody it names. -/
def Reaches (s : GameContext K σ) (o : Outgoing K σ) : Prop :=
  ∀ t ∈ o.message.targetAccountIds, ∀ gw, t ∈ s.gatewayPlayerMap gw → o.SentTo gw

/-- The account is registered through no other gateway session. -/
def OnlyThrough (s : GameContext K σ) (gw : σ) (t : String) : Prop :=
  ∀ g, t ∈ s.gatewayPlayerMap g → g = gw

theorem send_reaches_iff {s : GameContext K σ} {gw : σ} {m : ToGateway K} :
    s.Reaches (.send gw m) ↔ ∀ t ∈ m.targetAccountIds, s.OnlyThrough gw t := by
  refine forall_congr' fun t => forall_congr' fun _ => forall_congr' fun g =>
    forall_congr' fun _ => ?_
  exact eq_comm

/-- An answer to one session, by the accounts of the uids it names. -/
theorem answer_reaches_iff {s s' : GameContext K σ} {gw : σ} {m : ToGateway K} {uids : List Nat}
    {names : Nat → Option String} (hsent : s'.sent = .send gw m :: s.sent)
    (htargets : m.targetAccountIds = uids.filterMap names)
    (honly : ∀ t, s'.OnlyThrough gw t ↔ s.OnlyThrough gw t) :
    (∀ o, s'.sent = o :: s.sent → s'.Reaches o) ↔
      ∀ uid ∈ uids, ∀ t, names uid = some t → s.OnlyThrough gw t := by
  have hreach : (∀ o, s'.sent = o :: s.sent → s'.Reaches o) ↔ s'.Reaches (.send gw m) := by
    constructor
    · intro h
      exact h _ hsent
    · intro h o ho
      rw [hsent] at ho
      exact (List.cons.inj ho).1 ▸ h
  rw [hreach, send_reaches_iff, htargets]
  simp only [List.mem_filterMap, honly]
  constructor
  · intro h uid huid t ht
    exact h t ⟨uid, huid, ht⟩
  · rintro h t ⟨uid, huid, ht⟩
    exact h uid huid t ht

/-- Nothing is answered. -/
theorem silent_reaches {s : GameContext K σ} :
    ∀ o, s.sent = o :: s.sent → s.Reaches o := by
  intro o ho
  exact absurd ho (by simp)

variable [DecidableEq σ]

section Requests

variable [IntCast K] [Div K] [LT K] [LE K] [DecidableLT K] [DecidableLE K] [TruncInt K]
  {env : GameEnv K}

/-! ## Move requests -/

/-- The zone when the player of an account has gone to a position. -/
def movedZone (s : GameContext K σ) (accId : String) (x y : K) : Zone :=
  match s.playerMap accId with
  | some p => s.zone.updatePosition p.uid p.x p.y x y
  | none => (s.zone.enterZone s.uidCounter x y).updatePosition s.uidCounter x y x y

/-- Who the uids belong to then. -/
def movedAccounts (s : GameContext K σ) (accId : String) : Nat → Option String :=
  match s.playerMap accId with
  | some _ => s.uidToAccount
  | none => Function.update s.uidToAccount s.uidCounter (some accId)

theorem handleGatewayGameMoveReq_answer (s : GameContext K σ) (gw : σ) (order : IterationOrder)
    {payload : List UInt8} {req : GatewayGameMoveReq K}
    (hparse : env.parseMoveReq payload = some req) :
    (s.handleGatewayGameMoveReq env gw order payload).sent =
      .send gw (.moveRes ⟨req.accountId, clamp GameConstants.Map.width req.x,
        clamp GameConstants.Map.height req.y, ((0 : Int) : K), ((0 : Int) : K),
        (((s.movedZone req.accountId (clamp GameConstants.Map.width req.x)
            (clamp GameConstants.Map.height req.y)).getPlayersInAOI order
              (clamp GameConstants.Map.width req.x) (clamp GameConstants.Map.height req.y)).take
            GameConstants.Network.maxAoiBroadcast).filterMap
          (s.movedAccounts req.accountId)⟩) :: s.sent := by
  simp only [handleGatewayGameMoveReq, hparse, movedZone, movedAccounts]
  cases s.playerMap req.accountId with
  | some p => rfl
  | none => rfl

/-- The account of a move request may become registered through the session of the
    request, and nothing else changes. -/
theorem handleGatewayGameMoveReq_onlyThrough (s : GameContext K σ) (gw : σ)
    (order : IterationOrder) (payload : List UInt8) (t : String) :
    (s.handleGatewayGameMoveReq env gw order payload).OnlyThrough gw t ↔ s.OnlyThrough gw t := by
  unfold handleGatewayGameMoveReq
  cases env.parseMoveReq payload with
  | none => exact Iff.rfl
  | some req =>
      dsimp only
      cases s.playerMap req.accountId with
      | some p => exact Iff.rfl
      | none =>
          refine forall_congr' fun g => ?_
          show (t ∈ Function.update s.gatewayPlayerMap gw _ g → g = gw) ↔ _
          by_cases hg : g = gw
          · simp [hg]
          · rw [Function.update_of_ne hg]

/-! ## Chat requests -/

omit [DecidableEq σ] in
theorem handleGatewayGameChatReq_answer (s : GameContext K σ) (gw : σ) (order : IterationOrder)
    {payload : List UInt8} {req : GatewayGameChatReq} {p : PlayerInfo K}
    (hparse : env.parseChatReq payload = some req) (hp : s.playerMap req.accountId = some p) :
    (s.handleGatewayGameChatReq env gw order payload).sent =
      .send gw (.chatRes ⟨req.accountId, req.msg,
        s.accounts (s.zone.getPlayersInAOI order p.x p.y)⟩) :: s.sent := by
  unfold handleGatewayGameChatReq
  simp only [hparse, hp]
  rfl

omit [DecidableEq σ] in
theorem handleGatewayGameChatReq_silent {s : GameContext K σ} {gw : σ} {order : IterationOrder}
    {payload : List UInt8}
    (h : ∀ req p, env.parseChatReq payload = some req → s.playerMap req.accountId ≠ some p) :
    s.handleGatewayGameChatReq env gw order payload = s := by
  unfold handleGatewayGameChatReq
  cases hparse : env.parseChatReq payload with
  | none => rfl
  | some req =>
      cases hp : s.playerMap req.accountId with
      | none => simp [hp]
      | some p => exact absurd hp (h req p hparse)

end Requests

/-! ## Requests that get to everybody -/

variable [Field K] [LinearOrder K] [FloorRing K] [HasSqrt K] {env : GameEnv K}

/-- The answer to a move or chat request is sent to the gateway sessions of
    everybody it names. -/
def ReachesTargets (env : GameEnv K) (s : GameContext K σ) : Label K σ → Prop
  | .packet gw id payload order =>
      (id = PacketId.gatewayGameMoveReq ∨ id = PacketId.gatewayGameChatReq) →
        ∀ o, (s.dispatch env gw id payload order).sent = o :: s.sent →
          (s.dispatch env gw id payload order).Reaches o
  | _ => True

/-- The players around the requester, as far as the answer goes, have come in
    through the session of the request only. A move counts them around the new
    position, and up to a limit. -/
def NamesOwn (env : GameEnv K) (s : GameContext K σ) : Label K σ → Prop
  | .packet gw id payload order =>
      (id = PacketId.gatewayGameMoveReq → ∀ req, env.parseMoveReq payload = some req →
        let x := clamp GameConstants.Map.width req.x
        let y := clamp GameConstants.Map.height req.y
        ∀ uid ∈ ((s.movedZone req.accountId x y).getPlayersInAOI order x y).take
            GameConstants.Network.maxAoiBroadcast,
          ∀ t, s.movedAccounts req.accountId uid = some t → s.OnlyThrough gw t) ∧
      (id = PacketId.gatewayGameChatReq → ∀ req p, env.parseChatReq payload = some req →
        s.playerMap req.accountId = some p →
          ∀ uid ∈ s.zone.getPlayersInAOI order p.x p.y,
            ∀ t, s.uidToAccount uid = some t → s.OnlyThrough gw t)
  | _ => True

theorem moveReq_reaches_iff (s : GameContext K σ) (gw : σ) (order : IterationOrder)
    (payload : List UInt8) :
    ReachesTargets env s (.packet gw PacketId.gatewayGameMoveReq payload order)
      ↔ NamesOwn env s (.packet gw PacketId.gatewayGameMoveReq payload order) := by
  have hdispatch : s.dispatch env gw PacketId.gatewayGameMoveReq payload order
      = s.handleGatewayGameMoveReq env gw order payload := rfl
  simp only [ReachesTargets, NamesOwn, hdispatch, true_or, forall_const]
  cases hparse : env.parseMoveReq payload with
  | none =>
      have hsame : s.handleGatewayGameMoveReq env gw order payload = s := by
        simp only [handleGatewayGameMoveReq, hparse]
      rw [hsame]
      refine iff_of_true silent_reaches ⟨?_, ?_⟩
      · intro req hreq
        cases hreq
      · intro hid
        exact absurd hid (by decide)
  | some req =>
      have hsent := handleGatewayGameMoveReq_answer s gw order hparse
      rw [answer_reaches_iff hsent rfl
        (handleGatewayGameMoveReq_onlyThrough s gw order payload)]
      constructor
      · intro h
        refine ⟨fun req' hreq' => ?_, fun hid => absurd hid (by decide)⟩
        obtain rfl := Option.some.inj hreq'
        exact h
      · intro h
        exact h.1 req rfl

theorem chatReq_reaches_iff (s : GameContext K σ) (gw : σ) (order : IterationOrder)
    (payload : List UInt8) :
    ReachesTargets env s (.packet gw PacketId.gatewayGameChatReq payload order)
      ↔ NamesOwn env s (.packet gw PacketId.gatewayGameChatReq payload order) := by
  have hdispatch : s.dispatch env gw PacketId.gatewayGameChatReq payload order
      = s.handleGatewayGameChatReq env gw order payload := rfl
  simp only [ReachesTargets, NamesOwn, hdispatch, or_true, forall_const]
  have hmove : ¬ PacketId.gatewayGameChatReq = PacketId.gatewayGameMoveReq := by decide
  simp only [hmove, false_imp_iff, true_and]
  by_cases hplayer : ∃ req p, env.parseChatReq payload = some req ∧
      s.playerMap req.accountId = some p
  · obtain ⟨req, p, hparse, hp⟩ := hplayer
    have hsent := handleGatewayGameChatReq_answer s gw order hparse hp
    have hkept : PlayersKept s (s.handleGatewayGameChatReq env gw order payload) :=
      handleGatewayGameChatReq_kept s gw order payload
    have honly : ∀ t, (s.handleGatewayGameChatReq env gw order payload).OnlyThrough gw t ↔
        s.OnlyThrough gw t := by
      intro t
      simp only [OnlyThrough, hkept.gatewayPlayerMap]
    rw [answer_reaches_iff hsent rfl honly]
    constructor
    · intro h req' p' hparse' hp'
      rw [hparse, Option.some.injEq] at hparse'
      subst hparse'
      rw [hp, Option.some.injEq] at hp'
      subst hp'
      exact h
    · intro h
      exact h req p hparse hp
  · have hsame : s.handleGatewayGameChatReq env gw order payload = s :=
      handleGatewayGameChatReq_silent fun req p hparse hp => hplayer ⟨req, p, hparse, hp⟩
    rw [hsame]
    exact iff_of_true silent_reaches fun req p hparse hp =>
      absurd ⟨req, p, hparse, hp⟩ hplayer

/-- From any state and along any run, the answers get to everybody they name
    exactly when the players around each requester came in through its session. -/
theorem reachesTargets_iff_namesOwn (env : GameEnv K) (s : GameContext K σ)
    (labels : List (Label K σ)) :
    Meets (step env) (ReachesTargets env) s labels
      ↔ Meets (step env) (NamesOwn env) s labels := by
  refine meets_congr (fun _ => True) (fun _ _ _ => trivial) ?_ trivial
  intro s label s' _ _
  cases label with
  | packet gw id payload order =>
      by_cases hmove : id = PacketId.gatewayGameMoveReq
      · exact hmove ▸ moveReq_reaches_iff s gw order payload
      · by_cases hchat : id = PacketId.gatewayGameChatReq
        · exact hchat ▸ chatReq_reaches_iff s gw order payload
        · refine iff_of_true (fun hid => ?_) ⟨fun hid => absurd hid hmove, fun hid => ?_⟩
          · exact absurd hid (not_or.mpr ⟨hmove, hchat⟩)
          · exact absurd hid hchat
  | _ => exact Iff.rfl

/-- With one gateway session nothing goes amiss. -/
theorem namesOwn_oneGateway [Subsingleton σ] (env : GameEnv K) (s : GameContext K σ)
    (labels : List (Label K σ)) : Meets (step env) (NamesOwn env) s labels := by
  have honly : ∀ (s : GameContext K σ) gw t, s.OnlyThrough gw t :=
    fun _ _ _ _ _ => Subsingleton.elim _ _
  refine meets_of_labels (fun _ => True) (L := fun _ => True) (fun _ _ _ => trivial) ?_ trivial
    fun _ _ => trivial
  intro s label s' _ _ _
  cases label with
  | packet gw id payload order =>
      exact ⟨fun _ _ _ _ _ _ _ => honly s gw _, fun _ _ _ _ _ _ _ _ _ => honly s gw _⟩
  | _ => trivial

/-- "b" comes in through the other gateway. -/
def twoPlayers : GameEnv ℚ :=
  { GameEnv.sample with
      parseMoveReq
        | [10, 1, 97, 21, 0, 0, 32, 65] => some ⟨"a", 10, 0, 0, 0⟩
        | [10, 1, 98, 21, 0, 0, 32, 65] => some ⟨"b", 10, 0, 0, 0⟩
        | _ => none }

/-- The answer to the move of "b" names "a" and goes to the gateway of "b" only. -/
theorem moveReq_missesOtherGateway :
    ¬ Meets (step twoPlayers) (ReachesTargets twoPlayers) (start [] : GameContext ℚ Nat)
      ([.packet 0 PacketId.gatewayGameMoveReq [10, 1, 97, 21, 0, 0, 32, 65] .listed] ++
        [.packet 1 PacketId.gatewayGameMoveReq [10, 1, 98, 21, 0, 0, 32, 65] .listed]) := by
  intro h
  have hreaches := h.of_exec [] rfl rfl
  have hsent := hreaches (Or.inl rfl) _ rfl "a" (by decide +kernel) 0 (by decide +kernel)
  exact absurd (show (1 : Nat) = 0 from hsent) (by decide)

end GameContext

end MMOServers.GameServer
