/-
MMOServers.Servers.TokenFlow — how tokens get to the gateways.

The cluster is a token ledger: the notices on their way to a gateway are those in
the packets that its game server has not read yet and those in the packets that
it has not read itself, and a gateway keeps what is in `pendingTokens`. Every
step of the cluster is a step of the ledger (`step_refines`), with the admission
of a connect request as the acceptance of the token.
-/
import MMOServers.Servers.Cluster

namespace MMOServers.Servers

open MMOServers.Common MMOServers.LoginServer MMOServers.WorldServer MMOServers.GameServer
  MMOServers.GatewayServer Tokens

/-! ## Notices in packets -/

def noticeOf (m : TokenNotify) : Notice String String := ⟨m.accountId, m.sessionToken⟩

/-- The notices in a list of packets, from how one of them is read. -/
def notices (read : UInt16 → List UInt8 → Option TokenNotify) (packets : List S2SPacket) :
    List (Notice String String) :=
  packets.filterMap fun p => (read p.id p.payload).map noticeOf

section Notices

variable (read : UInt16 → List UInt8 → Option TokenNotify)

theorem notices_append (xs ys : List S2SPacket) :
    notices read (xs ++ ys) = notices read xs ++ notices read ys :=
  List.filterMap_append

theorem notices_cons (p : S2SPacket) (ps : List S2SPacket) :
    notices read (p :: ps) = ((read p.id p.payload).map noticeOf).toList ++ notices read ps := by
  unfold notices
  cases h : (read p.id p.payload).map noticeOf <;> simp [h]

theorem notices_sublist {xs ys : List S2SPacket} (h : xs.Sublist ys) :
    (notices read xs).Sublist (notices read ys) := h.filterMap _

variable {read}

/-- A packet that carries no other notice. -/
theorem notices_of_sublist {xs : List S2SPacket} {p : S2SPacket} (hxs : xs.Sublist [p])
    {n : Notice String String}
    (hp : ∀ m, read p.id p.payload = some m → noticeOf m = n) :
    (notices read xs).Sublist [n] := by
  refine (notices_sublist read hxs).trans ?_
  rw [notices_cons]
  cases hread : read p.id p.payload with
  | none => exact List.nil_sublist _
  | some m => simp [notices, hp m hread]

theorem notices_eq_nil {xs : List S2SPacket}
    (h : ∀ p ∈ xs, read p.id p.payload = none) : notices read xs = [] := by
  refine List.filterMap_eq_nil_iff.mpr fun p hp => ?_
  rw [h p hp]
  rfl

end Notices

namespace Cluster

variable {K F Key : Type}

/-! ## The ledger of a cluster -/

/-- The notices on their way to a gateway. -/
def coming (env : ClusterEnv K F Key) (s : Cluster K F Key) (w : Nat) :
    List (Notice String String) :=
  notices (Gateway.noticeOf env.gateway) (s.toGateway w) ++
    notices (GameContext.noticeOf env.game) (s.world.posted (.gameServer (env.gameServerOf w)))

/-- The token of the request for its account. -/
def accepts (req : GatewayConnectReq) : Notice String String := ⟨req.accountId, req.sessionToken⟩

def ledger (env : ClusterEnv K F Key) (s : Cluster K F Key) : TokenLedger String String Nat where
  issued := s.issued
  coming := s.coming env
  kept w a := ((s.gateways w).pendingTokens a).map (·.sessionToken)
  accepted := s.admitted.map fun adm => (adm.gateway, accepts adm.req)

/-- The admission that a step is. -/
def acceptanceOf (env : ClusterEnv K F Key) (s : Cluster K F Key) :
    Label K → Option (Nat × Notice String String)
  | .gateway w label =>
      (Gateway.admissionOf env.gateway (s.gateways w) label).map fun (_, req) => (w, accepts req)
  | _ => none

variable {env : ClusterEnv K F Key}

/-- Steps that lose notices at most. -/
theorem refines_lose {s s' : Cluster K F Key} (hissued : s'.issued = s.issued)
    (hgateways : s'.gateways = s.gateways) (hadmitted : s'.admitted = s.admitted)
    (hcoming : ∀ w, (s'.coming env w).Sublist (s.coming env w)) :
    TokenLedger.Step (s.ledger env) (s'.ledger env) none := by
  refine .lose hissued hcoming (fun w a t ht => ?_) ?_
  · show ((s.gateways w).pendingTokens a).map _ = some t
    rw [← hgateways]
    exact ht
  · show s'.admitted.map _ = s.admitted.map _
    rw [hadmitted]

/-- Of what is on the way something is lost, between the world server and the
    game server or between the game server and the gateway. -/
theorem coming_sublist {s s' : Cluster K F Key}
    (hgateway : ∀ w, (s'.toGateway w).Sublist (s.toGateway w))
    (hposted : ∀ g, (s'.world.posted (.gameServer g)).Sublist (s.world.posted (.gameServer g)))
    (w : Nat) : (s'.coming env w).Sublist (s.coming env w) :=
  (notices_sublist _ (hgateway w)).append (notices_sublist _ (hposted _))

/-! ## Login servers and the world server -/

theorem loginReceives_refines (s : Cluster K F Key) (l : Nat) (packet : S2SPacket) :
    TokenLedger.Step (s.ledger env) ((s.loginReceives env l packet).ledger env) none :=
  refines_lose rfl rfl rfl (coming_sublist (fun _ => List.Sublist.refl _)
    fun _ => WorldContext.pop_posted s.world _ _)

theorem setLink_refines (s : Cluster K F Key) (p : Peer) (linked : Bool) :
    TokenLedger.Step (s.ledger env) ((s.setLink p linked).ledger env) none :=
  refines_lose rfl rfl rfl (coming_sublist (fun _ => List.Sublist.refl _)
    fun _ => WorldContext.setLink_posted s.world p linked _)

theorem setGatewayLink_refines (s : Cluster K F Key) (w : Nat) (linked : Bool) :
    TokenLedger.Step (s.ledger env) ((s.setGatewayLink w linked).ledger env) none := by
  refine refines_lose rfl rfl rfl (coming_sublist (fun v => ?_) fun _ => List.Sublist.refl _)
  by_cases hv : v = w
  · simp [setGatewayLink, hv]
  · simp [setGatewayLink, hv]

/-- What a message of the world server adds to the notices on their way. -/
theorem posts_notices (env : ClusterEnv K F Key) {world world' : WorldContext Peer}
    {packet : S2SPacket} (h : world.Posts world' packet) {n : Notice String String}
    (hn : ∀ m, GameContext.noticeOf env.game packet.id packet.payload = some m → noticeOf m = n)
    (q : Peer) :
    (notices (GameContext.noticeOf env.game) (world'.posted q)).Sublist
      (notices (GameContext.noticeOf env.game) (world.posted q) ++ [n]) := by
  obtain ⟨xs, hposted, hxs, -⟩ := h q
  rw [hposted, notices_append]
  exact (List.Sublist.refl _).append (notices_of_sublist hxs hn)

/-- A message that is no notice. -/
theorem posts_noNotice (env : ClusterEnv K F Key) {world world' : WorldContext Peer}
    {packet : S2SPacket} (h : world.Posts world' packet)
    (hnone : GameContext.noticeOf env.game packet.id packet.payload = none) (q : Peer) :
    notices (GameContext.noticeOf env.game) (world'.posted q)
      = notices (GameContext.noticeOf env.game) (world.posted q) := by
  obtain ⟨xs, hposted, hxs, -⟩ := h q
  have hnil : notices (GameContext.noticeOf env.game) xs = [] :=
    notices_eq_nil fun p hp => List.mem_singleton.mp (hxs.subset hp) ▸ hnone
  rw [hposted, notices_append, hnil, List.append_nil]

theorem buffMonsterHp_refines (s : Cluster K F Key) (addHp : Int32) :
    TokenLedger.Step (s.ledger env)
      (ledger env { s with world := s.world.buffMonsterHp env.world addHp }) none := by
  obtain ⟨payload, hposts⟩ := WorldContext.buffMonsterHp_posts env.world s.world addHp
  refine refines_lose rfl rfl rfl fun w => ?_
  have hposted := posts_noNotice env hposts rfl (.gameServer (env.gameServerOf w))
  exact (List.Sublist.refl _).append (hposted ▸ List.Sublist.refl _)

theorem worldReceives_refines (henv : env.Faithful) {s : Cluster K F Key} {newToken : String}
    (hfresh : ∀ n ∈ s.issued, n.token ≠ newToken) (p : Peer) (packet : S2SPacket)
    (rest : List S2SPacket) (nowMs : Int) :
    TokenLedger.Step (s.ledger env)
      ((s.worldReceives env p packet rest newToken nowMs).ledger env) none := by
  cases hreq : WorldContext.selectReqOf env.world packet with
  | none =>
      refine refines_lose (by simp [worldReceives, issueOf, hreq]) rfl rfl fun w => ?_
      simp only [coming, worldReceives, WorldContext.dispatch_ignored env.world hreq]
      exact List.Sublist.refl _
  | some req =>
      obtain ⟨world₁, expireMs, hnotify, -, hanswer⟩ :=
        WorldContext.dispatch_posts env.world hreq s.world p newToken nowMs
      refine .issue ⟨req.accountId, newToken⟩ hfresh ?_ (fun w => ?_) rfl rfl
      · simp [ledger, worldReceives, issueOf, hreq]
      · have hnotice : ∀ m, GameContext.noticeOf env.game PacketId.worldGameTokenNotify
            (env.world.serializeTokenNotify ⟨req.accountId, newToken, expireMs⟩) = some m →
              noticeOf m = ⟨req.accountId, newToken⟩ := by
          intro m hm
          rw [henv.worldNotify _ m hm]
          rfl
        have hposted := posts_notices env hnotify hnotice
          (.gameServer (env.gameServerOf w))
        rw [← posts_noNotice env hanswer rfl] at hposted
        show List.Sublist (_ ++ _) ((_ ++ _) ++ _)
        rw [List.append_assoc]
        exact (List.Sublist.refl _).append hposted

/-! ## Game servers -/

/-- What a game server that sends these messages adds to the notices on their
    way from it. -/
theorem gameStepped_toGateway {s : Cluster K F Key} {g : Nat} {game : GameContext K Nat}
    {ns : List (Notice String String)}
    (hsent : ∀ w, (notices (Gateway.noticeOf env.gateway)
      (game.sent.reverse.filterMap (packetFor env w))).Sublist ns) (w : Nat) :
    (notices (Gateway.noticeOf env.gateway) ((s.gameStepped env g game).toGateway w)).Sublist
      (notices (Gateway.noticeOf env.gateway) (s.toGateway w) ++
        if env.gameServerOf w = g then ns else []) := by
  simp only [gameStepped]
  split
  · rename_i hw
    rw [notices_append, if_pos hw.1]
    exact (List.Sublist.refl _).append (hsent w)
  · exact List.sublist_append_left _ _

theorem packetFor_broadcast (w : Nat) (m : ToGateway K) :
    [Outgoing.broadcast m].filterMap (packetFor env w)
      = (S2SPacket.frame (toGatewayId m) (env.serializeToGateway m)).toList := by
  cases h : S2SPacket.frame (toGatewayId m) (env.serializeToGateway m) <;> simp [packetFor, h]

/-- The packet of a message that is no notice is none either. -/
theorem packetFor_noNotice {w : Nat} {o : Outgoing K Nat} (ho : o.notice = none)
    {packet : S2SPacket} (hp : packetFor env w o = some packet) :
    Gateway.noticeOf env.gateway packet.id packet.payload = none := by
  have hframe : ∀ m : ToGateway K, (∀ n, m ≠ .tokenNotify n) →
      S2SPacket.frame (toGatewayId m) (env.serializeToGateway m) = some packet →
        Gateway.noticeOf env.gateway packet.id packet.payload = none := by
    intro m hm hp
    unfold S2SPacket.frame at hp
    split at hp
    · cases hp
    · obtain rfl := Option.some.inj hp
      cases m with
      | tokenNotify n => exact absurd rfl (hm n)
      | _ => rfl
  cases o with
  | send gw m =>
      simp only [packetFor] at hp
      split at hp
      · refine hframe m (fun n hn => ?_) hp
        rw [hn] at ho
        cases ho
      · cases hp
  | broadcast m =>
      refine hframe m (fun n hn => ?_) hp
      rw [hn] at ho
      cases ho

/-- The game server passes the notice on that is in the packet. -/
theorem gameReceives_refines (henv : env.Faithful) {s : Cluster K F Key} {g : Nat}
    {packet : S2SPacket} {rest : List S2SPacket}
    (hposted : s.world.posted (.gameServer g) = packet :: rest) :
    TokenLedger.Step (s.ledger env)
      (ledger env (gameStepped env { s with world := s.world.pop (.gameServer g) } g
        (GameContext.worldDispatch env.game { s.games g with sent := [] } packet.id
          packet.payload))) none := by
  let read := ((GameContext.noticeOf env.game packet.id packet.payload).map noticeOf).toList
  have hsent : ∀ w, (notices (Gateway.noticeOf env.gateway)
      ((GameContext.worldDispatch env.game { s.games g with sent := [] } packet.id
        packet.payload).sent.reverse.filterMap (packetFor env w))).Sublist read := by
    intro w
    rw [GameContext.worldDispatch_sent]
    cases hnotice : GameContext.noticeOf env.game packet.id packet.payload with
    | none => exact List.nil_sublist _
    | some m =>
        refine (notices_of_sublist (p := ⟨PacketId.gameGatewayTokenNotify,
          env.serializeToGateway (.tokenNotify m)⟩) (n := noticeOf m) ?_ fun m' hm' => ?_).trans ?_
        · show ([Outgoing.broadcast (.tokenNotify m)].filterMap (packetFor env w)).Sublist _
          rw [packetFor_broadcast]
          exact WorldContext.frame_sublist _ _
        · rw [henv.gameNotify m m' hm']
        · simp [read, hnotice]
  refine refines_lose rfl rfl rfl fun w => ?_
  have htoGateway := gameStepped_toGateway
    (s := { s with world := s.world.pop (.gameServer g) }) (g := g) hsent w
  by_cases hw : env.gameServerOf w = g
  · rw [if_pos hw] at htoGateway
    have hpopped : (s.world.pop (.gameServer g)).posted (.gameServer (env.gameServerOf w))
        = rest := by
      simp [WorldContext.pop, hw, hposted]
    have hcoming : s.coming env w = notices (Gateway.noticeOf env.gateway) (s.toGateway w) ++
        (read ++ notices (GameContext.noticeOf env.game) rest) := by
      rw [coming, hw, hposted, notices_cons]
    rw [hcoming, ← List.append_assoc]
    show (_ ++ notices _ ((s.world.pop (.gameServer g)).posted _)).Sublist _
    rw [hpopped]
    exact htoGateway.append (List.Sublist.refl _)
  · rw [if_neg hw, List.append_nil] at htoGateway
    exact htoGateway.append (notices_sublist _ (WorldContext.pop_posted s.world _ _))

/-! ## Gateways -/

/-- A change of one gateway, seen in the ledger. -/
theorem kept_other {s t : Cluster K F Key} {w : Nat} {gateway : Gateway Nat F Key}
    (h : t.gateways = Function.update s.gateways w gateway) {v : Nat} (hv : v ≠ w) :
    (t.ledger env).kept v = (s.ledger env).kept v := by
  simp only [ledger, h, Function.update_of_ne hv]

theorem kept_self {t : Cluster K F Key} {gateways : Nat → Gateway Nat F Key} {w : Nat}
    {gateway : Gateway Nat F Key} (h : t.gateways = Function.update gateways w gateway) :
    (t.ledger env).kept w = fun a => (gateway.pendingTokens a).map (·.sessionToken) := by
  simp only [ledger, h, Function.update_self]

theorem map_update_tokens (tokens : String → Option PendingToken) (a : String)
    (v : Option PendingToken) :
    (fun b => (Function.update tokens a v b).map (·.sessionToken))
      = Function.update (fun b => (tokens b).map (·.sessionToken)) a (v.map (·.sessionToken)) := by
  funext b
  by_cases hb : b = a
  · rw [hb, Function.update_self, Function.update_self]
  · rw [Function.update_of_ne hb, Function.update_of_ne hb]

theorem gateway_refines {s : Cluster K F Key} {w : Nat} {label : Gateway.Label Nat}
    {gateway : Gateway Nat F Key} (hlabel : ∀ id payload, label ≠ .gamePacket id payload)
    (hstep : Gateway.step env.gateway (s.gateways w) label = some gateway) :
    TokenLedger.Step (s.ledger env) ((s.gatewayStepped env w label gateway).ledger env)
      (s.acceptanceOf env (.gateway w label)) := by
  have heffect := Gateway.step_tokens hlabel hstep
  simp only [acceptanceOf]
  generalize hadmission : Gateway.admissionOf env.gateway (s.gateways w) label = e at *
  cases heffect with
  | keeps tokens verified =>
      refine .lose rfl (fun _ => List.Sublist.refl _) (fun v a t ht => ?_) ?_
      · by_cases hv : v = w
        · subst hv
          rw [kept_self (t := s.gatewayStepped env v label gateway) rfl] at ht
          obtain ⟨p, hp, rfl⟩ := Option.map_eq_some_iff.mp ht
          exact Option.map_eq_some_iff.mpr ⟨p, tokens a p hp, rfl⟩
        · rwa [kept_other (s := s) (t := s.gatewayStepped env w label gateway) rfl hv] at ht
      · simp [ledger, gatewayStepped, hadmission]
  | admits i req expireMs has consumes verified =>
      refine .accept w (accepts req) rfl rfl ?_ ?_ (fun v hv => kept_other rfl hv) ?_
      · show ((s.gateways w).pendingTokens req.accountId).map _ = _
        rw [has]
        rfl
      · rw [kept_self (t := s.gatewayStepped env w label gateway) rfl, consumes,
          map_update_tokens]
        rfl
      · simp [ledger, gatewayStepped, hadmission]

theorem gatewayReceives_refines {s : Cluster K F Key} {w : Nat} {packet : S2SPacket}
    {rest : List S2SPacket} (htoGateway : s.toGateway w = packet :: rest) :
    TokenLedger.Step (s.ledger env) ((s.gatewayReceives env w packet rest).ledger env) none := by
  have hrest : ∀ v, v ≠ w → (s.gatewayReceives env w packet rest).coming env v
      = s.coming env v := by
    intro v hv
    simp only [coming, gatewayReceives, Function.update_of_ne hv]
  have hself : s.coming env w
      = ((Gateway.noticeOf env.gateway packet.id packet.payload).map noticeOf).toList ++
        (s.gatewayReceives env w packet rest).coming env w := by
    simp only [coming, gatewayReceives, Function.update_self, htoGateway, notices_cons,
      List.append_assoc]
  cases hnotice : Gateway.noticeOf env.gateway packet.id packet.payload with
  | none =>
      have hkept := Gateway.gameDispatch_kept hnotice (s.gateways w)
      refine .lose rfl (fun v => ?_) (fun v a t ht => ?_) rfl
      · show ((s.gatewayReceives env w packet rest).coming env v).Sublist (s.coming env v)
        by_cases hv : v = w
        · rw [hv, hself, hnotice]
          exact List.Sublist.refl _
        · rw [hrest v hv]
      · by_cases hv : v = w
        · subst hv
          rw [kept_self (t := s.gatewayReceives env v packet rest) rfl,
            hkept.pendingTokens] at ht
          exact ht
        · rwa [kept_other (s := s) (t := s.gatewayReceives env w packet rest) rfl hv] at ht
  | some notify =>
      refine .keep w (noticeOf notify) rfl ?_ ?_
        (fun v hv => ⟨hrest v hv, kept_other rfl hv⟩) rfl
      · rw [hnotice] at hself
        exact hself
      · rw [kept_self (t := s.gatewayReceives env w packet rest) rfl,
          Gateway.gameDispatch_notice hnotice]
        exact map_update_tokens _ _ _

/-! ## Steps -/

variable [Field K] [LinearOrder K] [FloorRing K] [HasSqrt K]

/-- What a game server sends of its own accord is no notice. -/
theorem gameTask_noNotice {s : Cluster K F Key} {g : Nat} {label : GameContext.Label K Nat}
    {game : GameContext K Nat} (hlabel : ∀ id payload, label ≠ .worldPacket id payload)
    (hgame : GameContext.step env.game { s.games g with sent := [] } label = some game) (w : Nat) :
    ∀ packet ∈ game.sent.reverse.filterMap (packetFor env w),
      Gateway.noticeOf env.gateway packet.id packet.payload = none := by
  have hnone := GameContext.step_noNotice hlabel hgame
  intro packet hpacket
  obtain ⟨o, ho, hp⟩ := List.mem_filterMap.mp hpacket
  refine packetFor_noNotice ?_ hp
  by_contra hne
  exact absurd (hnone o (List.mem_reverse.mp ho) hne) List.not_mem_nil

theorem gameTask_refines {s : Cluster K F Key} {g : Nat} {label : GameContext.Label K Nat}
    {game : GameContext K Nat} (hlabel : ∀ id payload, label ≠ .worldPacket id payload)
    (hgame : GameContext.step env.game { s.games g with sent := [] } label = some game) :
    TokenLedger.Step (s.ledger env) ((s.gameStepped env g game).ledger env) none := by
  have hsent : ∀ w, (notices (Gateway.noticeOf env.gateway)
      (game.sent.reverse.filterMap (packetFor env w))).Sublist [] := by
    intro w
    rw [notices_eq_nil (gameTask_noNotice hlabel hgame w)]
  refine refines_lose rfl rfl rfl fun w => ?_
  have htoGateway := gameStepped_toGateway (s := s) (g := g) hsent w
  rw [ite_self, List.append_nil] at htoGateway
  exact htoGateway.append (List.Sublist.refl _)

/-- Every step of the cluster is a step of its ledger. -/
theorem step_refines (henv : env.Faithful) {s s' : Cluster K F Key} {label : Label K}
    (hstep : step env s label = some s') :
    TokenLedger.Step (s.ledger env) (s'.ledger env) (s.acceptanceOf env label) := by
  have hsame : ∀ {t : Cluster K F Key}, t.ledger env = s.ledger env →
      TokenLedger.Step (s.ledger env) (t.ledger env) none := by
    intro t ht
    rw [ht]
    exact .lose rfl (fun _ => List.Sublist.refl _) (fun _ _ _ h => h) rfl
  cases step_inv hstep with
  | login l stepped => exact hsame rfl
  | loginReceives posted => exact loginReceives_refines s _ _
  | link p linked => exact setLink_refines s p linked
  | otherSends p packet => exact hsame rfl
  | worldReceives p packet rest nowMs fresh =>
      exact worldReceives_refines henv fresh p packet rest nowMs
  | buffMonsterHp addHp => exact buffMonsterHp_refines s addHp
  | game own stepped => exact gameTask_refines own stepped
  | gameReceives posted => exact gameReceives_refines henv posted
  | gatewayLink w linked => exact setGatewayLink_refines s w linked
  | gateway own stepped => exact gateway_refines own stepped
  | gatewayReceives waiting => exact gatewayReceives_refines waiting

end Cluster

end MMOServers.Servers
