/-
MMOServers.Servers.DeliveryTheorems — whether a token gets to the gateway in
time.

A session token takes two ways: to the client through its login server, and to
the gateway through a game server. `Handle_WorldLoginSelectReq` sends it off on
the second way first, but nothing makes the client wait for that way, and
`VerifyAndConsumeToken` refuses a token it has no notice of.

The notices on their way to a gateway arrive in the order in which the tokens
were made. So the newest notice of an account is the last one on the way, or
none is on the way and the gateway has the token (`Delivers`), as long as no
notice is dropped (`Undropped`). On such a run a client that is due to be
admitted is admitted exactly when the notice of its token has arrived before it
(`admitsEntitled_iff_noticeArrived`).

The clock of the gateway does not go back: runs are those of the cluster beside
the last reading of that clock.
-/
import MMOServers.Servers.OneTimeTheorems

namespace MMOServers.Servers

open MMOServers.Common MMOServers.LoginServer MMOServers.WorldServer MMOServers.GameServer
  MMOServers.GatewayServer Tokens Transition

namespace Cluster

variable {K F Key : Type} {env : ClusterEnv K F Key}

/-! ## What is to hold, and when it does -/

/-- The client of a connect request is due to be admitted: the token is that of
    the latest `WorldSelectRes` of a session of a login server, no newer token was
    made for the account, it has not expired, and it has admitted nobody yet. -/
structure Entitled (s : Cluster K F Key) (req : GatewayConnectReq) (nowMs : Int) : Prop where
  relayed : ∃ l i r, s.relayed.find? (fun r => r.login = l ∧ r.session = i) = some r ∧
    r.res.sessionToken = req.sessionToken
  newest : ∃ entry, s.world.tokenStore req.accountId = some entry ∧
    entry.token = req.sessionToken ∧ nowMs ≤ entry.expireMs
  first : ∀ adm ∈ s.admitted, adm.req.sessionToken ≠ req.sessionToken

/-- A connect request that reaches its handler is admitted if its client is due
    to be. -/
def AdmitsEntitled (env : ClusterEnv K F Key) (w : Nat) (s : Cluster K F Key) :
    Label K → Prop
  | .gateway v label => v = w → ∀ i req,
      Gateway.presentedOf env.gateway (s.gateways w) label = some (i, req) →
        s.Entitled req (Gateway.clockOf label) →
          Gateway.admissionOf env.gateway (s.gateways w) label = some (i, req)
  | _ => True

/-- When the client of a connect request is due to be admitted, no notice of its
    token is still on the way to the gateway. -/
def NoticeArrived (env : ClusterEnv K F Key) (w : Nat) (s : Cluster K F Key) :
    Label K → Prop
  | .gateway v label => v = w → ∀ i req,
      Gateway.presentedOf env.gateway (s.gateways w) label = some (i, req) →
        s.Entitled req (Gateway.clockOf label) →
          ∀ n ∈ s.coming env w, n.token ≠ req.sessionToken
  | _ => True

/-- The notice fits into a packet, and the next server can read it. -/
def Passes (id : UInt16) (serialized : List UInt8) (parsed : Option TokenNotify) : Prop :=
  (S2SPacket.frame id serialized).isSome ∧ parsed.isSome

instance (id : UInt16) (serialized : List UInt8) (parsed : Option TokenNotify) :
    Decidable (Passes id serialized parsed) := inferInstanceAs (Decidable (_ ∧ _))

/-- No notice for the gateway is dropped: it finds the next server connected and
    is read there, and no connection breaks while something is on its way. -/
def Undropped (env : ClusterEnv K F Key) (w : Nat) (s : Cluster K F Key) : Label K → Prop
  | .worldReceives p newToken nowMs =>
      match (s.toWorld p).head?.bind (WorldContext.selectReqOf env.world) with
      | none => True
      | some req =>
          let bytes := env.world.serializeTokenNotify
            ⟨req.accountId, newToken, nowMs + SecurityConstants.tokenLifetimeMs⟩
          s.world.serverSessions (.gameServer (env.gameServerOf w)) = true ∧
            Passes PacketId.worldGameTokenNotify bytes (env.game.parseTokenNotify bytes)
  | .gameReceives g =>
      match (s.world.posted (.gameServer g)).head?.bind fun packet =>
          GameContext.noticeOf env.game packet.id packet.payload with
      | none => True
      | some m =>
          let bytes := env.serializeToGateway (.tokenNotify m)
          g = env.gameServerOf w → s.gatewaySessions w = true ∧
            Passes PacketId.gameGatewayTokenNotify bytes (env.gateway.parseTokenNotify bytes)
  | .link p _ => p = .gameServer (env.gameServerOf w) → s.world.posted p = []
  | .gatewayLink v _ => v = w → s.toGateway w = []
  | _ => True

instance (w : Nat) (s : Cluster K F Key) :
    (label : Label K) → Decidable (Undropped env w s label)
  | .worldReceives p newToken nowMs =>
      match hreq : (s.toWorld p).head?.bind (WorldContext.selectReqOf env.world) with
      | none => .isTrue (by simp only [Undropped, hreq])
      | some req => decidable_of_iff (_ = true ∧ Passes _ _ _)
          (by simp only [Undropped, hreq]; exact Iff.rfl)
  | .gameReceives g =>
      match hnotice : (s.world.posted (.gameServer g)).head?.bind fun packet =>
          GameContext.noticeOf env.game packet.id packet.payload with
      | none => .isTrue (by simp only [Undropped, hnotice])
      | some m => decidable_of_iff (g = env.gameServerOf w → _ = true ∧ Passes _ _ _)
          (by simp only [Undropped, hnotice]; exact Iff.rfl)
  | .link _ _ => inferInstanceAs (Decidable (_ → _ = []))
  | .gatewayLink _ _ => inferInstanceAs (Decidable (_ → _ = []))
  | .login _ _ | .loginReceives _ | .otherSends _ _ | .buffMonsterHp _ | .game _ _
  | .gateway _ _ | .gatewayReceives _ => .isTrue trivial

/-- The clock reading of the gateway. -/
def readingOf (w : Nat) : Label K → Option Int
  | .gateway v label => if v = w then Gateway.readingOf label else none
  | _ => none

/-! ## Notices on their way -/

/-- The notices between the game server and the gateway. -/
def relayedNotices (env : ClusterEnv K F Key) (s : Cluster K F Key) (w : Nat) :
    List TokenNotify :=
  (s.toGateway w).filterMap fun p => Gateway.noticeOf env.gateway p.id p.payload

/-- The notices between the world server and a game server. -/
def postedNotices (env : ClusterEnv K F Key) (s : Cluster K F Key) (g : Nat) :
    List TokenNotify :=
  (s.world.posted (.gameServer g)).filterMap fun p =>
    GameContext.noticeOf env.game p.id p.payload

/-- The notices of an account on their way to the gateway, the next first. -/
def due (env : ClusterEnv K F Key) (s : Cluster K F Key) (w : Nat) (a : String) :
    List TokenNotify :=
  (s.relayedNotices env w ++ s.postedNotices env (env.gameServerOf w)).filter
    (·.accountId = a)

theorem coming_eq (s : Cluster K F Key) (w : Nat) :
    s.coming env w = (s.relayedNotices env w ++
      s.postedNotices env (env.gameServerOf w)).map noticeOf := by
  simp only [coming, notices, relayedNotices, postedNotices, List.map_append,
    List.map_filterMap]

theorem due_congr {s s' : Cluster K F Key} {w : Nat}
    (hrelayed : s'.relayedNotices env w = s.relayedNotices env w)
    (hposted : s'.postedNotices env (env.gameServerOf w)
      = s.postedNotices env (env.gameServerOf w)) (a : String) :
    s'.due env w a = s.due env w a := by
  rw [due, due, hrelayed, hposted]

/-- The newest notice of every account is the last one on its way to the gateway,
    or none is on the way, and the gateway has the token unless it has expired or
    admitted somebody. `t` is the last reading of the gateway's clock. -/
def Delivers (env : ClusterEnv K F Key) (w : Nat) (s : Cluster K F Key) (t : Int) : Prop :=
  ∀ a entry, s.world.tokenStore a = some entry →
    (s.due env w a).getLast? = some ⟨a, entry.token, entry.expireMs⟩ ∨
      s.due env w a = [] ∧
        ((s.gateways w).pendingTokens a = some ⟨entry.token, entry.expireMs⟩ ∨
          entry.expireMs < t ∨ ∃ adm ∈ s.admitted, adm.req.sessionToken = entry.token)

/-- A step that is of no matter to the notices and the tokens of the gateway. -/
theorem Delivers.frame {w : Nat} {s s' : Cluster K F Key} {t : Int} (h : Delivers env w s t)
    (hstore : s'.world.tokenStore = s.world.tokenStore)
    (hdue : ∀ a, s'.due env w a = s.due env w a)
    (hpending : (s'.gateways w).pendingTokens = (s.gateways w).pendingTokens)
    (hadmitted : s.admitted ⊆ s'.admitted) : Delivers env w s' t := by
  intro a entry hentry
  rw [hstore] at hentry
  rw [hdue, hpending]
  refine (h a entry hentry).imp_right fun ⟨hnil, hhas⟩ => ⟨hnil, ?_⟩
  refine hhas.imp_right (Or.imp_right ?_)
  rintro ⟨adm, hadm, htoken⟩
  exact ⟨adm, hadmitted hadm, htoken⟩

/-- A packet that passes is there, and carries the notice it was made of. -/
theorem Passes.packet {id : UInt16} {bytes : List UInt8} {parsed : Option TokenNotify}
    (h : Passes id bytes parsed) {m : TokenNotify} (hparse : ∀ m', parsed = some m' → m' = m) :
    S2SPacket.frame id bytes = some ⟨id, bytes⟩ ∧ parsed = some m := by
  obtain ⟨hfits, hread⟩ := h
  constructor
  · unfold S2SPacket.frame at hfits ⊢
    split at hfits
    · cases hfits
    · rename_i hsize
      rw [if_neg hsize]
  · obtain ⟨m', hm'⟩ := Option.isSome_iff_exists.mp hread
    rw [hm', hparse m' hm']

/-! ## The world server -/

theorem postedNotices_append {s s' : Cluster K F Key} {g : Nat} {packets : List S2SPacket}
    (h : s'.world.posted (.gameServer g) = s.world.posted (.gameServer g) ++ packets) :
    s'.postedNotices env g = s.postedNotices env g ++
      packets.filterMap fun p => GameContext.noticeOf env.game p.id p.payload := by
  rw [postedNotices, h, List.filterMap_append]
  rfl

/-- Packets that are all made from one that is no notice. -/
theorem filterMap_sublist_nil {α β : Type} {f : α → Option β} {xs : List α} {x : α}
    (hxs : xs.Sublist [x]) (hx : f x = none) : xs.filterMap f = [] := by
  refine List.filterMap_eq_nil_iff.mpr fun y hy => ?_
  rw [List.mem_singleton.mp (hxs.subset hy), hx]

theorem worldReceives_delivers (henv : env.Faithful) {w : Nat} {s : Cluster K F Key} {t : Int}
    (h : Delivers env w s t) {p : Peer} {packet : S2SPacket} {rest : List S2SPacket}
    {newToken : String} {nowMs : Int} (htoWorld : s.toWorld p = packet :: rest)
    (hpasses : Undropped env w s (.worldReceives p newToken nowMs)) :
    Delivers env w (s.worldReceives env p packet rest newToken nowMs) t := by
  cases hreq : WorldContext.selectReqOf env.world packet with
  | none =>
      have hworld : (s.worldReceives env p packet rest newToken nowMs).world = s.world :=
        WorldContext.dispatch_ignored env.world hreq s.world p newToken nowMs
      refine h.frame (by rw [hworld]) (due_congr rfl ?_) rfl (List.Subset.refl _)
      rw [postedNotices, hworld]
      rfl
  | some req =>
      simp only [Undropped, htoWorld, List.head?_cons, Option.bind_some, hreq] at hpasses
      obtain ⟨hlinked, hpasses⟩ := hpasses
      obtain ⟨hstore, hposts⟩ :=
        WorldContext.dispatch_select env.world hreq s.world p newToken nowMs
      obtain ⟨hframe, hparse⟩ := hpasses.packet (henv.worldNotify _)
      obtain ⟨payload, answers, hposted, hanswers⟩ := hposts (.gameServer (env.gameServerOf w))
      rw [if_pos hlinked, hframe] at hposted
      -- the answer is no notice, so exactly one notice is new
      have hnotices : (s.worldReceives env p packet rest newToken nowMs).postedNotices env
          (env.gameServerOf w) = s.postedNotices env (env.gameServerOf w) ++
            [⟨req.accountId, newToken, nowMs + SecurityConstants.tokenLifetimeMs⟩] := by
        rw [postedNotices_append hposted, List.filterMap_append,
          filterMap_sublist_nil hanswers rfl]
        simp [GameContext.noticeOf, hparse]
      intro a entry hentry
      replace hentry : (Function.update s.world.tokenStore req.accountId
        (some ⟨req.accountId, newToken, nowMs + SecurityConstants.tokenLifetimeMs⟩)) a
          = some entry := hstore ▸ hentry
      have hdue : (s.worldReceives env p packet rest newToken nowMs).due env w a
          = s.due env w a ++ if req.accountId = a then
            [⟨req.accountId, newToken, nowMs + SecurityConstants.tokenLifetimeMs⟩] else [] := by
        simp only [due, hnotices, ← List.append_assoc]
        rw [List.filter_append]
        congr 1
        split <;> simp_all
      by_cases ha : a = req.accountId
      · subst ha
        rw [Function.update_self, Option.some.injEq] at hentry
        subst hentry
        rw [hdue, if_pos rfl]
        exact Or.inl (by simp)
      · rw [Function.update_of_ne ha] at hentry
        rw [hdue, if_neg (Ne.symm ha), List.append_nil]
        exact h a entry hentry

/-- A step of the world server that posts nothing but another message. -/
theorem Delivers.of_posts {w : Nat} {s s' : Cluster K F Key} {t : Int} (h : Delivers env w s t)
    {packet : S2SPacket} (hposts : s.world.Posts s'.world packet)
    (hnone : GameContext.noticeOf env.game packet.id packet.payload = none)
    (hstore : s'.world.tokenStore = s.world.tokenStore) (htoGateway : s'.toGateway = s.toGateway)
    (hgateways : s'.gateways = s.gateways) (hadmitted : s'.admitted = s.admitted) :
    Delivers env w s' t := by
  obtain ⟨xs, hposted, hxs, -⟩ := hposts (.gameServer (env.gameServerOf w))
  refine h.frame hstore (due_congr ?_ ?_) (by rw [hgateways]) (by rw [hadmitted]; simp)
  · rw [relayedNotices, htoGateway]
    rfl
  · rw [postedNotices_append hposted, filterMap_sublist_nil hxs hnone, List.append_nil]

theorem setLink_delivers {w : Nat} {s : Cluster K F Key} {t : Int} (h : Delivers env w s t)
    {p : Peer} {linked : Bool} (hidle : Undropped env w s (.link p linked)) :
    Delivers env w (s.setLink p linked) t := by
  refine h.frame rfl (due_congr rfl ?_) rfl (List.Subset.refl _)
  have hposted : (s.setLink p linked).world.posted (.gameServer (env.gameServerOf w))
      = s.world.posted (.gameServer (env.gameServerOf w)) := by
    by_cases hp : p = .gameServer (env.gameServerOf w)
    · subst hp
      rw [hidle rfl]
      exact Function.update_self _ _ _
    · exact Function.update_of_ne (Ne.symm hp) _ _
  rw [postedNotices, hposted]
  rfl

/-! ## Game servers -/

/-- The notices that a game server sends on are new on the way to the gateway. -/
theorem gameStepped_relayedNotices (s : Cluster K F Key) (g : Nat) (game : GameContext K Nat)
    (w : Nat) :
    (s.gameStepped env g game).relayedNotices env w = s.relayedNotices env w ++
      if env.gameServerOf w = g ∧ s.gatewaySessions w = true then
        (game.sent.reverse.filterMap (packetFor env w)).filterMap
          fun p => Gateway.noticeOf env.gateway p.id p.payload
      else [] := by
  simp only [relayedNotices, gameStepped]
  split
  · rw [List.filterMap_append]
  · rw [List.append_nil]

theorem gameReceives_delivers (henv : env.Faithful) {w : Nat} {s : Cluster K F Key} {t : Int}
    (h : Delivers env w s t) {g : Nat} {packet : S2SPacket} {rest : List S2SPacket}
    (hposted : s.world.posted (.gameServer g) = packet :: rest)
    (hpasses : Undropped env w s (.gameReceives g)) :
    Delivers env w (gameStepped env { s with world := s.world.pop (.gameServer g) } g
      (GameContext.worldDispatch env.game { s.games g with sent := [] } packet.id
        packet.payload)) t := by
  refine h.frame rfl (fun a => ?_) rfl (List.Subset.refl _)
  simp only [due]
  congr 1
  rw [gameStepped_relayedNotices, GameContext.worldDispatch_sent, List.append_assoc]
  by_cases hg : g = env.gameServerOf w
  · have hpopped : (s.world.pop (.gameServer g)).posted (.gameServer (env.gameServerOf w))
        = rest := by
      simp [WorldContext.pop, ← hg, hposted]
    have hread : s.postedNotices env (env.gameServerOf w)
        = (GameContext.noticeOf env.game packet.id packet.payload).toList ++
          rest.filterMap fun p => GameContext.noticeOf env.game p.id p.payload := by
      rw [postedNotices, ← hg, hposted]
      cases hn : GameContext.noticeOf env.game packet.id packet.payload <;> simp [hn]
    rw [hread]
    show s.relayedNotices env w ++ (_ ++ ((s.world.pop (.gameServer g)).posted _).filterMap _) = _
    rw [hpopped]
    congr 2
    cases hn : GameContext.noticeOf env.game packet.id packet.payload with
    | none => simp
    | some m =>
        simp only [Undropped, hposted, List.head?_cons, Option.bind_some, hn] at hpasses
        obtain ⟨hlinked, hpasses⟩ := hpasses hg
        obtain ⟨hframe, hparse⟩ := hpasses.packet (henv.gameNotify m)
        rw [if_pos ⟨hg.symm, hlinked⟩]
        show ([Outgoing.broadcast (.tokenNotify m)].filterMap (packetFor env w)).filterMap _ = _
        rw [packetFor_broadcast]
        simp only [toGatewayId, hframe]
        simp [Gateway.noticeOf, hparse]
  · have hother : (s.world.pop (.gameServer g)).posted (.gameServer (env.gameServerOf w))
        = s.world.posted (.gameServer (env.gameServerOf w)) :=
      Function.update_of_ne (fun heq => hg (Peer.gameServer.inj heq).symm) _ _
    rw [if_neg fun hw => hg hw.1.symm, List.nil_append]
    show _ ++ ((s.world.pop (.gameServer g)).posted _).filterMap _ = _
    rw [hother]
    rfl

/-! ## Gateways -/

theorem setGatewayLink_delivers {w : Nat} {s : Cluster K F Key} {t : Int}
    (h : Delivers env w s t) {v : Nat} {linked : Bool}
    (hidle : Undropped env w s (.gatewayLink v linked)) :
    Delivers env w (s.setGatewayLink v linked) t := by
  refine h.frame rfl (due_congr ?_ rfl) rfl (List.Subset.refl _)
  have htoGateway : (s.setGatewayLink v linked).toGateway w = s.toGateway w := by
    by_cases hv : v = w
    · subst hv
      rw [hidle rfl]
      exact Function.update_self _ _ _
    · exact Function.update_of_ne (Ne.symm hv) _ _
  rw [relayedNotices, htoGateway]
  rfl

theorem Delivers.later {w : Nat} {s : Cluster K F Key} {t t' : Int} (h : Delivers env w s t)
    (ht : t ≤ t') : Delivers env w s t' := by
  intro a entry hentry
  refine (h a entry hentry).imp_right fun ⟨hnil, hhas⟩ => ⟨hnil, ?_⟩
  exact hhas.imp_right (Or.imp_left fun hlt => hlt.trans_le ht)

/-- The token that the gateway loses has admitted somebody, or has expired. -/
theorem gatewayStepped_delivers {w : Nat} {s : Cluster K F Key} {t t' : Int}
    (h : Delivers env w s t) (ht : t ≤ t') {label : Gateway.Label Nat}
    {gateway : Gateway Nat F Key} (hlabel : ∀ id payload, label ≠ .gamePacket id payload)
    (hread : t' = (Gateway.readingOf label).getD t)
    (hstep : Gateway.step env.gateway (s.gateways w) label = some gateway) :
    Delivers env w (s.gatewayStepped env w label gateway) t' := by
  intro a entry hentry
  refine (h a entry hentry).imp_right fun ⟨hnil, hhas⟩ => ⟨hnil, ?_⟩
  show (Function.update s.gateways w gateway w).pendingTokens a = _ ∨ _
  rw [Function.update_self]
  rcases hhas with hpending | hexpired | ⟨adm, hadm, htoken⟩
  · have heffect := Gateway.step_tokens hlabel hstep
    have hkeeps := Gateway.step_unexpired hlabel hstep
    simp only [gatewayStepped]
    generalize Gateway.admissionOf env.gateway (s.gateways w) label = e at heffect hkeeps
    cases heffect with
    | keeps tokens verified =>
        rcases hkeeps rfl t a _ hpending with hkept | hexpired
        · exact Or.inl hkept
        · exact Or.inr (Or.inl (hread ▸ hexpired))
    | admits i req expireMs has consumes verified =>
        by_cases ha : a = req.accountId
        · subst ha
          rw [hpending, Option.some.injEq, PendingToken.mk.injEq] at has
          exact Or.inr (Or.inr ⟨⟨w, i, req⟩, by simp, has.1.symm⟩)
        · rw [consumes, Function.update_of_ne ha]
          exact Or.inl hpending
  · exact Or.inr (Or.inl (hexpired.trans_le ht))
  · exact Or.inr (Or.inr ⟨adm, List.mem_append_right _ hadm, htoken⟩)

/-- The next notice arrives, or a packet that is none. -/
theorem gatewayReceives_delivers {w : Nat} {s : Cluster K F Key} {t : Int}
    (h : Delivers env w s t) {packet : S2SPacket} {rest : List S2SPacket}
    (hwaiting : s.toGateway w = packet :: rest) :
    Delivers env w (s.gatewayReceives env w packet rest) t := by
  have hgateway : (s.gatewayReceives env w packet rest).gateways w
      = (s.gateways w).gameDispatch env.gateway packet.id packet.payload :=
    Function.update_self _ _ _
  have hread : s.relayedNotices env w
      = (Gateway.noticeOf env.gateway packet.id packet.payload).toList ++
        (s.gatewayReceives env w packet rest).relayedNotices env w := by
    simp only [relayedNotices, gatewayReceives, Function.update_self, hwaiting]
    cases hn : Gateway.noticeOf env.gateway packet.id packet.payload <;> simp [hn]
  cases hnotice : Gateway.noticeOf env.gateway packet.id packet.payload with
  | none =>
      rw [hnotice] at hread
      refine h.frame rfl (due_congr hread.symm rfl) ?_ (List.Subset.refl _)
      rw [hgateway]
      exact (Gateway.gameDispatch_kept hnotice (s.gateways w)).pendingTokens
  | some m =>
      have hdue : ∀ a, s.due env w a = (if m.accountId = a then [m] else []) ++
          (s.gatewayReceives env w packet rest).due env w a := by
        intro a
        rw [due, hread, hnotice, List.append_assoc, List.filter_append]
        congr 1
        by_cases ha : m.accountId = a <;> simp [ha]
      intro a entry hentry
      have hbefore := h a entry hentry
      rw [hdue] at hbefore
      rw [hgateway, Gateway.gameDispatch_notice hnotice]
      by_cases ha : m.accountId = a
      · subst ha
        rw [if_pos rfl, List.singleton_append] at hbefore
        cases hrest : (s.gatewayReceives env w packet rest).due env w m.accountId with
        | nil =>
            rw [hrest] at hbefore
            rcases hbefore with hlast | ⟨hnil, -⟩
            · have heq : m = ⟨m.accountId, entry.token, entry.expireMs⟩ :=
                Option.some.inj hlast
              have hstored : (⟨m.sessionToken, m.expireTimeMs⟩ : PendingToken)
                  = ⟨entry.token, entry.expireMs⟩ := by
                rw [heq]
              exact Or.inr ⟨rfl, Or.inl (hstored ▸ Function.update_self _ _ _)⟩
            · cases hnil
        | cons n ns =>
            rw [hrest] at hbefore
            rcases hbefore with hlast | ⟨hnil, -⟩
            · exact Or.inl hlast
            · cases hnil
      · rw [if_neg ha, List.nil_append] at hbefore
        refine hbefore.imp_right (And.imp_right (Or.imp_left ?_))
        intro hpending
        exact (Function.update_of_ne (Ne.symm ha) _ _).trans hpending

/-! ## Steps -/

section Steps

variable [Field K] [LinearOrder K] [FloorRing K] [HasSqrt K]

/-- Every step keeps the notices in order, as long as none is dropped. `t'` is
    the reading of the clock in the step, or the last one. -/
theorem step_delivers (henv : env.Faithful) {w : Nat} {s s' : Cluster K F Key} {t t' : Int}
    {label : Label K} (h : Delivers env w s t) (hpasses : Undropped env w s label)
    (ht : t ≤ t') (hread : t' = (readingOf w label).getD t)
    (hstep : step env s label = some s') : Delivers env w s' t' := by
  suffices hd : ∃ t₁ ≤ t', Delivers env w s' t₁ by
    obtain ⟨t₁, ht₁, hd⟩ := hd
    exact hd.later ht₁
  cases step_inv hstep with
  | login l stepped => exact ⟨t, ht, h⟩
  | otherSends p packet => exact ⟨t, ht, h⟩
  | @loginReceives l packet rest posted =>
      refine ⟨t, ht, h.frame rfl (due_congr rfl ?_) rfl (List.Subset.refl _)⟩
      show ((s.world.pop (.loginServer l)).posted _).filterMap _ = _
      simp [WorldContext.pop, postedNotices]
  | link p linked => exact ⟨t, ht, setLink_delivers h hpasses⟩
  | @worldReceives p packet rest newToken nowMs fresh =>
      simp only [step] at hstep
      repeat' split at hstep
      · cases hstep
      · rename_i htoWorld _
        rw [← Option.some.inj hstep]
        exact ⟨t, ht, worldReceives_delivers henv h htoWorld hpasses⟩
      · cases hstep
  | buffMonsterHp addHp =>
      obtain ⟨payload, hposts⟩ := WorldContext.buffMonsterHp_posts env.world s.world addHp
      exact ⟨t, ht, h.of_posts hposts rfl
        (WorldContext.buffMonsterHp_tokenStore env.world s.world addHp) rfl rfl rfl⟩
  | @game g label game own stepped =>
      refine ⟨t, ht, h.frame rfl (due_congr ?_ rfl) rfl (List.Subset.refl _)⟩
      rw [gameStepped_relayedNotices,
        List.filterMap_eq_nil_iff.mpr (gameTask_noNotice own stepped w), ite_self,
        List.append_nil]
  | gameReceives posted => exact ⟨t, ht, gameReceives_delivers henv h posted hpasses⟩
  | gatewayLink v linked => exact ⟨t, ht, setGatewayLink_delivers h hpasses⟩
  | @gateway v label gateway own stepped =>
      by_cases hv : v = w
      · subst hv
        rw [readingOf, if_pos rfl] at hread
        exact ⟨t', le_rfl, gatewayStepped_delivers h ht own hread stepped⟩
      · refine ⟨t, ht, h.frame rfl (fun _ => rfl) ?_ (List.subset_append_right _ _)⟩
        show (Function.update s.gateways v gateway w).pendingTokens = _
        rw [Function.update_of_ne (Ne.symm hv)]
  | @gatewayReceives v packet rest waiting =>
      by_cases hv : v = w
      · subst hv
        exact ⟨t, ht, gatewayReceives_delivers h waiting⟩
      · refine ⟨t, ht, h.frame rfl (due_congr ?_ rfl) ?_ (List.Subset.refl _)⟩
        · show (Function.update s.toGateway v rest w).filterMap _ = _
          rw [Function.update_of_ne (Ne.symm hv)]
          rfl
        · show (Function.update s.gateways v _ w).pendingTokens = _
          rw [Function.update_of_ne (Ne.symm hv)]

/-! ## Runs -/

omit [Field K] [LinearOrder K] [FloorRing K] [HasSqrt K] in
/-- A client that is due to be admitted is admitted exactly when the notice of its
    token is there. -/
theorem Delivers.admission {w : Nat} {s : Cluster K F Key} {t : Int} (h : Delivers env w s t)
    (hsingle : (s.ledger env).Single) {label : Gateway.Label Nat} {i : Nat}
    {req : GatewayConnectReq}
    (hpresented : Gateway.presentedOf env.gateway (s.gateways w) label = some (i, req))
    (ht : t ≤ Gateway.clockOf label) (hentitled : s.Entitled req (Gateway.clockOf label)) :
    Gateway.admissionOf env.gateway (s.gateways w) label = some (i, req) ↔
      ∀ n ∈ s.coming env w, n.token ≠ req.sessionToken := by
  obtain ⟨entry, hentry, htoken, hunexpired⟩ := hentitled.newest
  rw [(Gateway.admissionOf_presented hpresented).2]
  rcases h req.accountId entry hentry with hlast | ⟨-, hhas⟩
  · -- the notice is on its way, and the gateway does not have the token twice
    have hmem : ⟨req.accountId, entry.token, entry.expireMs⟩ ∈ s.due env w req.accountId :=
      List.mem_of_getLast? hlast
    have hcoming : ⟨req.accountId, entry.token⟩ ∈ s.coming env w := by
      rw [coming_eq]
      exact List.mem_map.mpr ⟨_, List.mem_of_mem_filter hmem, rfl⟩
    have hrefused : ((s.gateways w).verifyAndConsumeToken req.accountId req.sessionToken
        (Gateway.clockOf label)).1 = false := by
      rcases Gateway.verifyAndConsumeToken_tokens (s.gateways w) req.accountId
        req.sessionToken (Gateway.clockOf label) with ⟨-, ⟨expireMs, hpending⟩, -⟩ | hrefused
      · have hkept : (s.ledger env).kept w req.accountId = some req.sessionToken :=
          Option.map_eq_some_iff.mpr ⟨_, hpending, rfl⟩
        exact absurd htoken (hsingle.kept w _ _ hkept _ hcoming)
      · exact hrefused.1
    rw [hrefused]
    exact iff_of_false (by simp) fun hnone => hnone _ hcoming htoken
  · rcases hhas with hpending | hexpired | ⟨adm, hadm, heq⟩
    · have hkept : (s.ledger env).kept w req.accountId = some req.sessionToken :=
        Option.map_eq_some_iff.mpr ⟨_, hpending, htoken⟩
      have haccepted : ((s.gateways w).verifyAndConsumeToken req.accountId req.sessionToken
          (Gateway.clockOf label)).1 = true := by
        simp [Gateway.verifyAndConsumeToken, hpending, htoken, not_lt.mpr hunexpired]
      rw [if_pos haccepted]
      exact iff_of_true rfl (hsingle.kept w _ _ hkept)
    · exact absurd (hexpired.trans_le ht) (not_lt.mpr hunexpired)
    · exact absurd (heq.trans htoken) (hentitled.first adm hadm)

/-- What holds as long as no notice for the gateway is dropped. -/
structure Tracked (env : ClusterEnv K F Key) (w : Nat) (s : Cluster K F Key × Int) : Prop where
  genuine : (s.1.ledger env).Genuine
  single : (s.1.ledger env).Single
  delivers : Delivers env w s.1 s.2

theorem step_tracked (henv : env.Faithful) {w : Nat} {s s' : Cluster K F Key × Int}
    {label : Label K} (h : Tracked env w s) (hpasses : Undropped env w s.1 label)
    (hstep : clocked (step env) (readingOf w) s label = some s') : Tracked env w s' := by
  obtain ⟨ht, hread, hstep⟩ := clocked_some hstep
  have hrefines := step_refines henv hstep
  exact ⟨TokenLedger.step_genuine h.genuine hrefines,
    TokenLedger.step_single h.genuine h.single hrefines,
    step_delivers henv h.delivers hpasses ht hread hstep⟩

/-- On a run on which no notice for the gateway is dropped, it admits every client
    that is due to be admitted exactly when each of them connects after the notice
    of its token has arrived. -/
theorem admitsEntitled_iff_noticeArrived (env : ClusterEnv K F Key) (henv : env.Faithful)
    (spawns : Nat → List (MonsterSpawn K)) (w : Nat) (t : Int) (labels : List (Label K))
    (h : Meets (clocked (step env) (readingOf w)) (fun s => Undropped env w s.1)
      (start spawns, t) labels) :
    Meets (clocked (step env) (readingOf w)) (fun s => AdmitsEntitled env w s.1)
        (start spawns, t) labels ↔
      Meets (clocked (step env) (readingOf w)) (fun s => NoticeArrived env w s.1)
        (start spawns, t) labels := by
  have hstart : Tracked env w ((start spawns : Cluster K F Key), t) :=
    ⟨start_genuine spawns, start_single spawns, fun _ _ hentry => (nomatch hentry)⟩
  refine meets_congr_of_meets (Tracked env w) (step_tracked henv) ?_ hstart h
  intro s label s' hs _ hstep
  obtain ⟨ht, hread, -⟩ := clocked_some hstep
  cases label with
  | gateway v label =>
      simp only [AdmitsEntitled, NoticeArrived]
      refine forall_congr' fun hv => forall_congr' fun i => forall_congr' fun req =>
        forall_congr' fun hpresented => forall_congr' fun hentitled => ?_
      refine hs.delivers.admission hs.single hpresented ?_ hentitled
      rw [readingOf, if_pos hv, (Gateway.admissionOf_presented hpresented).1] at hread
      replace hread : s'.2 = Gateway.clockOf label := hread
      exact hread ▸ ht
  | _ => exact Iff.rfl

end Steps

/-- The notice is there before the client. -/
theorem admitsEntitled_connect :
    (exec (clocked (step .sample) (readingOf 0)) (start fun _ => [], 0)
        (selectWorld ++ connectTo 0)).map (·.1.admitted.length) = some 1 ∧
      (Meets (clocked (step .sample) (readingOf 0)) (fun s => AdmitsEntitled .sample 0 s.1)
          (start fun _ => [], 0) (selectWorld ++ connectTo 0) ↔
        Meets (clocked (step .sample) (readingOf 0)) (fun s => NoticeArrived .sample 0 s.1)
          (start fun _ => [], 0) (selectWorld ++ connectTo 0)) :=
  ⟨by decide +kernel, admitsEntitled_iff_noticeArrived .sample ClusterEnv.sample_faithful _ 0 0 _
    (by decide +kernel)⟩

/-- The client connects before the gateway has read the notice. -/
theorem entitledClient_overtakesNotice :
    Meets (clocked (step .sample) (readingOf 0)) (fun s => Undropped .sample 0 s.1)
        (start fun _ => [], 0) (selectWorld ++ (connectTo 0).tail) ∧
      ¬ Meets (clocked (step .sample) (readingOf 0)) (fun s => AdmitsEntitled .sample 0 s.1)
        (start fun _ => [], 0) (selectWorld ++ (connectTo 0).tail) := by
  refine ⟨by decide +kernel, fun h => ?_⟩
  let before : List (Label ℚ) := selectWorld ++ [.gateway 0 (.accept 0 0),
    .gateway 0 (.headerRead 0 ⟨73, PacketId.clientGatewayConnectReq⟩ 0 0)]
  let presents : Gateway.Label Nat := .payloadRead 0 sampleConnectBytes 0
  have hreached : (exec (clocked (step .sample) (readingOf 0)) (start fun _ => [], 0) before).any
      fun s : Cluster ℚ Unit Unit × Int => decide
        (Gateway.presentedOf ClusterEnv.sample.gateway (s.1.gateways 0) presents
            = some (0, ⟨"a", sampleToken⟩) ∧
          (s.1.relayed.find? fun r => r.login = 0 ∧ r.session = 0).map (·.res.sessionToken)
            = some sampleToken ∧
          s.1.world.tokenStore "a" = some ⟨"a", sampleToken, 300000⟩ ∧
          s.1.admitted.length = 0 ∧
          Gateway.admissionOf ClusterEnv.sample.gateway (s.1.gateways 0) presents = none ∧
          (clocked (step .sample) (readingOf 0) s (.gateway 0 presents)).isSome) := by
    decide +kernel
  obtain ⟨s, hs, hfacts⟩ := (Option.any_eq_true _ _).mp hreached
  obtain ⟨hpresented, hrelayed, hstored, hadmitted, hrefused, hstep⟩ := of_decide_eq_true hfacts
  obtain ⟨s', hs'⟩ := Option.isSome_iff_exists.mp hstep
  obtain ⟨r, hr, htoken⟩ := Option.map_eq_some_iff.mp hrelayed
  have hentitled : s.1.Entitled ⟨"a", sampleToken⟩ 0 :=
    ⟨⟨0, 0, r, hr, htoken⟩, ⟨_, hstored, rfl, by decide⟩, fun adm hadm => by
      rw [List.length_eq_zero_iff.mp hadmitted] at hadm
      cases hadm⟩
  have hmeets : Meets (clocked (step .sample) (readingOf 0)) (fun s => AdmitsEntitled .sample 0 s.1)
      (start fun _ => [], 0) (before ++ [.gateway 0 presents]) := h
  have hadmits := hmeets.of_exec [] hs hs' rfl 0 _ hpresented hentitled
  rw [hrefused] at hadmits
  cases hadmits

end Cluster

end MMOServers.Servers
