/-
MMOServers.Servers.ResidentTheorems — who is in the world was let in.

A game server believes what its gateways tell it: a move request under an account
brings the account into the world, and no token is looked at again. So whoever is
online must have been let in at a gateway. In every run of a game server with its
gateways each online player stands where a move request put it that some session
verified for the account has made, or at the spawn point after a death
(`always_resident`); the empty account is the one that needs no verification.

The history that vouches for a player is that of a gateway, and it only grows.
Between it and the player table there are the queue of the gateway and the
connection, and nothing gets into them but requests that were made (`Carried`).
-/
import MMOServers.GameServer.Whereabouts
import MMOServers.Servers.ChatTheorems

namespace MMOServers.Servers

open MMOServers.Common MMOServers.GameServer MMOServers.GatewayServer MMOServers.Network
  Transition

/-- Protobuf: a move request that was serialized does not parse to another one. -/
def RealmEnv.MovesFaithful {K Key : Type} (env : RealmEnv K Key) : Prop :=
  ∀ a x y z yaw req,
    env.game.parseMoveReq (env.gateway.serializeToGame (.moveReq a x y z yaw)) = some req →
      req = ⟨a, x, y, z, yaw⟩

namespace Realm

variable {ι K Key : Type} {env : RealmEnv K Key}

/-! ## Requests that were made -/

/-- A session of the gateway has asked for the move. -/
def AskedAt (gateway : Gateway ι K Key) (req : GatewayGameMoveReq K) : Prop :=
  ∃ i, .forwarded i (.moveReq req.accountId req.x req.y req.z req.yaw) ∈ gateway.trace

def Asked (s : Realm ι K Key) (req : GatewayGameMoveReq K) : Prop :=
  ∃ w, AskedAt (s.gateways w) req

/-- The histories of the gateways only grow. -/
def Grows (s s' : Realm ι K Key) : Prop :=
  ∀ w, (s.gateways w).trace <:+ (s'.gateways w).trace

theorem Grows.of_eq {s s' : Realm ι K Key} (h : s'.gateways = s.gateways) : s.Grows s' :=
  fun _ => h ▸ List.suffix_refl _

theorem Grows.update {s s' : Realm ι K Key} {w : Nat} {gateway : Gateway ι K Key}
    (hsuffix : (s.gateways w).trace <:+ gateway.trace)
    (h : s'.gateways = Function.update s.gateways w gateway) : s.Grows s' := by
  intro v
  rw [h]
  by_cases hv : v = w
  · rw [hv, Function.update_self]
    exact hsuffix
  · simp [Function.update_of_ne hv]

theorem Grows.asked {s s' : Realm ι K Key} (h : s.Grows s') {req : GatewayGameMoveReq K}
    (hasked : s.Asked req) : s'.Asked req := by
  obtain ⟨w, i, hi⟩ := hasked
  exact ⟨w, i, (h w).subset hi⟩

/-- The move that a packet of a gateway asks for. -/
def requestMove (env : RealmEnv K Key) (packet : S2SPacket) : Option (GatewayGameMoveReq K) :=
  if packet.id = PacketId.gatewayGameMoveReq then env.game.parseMoveReq packet.payload else none

/-- Only move requests that were made are on their way. -/
structure Carried (env : RealmEnv K Key) (s : Realm ι K Key) : Prop where
  queued : ∀ w, ∀ packet ∈ s.queued w, ∀ req, requestMove env packet = some req → s.Asked req
  toGame : ∀ c, ∀ packet ∈ s.toGame c, ∀ req, requestMove env packet = some req → s.Asked req

theorem Carried.of_subset {s s' : Realm ι K Key} (h : s.Carried env) (hgrows : s.Grows s')
    (hqueued : ∀ w, s'.queued w ⊆ s.queued w) (hgame : ∀ c, s'.toGame c ⊆ s.toGame c) :
    s'.Carried env :=
  ⟨fun w p hp req hreq => hgrows.asked (h.queued w p (hqueued w hp) req hreq),
    fun c p hp req hreq => hgrows.asked (h.toGame c p (hgame c hp) req hreq)⟩

theorem subset_of_update {ways : Nat → List S2SPacket} {c : Nat} {packets : List S2SPacket}
    (h : packets ⊆ ways c) (v : Nat) : Function.update ways c packets v ⊆ ways v := by
  by_cases hv : v = c
  · subst hv
    rwa [Function.update_self]
  · rw [Function.update_of_ne hv]
    exact List.Subset.refl _

/-- A packet with a move is the move that was asked for. -/
theorem packetToGame_move (henv : env.MovesFaithful) {m : ToGame K}
    (hshort : m.pktId = PacketId.gatewayGameMoveReq → Short (env.gateway.serializeToGame m))
    {p : S2SPacket} (hp : packetToGame env m = some p) {req : GatewayGameMoveReq K}
    (hreq : requestMove env p = some req) :
    m = .moveReq req.accountId req.x req.y req.z req.yaw := by
  have hid := packetToGame_id hp
  unfold requestMove at hreq
  split at hreq
  · rename_i hmove
    rw [packetToGame_payload (hshort (hid.symm.trans hmove)) hp] at hreq
    cases m with
    | moveReq a x y z yaw =>
        obtain rfl := henv a x y z yaw req hreq
        rfl
    | chatReq a msg =>
        exact absurd (hid.symm.trans hmove) (show PacketId.gatewayGameChatReq ≠ _ by decide)
    | leaveReq a =>
        exact absurd (hid.symm.trans hmove) (show PacketId.gatewayGameLeaveReq ≠ _ by decide)
    | attackReq a =>
        exact absurd (hid.symm.trans hmove) (show PacketId.gatewayGameAttackReq ≠ _ by decide)
  · cases hreq

/-- What a gateway queues was asked for by one of its sessions. -/
theorem gatewayStepped_carried (henv : env.MovesFaithful) {s : Realm ι K Key}
    (h : s.Carried env) {w : Nat} {gateway : Gateway ι K Key}
    (hsuffix : (s.gateways w).trace <:+ gateway.trace)
    (hshort : ∀ m ∈ (newEvents (s.gateways w) gateway).filterMap messageOf,
      m.pktId = PacketId.gatewayGameMoveReq → Short (env.gateway.serializeToGame m)) :
    (s.gatewayStepped env w gateway).Carried env := by
  have hgrows : s.Grows (s.gatewayStepped env w gateway) := .update hsuffix rfl
  refine ⟨fun v p hp req hreq => ?_, fun c p hp req hreq =>
    hgrows.asked (h.toGame c p hp req hreq)⟩
  simp only [gatewayStepped] at hp
  by_cases hv : v = w
  · subst hv
    rw [Function.update_self] at hp
    rcases List.mem_append.mp hp with hold | hnew
    · exact hgrows.asked (h.queued v p hold req hreq)
    · obtain ⟨m, hm, hpacket⟩ := List.mem_filterMap.mp hnew
      obtain rfl := packetToGame_move henv (hshort m hm) hpacket hreq
      obtain ⟨e, he, hmessage⟩ := List.mem_filterMap.mp hm
      have htrace : e ∈ gateway.trace := List.mem_of_mem_take (List.mem_reverse.mp he)
      cases e with
      | forwarded i m' =>
          obtain rfl := Option.some.inj hmessage
          refine ⟨v, i, ?_⟩
          show _ ∈ (Function.update s.gateways v gateway v).trace
          rw [Function.update_self]
          exact htrace
      | _ => cases hmessage
  · rw [Function.update_of_ne hv] at hp
    exact hgrows.asked (h.queued v p hp req hreq)

theorem transmits_carried {s : Realm ι K Key} (h : s.Carried env) {w : Nat} (c : Nat)
    {packet : S2SPacket} {rest : List S2SPacket} (hwaiting : s.queued w = packet :: rest) :
    Carried env { s with
      queued := Function.update s.queued w rest
      toGame := Function.update s.toGame c (s.toGame c ++ [packet]) } := by
  refine ⟨fun v p hp => h.queued v p ?_, fun d p hp => ?_⟩
  · exact subset_of_update (hwaiting ▸ List.subset_cons_self packet rest) v hp
  · by_cases hd : d = c
    · subst hd
      simp only [Function.update_self] at hp
      rcases List.mem_append.mp hp with hold | hnew
      · exact h.toGame d p hold
      · exact h.queued w p (by rw [hwaiting, List.mem_singleton.mp hnew]; exact List.mem_cons_self)
    · simp only [Function.update_of_ne hd] at hp
      exact h.toGame d p hp

theorem loses_carried {s : Realm ι K Key} (h : s.Carried env) (n : Nat) (way : Way) :
    (s.loses n way).Carried env := by
  cases way with
  | queued w =>
      exact h.of_subset (.of_eq rfl) (subset_of_update (List.eraseIdx_subset ..))
        fun _ => List.Subset.refl _
  | toGame c =>
      exact h.of_subset (.of_eq rfl) (fun _ => List.Subset.refl _)
        (subset_of_update (List.eraseIdx_subset ..))
  | toGateway c =>
      exact h.of_subset (.of_eq rfl) (fun _ => List.Subset.refl _) fun _ => List.Subset.refl _

/-! ## Players -/

section Players

variable [Field K] [LinearOrder K]

/-- The position is that of a move request which was made under the account, or the
    spawn point for an account that has made one. -/
def PlacedBy (s : Realm ι K Key) (accId : String) (x y : K) : Prop :=
  ∃ req, s.Asked req ∧ req.accountId = accId ∧
    ((x = GameContext.clamp GameConstants.Map.width req.x ∧
        y = GameContext.clamp GameConstants.Map.height req.y) ∨
      (x = ((GameConstants.Player.spawnX : Int) : K) ∧
        y = ((GameConstants.Player.spawnY : Int) : K)))

theorem PlacedBy.mono {s s' : Realm ι K Key} (h : s.Grows s') {accId : String} {x y : K}
    (hplaced : s.PlacedBy accId x y) : s'.PlacedBy accId x y := by
  obtain ⟨req, hasked, hrest⟩ := hplaced
  exact ⟨req, h.asked hasked, hrest⟩

theorem PlacedBy.home {s : Realm ι K Key} {accId : String} {x y : K}
    (h : s.PlacedBy accId x y) : s.PlacedBy accId ((GameConstants.Player.spawnX : Int) : K)
      ((GameConstants.Player.spawnY : Int) : K) := by
  obtain ⟨req, hasked, hacc, -⟩ := h
  exact ⟨req, hasked, hacc, Or.inr ⟨rfl, rfl⟩⟩

/-- Every player is where a request or a death has put it. -/
def Placed (s : Realm ι K Key) : Prop := s.game.Whereabouts s.PlacedBy

theorem Placed.of_game {s s' : Realm ι K Key} (h : s.Placed) (hgrows : s.Grows s')
    (hgame : s'.game.playerMap = s.game.playerMap) : s'.Placed :=
  fun accId p hp => PlacedBy.mono hgrows (h accId p (hgame ▸ hp))

end Players

/-! ## Runs -/

section Runs

variable [DecidableEq ι] [Field K] [LinearOrder K] [FloorRing K] [HasSqrt K]

/-- No move request is so long that its size is cut. -/
def MovesUncut (env : RealmEnv K Key) (s : Realm ι K Key) : Label ι K → Prop
  | .gateway w label => ∀ gateway, Gateway.step env.gateway (s.gateways w) label = some gateway →
      ∀ m ∈ (newEvents (s.gateways w) gateway).filterMap messageOf,
        m.pktId = PacketId.gatewayGameMoveReq → Short (env.gateway.serializeToGame m)
  | _ => True

omit [DecidableEq ι] in
theorem gameReceives_placed {s : Realm ι K Key} (h : s.Placed) (hcarried : s.Carried env)
    {c : Nat} {packet : S2SPacket} {rest : List S2SPacket} (order : IterationOrder)
    (hwaiting : s.toGame c = packet :: rest) :
    (GameContext.dispatch env.game { s.game with sent := [] } c packet.id packet.payload
      order).Whereabouts s.PlacedBy := by
  have hbefore : GameContext.Whereabouts s.PlacedBy { s.game with sent := [] } := h
  refine GameContext.dispatch_whereabouts hbefore c packet.id packet.payload order ?_
  intro req hreq
  have hasked : s.Asked req :=
    hcarried.toGame c packet (hwaiting ▸ List.mem_cons_self) req hreq
  exact ⟨req, hasked, rfl, Or.inl ⟨rfl, rfl⟩⟩

theorem step_placed (henv : env.MovesFaithful) {s s' : Realm ι K Key} {label : Label ι K}
    (hcarried : s.Carried env) (h : s.Placed) (huncut : MovesUncut env s label)
    (hstep : step env s label = some s') : s'.Carried env ∧ s'.Placed := by
  have hsame : ∀ {t : Realm ι K Key}, t.gateways = s.gateways → t.game = s.game →
      (∀ w, t.queued w ⊆ s.queued w) → (∀ c, t.toGame c ⊆ s.toGame c) →
        t.Carried env ∧ t.Placed :=
    fun hgateways hgame hqueued htoGame =>
      ⟨hcarried.of_subset (.of_eq hgateways) hqueued htoGame,
        h.of_game (.of_eq hgateways) (hgame ▸ rfl)⟩
  cases step_inv hstep with
  | gateway own stepped =>
      have hsuffix := Gateway.step_suffix stepped
      exact ⟨gatewayStepped_carried henv hcarried hsuffix (huncut _ stepped),
        h.of_game (.update hsuffix rfl) rfl⟩
  | connect alone => exact hsame rfl rfl (fun _ => List.Subset.refl _) fun _ => List.Subset.refl _
  | disconnect w => exact hsame rfl rfl (fun _ => List.Subset.refl _) fun _ => List.Subset.refl _
  | transmits connected waiting =>
      exact ⟨transmits_carried hcarried _ waiting, h.of_game (.of_eq rfl) rfl⟩
  | loses way n =>
      refine ⟨loses_carried hcarried n way, h.of_game ?_ ?_⟩
      · cases way <;> exact .of_eq rfl
      · cases way <;> rfl
  | @gameReceives c packet rest order buffers waiting =>
      have hread : ∀ d, Function.update s.toGame c rest d ⊆ s.toGame d :=
        subset_of_update (waiting ▸ List.subset_cons_self packet rest)
      refine ⟨hcarried.of_subset (.of_eq rfl) (fun _ => List.Subset.refl _) hread, ?_⟩
      exact gameReceives_placed h hcarried order waiting
  | sessionEnds c => exact hsame rfl rfl (fun _ => List.Subset.refl _) fun _ => List.Subset.refl _
  | @game label game buffers own stepped =>
      refine ⟨hcarried.of_subset (.of_eq rfl) (fun _ => List.Subset.refl _)
        fun _ => List.Subset.refl _, ?_⟩
      have hbefore : GameContext.Whereabouts s.PlacedBy { s.game with sent := [] } := h
      refine GameContext.step_whereabouts (fun _ _ _ hp => hp.home) hbefore ?_ stepped
      intro req hreq
      cases label with
      | packet gw id payload order => exact absurd rfl (own gw id payload order)
      | _ => cases hreq
  | @gatewayReceives w c packet rest connected waiting =>
      have hsilent : Gateway.Silent (s.gateways w)
          ((s.gateways w).gameDispatch env.gateway packet.id packet.payload) :=
        Gateway.gameDispatch_silent (s.gateways w) packet.id packet.payload
      have hgrows : s.Grows (s.gatewayReceives env w c packet rest) :=
        .update (hsilent.trace ▸ List.suffix_refl _) rfl
      exact ⟨hcarried.of_subset hgrows (fun _ => List.Subset.refl _)
        fun _ => List.Subset.refl _, h.of_game hgrows rfl⟩

/-- Every player online is in the world by a move request that a session has made
    which was verified for the account, unless that is the empty one, and stands where
    the request or a death has put it. -/
def Resident (s : Realm ι K Key) : Prop :=
  ∀ accId p, s.game.playerMap accId = some p → ∃ w i x y z yaw,
    .forwarded i (.moveReq accId x y z yaw) ∈ (s.gateways w).trace ∧
    (accId ≠ "" → .verified i accId ∈ (s.gateways w).trace) ∧
    ((p.x = GameContext.clamp GameConstants.Map.width x ∧
        p.y = GameContext.clamp GameConstants.Map.height y) ∨
      (p.x = ((GameConstants.Player.spawnX : Int) : K) ∧
        p.y = ((GameConstants.Player.spawnY : Int) : K)))

omit [DecidableEq ι] [Field K] [LinearOrder K] [FloorRing K] [HasSqrt K] in
theorem verified_of_vouched {trace : List (Event ι K)} (h : Gateway.Vouched trace) {i : ι}
    {m : ToGame K} (hm : .forwarded i m ∈ trace) (hne : m.accountId ≠ "") :
    .verified i m.accountId ∈ trace := by
  induction trace with
  | nil => cases hm
  | cons e older ih =>
      have holder : Gateway.Vouched older := by
        cases e with
        | forwarded _ _ => exact h.2
        | _ => exact h
      rcases List.mem_cons.mp hm with rfl | hm
      · exact List.mem_cons_of_mem _ (h.1 hne)
      · exact List.mem_cons_of_mem _ (ih holder hm)

omit [FloorRing K] [HasSqrt K] [DecidableEq ι] in
theorem resident_of_placed {s : Realm ι K Key} (h : s.Placed) (hvouched : s.Attributed) :
    s.Resident := by
  intro accId p hp
  obtain ⟨req, ⟨w, i, hi⟩, rfl, hplace⟩ := h accId p hp
  exact ⟨w, i, req.x, req.y, req.z, req.yaw, hi,
    fun hne => verified_of_vouched (hvouched w).2 hi hne, hplace⟩

/-- In every run in which no move request is so long that its size is cut. -/
theorem always_resident (henv : env.MovesFaithful) (spawns : List (MonsterSpawn K))
    (labels : List (Label ι K))
    (h : Meets (step env) (MovesUncut env) (start spawns : Realm ι K Key) labels) :
    Always (step env) Resident (start spawns : Realm ι K Key) labels := by
  have hstart : Placed (start spawns : Realm ι K Key) := by
    intro accId p hp
    rw [show (start spawns : Realm ι K Key).game.playerMap = fun _ => none from
      (GameContext.start_tables spawns).1] at hp
    cases hp
  have hinv : Always (step env) (fun s => (s.Carried env ∧ s.Placed) ∧ s.Attributed)
      (start spawns : Realm ι K Key) labels := by
    have hnothing : Carried env (start spawns : Realm ι K Key) :=
      ⟨fun _ _ h => (List.not_mem_nil h).elim, fun _ _ h => (List.not_mem_nil h).elim⟩
    refine always_of_meets ?_ ⟨⟨hnothing, hstart⟩, fun _ => ⟨Gateway.start_known, trivial⟩⟩ h
    intro s label s' hs huncut hstep
    exact ⟨step_placed henv hs.1.1 hs.1.2 huncut hstep, step_attributed hs.2 hstep⟩
  exact hinv.imp fun s hs => resident_of_placed hs.1.2 hs.2

/-- Where no message is long, no size is cut. -/
theorem meets_movesUncut (hgame : ∀ m, Short (env.gateway.serializeToGame m))
    (s : Realm ι K Key) (labels : List (Label ι K)) :
    Meets (step env) (MovesUncut env) s labels := by
  refine meets_of_labels (fun _ => True) (L := fun _ => True) (fun _ _ _ => trivial) ?_ trivial
    fun _ _ => trivial
  intro s label s' _ _ _
  cases label with
  | gateway w label => exact fun _ _ m _ _ => hgame m
  | _ => trivial

end Runs

theorem sampleEnv_movesFaithful : sampleEnv.MovesFaithful := by
  intro a x y z yaw req h
  by_cases hm : a = "a" ∧ x = 0 ∧ y = 0 ∧ z = 0 ∧ yaw = 0
  · obtain ⟨rfl, rfl, rfl, rfl, rfl⟩ := hm
    exact (Option.some.inj h).symm
  · simp [sampleEnv, hm] at h

/-- In the sample "a" is in the world in the end. -/
theorem always_resident_sample :
    (exec (step sampleEnv) (start []) sampleChat).map
        (fun s => (s.game.playerMap "a").isSome) = some true ∧
      Always (step sampleEnv) Resident (start []) sampleChat :=
  ⟨by decide +kernel, always_resident sampleEnv_movesFaithful [] sampleChat
    (meets_movesUncut sampleEnv_short _ _)⟩

end Realm

end MMOServers.Servers
