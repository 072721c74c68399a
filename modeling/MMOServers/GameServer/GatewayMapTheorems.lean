/-
MMOServers.GameServer.GatewayMapTheorems — every player belongs to one gateway.

`gatewayPlayerMap_` keeps for each gateway session the accounts that came in
through it, so that all of them can be removed when the session ends. It should
partition the online players. The abstract state is a `Registry`: who is online,
and the accounts of each gateway. The tasks change it in three ways only. An
account is registered by its first move, unregistered by a leave request, and
all accounts of a gateway are dropped together.

A leave request unregisters the account from the gateway it arrived on, whoever
has it. If that is another gateway the account stays behind in the set of its
own, although it is offline. That is the only way to lose the partition
(`gatewaysPartition_iff_leavesHome`).
-/
import MMOServers.GameServer.PlayerFrames
import MMOServers.Lib.Run

namespace MMOServers.GameServer

open MMOServers.Common Transition

/-! ## Registries -/

structure Registry (σ : Type) where
  online : String → Bool
  members : σ → List String

namespace Registry

variable {σ : Type}

/-- Every online account is in the set of exactly one gateway, and every account
    in a set is online. -/
structure Partitioned (r : Registry σ) : Prop where
  covered : ∀ a, r.online a = true → ∃! gw, a ∈ r.members gw
  online : ∀ gw a, a ∈ r.members gw → r.online a = true

variable [DecidableEq σ]

def register (r : Registry σ) (gw : σ) (a : String) : Registry σ where
  online := Function.update r.online a true
  members := Function.update r.members gw ((r.members gw).insert a)

def unregister (r : Registry σ) (gw : σ) (a : String) : Registry σ where
  online := Function.update r.online a false
  members := Function.update r.members gw ((r.members gw).filter (· ≠ a))

/-- The accounts of a gateway go offline with it. -/
def drop (r : Registry σ) (gw : σ) : Registry σ where
  online a := r.online a && a ∉ r.members gw
  members := Function.update r.members gw []

theorem mem_register {r : Registry σ} {gw g : σ} {a b : String} :
    b ∈ (r.register gw a).members g ↔ (g = gw ∧ b = a) ∨ b ∈ r.members g := by
  show b ∈ Function.update r.members gw ((r.members gw).insert a) g ↔ _
  by_cases hg : g = gw
  · subst hg
    simp
  · rw [Function.update_of_ne hg]
    simp [hg]

theorem mem_unregister {r : Registry σ} {gw g : σ} {a b : String} :
    b ∈ (r.unregister gw a).members g ↔ b ∈ r.members g ∧ ¬ (g = gw ∧ b = a) := by
  show b ∈ Function.update r.members gw ((r.members gw).filter (· ≠ a)) g ↔ _
  by_cases hg : g = gw
  · subst hg
    simp
  · rw [Function.update_of_ne hg]
    simp [hg]

theorem mem_drop {r : Registry σ} {gw g : σ} {b : String} :
    b ∈ (r.drop gw).members g ↔ b ∈ r.members g ∧ g ≠ gw := by
  show b ∈ Function.update r.members gw [] g ↔ _
  by_cases hg : g = gw
  · subst hg
    simp
  · rw [Function.update_of_ne hg]
    simp [hg]

theorem register_partitioned {r : Registry σ} (h : r.Partitioned) {a : String}
    (hnew : r.online a = false) (gw : σ) : (r.register gw a).Partitioned := by
  have hnone : ∀ g, a ∉ r.members g := by
    intro g hmem
    rw [h.online g a hmem] at hnew
    cases hnew
  refine ⟨fun b hb => ?_, fun g b hb => ?_⟩
  · by_cases hba : b = a
    · subst hba
      refine ⟨gw, mem_register.mpr (Or.inl ⟨rfl, rfl⟩), fun g hg => ?_⟩
      rcases mem_register.mp hg with ⟨hgw, -⟩ | hmem
      · exact hgw
      · exact absurd hmem (hnone g)
    · replace hb : Function.update r.online a true b = true := hb
      rw [Function.update_of_ne hba] at hb
      obtain ⟨g, hg, huniq⟩ := h.covered b hb
      refine ⟨g, mem_register.mpr (Or.inr hg), fun g' hg' => huniq g' ?_⟩
      exact (mem_register.mp hg').resolve_left fun heq => hba heq.2
  · show Function.update r.online a true b = true
    by_cases hba : b = a
    · rw [hba, Function.update_self]
    · rw [Function.update_of_ne hba]
      exact h.online g b ((mem_register.mp hb).resolve_left fun heq => hba heq.2)

/-- Unregistering keeps the partition exactly at the account's own gateway. -/
theorem unregister_partitioned_iff {r : Registry σ} (h : r.Partitioned) {a : String}
    (ha : r.online a = true) (gw : σ) :
    (r.unregister gw a).Partitioned ↔ a ∈ r.members gw := by
  obtain ⟨home, hhome, huniq⟩ := h.covered a ha
  have hoffline : (r.unregister gw a).online a = false := by
    simp [unregister]
  constructor
  · intro hpart
    by_contra hgw
    have hleft : a ∈ (r.unregister gw a).members home :=
      mem_unregister.mpr ⟨hhome, fun heq => hgw (heq.1 ▸ hhome)⟩
    have honline := hpart.online home a hleft
    rw [hoffline] at honline
    cases honline
  · intro hgw
    have hgone : ∀ g, a ∉ (r.unregister gw a).members g := by
      intro g hg
      obtain ⟨hmem, hne⟩ := mem_unregister.mp hg
      exact hne ⟨(huniq g hmem).trans (huniq gw hgw).symm, rfl⟩
    refine ⟨fun b hb => ?_, fun g b hb => ?_⟩
    · have hba : b ≠ a := by
        rintro rfl
        rw [hoffline] at hb
        cases hb
      replace hb : Function.update r.online a false b = true := hb
      rw [Function.update_of_ne hba] at hb
      obtain ⟨g, hg, huniq'⟩ := h.covered b hb
      exact ⟨g, mem_unregister.mpr ⟨hg, fun heq => hba heq.2⟩,
        fun g' hg' => huniq' g' (mem_unregister.mp hg').1⟩
    · have hba : b ≠ a := by
        rintro rfl
        exact hgone g hb
      show Function.update r.online a false b = true
      rw [Function.update_of_ne hba]
      exact h.online g b (mem_unregister.mp hb).1

theorem drop_partitioned {r : Registry σ} (h : r.Partitioned) (gw : σ) :
    (r.drop gw).Partitioned := by
  refine ⟨fun a ha => ?_, fun g a hmem => ?_⟩
  · simp only [drop, Bool.and_eq_true, decide_eq_true_eq] at ha
    obtain ⟨g, hg, huniq⟩ := h.covered a ha.1
    refine ⟨g, mem_drop.mpr ⟨hg, ?_⟩, fun g' hg' => huniq g' (mem_drop.mp hg').1⟩
    rintro rfl
    exact ha.2 hg
  · obtain ⟨hg, hne⟩ := mem_drop.mp hmem
    simp only [drop, Bool.and_eq_true, decide_eq_true_eq]
    have ha := h.online g a hg
    refine ⟨ha, fun hgw => ?_⟩
    obtain ⟨home, -, huniq⟩ := h.covered a ha
    exact hne ((huniq g hg).trans (huniq gw hgw).symm)

end Registry

namespace GameContext

variable {K σ : Type}

/-! ## The registry of a server -/

def registry (s : GameContext K σ) : Registry σ where
  online a := (s.playerMap a).isSome
  members := s.gatewayPlayerMap

theorem PlayersKept.registry {s s' : GameContext K σ} (h : PlayersKept s s') :
    s'.registry = s.registry := by
  simp only [GameContext.registry, h.playerMap, h.gatewayPlayerMap]

/-- `gatewayPlayerMap_` partitions the accounts of `playerMap`. -/
def GatewaysPartition (s : GameContext K σ) : Prop :=
  (∀ a, s.playerMap a ≠ none → ∃! gw, a ∈ s.gatewayPlayerMap gw) ∧
    ∀ gw a, a ∈ s.gatewayPlayerMap gw → s.playerMap a ≠ none

theorem gatewaysPartition_iff {s : GameContext K σ} :
    s.GatewaysPartition ↔ s.registry.Partitioned := by
  simp only [GatewaysPartition, ← Option.isSome_iff_ne_none]
  exact ⟨fun h => ⟨h.1, h.2⟩, fun h => ⟨h.covered, h.online⟩⟩

theorem isSome_update (f : String → Option (PlayerInfo K)) (a : String)
    (v : Option (PlayerInfo K)) :
    (fun b => (Function.update f a v b).isSome)
      = Function.update (fun b => (f b).isSome) a v.isSome := by
  funext b
  by_cases hb : b = a
  · rw [hb, Function.update_self, Function.update_self]
  · rw [Function.update_of_ne hb, Function.update_of_ne hb]

/-- A player that is online stays so when its entry changes. -/
theorem registry_setPlayer {s : GameContext K σ} {a : String} {p : PlayerInfo K}
    (hp : s.playerMap a = some p) (q : PlayerInfo K) :
    (s.setPlayer a q).registry = s.registry := by
  simp only [registry, setPlayer, isSome_update, Option.isSome_some]
  rw [Function.update_eq_self_iff.mpr (by simp [hp])]

variable [DecidableEq σ]

section Players

variable [IntCast K] [Div K] [LT K] [LE K] [DecidableLT K] [DecidableLE K] [TruncInt K]
  {env : GameEnv K}

omit [DecidableEq σ] in
theorem registry_movePlayer {s : GameContext K σ} {a : String} {p : PlayerInfo K}
    (hp : s.playerMap a = some p) (q : PlayerInfo K) (x y : K) :
    (s.movePlayer a q x y).registry = s.registry :=
  registry_setPlayer hp _

theorem registry_enterPlayer (s : GameContext K σ) (gw : σ) (a : String) (x y : K) :
    (s.enterPlayer gw a x y).2.registry = s.registry.register gw a := by
  simp only [registry, enterPlayer, isSome_update]
  rfl

theorem handleGatewayGameMoveReq_registry (env : GameEnv K) (s : GameContext K σ) (gw : σ)
    (order : IterationOrder) (payload : List UInt8) :
    (s.handleGatewayGameMoveReq env gw order payload).registry = s.registry ∨
    ∃ a, s.playerMap a = none ∧
      (s.handleGatewayGameMoveReq env gw order payload).registry = s.registry.register gw a := by
  unfold handleGatewayGameMoveReq
  split
  · exact Or.inl rfl
  · rename_i req _
    dsimp only
    cases hp : s.playerMap req.accountId with
    | some p => exact Or.inl (registry_movePlayer hp p _ _)
    | none =>
        refine Or.inr ⟨req.accountId, hp, ?_⟩
        show ((s.enterPlayer gw req.accountId _ _).2.movePlayer _ _ _ _).registry = _
        rw [registry_movePlayer (Function.update_self _ _ _), registry_enterPlayer]

omit [DecidableEq σ] in
theorem removePlayers_registry (s : GameContext K σ) (accIds : List String) (a : String) :
    ((s.removePlayers accIds).playerMap a).isSome
      = ((s.playerMap a).isSome && decide (a ∉ accIds)) ∧
    (s.removePlayers accIds).gatewayPlayerMap = s.gatewayPlayerMap := by
  induction accIds generalizing s with
  | nil => simp [removePlayers]
  | cons accId rest ih =>
      unfold removePlayers
      split
      · rename_i hnone
        obtain ⟨honline, hmap⟩ := ih s
        refine ⟨honline.trans ?_, hmap⟩
        by_cases ha : a = accId
        · simp [ha, hnone]
        · simp [ha]
      · rename_i p _
        obtain ⟨honline, hmap⟩ := ih (s.removePlayer accId p)
        refine ⟨honline.trans ?_, hmap⟩
        show ((Function.update s.playerMap accId none a).isSome && _) = _
        by_cases ha : a = accId
        · simp [ha]
        · simp [ha]

theorem gatewayDisconnected_registry (s : GameContext K σ) (gw : σ) :
    (s.gatewayDisconnected gw).registry = s.registry.drop gw := by
  have hremoved := removePlayers_registry s (s.gatewayPlayerMap gw)
  simp only [registry, gatewayDisconnected, Registry.drop, Registry.mk.injEq]
  refine ⟨funext fun a => (hremoved a).1, ?_⟩
  rw [(hremoved "").2]

end Players

variable [Field K] [LinearOrder K] [FloorRing K] {env : GameEnv K}

/-! ## Tasks that leave the registry alone -/

omit [DecidableEq σ] in
theorem attackPlayer_registry (s : GameContext K σ) (order : IterationOrder)
    (attackerUid targetUid : Nat) (damage : Int) :
    (s.attackPlayer order attackerUid targetUid damage).registry = s.registry := by
  unfold attackPlayer
  split
  · rfl
  · rename_i accId p hplayer
    obtain ⟨a, -, hmap⟩ := Option.bind_eq_some_iff.mp hplayer
    obtain ⟨q, hq, heq⟩ := Option.map_eq_some_iff.mp hmap
    rw [Prod.mk.injEq] at heq
    obtain ⟨rfl, rfl⟩ := heq
    have hhit : (s.setPlayer a (q.takeDamage damage)).registry = s.registry :=
      registry_setPlayer hq _
    dsimp only
    split
    · refine Eq.trans ?_ hhit
      exact registry_setPlayer (s := s.setPlayer a (q.takeDamage damage))
        (Function.update_self a _ _) _
    · exact hhit

variable [HasSqrt K]

omit [DecidableEq σ] in
theorem aiTick_registry (s : GameContext K σ) (order : IterationOrder) (deltaTime : K) :
    (s.aiTick order deltaTime).registry = s.registry :=
  aiTick_rel (fun s s' => s'.registry = s.registry) (fun h h' => h'.trans h)
    PlayersKept.registry (fun s => attackPlayer_registry s order) s deltaTime

omit [Field K] [LinearOrder K] [FloorRing K] [HasSqrt K] [DecidableEq σ] in
theorem worldDispatch_registry (s : GameContext K σ) (id : UInt16) (payload : List UInt8) :
    (s.worldDispatch env id payload).registry = s.registry := by
  unfold worldDispatch handleWorldGameMonsterBuff handleWorldGameTokenNotify
  repeat' split
  all_goals rfl

/-! ## Tasks -/

/-- The leave request that a task handles, with the gateway it arrived on. -/
def leaveOf (env : GameEnv K) : Label K σ → Option (σ × GatewayGameLeaveReq)
  | .packet gw id payload _ =>
      if id = PacketId.gatewayGameLeaveReq then
        (env.parseLeaveReq payload).map fun req => (gw, req)
      else none
  | _ => none

/-- What a task does to the registry. -/
inductive RegistryEffect (env : GameEnv K) (s : GameContext K σ) :
    Label K σ → GameContext K σ → Prop where
  | keeps {label : Label K σ} {s' : GameContext K σ} (h : s'.registry = s.registry)
      (unleft : ∀ gw req, leaveOf env label = some (gw, req) →
        s.registry.online req.accountId = false) : RegistryEffect env s label s'
  | enters {label : Label K σ} {s' : GameContext K σ} (gw : σ) (a : String)
      (unleft : leaveOf env label = none) (new : s.registry.online a = false)
      (h : s'.registry = s.registry.register gw a) : RegistryEffect env s label s'
  | leaves {label : Label K σ} {s' : GameContext K σ} (gw : σ) (req : GatewayGameLeaveReq)
      (left : leaveOf env label = some (gw, req))
      (online : s.registry.online req.accountId = true)
      (h : s'.registry = s.registry.unregister gw req.accountId) :
      RegistryEffect env s label s'
  | drops {label : Label K σ} {s' : GameContext K σ} (gw : σ)
      (unleft : leaveOf env label = none) (h : s'.registry = s.registry.drop gw) :
      RegistryEffect env s label s'

omit [Field K] [LinearOrder K] [FloorRing K] [HasSqrt K] in
/-- A task that is no leave request and keeps the registry. -/
theorem RegistryEffect.of_eq {s s' : GameContext K σ} {label : Label K σ}
    (hleave : leaveOf env label = none) (h : s'.registry = s.registry) :
    RegistryEffect env s label s' := by
  refine .keeps h fun gw req hreq => ?_
  rw [hleave] at hreq
  cases hreq

omit [HasSqrt K] in
theorem leaveReq_effect {s : GameContext K σ} {gw : σ} {payload : List UInt8}
    {order : IterationOrder} :
    RegistryEffect env s (.packet gw PacketId.gatewayGameLeaveReq payload order)
      (s.handleGatewayGameLeaveReq env gw payload) := by
  have hleave : ∀ req, env.parseLeaveReq payload = some req →
      leaveOf env (.packet gw PacketId.gatewayGameLeaveReq payload order) = some (gw, req) := by
    intro req hreq
    simp [leaveOf, hreq]
  unfold handleGatewayGameLeaveReq
  split
  · rename_i hparse
    exact .of_eq (by simp [leaveOf, hparse]) rfl
  · rename_i req hparse
    split
    · rename_i hnone
      refine .keeps rfl fun gw' req' hreq' => ?_
      rw [hleave req hparse, Option.some.injEq, Prod.mk.injEq] at hreq'
      rw [← hreq'.2]
      simp [registry, hnone]
    · rename_i p hp
      refine .leaves gw req (hleave req hparse) (by simp [registry, hp]) ?_
      simp only [registry, removePlayer, isSome_update]
      rfl

theorem step_registry {s s' : GameContext K σ} {label : Label K σ}
    (h : step env s label = some s') : RegistryEffect env s label s' := by
  cases step_inv h with
  | packet gw id payload order =>
      unfold dispatch
      split
      · rename_i hid
        have hleave : leaveOf env (.packet gw id payload order) = none := by
          rw [leaveOf, hid]
          rfl
        rcases handleGatewayGameMoveReq_registry env s gw order payload with
          hkeep | ⟨a, hnew, henter⟩
        · exact .of_eq hleave hkeep
        · exact .enters gw a hleave (by simp [registry, hnew]) henter
      · split
        · rename_i hid
          exact hid ▸ leaveReq_effect
        · rename_i hid
          have hleave : leaveOf env (.packet gw id payload order) = none := if_neg hid
          split
          · exact .of_eq hleave (handleGatewayGameAttackReq_kept s order payload).registry
          · split
            · exact .of_eq hleave (handleGatewayGameChatReq_kept s gw order payload).registry
            · exact .of_eq hleave rfl
  | gatewayDisconnected gw => exact .drops gw rfl (gatewayDisconnected_registry s gw)
  | worldPacket id payload => exact .of_eq rfl (worldDispatch_registry s id payload)
  | aiTick deltaTime order => exact .of_eq rfl (aiTick_registry s order deltaTime)
  | pathResult waypoints asked => exact .of_eq rfl (pathResult_kept _ _ waypoints).registry

/-! ## Runs -/

/-- A leave request for an account that is online arrives on the gateway whose
    account it is. -/
def LeavesHome (env : GameEnv K) (s : GameContext K σ) (label : Label K σ) : Prop :=
  ∀ gw req, leaveOf env label = some (gw, req) → s.playerMap req.accountId ≠ none →
    req.accountId ∈ s.gatewayPlayerMap gw

theorem step_gatewaysPartition_iff {s s' : GameContext K σ} {label : Label K σ}
    (hs : s.GatewaysPartition) (h : step env s label = some s') :
    s'.GatewaysPartition ↔ LeavesHome env s label := by
  have hpart := gatewaysPartition_iff.mp hs
  have honline : ∀ a, s.playerMap a ≠ none ↔ s.registry.online a = true :=
    fun a => Option.isSome_iff_ne_none.symm
  simp only [gatewaysPartition_iff, LeavesHome, honline]
  cases step_registry h with
  | keeps h unleft =>
      refine iff_of_true (h ▸ hpart) fun gw req hreq hon => ?_
      rw [unleft gw req hreq] at hon
      cases hon
  | enters gw a unleft new h =>
      refine iff_of_true (h ▸ Registry.register_partitioned hpart new gw) fun gw' req hreq => ?_
      rw [unleft] at hreq
      cases hreq
  | leaves gw req left online h =>
      rw [h, Registry.unregister_partitioned_iff hpart online gw]
      refine ⟨fun hmem gw' req' hreq' _ => ?_, fun hhome => hhome gw req left online⟩
      rw [left, Option.some.injEq, Prod.mk.injEq] at hreq'
      obtain ⟨rfl, rfl⟩ := hreq'
      exact hmem
  | drops gw unleft h =>
      refine iff_of_true (h ▸ Registry.drop_partitioned hpart gw) fun gw' req hreq => ?_
      rw [unleft] at hreq
      cases hreq

omit [HasSqrt K] [DecidableEq σ] in
theorem start_gatewaysPartition (spawns : List (MonsterSpawn K)) :
    (start spawns : GameContext K σ).GatewaysPartition := by
  have hinit : ∀ s : GameContext K σ, (s.initMonsters spawns).registry = s.registry := by
    unfold initMonsters
    induction spawns with
    | nil => exact fun _ => rfl
    | cons data rest ih => exact fun s => (ih (s.initMonster data))
  rw [gatewaysPartition_iff, start, hinit]
  exact ⟨fun _ h => (nomatch h), fun _ _ h => (nomatch h)⟩

/-- The gateways partition the online players in every state of a run exactly
    when all leave requests arrive on the right gateway. -/
theorem gatewaysPartition_iff_leavesHome (env : GameEnv K) (spawns : List (MonsterSpawn K))
    (labels : List (Label K σ)) :
    Always (step env) GatewaysPartition (start spawns) labels
      ↔ Meets (step env) (LeavesHome env) (start spawns) labels :=
  always_iff_meets (fun _ => True) (fun _ _ _ _ => trivial)
    (fun _ hs h => step_gatewaysPartition_iff hs h) trivial (start_gatewaysPartition spawns)

/-- Gateway 0 brings "a" in, and a leave request for it arrives on gateway 1. -/
theorem leave_otherGateway :
    ¬ Always (step .sample) GatewaysPartition (start [] : GameContext ℚ Nat)
      [.packet 0 PacketId.gatewayGameMoveReq [10, 1, 97, 21, 0, 0, 32, 65] .listed,
        .packet 1 PacketId.gatewayGameLeaveReq [10, 1, 97] .listed] := by
  intro h
  have hpart := always_iff_exec.mp h _ (List.prefix_refl _) _ rfl
  exact hpart.2 0 "a" (by decide +kernel) (by decide +kernel)

end GameContext

end MMOServers.GameServer
