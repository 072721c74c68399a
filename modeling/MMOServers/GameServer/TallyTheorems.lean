/-
MMOServers.GameServer.TallyTheorems — how many blows a life takes.

A blow of a monster takes 15 hit points from a player, a blow of a player 20 from
a monster, and every blow is sent to the gateways with the name of the one it
met. So hit points are a matter of counting messages. A player who was sent `k`
blows under its uid has what `k` blows leave of 100 hit points, life after life:
every seventh blow fells it, and it stands at the spawn point again. A monster of
`H` hit points has what the blows under its name leave of `H`, and is dead after
every ⌈H / 20⌉th of them until it respawns (`always_tallied`).

Buffs of an administrator add to the hit points of a monster, and are left out.
The other conditions are those of a story, and that the monsters have distinct
ids and begin with hit points.
-/
import MMOServers.GameServer.Telling
import MMOServers.Lib.Blows

namespace MMOServers.GameServer

open MMOServers.Common Transition Blows

variable {K σ : Type}

/-! ## Blows -/

section Blow

variable {life blow k : Nat} (hlife : 0 < life) (hint : life < 2 ^ 31) (hblow : 0 < blow)
  (hsmall : blow < 2 ^ 31)

include hlife hint hblow hsmall

/-- The subtraction stays in the range of an `int`. -/
theorem wrap32_left : wrap32 (left life blow k - blow) = left life blow k - blow := by
  have hpos := left_pos hlife hblow k
  have hle : left life blow k ≤ life := left_le k
  rw [wrap32]
  refine Int.bmod_eq_of_le ?_ ?_ <;> omega

/-- `TakeDamage` with something left. -/
theorem takeDamage_leaves {hp : Int} (hhp : hp = left life blow k)
    (h : 0 < if wrap32 (hp - blow) < 0 then 0 else wrap32 (hp - blow)) :
    (if wrap32 (hp - blow) < 0 then 0 else wrap32 (hp - blow)) = left life blow (k + 1) := by
  rw [hhp, wrap32_left hlife hint hblow hsmall] at h ⊢
  split at h
  · exact absurd h (lt_irrefl 0)
  · rename_i hnot
    rw [if_neg hnot, left_succ hlife hblow h]

/-- `TakeDamage` with nothing left. -/
theorem takeDamage_fells {hp : Int} (hhp : hp = left life blow k)
    (h : (if wrap32 (hp - blow) < 0 then 0 else wrap32 (hp - blow)) ≤ 0) :
    (k + 1) % toFell life blow = 0 := by
  rw [hhp, wrap32_left hlife hint hblow hsmall] at h
  refine succ_mod_eq_zero hlife hblow ?_
  split at h
  · rename_i hneg
    exact hneg.le
  · exact h

end Blow

/-! ## Players -/

/-- The blows that were sent under an account and a uid. -/
def blows (sent : List (Outgoing K σ)) (accId : String) (uid : Nat) : Nat :=
  sent.countP fun o => (o.hpOf accId uid).isSome

theorem blows_none {sent : List (Outgoing K σ)} {accId : String} {uid : Nat} {o : Outgoing K σ}
    (h : o.hpOf accId uid = none) : blows (o :: sent) accId uid = blows sent accId uid := by
  simp [blows, h]

theorem blows_some {sent : List (Outgoing K σ)} {accId : String} {uid : Nat} {o : Outgoing K σ}
    {hp : Int} (h : o.hpOf accId uid = some hp) :
    blows (o :: sent) accId uid = blows sent accId uid + 1 := by
  simp [blows, h]

/-- What a number of blows leaves a player. -/
def playerLeft (k : Nat) : Int :=
  left GameConstants.Player.defaultHp.toNat GameConstants.Monster.defaultAtk.toNat k

theorem playerLeft_of_mod_eq_zero {k : Nat}
    (h : k % toFell GameConstants.Player.defaultHp.toNat GameConstants.Monster.defaultAtk.toNat
      = 0) : playerLeft k = GameConstants.Player.defaultHp :=
  left_of_mod_eq_zero h

namespace GameContext

/-- The messages give the hit points of a player by their number. -/
theorem tally : Story fun (sent : List (Outgoing K σ)) accId p =>
    p.hp = playerLeft (blows sent accId p.uid) where
  silent h _ hhp := by rw [blows_none hhp]; exact h
  enters {sent accId q o} _ hunheard hfull _ _ hhp := by
    have hnone : blows sent accId q.uid = 0 := by
      rw [blows, List.countP_eq_zero]
      intro o' ho'
      simp [hunheard o' ho']
    rw [blows_none hhp, hnone, hfull]
    exact (playerLeft_of_mod_eq_zero rfl).symm
  walks h _ hhp := by rw [blows_none hhp]; exact h
  struck h halive _ hhit :=
    (takeDamage_leaves (by decide) (by decide) (by decide) (by decide) h halive).trans
      (congrArg playerLeft (blows_some hhit).symm)
  felled {sent accId p hit home x y} h hdead _ hhit _ hhome := by
    have hcount : blows (home :: hit :: sent) accId p.uid = blows sent accId p.uid + 1 :=
      (blows_none hhome).trans (blows_some hhit)
    have hlast := takeDamage_fells (by decide) (by decide) (by decide) (by decide) h hdead
    exact (playerLeft_of_mod_eq_zero (hcount ▸ hlast)).symm

/-- Nobody is named like a monster, and everybody is as strong as at first. -/
theorem fighters : Story fun (_ : List (Outgoing K σ)) accId p =>
    Nameable accId ∧ p.atk = GameConstants.Player.defaultAtk where
  silent h _ _ := h
  enters hname _ _ hatk _ _ := ⟨hname, hatk⟩
  walks h _ _ := h
  struck h _ _ _ := h
  felled h _ _ _ _ _ := h

end GameContext

/-! ## Monsters -/

/-- The message is about a blow that met somebody of the name. -/
def Outgoing.strikes (name : String) (o : Outgoing K σ) : Bool :=
  match o.message with
  | .attackRes m => m.targetAccountId = name
  | _ => false

def strikesOn (sent : List (Outgoing K σ)) (name : String) : Nat :=
  sent.countP (·.strikes name)

/-- The damage of a player's blow. -/
def playerBlow : Nat :=
  (max (GameConstants.Player.defaultAtk - GameConstants.Monster.defaultDef)
    GameConstants.Combat.minDamage).toNat

namespace GameContext

/-- The message is about no blow that met a monster. -/
def Strikeless (o : Outgoing K σ) : Prop := ∀ n, o.strikes (monsterName n) = false

theorem strikesOn_of_sends {s s' : GameContext K σ} (h : Sends Strikeless s s') (n : Nat) :
    strikesOn s'.sent (monsterName n) = strikesOn s.sent (monsterName n) := by
  obtain ⟨new, hsent, hnew⟩ := h
  have hnone : new.countP (·.strikes (monsterName n)) = 0 := by
    rw [List.countP_eq_zero]
    intro o ho
    simp [hnew o ho n]
  rw [strikesOn, hsent, List.countP_append, hnone, Nat.zero_add, strikesOn]

theorem PlacesMonster.strikeless {o : Outgoing K σ} (h : PlacesMonster o) : Strikeless o := by
  cases h
  exact fun _ => rfl

/-- Everybody online can be told from a monster. -/
def Nameables (s : GameContext K σ) : Prop :=
  ∀ accId p, s.playerMap accId = some p → Nameable accId

variable [Field K] [LinearOrder K] [FloorRing K]

/-- A monster's blow meets a player. -/
theorem attackPlayer_strikeless {s : GameContext K σ} (h : s.Nameables) (order : IterationOrder)
    (attackerUid targetUid : Nat) (damage : Int) :
    (s.attackPlayer order attackerUid targetUid damage).Nameables ∧
      Sends Strikeless s (s.attackPlayer order attackerUid targetUid damage) := by
  cases hplayer : s.playerOf targetUid with
  | none =>
      simp only [attackPlayer, hplayer]
      exact ⟨h, .of_eq rfl⟩
  | some found =>
      obtain ⟨accId, p⟩ := found
      have hname := h accId p (playerOf_online hplayer)
      simp only [attackPlayer, hplayer]
      have hstrike : ∀ m : GameGatewayAttackRes, m.targetAccountId = accId →
          Strikeless (.broadcast (.attackRes m) : Outgoing K σ) := by
        intro m hm n
        simp [Outgoing.strikes, Outgoing.message, hm, hname n]
      have hset : ∀ (q : PlayerInfo K), (s.setPlayer accId q).Nameables := by
        intro q b r hr
        by_cases hb : b = accId
        · exact hb ▸ hname
        · exact h b r ((Function.update_of_ne hb _ _).symm.trans hr)
      split
      · refine ⟨?_, Sends.trans (.of_cons (hstrike _ rfl) rfl) (.of_cons (fun _ => rfl) rfl)⟩
        intro b r hr
        by_cases hb : b = accId
        · exact hb ▸ hname
        · refine hset (p.takeDamage damage) b r ?_
          exact (Function.update_of_ne hb _ _).symm.trans hr
      · exact ⟨hset (p.takeDamage damage), .of_cons (hstrike _ rfl) rfl⟩

variable [HasSqrt K] [DecidableEq σ] {env : GameEnv K}

/-- Only an attack request can be a blow that meets a monster. -/
theorem step_strikeless {s s' : GameContext K σ} {label : Label K σ} (h : s.Nameables)
    (hlabel : ∀ gw payload order, label ≠ .packet gw PacketId.gatewayGameAttackReq payload order)
    (hstep : step env s label = some s') : Sends Strikeless s s' := by
  cases step_inv hstep with
  | packet gw id payload order =>
      unfold dispatch
      split
      · cases hreq : env.parseMoveReq payload with
        | none =>
            simp only [handleGatewayGameMoveReq, hreq]
            exact .of_eq rfl
        | some req =>
            exact .of_cons (fun _ => rfl) (handleGatewayGameMoveReq_answer s gw order hreq)
      · split
        · unfold handleGatewayGameLeaveReq
          repeat' split
          all_goals exact .of_eq rfl
        · split
          · rename_i hid
            exact absurd (hid ▸ rfl) (hlabel gw payload order)
          · split
            · obtain hsent | ⟨req, targets, -, hsent⟩ :
                  (s.handleGatewayGameChatReq env gw order payload).sent = s.sent ∨ _ :=
                chatReq_sends s gw order payload
              · exact .of_eq hsent
              · exact .of_cons (fun _ => rfl) hsent
            · exact .of_eq rfl
  | gatewayDisconnected gw => exact .of_eq (removePlayers_sent s _)
  | worldPacket id payload =>
      unfold worldDispatch handleWorldGameMonsterBuff handleWorldGameTokenNotify
      repeat' split
      all_goals first
        | exact .of_eq rfl
        | exact .of_cons (fun _ => rfl) rfl
  | aiTick deltaTime order =>
      have hkept : ∀ {s s' : GameContext K σ}, PlayersKept s s' → s.Nameables → s'.Nameables :=
        fun hkept hs accId p hp => hs accId p ((congrFun hkept.playerMap accId).symm.trans hp)
      exact (aiTick_sends (fun _ => PlacesMonster.strikeless) hkept
        (fun attackerUid targetUid damage hs =>
          attackPlayer_strikeless hs order attackerUid targetUid damage) h deltaTime).2
  | pathResult waypoints asked =>
      unfold pathResult
      split
      · exact .of_eq rfl
      · exact .of_eq rfl

omit [DecidableEq σ] in
/-- An attack request sends one blow, if it meets a monster. -/
theorem attackReq_strikes (s : GameContext K σ) (order : IterationOrder) (payload : List UInt8) :
    match attackTarget env s order payload with
    | none => Sends Strikeless s (s.handleGatewayGameAttackReq env order payload)
    | some (i, damage) => ∃ m p accId o, s.monsters[i]? = some m ∧ s.playerMap accId = some p ∧
        damage = max (wrap32 (p.atk - m.defensePower)) GameConstants.Combat.minDamage ∧
        (s.handleGatewayGameAttackReq env order payload).sent = o :: s.sent ∧
        ∀ name, o.strikes name = decide (monsterName m.monsterId = name) := by
  unfold handleGatewayGameAttackReq attackTarget
  cases env.parseAttackReq payload with
  | none => exact .of_eq rfl
  | some req =>
      dsimp only [Option.bind_some]
      cases hp : s.playerMap req.accountId with
      | none => exact .of_eq rfl
      | some p =>
          dsimp only [Option.bind_some]
          cases hnearest : s.nearestMonster p.x p.y (s.zone.getMonstersInAOI order p.x p.y) none
              GameConstants.Combat.playerAttackRange with
          | none =>
              refine .of_cons (fun n => ?_) rfl
              have hne : ("" : String) ≠ monsterName n := by
                intro heq
                have hlength := congrArg String.length heq
                rw [monsterName, String.length_append, show "".length = 0 from rfl,
                  show "MONSTER_".length = 8 from rfl] at hlength
                omega
              simp [Outgoing.strikes, Outgoing.message, hne]
          | some found =>
              obtain ⟨i, m⟩ := found
              obtain ⟨hm, -⟩ := nearestMonster_alive (by simp) hnearest
              exact ⟨m, p, req.accountId, _, hm, hp, rfl, rfl, fun name => rfl⟩

/-! ## The tally of a monster -/

/-- What a number of blows leaves a monster. -/
def monsterLeft (hp : Int) (k : Nat) : Int := left hp.toNat playerBlow k

structure MonsterTally (sent : List (Outgoing K σ)) (data : MonsterSpawn K) (m : Monster K) :
    Prop where
  traits : m.traits = (Monster.spawn data).traits
  maxHp : m.maxHp = data.hp
  alive : m.state ≠ .dead → m.hp = monsterLeft data.hp (strikesOn sent (monsterName data.monId))
  dead : m.state = .dead →
    strikesOn sent (monsterName data.monId) % toFell data.hp.toNat playerBlow = 0

omit [LinearOrder K] [FloorRing K] [HasSqrt K] [DecidableEq σ] in
theorem MonsterTally.monsterId {sent : List (Outgoing K σ)} {data : MonsterSpawn K}
    {m : Monster K} (h : MonsterTally sent data m) : m.monsterId = data.monId :=
  congrArg (·.1) h.traits

/-- The hit points that a spawn list may give. -/
def Sound (data : MonsterSpawn K) : Prop := 0 < data.hp ∧ data.hp < 2 ^ 31

omit [LinearOrder K] [FloorRing K] [HasSqrt K] [DecidableEq σ] in
theorem MonsterTally.congr {sent sent' : List (Outgoing K σ)} {data : MonsterSpawn K}
    {m m' : Monster K} (h : MonsterTally sent data m)
    (hcount : strikesOn sent' (monsterName data.monId) = strikesOn sent (monsterName data.monId))
    (htraits : m'.traits = m.traits) (hmax : m'.maxHp = m.maxHp)
    (hhp : m.state ≠ .dead → m'.hp = m.hp) (hstate : m'.state = .dead ↔ m.state = .dead) :
    MonsterTally sent' data m' where
  traits := htraits.trans h.traits
  maxHp := hmax.trans h.maxHp
  alive hlive := by
    have hold : m.state ≠ .dead := fun hdead => hlive (hstate.mpr hdead)
    rw [hcount, hhp hold]
    exact h.alive hold
  dead hdead := by
    rw [hcount]
    exact h.dead (hstate.mp hdead)

omit [LinearOrder K] [FloorRing K] [HasSqrt K] [DecidableEq σ] in
/-- A blow takes its strength or is the last of a life. -/
theorem MonsterTally.struck {sent sent' : List (Outgoing K σ)} {data : MonsterSpawn K}
    {m : Monster K} (h : MonsterTally sent data m) (hsound : Sound data) (hlive : m.state ≠ .dead)
    (hcount : strikesOn sent' (monsterName data.monId)
      = strikesOn sent (monsterName data.monId) + 1) :
    MonsterTally sent' data (m.struck playerBlow) := by
  obtain ⟨hpos, hint⟩ := hsound
  have hlife : 0 < data.hp.toNat := by omega
  have hrange : data.hp.toNat < 2 ^ 31 := by omega
  have hhp := h.alive hlive
  have htraits : (m.struck playerBlow).traits = (Monster.spawn data).traits :=
    (m.struck_traits playerBlow).trans h.traits
  by_cases hfell : (m.takeDamage playerBlow).hp ≤ 0
  · have hlast := takeDamage_fells hlife hrange (by decide) (by decide) hhp hfell
    have hstruck : m.struck playerBlow = (m.takeDamage playerBlow).die := if_pos hfell
    rw [hstruck] at htraits ⊢
    exact ⟨htraits, h.maxHp, fun hnot => absurd rfl hnot, fun _ => hcount ▸ hlast⟩
  · have hleft := takeDamage_leaves hlife hrange (by decide) (by decide) hhp (not_le.mp hfell)
    have hstruck : m.struck playerBlow = m.takeDamage playerBlow := if_neg hfell
    rw [hstruck] at htraits ⊢
    exact ⟨htraits, h.maxHp, fun _ => hcount ▸ hleft, fun hdead => absurd hdead hlive⟩

omit [LinearOrder K] [FloorRing K] [HasSqrt K] [DecidableEq σ] in
theorem MonsterTally.respawn {sent : List (Outgoing K σ)} {data : MonsterSpawn K} {m : Monster K}
    (h : MonsterTally sent data m) (hsound : Sound data) (hdead : m.state = .dead)
    (deltaTime : K) : MonsterTally sent data (m.addDeadTime deltaTime).respawn where
  traits := h.traits
  maxHp := h.maxHp
  alive _ := by
    have hfull : monsterLeft data.hp (strikesOn sent (monsterName data.monId)) = data.hp := by
      rw [monsterLeft, left_of_mod_eq_zero (h.dead hdead)]
      exact Int.toNat_of_nonneg hsound.1.le
    exact h.maxHp.trans hfull.symm
  dead hstate := by cases hstate

/-- Every monster has its tally. -/
def Herded (spawns : List (MonsterSpawn K)) (s : GameContext K σ) : Prop :=
  ∀ (i : Nat) (m : Monster K), s.monsters[i]? = some m →
    ∃ data, spawns[i]? = some data ∧ MonsterTally s.sent data m

/-- The task is no buff. -/
def Buffless (env : GameEnv K) (label : Label K σ) : Prop :=
  ∀ id payload, label = .worldPacket id payload → buffOf env id payload = none

section Herd

variable {spawns : List (MonsterSpawn K)} (hdistinct : (spawns.map (·.monId)).Nodup)
  (hsound : ∀ data ∈ spawns, Sound data)

include hsound

/-- A task that strikes no monster. -/
theorem step_herded_aside {s s' : GameContext K σ} {label : Label K σ} (hs : Herded spawns s)
    (hsent : Sends Strikeless s s')
    (hlabel : ∀ gw payload order, label ≠ .packet gw PacketId.gatewayGameAttackReq payload order)
    (hbuff : Buffless env label) (hstep : step env s label = some s') : Herded spawns s' := by
  intro i m' hm'
  obtain ⟨h', hi', rfl⟩ := exists_hunt hm'
  obtain ⟨h, hi, hhunt⟩ := step_hunt_of hstep hi'
  obtain ⟨data, hdata, htally⟩ := hs i h.monster (hunt_monster hi)
  have hcount := strikesOn_of_sends hsent data.monId
  refine ⟨data, hdata, ?_⟩
  cases hhunt with
  | aside untimed unanswered => exact htally.congr hcount rfl rfl (fun _ => rfl) Iff.rfl
  | hit gw selected live => exact absurd rfl (hlabel gw _ _)
  | buffed parsed buffs =>
      rw [hbuff _ _ rfl] at parsed
      cases parsed
  | ticks order tick =>
      cases tick with
      | waits dead early =>
          exact htally.congr hcount rfl rfl (fun hlive => absurd dead hlive) Iff.rfl
      | respawns dead due =>
          have hkept := htally.congr hcount rfl rfl (fun _ => rfl) Iff.rfl
          exact hkept.respawn (hsound data (List.mem_of_getElem? hdata)) dead _
      | acts live r aims =>
          obtain ⟨hvitals, hlive⟩ := Monster.update_live aims.live _
          have hsame := hvitals.trans aims.vitals
          exact htally.congr hcount ((r.1.update_traits _).trans aims.traits)
            (congrArg (·.2.1) hsame) (fun _ => congrArg (·.1) hsame) (iff_of_false hlive live)
  | path waypoints answers asked =>
      obtain ⟨hvitals, hstate⟩ := h.monster.applyPath_vitals _ waypoints
      exact htally.congr hcount (h.monster.applyPath_traits _ _) (congrArg (·.2.1) hvitals)
        (fun _ => congrArg (·.1) hvitals) (by rw [hstate])

include hdistinct

omit [DecidableEq σ] in
/-- An attack strikes the monster it selects, and no other is named in its message. -/
theorem attackReq_herded {s : GameContext K σ} (hs : Herded spawns s)
    (hfighters : s.Told fun _ accId p => Nameable accId ∧ p.atk = GameConstants.Player.defaultAtk)
    (order : IterationOrder) (payload : List UInt8) :
    Herded spawns (s.handleGatewayGameAttackReq env order payload) := by
  have hmonsters := (handleGatewayGameAttackReq_monsters env s order payload).2
  have hstrikes : match attackTarget env s order payload with
    | none => Sends Strikeless s (s.handleGatewayGameAttackReq env order payload)
    | some (i, damage) => _ := attackReq_strikes s order payload
  cases htarget : attackTarget env s order payload with
  | none =>
      rw [htarget] at hmonsters hstrikes
      intro i m hm
      rw [hmonsters] at hm
      obtain ⟨data, hdata, htally⟩ := hs i m hm
      exact ⟨data, hdata, htally.congr (strikesOn_of_sends hstrikes data.monId) rfl rfl
        (fun _ => rfl) Iff.rfl⟩
  | some target =>
      obtain ⟨j, damage⟩ := target
      rw [htarget] at hmonsters hstrikes
      obtain ⟨m, p, accId, o, hm, hp, hdamage, hsent, hnamed⟩ := hstrikes
      obtain ⟨data, hdata, htally⟩ := hs j m hm
      have hlive : m.state ≠ .dead := by
        obtain ⟨n, hn, hlive⟩ := attackTarget_alive htarget
        exact Option.some.inj (hm.symm.trans hn) ▸ hlive
      have hblow : damage = playerBlow := by
        have hdefense : m.defensePower = GameConstants.Monster.defaultDef :=
          congrArg (·.2.2.2.1) htally.traits
        rw [hdamage, (hfighters accId p hp).2, hdefense]
        rfl
      intro i n hn
      rw [hmonsters, List.getElem?_modify] at hn
      obtain ⟨n₀, hn₀, hstruck⟩ := Option.map_eq_some_iff.mp hn
      by_cases hij : j = i
      · subst hij
        obtain rfl := Option.some.inj (hm.symm.trans hn₀)
        rw [if_pos rfl, hblow] at hstruck
        have hcount : strikesOn (o :: s.sent) (monsterName data.monId)
            = strikesOn s.sent (monsterName data.monId) + 1 := by
          have hself : o.strikes (monsterName data.monId) = true := by
            rw [hnamed, htally.monsterId]
            exact decide_eq_true rfl
          simp [strikesOn, hself]
        refine ⟨data, hdata, ?_⟩
        rw [hsent, ← hstruck]
        exact htally.struck (hsound data (List.mem_of_getElem? hdata)) hlive hcount
      · rw [if_neg hij] at hstruck
        obtain rfl : n₀ = n := hstruck
        obtain ⟨other, hother, htally'⟩ := hs i n₀ hn₀
        refine ⟨other, hother, ?_⟩
        have hapart : monsterName m.monsterId ≠ monsterName other.monId := by
          rw [htally.monsterId]
          intro heq
          have hlt : j < (spawns.map (·.monId)).length := by
            rw [List.length_map]
            exact (List.getElem?_eq_some_iff.mp hdata).1
          refine hij ((List.getElem?_inj hlt hdistinct).mp ?_)
          rw [List.getElem?_map, List.getElem?_map, hdata, hother, Option.map_some,
            Option.map_some, monsterName_injective heq]
        have hcount : strikesOn (o :: s.sent) (monsterName other.monId)
            = strikesOn s.sent (monsterName other.monId) := by
          have hnot : o.strikes (monsterName other.monId) = false := by
            rw [hnamed]
            exact decide_eq_false hapart
          simp [strikesOn, hnot]
        rw [hsent]
        exact htally'.congr hcount rfl rfl (fun _ => rfl) Iff.rfl

theorem step_herded {s s' : GameContext K σ} {label : Label K σ} (hs : Herded spawns s)
    (hfighters : s.Told fun _ accId p => Nameable accId ∧ p.atk = GameConstants.Player.defaultAtk)
    (hbuff : Buffless env label) (hstep : step env s label = some s') : Herded spawns s' := by
  by_cases hlabel :
      ∀ gw payload order, label ≠ .packet gw PacketId.gatewayGameAttackReq payload order
  · have hnames : s.Nameables := fun accId p hp => (hfighters accId p hp).1
    exact step_herded_aside hsound hs (step_strikeless hnames hlabel hstep) hlabel hbuff hstep
  · simp only [not_forall, not_not] at hlabel
    obtain ⟨gw, payload, order, rfl⟩ := hlabel
    obtain rfl := Option.some.inj hstep
    exact attackReq_herded hdistinct hsound hs hfighters order payload

end Herd

/-! ## Runs -/

/-- The messages give everybody's hit points by their number. -/
structure Tallied (spawns : List (MonsterSpawn K)) (s : GameContext K σ) : Prop where
  players : ∀ accId p, s.playerMap accId = some p → p.hp = playerLeft (blows s.sent accId p.uid)
  alive : ∀ (i : Nat) (m : Monster K) (data : MonsterSpawn K), s.monsters[i]? = some m →
    spawns[i]? = some data → m.state ≠ .dead →
    m.hp = monsterLeft data.hp (strikesOn s.sent (monsterName data.monId))
  dead : ∀ (i : Nat) (m : Monster K) (data : MonsterSpawn K), s.monsters[i]? = some m →
    spawns[i]? = some data → m.state = .dead →
    strikesOn s.sent (monsterName data.monId) % toFell data.hp.toNat playerBlow = 0

omit [HasSqrt K] [DecidableEq σ] in
theorem start_herded {spawns : List (MonsterSpawn K)} (hsound : ∀ data ∈ spawns, Sound data) :
    Herded spawns (start spawns : GameContext K σ) := by
  intro i m hm
  rw [(start_monsters spawns).1, List.getElem?_map] at hm
  obtain ⟨data, hdata, rfl⟩ := Option.map_eq_some_iff.mp hm
  refine ⟨data, hdata, rfl, rfl, fun _ => ?_, fun hdead => by cases hdead⟩
  rw [start_sent, monsterLeft, left_of_mod_eq_zero (k := strikesOn _ _) rfl]
  exact (Int.toNat_of_nonneg (hsound data (List.mem_of_getElem? hdata)).1.le).symm

/-- On every run of less than 2^64 - 1 tasks without a buff, in which no player comes
    in under the name of a monster. -/
theorem always_tallied (spawns : List (MonsterSpawn K))
    (hdistinct : (spawns.map (·.monId)).Nodup) (hsound : ∀ data ∈ spawns, Sound data)
    {labels : List (Label K σ)} (hlen : labels.length + 1 < 2 ^ 64)
    (hnames : ∀ label ∈ labels, NamesPlayer env label)
    (hbuffs : ∀ label ∈ labels, Buffless env label) :
    Always (step env) (Tallied spawns) (start spawns) labels := by
  have hfighters := (always_told fighters spawns hlen hnames).meets hbuffs
  have hherd : Always (step env) (Herded spawns) (start spawns) labels :=
    always_of_meets (fun hs hc hstep => step_herded hdistinct hsound hs hc.1 hc.2 hstep)
      (start_herded hsound) hfighters
  refine ((always_told tally spawns hlen hnames).and hherd).imp fun s hs => ?_
  obtain ⟨hplayers, hmonsters⟩ := hs
  have htally : ∀ (i : Nat) (m : Monster K) (data : MonsterSpawn K), s.monsters[i]? = some m →
      spawns[i]? = some data → MonsterTally s.sent data m := by
    intro i m data hm hdata
    obtain ⟨other, hother, htally⟩ := hmonsters i m hm
    exact Option.some.inj (hdata.symm.trans hother) ▸ htally
  exact ⟨hplayers, fun i m data hm hdata => (htally i m data hm hdata).alive,
    fun i m data hm hdata => (htally i m data hm hdata).dead⟩

/-! ## A duel -/

/-- A monster that two blows fell. -/
def opponent : MonsterSpawn ℚ := ⟨10001, 21 / 2, 0, 40, 60⟩

/-- "a" comes and is hit, and strikes back twice. -/
def duel : List (Label ℚ Nat) :=
  [.packet 0 PacketId.gatewayGameMoveReq [10, 1, 97, 21, 0, 0, 32, 65] .listed,
    .aiTick (1 / 10) .listed, .pathResult 0 [⟨10, 0, 0⟩], .aiTick (1 / 10) .listed,
    .aiTick (1 / 10) .listed, .packet 0 PacketId.gatewayGameAttackReq [10, 1, 97] .listed,
    .packet 0 PacketId.gatewayGameAttackReq [10, 1, 97] .listed]

theorem duel_named : ∀ label ∈ duel, NamesPlayer .sample label := by
  intro label hlabel req hreq
  simp only [duel, List.mem_cons, List.not_mem_nil, or_false] at hlabel
  rcases hlabel with rfl | rfl | rfl | rfl | rfl | rfl | rfl
  · obtain rfl := Option.some.inj hreq
    exact nameable_a
  all_goals cases hreq

theorem duel_buffless : ∀ label ∈ duel, Buffless .sample label := by
  intro label hlabel id payload heq
  subst heq
  simp [duel] at hlabel

theorem always_tallied_duel :
    (exec (step .sample) (start [opponent]) duel).map (fun s =>
        (blows s.sent "a" 1, strikesOn s.sent (monsterName 10001), s.monsters.map (·.state)))
      = some (1, 2, [.dead]) ∧
    Always (step .sample) (Tallied [opponent]) (start [opponent]) duel :=
  ⟨by decide +kernel, always_tallied [opponent] (by decide) (by simp [opponent, Sound])
    (by decide) duel_named duel_buffless⟩

end GameContext

end MMOServers.GameServer
