/-
MMOServers.GameServer.Telling — what may be said of a player from the messages.

A `Story` is a relation between the messages sent so far and an online player
that every kind of event in the player's life keeps: it comes in, it goes
somewhere, it is hit, it dies of a hit and is taken home, or something is sent
that gives neither its position nor its hit points. A story is true of every
player in every state of every run (`always_told`). So what is to be proved about
the messages and the players is stated once as a story, and the handlers and the
tick are gone through once, here.

Monsters are spoken of in the same messages, under names such as "MONSTER_10001",
and a player of such a name could not be told from one. The other condition is
that the uid counter does not come around.
-/
import MMOServers.GameServer.AudienceTheorems
import MMOServers.GameServer.ChatRelay
import MMOServers.GameServer.TickPass
import MMOServers.GameServer.Whereabouts

namespace MMOServers.GameServer

open MMOServers.Common Transition

variable {K σ : Type}

/-! ## What a message tells -/

/-- The position that a message gives under the account. -/
def Outgoing.positionOf (accId : String) (o : Outgoing K σ) : Option (K × K) :=
  match o.message with
  | .moveRes m => if m.accountId = accId then some (m.x, m.y) else none
  | _ => none

/-- The hit points that a message gives under the account and the uid. -/
def Outgoing.hpOf (accId : String) (uid : Nat) (o : Outgoing K σ) : Option Int :=
  match o.message with
  | .attackRes m =>
      if m.targetAccountId = accId ∧ m.targetUid = UInt64.ofNat uid then
        some m.targetRemainHp.toInt
      else none
  | _ => none

/-- No monster has the name. -/
def GameContext.Nameable (accId : String) : Prop := ∀ n, accId ≠ monsterName n

/-- What every event in the life of a player keeps, the newest message first. -/
structure Story (T : List (Outgoing K σ) → String → PlayerInfo K → Prop) : Prop where
  silent : ∀ {sent accId p o}, T sent accId p → o.positionOf accId = none →
    o.hpOf accId p.uid = none → T (o :: sent) accId p
  enters : ∀ {sent accId q o}, GameContext.Nameable accId →
    (∀ o' ∈ sent, o'.hpOf accId q.uid = none) → q.hp = GameConstants.Player.defaultHp →
    q.atk = GameConstants.Player.defaultAtk → o.positionOf accId = some (q.x, q.y) →
    o.hpOf accId q.uid = none → T (o :: sent) accId q
  walks : ∀ {sent accId p o x y}, T sent accId p → o.positionOf accId = some (x, y) →
    o.hpOf accId p.uid = none → T (o :: sent) accId { p with x := x, y := y }
  struck : ∀ {sent accId p o}, T sent accId p →
    0 < (p.takeDamage GameConstants.Monster.defaultAtk).hp → o.positionOf accId = none →
    o.hpOf accId p.uid = some (p.takeDamage GameConstants.Monster.defaultAtk).hp →
    T (o :: sent) accId (p.takeDamage GameConstants.Monster.defaultAtk)
  felled : ∀ {sent accId p hit home x y}, T sent accId p →
    (p.takeDamage GameConstants.Monster.defaultAtk).hp ≤ 0 → hit.positionOf accId = none →
    hit.hpOf accId p.uid = some (p.takeDamage GameConstants.Monster.defaultAtk).hp →
    home.positionOf accId = some (x, y) → home.hpOf accId p.uid = none →
    T (home :: hit :: sent) accId
      { p.takeDamage GameConstants.Monster.defaultAtk with
        hp := GameConstants.Player.defaultHp, x := x, y := y }

theorem Story.append {T : List (Outgoing K σ) → String → PlayerInfo K → Prop} (hT : Story T)
    {sent new : List (Outgoing K σ)} {accId : String} {p : PlayerInfo K} (h : T sent accId p)
    (hnew : ∀ o ∈ new, o.positionOf accId = none ∧ o.hpOf accId p.uid = none) :
    T (new ++ sent) accId p := by
  induction new with
  | nil => exact h
  | cons o new ih =>
      obtain ⟨ho, hrest⟩ := List.forall_mem_cons.mp hnew
      exact hT.silent (ih hrest) ho.1 ho.2

namespace GameContext

/-! ## Messages about others -/

theorem nameable_a : Nameable "a" := by
  intro n h
  have hlength := congrArg String.length h
  rw [monsterName, String.length_append, show "a".length = 1 from rfl,
    show "MONSTER_".length = 8 from rfl] at hlength
  omega

/-- The message tells nothing about any player. -/
def Quiet (o : Outgoing K σ) : Prop :=
  ∀ accId, Nameable accId → o.positionOf accId = none ∧
    ∀ uid, 0 < uid → uid < 2 ^ 64 → o.hpOf accId uid = none

theorem ofNat_inj {m n : Nat} (hm : m < 2 ^ 64) (hn : n < 2 ^ 64)
    (h : UInt64.ofNat m = UInt64.ofNat n) : m = n := by
  have hnat := congrArg UInt64.toNat h
  rwa [UInt64.toNat_ofNat', UInt64.toNat_ofNat', Nat.mod_eq_of_lt hm, Nat.mod_eq_of_lt hn] at hnat

theorem PlacesMonster.quiet {o : Outgoing K σ} (h : PlacesMonster o) : Quiet o := by
  intro accId hname
  obtain ⟨named⟩ := h
  rename_i m n
  have hne : monsterName n ≠ accId := (hname n).symm
  exact ⟨by simp [Outgoing.positionOf, Outgoing.message, named, hne], fun _ _ _ => rfl⟩

theorem AboutMonster.quiet {o : Outgoing K σ} (h : AboutMonster o) : Quiet o := by
  intro accId hname
  cases h with
  | place h => exact h.quiet accId hname
  | @hit m n named =>
      have hne : monsterName n ≠ accId := (hname n).symm
      exact ⟨rfl, fun _ _ _ => by simp [Outgoing.hpOf, Outgoing.message, named, hne]⟩
  | miss target named =>
      refine ⟨rfl, fun uid hpos hlt => ?_⟩
      have hne : (0 : UInt64) ≠ UInt64.ofNat uid := fun heq =>
        absurd (ofNat_inj (by decide) hlt heq) (Nat.ne_of_lt hpos)
      simp [Outgoing.hpOf, Outgoing.message, target, hne]

/-- The hit points of a player who was hit go through the message. -/
theorem ofInt_takeDamage (p : PlayerInfo K) (damage : Int) :
    (Int32.ofInt (p.takeDamage damage).hp).toInt = (p.takeDamage damage).hp := by
  rw [Int32.toInt_ofInt]
  have hcut : (p.takeDamage damage).hp = 0 ∨ (p.takeDamage damage).hp = wrap32 (p.hp - damage) := by
    simp only [PlayerInfo.takeDamage]
    split
    · exact Or.inl rfl
    · exact Or.inr rfl
  rcases hcut with h | h
  · rw [h]
    rfl
  · rw [h]
    exact Int.bmod_bmod

/-! ## The invariant -/

/-- The story is true of every online player. -/
def Told (T : List (Outgoing K σ) → String → PlayerInfo K → Prop) (s : GameContext K σ) : Prop :=
  ∀ accId p, s.playerMap accId = some p → T s.sent accId p

structure Telling (T : List (Outgoing K σ) → String → PlayerInfo K → Prop)
    (s : GameContext K σ) : Prop where
  told : s.Told T
  named : ∀ accId p, s.playerMap accId = some p → Nameable accId
  drawn : ∀ accId p, s.playerMap accId = some p → 0 < p.uid ∧ p.uid < s.uidCounter
  linked : s.roster.Linked
  /-- Nothing has been told about a uid that is not in use yet. -/
  unheard : ∀ accId uid, Nameable accId → s.uidCounter ≤ uid → uid < 2 ^ 64 →
    ∀ o ∈ s.sent, o.hpOf accId uid = none
  counts : 0 < s.uidCounter ∧ s.uidCounter < 2 ^ 64
  powers : ∀ m ∈ s.monsters, m.attackPower = GameConstants.Monster.defaultAtk

section Events

variable {T : List (Outgoing K σ) → String → PlayerInfo K → Prop} (hT : Story T)

include hT

/-- Some players are gone, and nothing was told about the others. -/
theorem Telling.fewer {s s' : GameContext K σ} (h : s.Telling T)
    (hplayers : ∀ accId p, s'.playerMap accId = some p → s.playerMap accId = some p)
    (hlinked : s'.roster.Linked) (hcounter : s'.uidCounter = s.uidCounter)
    (hpowers : ∀ m ∈ s'.monsters, m.attackPower = GameConstants.Monster.defaultAtk)
    (hsent : Sends Quiet s s') : s'.Telling T := by
  obtain ⟨new, hnew, hquiet⟩ := hsent
  constructor
  · intro accId p hp
    have hold := hplayers accId p hp
    obtain ⟨hpos, hlt⟩ := h.drawn accId p hold
    rw [hnew]
    refine hT.append (h.told accId p hold) fun o ho => ?_
    obtain ⟨hplace, hhp⟩ := hquiet o ho accId (h.named accId p hold)
    exact ⟨hplace, hhp p.uid hpos (hlt.trans h.counts.2)⟩
  · exact fun accId p hp => h.named accId p (hplayers accId p hp)
  · exact fun accId p hp => hcounter ▸ h.drawn accId p (hplayers accId p hp)
  · exact hlinked
  · intro accId uid hname hle hlt o ho
    rw [hcounter] at hle
    rw [hnew] at ho
    rcases List.mem_append.mp ho with ho | ho
    · exact (hquiet o ho accId hname).2 uid (Nat.lt_of_lt_of_le h.counts.1 hle) hlt
    · exact h.unheard accId uid hname hle hlt o ho
  · exact hcounter ▸ h.counts
  · exact hpowers

theorem Telling.aside {s s' : GameContext K σ} (h : s.Telling T)
    (hplayers : s'.playerMap = s.playerMap) (hroster : s'.roster = s.roster)
    (hpowers : ∀ m ∈ s'.monsters, m.attackPower = GameConstants.Monster.defaultAtk)
    (hsent : Sends Quiet s s') : s'.Telling T :=
  h.fewer hT (fun _ _ hp => hplayers ▸ hp) (hroster ▸ h.linked) (congrArg Roster.next hroster)
    hpowers hsent

omit hT in
theorem online_update {s s' : GameContext K σ} {accId : String} {q : PlayerInfo K}
    (h : s'.playerMap = Function.update s.playerMap accId (some q)) {b : String}
    {r : PlayerInfo K} (hr : s'.playerMap b = some r) :
    (b = accId ∧ r = q) ∨ (b ≠ accId ∧ s.playerMap b = some r) := by
  rw [h] at hr
  by_cases hb : b = accId
  · subst hb
    rw [Function.update_self, Option.some.injEq] at hr
    exact Or.inl ⟨rfl, hr.symm⟩
  · rw [Function.update_of_ne hb] at hr
    exact Or.inr ⟨hb, hr⟩

/-- Something was told about one player, and the story goes on. -/
theorem Telling.tell {s s' : GameContext K σ} (h : s.Telling T) {accId : String}
    {p q : PlayerInfo K} {l : List (Outgoing K σ)} (hp : s.playerMap accId = some p)
    (huid : q.uid = p.uid) (hplayers : s'.playerMap = Function.update s.playerMap accId (some q))
    (hlinked : s'.roster.Linked) (hcounter : s'.uidCounter = s.uidCounter)
    (hmonsters : s'.monsters = s.monsters) (hsent : s'.sent = l ++ s.sent)
    (htold : T (l ++ s.sent) accId q)
    (hothers : ∀ o ∈ l, ∀ b, b ≠ accId →
      o.positionOf b = none ∧ ∀ uid, o.hpOf b uid = none)
    (hown : ∀ o ∈ l, ∀ uid, uid < 2 ^ 64 → uid ≠ p.uid → o.hpOf accId uid = none) :
    s'.Telling T := by
  have hcases := fun b r hr => online_update hplayers (b := b) (r := r) hr
  constructor
  · intro b r hr
    rw [hsent]
    rcases hcases b r hr with ⟨rfl, rfl⟩ | ⟨hb, hold⟩
    · exact htold
    · exact hT.append (h.told b r hold) fun o ho =>
        ⟨(hothers o ho b hb).1, (hothers o ho b hb).2 r.uid⟩
  · intro b r hr
    rcases hcases b r hr with ⟨rfl, rfl⟩ | ⟨-, hold⟩
    · exact h.named b p hp
    · exact h.named b r hold
  · intro b r hr
    rw [hcounter]
    rcases hcases b r hr with ⟨rfl, rfl⟩ | ⟨-, hold⟩
    · exact huid ▸ h.drawn b p hp
    · exact h.drawn b r hold
  · exact hlinked
  · intro b uid hname hle hlt o ho
    rw [hcounter] at hle
    rw [hsent] at ho
    rcases List.mem_append.mp ho with ho | ho
    · by_cases hb : b = accId
      · subst hb
        exact hown o ho uid hlt (Nat.ne_of_gt ((h.drawn b p hp).2.trans_le hle))
      · exact (hothers o ho b hb).2 uid
    · exact h.unheard b uid hname hle hlt o ho
  · exact hcounter ▸ h.counts
  · exact hmonsters ▸ h.powers

/-- A new player was told about, under a uid that nothing was told about. -/
theorem Telling.enter {s s' : GameContext K σ} (h : s.Telling T) {accId : String}
    {q : PlayerInfo K} {o : Outgoing K σ} (hname : Nameable accId)
    (hbound : s.uidCounter + 1 < 2 ^ 64) (huid : q.uid = s.uidCounter)
    (hfull : q.hp = GameConstants.Player.defaultHp)
    (hatk : q.atk = GameConstants.Player.defaultAtk)
    (hplayers : s'.playerMap = Function.update s.playerMap accId (some q))
    (hlinked : s'.roster.Linked) (hcounter : s'.uidCounter = s.uidCounter + 1)
    (hmonsters : s'.monsters = s.monsters) (hsent : s'.sent = o :: s.sent)
    (hposition : o.positionOf accId = some (q.x, q.y))
    (hother : ∀ b, b ≠ accId → o.positionOf b = none) (hhp : ∀ b uid, o.hpOf b uid = none) :
    s'.Telling T := by
  have hcases := fun b r hr => online_update hplayers (b := b) (r := r) hr
  constructor
  · intro b r hr
    rw [hsent]
    rcases hcases b r hr with ⟨rfl, rfl⟩ | ⟨hb, hold⟩
    · refine hT.enters hname ?_ hfull hatk hposition (hhp b r.uid)
      rw [huid]
      exact h.unheard b s.uidCounter hname le_rfl h.counts.2
    · exact hT.silent (h.told b r hold) (hother b hb) (hhp b r.uid)
  · intro b r hr
    rcases hcases b r hr with ⟨rfl, rfl⟩ | ⟨-, hold⟩
    · exact hname
    · exact h.named b r hold
  · intro b r hr
    rw [hcounter]
    rcases hcases b r hr with ⟨rfl, rfl⟩ | ⟨-, hold⟩
    · rw [huid]
      exact ⟨h.counts.1, Nat.lt_succ_self _⟩
    · exact ⟨(h.drawn b r hold).1, Nat.lt_succ_of_lt (h.drawn b r hold).2⟩
  · exact hlinked
  · intro b uid hb hle hlt o' ho'
    rw [hcounter] at hle
    rw [hsent] at ho'
    rcases List.mem_cons.mp ho' with rfl | ho'
    · exact hhp b uid
    · exact h.unheard b uid hb (Nat.le_of_succ_le hle) hlt o' ho'
  · exact hcounter ▸ ⟨Nat.succ_pos _, hbound⟩
  · exact hmonsters ▸ h.powers

/-! ## Attacks -/

variable [Field K] [LinearOrder K] [FloorRing K]

theorem attackPlayer_telling {s : GameContext K σ} (h : s.Telling T) (order : IterationOrder)
    (attackerUid targetUid : Nat) :
    (s.attackPlayer order attackerUid targetUid GameConstants.Monster.defaultAtk).Telling T := by
  generalize hpower : GameConstants.Monster.defaultAtk = damage
  have hlinked := (attackPlayer_drifts h.linked order attackerUid targetUid damage).linked h.linked
  unfold attackPlayer at hlinked ⊢
  split
  · exact h
  · rename_i accId p hplayer
    obtain ⟨hp, rfl⟩ := playerOf_eq_some h.linked hplayer
    have hremain := ofInt_takeDamage p damage
    rw [hplayer] at hlinked
    dsimp only at hlinked ⊢
    have hown : ∀ uid, uid < 2 ^ 64 → uid ≠ p.uid → UInt64.ofNat p.uid ≠ UInt64.ofNat uid :=
      fun uid hlt hne heq => hne (ofNat_inj ((h.drawn accId p hp).2.trans h.counts.2) hlt heq).symm
    let hit : Outgoing K σ := .broadcast (.attackRes ⟨UInt64.ofNat attackerUid,
      UInt64.ofNat p.uid, Int32.ofInt damage, Int32.ofInt (p.takeDamage damage).hp,
      s.accounts (s.zone.getPlayersInAOI order p.x p.y), accId⟩)
    have hheard : hit.hpOf accId p.uid = some (p.takeDamage damage).hp := by
      simp [hit, Outgoing.hpOf, Outgoing.message, hremain]
    have hunheard : ∀ uid, uid < 2 ^ 64 → uid ≠ p.uid → hit.hpOf accId uid = none := by
      intro uid hlt hne
      simp [hit, Outgoing.hpOf, Outgoing.message, hown uid hlt hne]
    have hother : ∀ b, b ≠ accId → hit.positionOf b = none ∧ ∀ uid, hit.hpOf b uid = none :=
      fun b hb => ⟨rfl, fun uid => by
        simp [hit, Outgoing.hpOf, Outgoing.message, Ne.symm hb]⟩
    split at hlinked
    · rename_i hdead
      rw [if_pos hdead]
      let home : Outgoing K σ := .broadcast (.moveRes ⟨accId,
        ((GameConstants.Player.spawnX : Int) : K), ((GameConstants.Player.spawnY : Int) : K), 0, 0,
        [accId]⟩)
      -- the newest message takes the player home
      refine h.tell hT (q := { p.takeDamage damage with
        hp := GameConstants.Player.defaultHp
        x := ((GameConstants.Player.spawnX : Int) : K)
        y := ((GameConstants.Player.spawnY : Int) : K) }) (l := [home, hit]) hp rfl
        (Function.update_idem ..) hlinked rfl rfl rfl ?_ ?_ ?_
      · subst hpower
        exact hT.felled (h.told accId p hp) hdead rfl hheard
          (by simp [home, Outgoing.positionOf, Outgoing.message]) rfl
      · intro o ho b hb
        rcases List.mem_cons.mp ho with rfl | ho
        · exact ⟨by simp [home, Outgoing.positionOf, Outgoing.message, Ne.symm hb], fun _ => rfl⟩
        · exact List.mem_singleton.mp ho ▸ hother b hb
      · intro o ho uid hlt hne
        rcases List.mem_cons.mp ho with rfl | ho
        · rfl
        · exact List.mem_singleton.mp ho ▸ hunheard uid hlt hne
    · rename_i halive
      rw [if_neg halive]
      refine h.tell hT (q := p.takeDamage damage) (l := [hit]) hp rfl rfl hlinked rfl rfl rfl
        ?_ ?_ ?_
      · subst hpower
        exact hT.struck (h.told accId p hp) (not_le.mp halive) rfl hheard
      · exact fun o ho b hb => List.mem_singleton.mp ho ▸ hother b hb
      · exact fun o ho uid hlt hne => List.mem_singleton.mp ho ▸ hunheard uid hlt hne

/-! ## Ticks -/

/-- The attacks among the calls have the power of a monster. -/
def Powered (calls : List (MonsterCall K)) : Prop :=
  ∀ attackerId targetId damage, MonsterCall.attack attackerId targetId damage ∈ calls →
    damage = GameConstants.Monster.defaultAtk

theorem perform_telling {s : GameContext K σ} (h : s.Telling T) (order : IterationOrder) (i : Nat)
    {calls : List (MonsterCall K)} (hcalls : Powered calls) :
    (s.perform order i calls).Telling T := by
  induction calls generalizing s with
  | nil => exact h
  | cons call calls ih =>
      have hrest : Powered calls := fun attackerId targetId damage hmem =>
        hcalls attackerId targetId damage (List.mem_cons_of_mem _ hmem)
      cases call with
      | findPath request =>
          exact ih (s := { s with pathTasks := s.pathTasks ++ [⟨i, request⟩] })
            (h.aside hT rfl rfl h.powers (.of_eq rfl)) hrest
      | attack attackerId targetId damage =>
          obtain rfl := hcalls attackerId targetId damage List.mem_cons_self
          exact ih (attackPlayer_telling hT h order attackerId targetId) hrest

variable [HasSqrt K]

omit hT [FloorRing K] in
/-- A monster that looks for its target makes no attack. -/
theorem aims_powered {m : Monster K} {r : Monster K × List (MonsterCall K)} (h : m.Aims r) :
    Powered r.2 := by
  intro attackerId targetId damage hmem
  have hquiet := h.quiet _ hmem
  cases hquiet

omit hT [FloorRing K] in
theorem update_powered {m : Monster K}
    (hpower : m.attackPower = GameConstants.Monster.defaultAtk) (deltaTime : K) :
    Powered (m.update deltaTime).2 := by
  intro attackerId targetId damage hmem
  rcases m.update_calls deltaTime with hquiet | ⟨-, -, hcalls, -⟩
  · have hnone := hquiet _ hmem
    cases hnone
  · rw [hcalls, List.mem_singleton, MonsterCall.attack.injEq] at hmem
    exact hmem.2.2.trans hpower

theorem tickMonster_telling {s : GameContext K σ} (h : s.Telling T) (order : IterationOrder)
    (deltaTime : K) (i : Nat) : (tickMonster order deltaTime s i).Telling T := by
  have hset : ∀ {s : GameContext K σ} {m : Monster K}, s.Telling T →
      m.attackPower = GameConstants.Monster.defaultAtk → (s.setMonster i m).Telling T := by
    intro s m hs hm
    refine hs.aside hT rfl rfl (fun n hn => ?_) (.of_eq rfl)
    rcases List.mem_or_eq_of_mem_set hn with hold | rfl
    · exact hs.powers n hold
    · exact hm
  cases hm : s.monsters[i]? with
  | none =>
      simp only [tickMonster, hm]
      exact h
  | some m =>
      have hpower := h.powers m (List.mem_of_getElem? hm)
      by_cases hdead : m.state = .dead
      · simp only [tickMonster, hm, if_pos hdead]
        have hkept := processDeadMonster_kept s order i m deltaTime
        refine h.aside hT hkept.playerMap hkept.roster (fun n hn => ?_)
          ((processDeadMonster_sends s order i m deltaTime).imp fun _ => PlacesMonster.quiet)
        rw [(processDeadMonster_monsters s order i m deltaTime).1] at hn
        refine (hset h ?_).powers n hn
        split <;> exact hpower
      · have haims := processMonster_aims s order hdead m.position.x m.position.y
        simp only [tickMonster, hm, if_neg hdead]
        generalize s.processMonster order m m.position.x m.position.y = r at haims ⊢
        have hpower₁ := (Monster.traits_attackPower haims.traits).trans hpower
        have hpower₂ := (Monster.traits_attackPower (r.1.update_traits deltaTime)).trans hpower₁
        have hs := perform_telling hT (hset (perform_telling hT (hset h hpower₁) order i
          (aims_powered haims)) hpower₂) order i (update_powered hpower₁ deltaTime)
        generalize perform _ order i (r.1.update deltaTime).2 = t at hs ⊢
        have hkept := syncMonsterPosition_kept t order (r.1.update deltaTime).1 m.position.x
          m.position.y deltaTime
        refine hs.aside hT hkept.playerMap hkept.roster ?_
          ((syncMonsterPosition_sends t order _ _ _ deltaTime).imp fun _ => PlacesMonster.quiet)
        rw [(t.syncMonsterPosition_monsters order _ _ _ deltaTime).1]
        exact hs.powers

theorem aiTick_telling {s : GameContext K σ} (h : s.Telling T) (order : IterationOrder)
    (deltaTime : K) : (s.aiTick order deltaTime).Telling T := by
  unfold aiTick
  generalize List.range s.monsters.length = is
  induction is generalizing s with
  | nil => exact h
  | cons i is ih => exact ih (tickMonster_telling hT h order deltaTime i)

/-! ## Tasks -/

variable [DecidableEq σ] {env : GameEnv K}

omit [HasSqrt K] in
theorem handleGatewayGameMoveReq_telling {s : GameContext K σ} (h : s.Telling T) (gw : σ)
    (order : IterationOrder) {payload : List UInt8} {req : GatewayGameMoveReq K}
    (hreq : env.parseMoveReq payload = some req) (hname : Nameable req.accountId)
    (hbound : s.uidCounter + 1 < 2 ^ 64)
    (hlinked : (s.handleGatewayGameMoveReq env gw order payload).roster.Linked) :
    (s.handleGatewayGameMoveReq env gw order payload).Telling T := by
  have hsent := handleGatewayGameMoveReq_answer s gw order hreq
  generalize hgame : s.handleGatewayGameMoveReq env gw order payload = s' at hsent hlinked ⊢
  generalize hm : GameGatewayMoveRes.mk req.accountId _ _ _ _ _ = m at hsent
  have hposition : ∀ b, Outgoing.positionOf b (.send gw (.moveRes m) : Outgoing K σ)
      = if req.accountId = b then some (clamp GameConstants.Map.width req.x,
          clamp GameConstants.Map.height req.y) else none := fun b => by rw [← hm]; rfl
  have hother : ∀ b, b ≠ req.accountId →
      Outgoing.positionOf b (.send gw (.moveRes m) : Outgoing K σ) = none :=
    fun b hb => (hposition b).trans (if_neg (Ne.symm hb))
  simp only [handleGatewayGameMoveReq, hreq] at hgame
  cases hp : s.playerMap req.accountId with
  | some p =>
      rw [hp] at hgame
      subst hgame
      let q : PlayerInfo K := { p with
        x := clamp GameConstants.Map.width req.x
        y := clamp GameConstants.Map.height req.y }
      refine h.tell hT (q := q) (l := [.send gw (.moveRes m)]) hp rfl rfl hlinked rfl rfl hsent
        ?_ ?_ ?_
      · exact hT.walks (h.told req.accountId p hp) ((hposition _).trans (if_pos rfl)) rfl
      · intro o ho b hb
        rw [List.mem_singleton.mp ho]
        exact ⟨hother b hb, fun _ => rfl⟩
      · intro o ho uid _ _
        rw [List.mem_singleton.mp ho]
        rfl
  | none =>
      rw [hp] at hgame
      subst hgame
      let q : PlayerInfo K :=
        { uid := s.uidCounter
          x := clamp GameConstants.Map.width req.x
          y := clamp GameConstants.Map.height req.y }
      exact h.enter hT (q := q) hname hbound rfl rfl rfl (Function.update_idem ..) hlinked
        (Nat.mod_eq_of_lt hbound) rfl hsent ((hposition _).trans (if_pos rfl)) hother
        fun _ _ => rfl

omit [HasSqrt K] [DecidableEq σ] in
theorem removePlayer_telling {s : GameContext K σ} (h : s.Telling T) {accId : String}
    {p : PlayerInfo K} (hp : s.playerMap accId = some p) :
    (s.removePlayer accId p).Telling T := by
  refine h.fewer hT (fun b r hr => ?_) ((removePlayer_drifts hp).linked h.linked) rfl h.powers
    (.of_eq rfl)
  by_cases hb : b = accId
  · subst hb
    simp [removePlayer] at hr
  · exact (Function.update_of_ne hb _ _).symm.trans hr

omit [HasSqrt K] [DecidableEq σ] in
theorem removePlayers_telling {s : GameContext K σ} (h : s.Telling T) (accIds : List String) :
    (s.removePlayers accIds).Telling T := by
  induction accIds generalizing s with
  | nil => exact h
  | cons accId rest ih =>
      unfold removePlayers
      split
      · exact ih h
      · exact ih (removePlayer_telling hT h ‹_›)

omit hT in
/-- A player that a request names is not named like a monster. -/
def NamesPlayer (env : GameEnv K) (label : Label K σ) : Prop :=
  ∀ req, moveOf env label = some req → Nameable req.accountId

theorem dispatch_telling {s : GameContext K σ} (h : s.Telling T) {gw : σ} {id : UInt16}
    {payload : List UInt8} {order : IterationOrder}
    (hmove : moveOf env (.packet gw id payload order) = none)
    (hpowers : ∀ m ∈ (s.dispatch env gw id payload order).monsters,
      m.attackPower = GameConstants.Monster.defaultAtk) :
    (s.dispatch env gw id payload order).Telling T := by
  unfold dispatch at hpowers ⊢
  split
  · rename_i hid
    rw [moveOf, if_pos hid] at hmove
    rw [handleGatewayGameMoveReq, hmove]
    exact h
  · rename_i hmoveId
    rw [if_neg hmoveId] at hpowers
    split
    · unfold handleGatewayGameLeaveReq
      split
      · exact h
      · split
        · exact h
        · exact (removePlayer_telling hT h ‹_›).aside hT rfl rfl h.powers (.of_eq rfl)
    · rename_i hleaveId
      rw [if_neg hleaveId] at hpowers
      split
      · rename_i hattackId
        rw [if_pos hattackId] at hpowers
        have hkept : PlayersKept s (s.handleGatewayGameAttackReq env order payload) :=
          handleGatewayGameAttackReq_kept s order payload
        exact h.aside hT hkept.playerMap hkept.roster hpowers
          ((handleGatewayGameAttackReq_sends s order payload).imp fun _ => AboutMonster.quiet)
      · rename_i hattackId
        rw [if_neg hattackId] at hpowers
        split
        · rename_i hchatId
          rw [if_pos hchatId] at hpowers
          have hkept : PlayersKept s (s.handleGatewayGameChatReq env gw order payload) :=
            handleGatewayGameChatReq_kept s gw order payload
          refine h.aside hT hkept.playerMap hkept.roster hpowers ?_
          obtain hsent | ⟨req, targets, -, hsent⟩ :
              (s.handleGatewayGameChatReq env gw order payload).sent = s.sent ∨ _ :=
            chatReq_sends s gw order payload
          · exact .of_eq hsent
          · exact .of_cons (fun _ _ => ⟨rfl, fun _ _ _ => rfl⟩) hsent
        · exact h

theorem step_telling {s s' : GameContext K σ} {label : Label K σ} (h : s.Telling T)
    (hname : NamesPlayer env label) (hbound : s.uidCounter + 1 < 2 ^ 64)
    (hlinked : s'.roster.Linked) (hstep : step env s label = some s') : s'.Telling T := by
  -- what a monster was given for life
  have hpowers : ∀ m ∈ s'.monsters, m.attackPower = GameConstants.Monster.defaultAtk := by
    intro m hm
    obtain ⟨i, h', hi', rfl⟩ := mem_monsters_iff.mp hm
    obtain ⟨h₀, hi, hhunt⟩ := step_hunt_of hstep hi'
    rw [Monster.traits_attackPower hhunt.traits]
    exact h.powers h₀.monster (List.mem_of_getElem? (hunt_monster hi))
  cases step_inv hstep with
  | packet gw id payload order =>
      cases hmove : moveOf env (.packet gw id payload order) with
      | none => exact dispatch_telling hT h hmove hpowers
      | some req =>
          have hreq := hname req hmove
          simp only [moveOf] at hmove
          split at hmove
          · rename_i hid
            rw [dispatch, if_pos hid] at hlinked ⊢
            exact handleGatewayGameMoveReq_telling hT h gw order hmove hreq hbound hlinked
          · cases hmove
  | gatewayDisconnected gw =>
      exact (removePlayers_telling hT h (s.gatewayPlayerMap gw)).aside hT rfl rfl hpowers
        (.of_eq rfl)
  | worldPacket id payload =>
      refine h.aside hT ?_ (worldDispatch_roster s id payload) hpowers ?_
      · unfold worldDispatch handleWorldGameMonsterBuff handleWorldGameTokenNotify
        repeat' split
        all_goals rfl
      · unfold worldDispatch handleWorldGameMonsterBuff handleWorldGameTokenNotify
        repeat' split
        all_goals first
          | exact .of_eq rfl
          | exact .of_cons (fun _ _ => ⟨rfl, fun _ _ _ => rfl⟩) rfl
  | aiTick deltaTime order => exact aiTick_telling hT h order deltaTime
  | @pathResult n task waypoints asked =>
      have hkept := pathResult_kept { s with pathTasks := s.pathTasks.eraseIdx n } task waypoints
      refine h.aside hT hkept.playerMap hkept.roster hpowers (.of_eq ?_)
      unfold pathResult
      split
      · rfl
      · rfl

/-! ## Runs -/

omit hT [HasSqrt K] [DecidableEq σ] in
theorem start_sent (spawns : List (MonsterSpawn K)) :
    (start spawns : GameContext K σ).sent = [] := by
  have hinit : ∀ s : GameContext K σ, (s.initMonsters spawns).sent = s.sent := by
    unfold initMonsters
    induction spawns with
    | nil => exact fun _ => rfl
    | cons data rest ih => exact fun s => ih (s.initMonster data)
  exact hinit _

omit hT [HasSqrt K] [DecidableEq σ] in
theorem start_telling (spawns : List (MonsterSpawn K)) :
    (start spawns : GameContext K σ).Telling T := by
  obtain ⟨hplayers, -⟩ := start_tables (σ := σ) spawns
  have hcounter : (start spawns : GameContext K σ).uidCounter = 1 :=
    congrArg Roster.next (start_roster spawns)
  have hnobody : ∀ accId p, (start spawns : GameContext K σ).playerMap accId ≠ some p := by
    intro accId p hp
    rw [hplayers] at hp
    cases hp
  constructor
  · exact fun accId p hp => absurd hp (hnobody accId p)
  · exact fun accId p hp => absurd hp (hnobody accId p)
  · exact fun accId p hp => absurd hp (hnobody accId p)
  · exact (start_playersKnown spawns).linked
  · intro accId uid _ _ _ o ho
    rw [start_sent] at ho
    cases ho
  · rw [hcounter]
    decide
  · intro m hm
    rw [(start_monsters spawns).1] at hm
    obtain ⟨data, -, rfl⟩ := List.mem_map.mp hm
    rfl

theorem always_told_of {s : GameContext K σ} (h : s.Telling T) (hk : s.PlayersKnown)
    (hu : s.roster.Unissued) {labels : List (Label K σ)}
    (hlen : s.uidCounter + labels.length < 2 ^ 64)
    (hnames : ∀ label ∈ labels, NamesPlayer env label) :
    Always (step env) (Told T) s labels := by
  induction labels generalizing s with
  | nil => exact h.told
  | cons label labels ih =>
      rw [List.length_cons] at hlen
      refine always_cons.mpr ⟨h.told, fun s' hs' => ?_⟩
      have hbound : s.uidCounter + 1 < 2 ^ 64 := by omega
      have hk' := step_playersKnown hk (fun _ _ _ => hu s.uidCounter le_rfl) hs'
      obtain ⟨hcount, hu'⟩ := step_unissued hk hu hbound hs'
      exact ih (step_telling hT h (hnames label List.mem_cons_self) hbound hk'.linked hs') hk' hu'
        (by omega) fun l hl => hnames l (List.mem_cons_of_mem _ hl)

/-- A story is true on every run of less than 2^64 - 1 tasks in which no player comes
    in under the name of a monster. -/
theorem always_told (spawns : List (MonsterSpawn K)) {labels : List (Label K σ)}
    (hlen : labels.length + 1 < 2 ^ 64) (hnames : ∀ label ∈ labels, NamesPlayer env label) :
    Always (step env) (Told T) (start spawns) labels := by
  have hstart := start_roster (σ := σ) spawns
  refine always_told_of hT (start_telling spawns) (start_playersKnown spawns) ?_ ?_ hnames
  · rw [hstart]
    exact fun _ _ => rfl
  · rw [show (start spawns : GameContext K σ).uidCounter = 1 from congrArg Roster.next hstart]
    omega

end Events

end GameContext

end MMOServers.GameServer
