/-
MMOServers.GameServer.MoveAnswerTheorems — whether a player is told where its own
move has taken it.

The answer to a move request carries the clamped position, and the client takes
its own position from it. The mover is not put on the list of the answer; it is
on it when the loop over the area of interest comes by, and that loop stops
after `MAX_AOI_BROADCAST` uids and has nothing at all to go through where there
is no sector. So the mover is on the list exactly when its new position is
inside the map and fewer uids than that come before its own
(`listsMover_iff_hasRoom`). With few others around there is room in every order
of the sets (`roomFor_of_few`).

What carries the proof is `Roster.Present`: a player that is where a sector is,
is in that sector. It is weaker than `SectorsAgree` and, unlike that, survives
the moves to the edge.
-/
import MMOServers.GameServer.PlayerTheorems
import MMOServers.GameServer.InterestTheorems
import MMOServers.GameServer.AudienceTheorems

namespace MMOServers.GameServer

open MMOServers.Common Cells Transition

/-! ## Players that are where a sector is -/

namespace Roster

variable {K : Type} [Field K] [LinearOrder K] [FloorRing K]

/-- Every online player is in the sector of its position, if there is one. -/
def Present (r : Roster K) : Prop :=
  ∀ accId p k, r.players accId = some p → r.sectorOf p.x p.y = some k → p.uid ∈ r.cells k

/-- A change that concerns one account, whose player ends up in its sector. -/
theorem present_update {r : Roster K} (h : r.Present) {accId : String} {p : Place K}
    {next : Nat} {accounts : Nat → Option String} {cells : SectorIndex → List Nat}
    (hother : ∀ b q, b ≠ accId → r.players b = some q → q.uid ≠ p.uid)
    (hself : ∀ k, r.sectorOf p.x p.y = some k → p.uid ∈ cells k)
    (hcells : ∀ uid k, uid ≠ p.uid → (uid ∈ cells k ↔ uid ∈ r.cells k)) :
    Present { r with next := next, players := Function.update r.players accId (some p)
                     accounts := accounts, cells := cells } := by
  intro b q k hq hk
  replace hq : Function.update r.players accId (some p) b = some q := hq
  by_cases hb : b = accId
  · rw [hb, Function.update_self, Option.some.injEq] at hq
    subst hq
    exact hself k hk
  · rw [Function.update_of_ne hb] at hq
    exact (hcells q.uid k (hother b q hb hq)).mpr (h b q k hq hk)

theorem enter_present {r : Roster K} (h : r.Present) (hl : r.Linked) {accId : String}
    {p : Place K} (hfresh : r.accounts p.uid = none) : (r.enter accId p).Present := by
  refine present_update h (fun b q _ hq => hl.fresh hfresh hq) (fun k hk => ?_)
    (fun uid k huid => mem_enter_other huid)
  rw [hk]
  exact mem_add.mpr (Or.inl ⟨rfl, rfl⟩)

theorem move_present {r : Roster K} (h : r.Present) (hl : r.Linked) {accId : String}
    {p : Place K} (hp : r.players accId = some p) (x y : K) :
    (r.move accId p x y).Present := by
  refine present_update (p := ⟨p.uid, x, y⟩) h (fun b q hb hq huid => ?_) (fun k hk => ?_)
    (fun uid k huid => mem_relocate_other huid)
  · exact hb (hl.unique hq hp huid)
  · rw [show r.sectorOf x y = some k from hk]
    exact mem_relocate_self (fun l hold => h accId p l hp hold) k

theorem leave_present {r : Roster K} (h : r.Present) (hl : r.Linked) {accId : String}
    {p : Place K} (hp : r.players accId = some p) : (r.leave accId p).Present := by
  intro b q k hq hk
  replace hq : Function.update r.players accId none b = some q := hq
  by_cases hb : b = accId
  · rw [hb, Function.update_self] at hq
    cases hq
  · rw [Function.update_of_ne hb] at hq
    have huid : q.uid ≠ p.uid := fun huid => hb (hl.unique hq hp huid)
    exact (mem_leave_other huid).mpr (h b q k hq hk)

theorem moveTo_present {r : Roster K} (h : r.Present) (hl : r.Linked) {accId : String}
    (hfresh : r.players accId = none → r.accounts r.next = none) (x y : K) :
    (r.moveTo accId x y).Present := by
  unfold moveTo
  split
  · rename_i p hp
    exact move_present h hl hp x y
  · rename_i hnew
    have hl' := enter_linked hl (p := ⟨r.next, x, y⟩) hnew (hfresh hnew)
    exact move_present (enter_present h hl (hfresh hnew)) hl' (enter_self r accId _) x y

theorem Drifts.present {homeX homeY : K} {r r' : Roster K} (h : Drifts homeX homeY r r')
    (hl : r.Linked) (hp : r.Present) : r'.Present := by
  induction h with
  | refl => exact hp
  | leave h hplayer ih => exact leave_present ih (h.linked hl) hplayer
  | home h hplayer ih => exact move_present ih (h.linked hl) hplayer homeX homeY

end Roster

namespace GameContext

variable {K σ : Type} [Field K] [LinearOrder K] [FloorRing K]

/-! ## The list of an answer -/

/-- The uid that an account moves under, a new one's being the next. -/
def uidOf (s : GameContext K σ) (accId : String) : Nat :=
  match s.playerMap accId with
  | some p => p.uid
  | none => s.uidCounter

/-- The sector that an account comes from. -/
def sectorFrom (s : GameContext K σ) (accId : String) : Option SectorIndex :=
  (s.playerMap accId).bind fun p => s.zone.size.getSectorIndex p.x p.y

/-- The uids around the sector that an account comes to, in an order of the
    sets. -/
def uidsAround (s : GameContext K σ) (order : IterationOrder) (center : SectorIndex)
    (accId : String) : List Nat :=
  (s.zone.size.neighbours center).flatMap fun k =>
    order.list k (relocate s.zone.players (s.sectorFrom accId) (some center) (s.uidOf accId) k)

theorem movedZone_size (s : GameContext K σ) (accId : String) (x y : K) :
    (s.movedZone accId x y).size = s.zone.size := by
  unfold movedZone
  split <;> simp

theorem movedZone_players (s : GameContext K σ) (accId : String) {x y : K}
    {center : SectorIndex} (hcenter : s.zone.size.getSectorIndex x y = some center) :
    (s.movedZone accId x y).players
      = relocate s.zone.players (s.sectorFrom accId) (some center) (s.uidOf accId) := by
  unfold movedZone sectorFrom uidOf
  cases s.playerMap accId with
  | some p => simp only [Zone.updatePosition_players, hcenter, Option.bind_some]
  | none =>
      -- a new player is in its sector already when it moves there
      simp [Zone.updatePosition_players, Zone.enterZone_players, hcenter, relocate, shift]

theorem movedZone_aoi (s : GameContext K σ) (order : IterationOrder) (accId : String) (x y : K) :
    (s.movedZone accId x y).getPlayersInAOI order x y
      = match s.zone.size.getSectorIndex x y with
        | none => []
        | some center => s.uidsAround order center accId := by
  unfold Zone.getPlayersInAOI
  rw [movedZone_size]
  cases hcenter : s.zone.size.getSectorIndex x y with
  | none => rfl
  | some center =>
      show ((s.zone.size.neighbours center).flatMap fun k =>
        order.list k ((s.movedZone accId x y).players k)) = _
      rw [movedZone_players s accId hcenter]
      rfl

omit [Field K] [LinearOrder K] [FloorRing K] in
/-- The mover's uid is the only one that is the mover's. -/
theorem movedAccounts_eq_some_iff {s : GameContext K σ} (hl : s.roster.Linked)
    (accId : String) (uid : Nat) :
    s.movedAccounts accId uid = some accId ↔ uid = s.uidOf accId := by
  unfold movedAccounts uidOf
  have hlinked : s.uidToAccount uid = some accId
      ↔ ∃ q, s.roster.players accId = some q ∧ q.uid = uid := hl uid accId
  cases hp : s.playerMap accId with
  | some p =>
      show s.uidToAccount uid = some accId ↔ uid = p.uid
      rw [hlinked, roster_player hp]
      simp [PlayerInfo.place, eq_comm]
  | none =>
      show Function.update s.uidToAccount s.uidCounter (some accId) uid = some accId
        ↔ uid = s.uidCounter
      by_cases huid : uid = s.uidCounter
      · simp [huid]
      · rw [Function.update_of_ne huid, hlinked, roster_newPlayer.mpr hp]
        simp [huid]

/-- An account is named exactly when its uid is among those that are looked at. -/
theorem mem_named_iff {names : Nat → Option String} {accId : String} {uid : Nat}
    (hnames : ∀ i, names i = some accId ↔ i = uid) {uids : List Nat} (hmem : uid ∈ uids)
    (n : Nat) : accId ∈ (uids.take n).filterMap names ↔ uids.idxOf uid < n := by
  rw [List.mem_filterMap, ← List.mem_take_iff_idxOf_lt hmem]
  simp only [hnames]
  simp

/-- No more items come before one than there are others. -/
theorem idxOf_le_others (uids : List Nat) (uid : Nat) :
    uids.idxOf uid ≤ (uids.filter (· ≠ uid)).length := by
  induction uids with
  | nil => exact Nat.le_refl 0
  | cons other rest ih =>
      by_cases hother : other = uid
      · rw [hother, List.idxOf_cons_self]
        exact Nat.zero_le _
      · rw [List.idxOf_cons_ne _ hother, List.filter_cons_of_pos (by simpa using hother)]
        exact Nat.succ_le_succ ih

variable [IsStrictOrderedRing K]

/-- The mover is among the players around its new sector. -/
theorem mem_uidsAround {s : GameContext K σ} (hsize : s.zone.size = mapSize)
    (hpresent : s.roster.Present) (order : IterationOrder) {accId : String} {x y : K}
    {center : SectorIndex} (hcenter : mapSize.getSectorIndex x y = some center) :
    s.uidOf accId ∈ s.uidsAround order center accId := by
  have hcontains := (ZoneSize.getSectorIndex_eq_some_iff (by decide)).mp hcenter
  have hmem : s.uidOf accId
      ∈ relocate s.zone.players (s.sectorFrom accId) (some center) (s.uidOf accId) center := by
    refine mem_relocate_self (fun l hl => ?_) center
    obtain ⟨p, hp, hsector⟩ := Option.bind_eq_some_iff.mp hl
    simp only [uidOf, hp]
    exact hpresent accId p.place l (roster_player hp) hsector
  refine List.mem_flatMap.mpr ⟨center, ?_, (order.perm center _).mem_iff.mpr hmem⟩
  rw [hsize]
  refine ZoneSize.mem_neighbours_iff.mpr ⟨hcontains.row, hcontains.col, ?_⟩
  simp [ZoneSize.Adjacent]

/-! ## One task -/

variable [HasSqrt K] [DecidableEq σ]

/-- The answer to a move request that is handled is about the account of the
    request and names it. -/
def ListsMover (env : GameEnv K) (s : GameContext K σ) (label : Label K σ) : Prop :=
  ∀ req s', moveOf env label = some req → step env s label = some s' →
    ∃ gw m, s'.sent = .send gw (.moveRes m) :: s.sent ∧ m.accountId = req.accountId ∧
      req.accountId ∈ m.targetAccountIds

/-- The new position is inside the map, and in the order in which the sets are run
    through fewer uids than are looked at come before the mover's. -/
structure RoomFor (s : GameContext K σ) (order : IterationOrder) (req : GatewayGameMoveReq K) :
    Prop where
  inside : req.x < (GameConstants.Map.width : K) ∧ req.y < (GameConstants.Map.height : K)
  listed : ∀ center,
    mapSize.getSectorIndex (clamp GameConstants.Map.width req.x)
        (clamp GameConstants.Map.height req.y) = some center →
      (s.uidsAround order center req.accountId).idxOf (s.uidOf req.accountId)
        < GameConstants.Network.maxAoiBroadcast

/-- There is room for the mover of the request that a task handles. -/
def HasRoom (env : GameEnv K) (s : GameContext K σ) : Label K σ → Prop
  | .packet gw id payload order =>
      ∀ req, moveOf env (.packet gw id payload order : Label K σ) = some req →
        s.RoomFor order req
  | _ => True

variable {env : GameEnv K}

omit [Field K] [LinearOrder K] [FloorRing K] [IsStrictOrderedRing K] [HasSqrt K]
  [DecidableEq σ] in
/-- What an answer that is known names. -/
theorem answered_iff {gw : σ} {m : GameGatewayMoveRes K} {sent : List (Outgoing K σ)} :
    (∃ g m', .send gw (.moveRes m) :: sent = .send g (.moveRes m') :: sent ∧
        m'.accountId = m.accountId ∧ m.accountId ∈ m'.targetAccountIds)
      ↔ m.accountId ∈ m.targetAccountIds := by
  constructor
  · rintro ⟨g, m', hsent, -, hmem⟩
    cases (List.cons.inj hsent).1
    exact hmem
  · intro hmem
    exact ⟨gw, m, rfl, rfl, hmem⟩

omit [HasSqrt K] in
theorem handleGatewayGameMoveReq_listsMover_iff {s : GameContext K σ} (hk : s.PlayersKnown)
    (hpresent : s.roster.Present) (gw : σ) (order : IterationOrder) {payload : List UInt8}
    {req : GatewayGameMoveReq K} (hparse : env.parseMoveReq payload = some req) :
    (∃ g m, (s.handleGatewayGameMoveReq env gw order payload).sent
          = .send g (.moveRes m) :: s.sent ∧ m.accountId = req.accountId ∧
        req.accountId ∈ m.targetAccountIds) ↔ s.RoomFor order req := by
  rw [handleGatewayGameMoveReq_answer s gw order hparse, movedZone_aoi,
    show s.zone.size = mapSize from hk.size, answered_iff]
  have hinside := inside_clamp_iff req.x req.y
  cases hcenter : mapSize.getSectorIndex (clamp GameConstants.Map.width req.x)
      (clamp GameConstants.Map.height req.y) with
  | none =>
      -- off the map there is nobody around
      refine iff_of_false (by simp) fun hroom => ?_
      have hsome := ZoneSize.getSectorIndex_isSome_iff.mpr (hinside.mpr hroom.inside)
      rw [hcenter] at hsome
      cases hsome
  | some center =>
      have hin := hinside.mp (ZoneSize.getSectorIndex_isSome_iff.mp (by rw [hcenter]; rfl))
      rw [mem_named_iff (movedAccounts_eq_some_iff hk.linked req.accountId)
        (mem_uidsAround hk.size hpresent order hcenter)]
      constructor
      · intro hlt
        refine ⟨hin, fun center' hcenter' => ?_⟩
        rw [hcenter, Option.some.injEq] at hcenter'
        exact hcenter' ▸ hlt
      · exact fun hroom => hroom.listed center hcenter

theorem step_listsMover_iff {s s' : GameContext K σ} {label : Label K σ} (hk : s.PlayersKnown)
    (hpresent : s.roster.Present) (h : step env s label = some s') :
    ListsMover env s label ↔ HasRoom env s label := by
  cases label with
  | packet gw id payload order =>
      simp only [ListsMover, HasRoom, moveOf]
      by_cases hid : id = PacketId.gatewayGameMoveReq
      · simp only [if_pos hid]
        refine forall_congr' fun req => ?_
        constructor
        · intro hlists hparse
          refine (handleGatewayGameMoveReq_listsMover_iff hk hpresent gw order hparse).mp ?_
          refine hlists _ hparse ?_
          simp only [step, dispatch, if_pos hid]
        · intro hroom s' hparse hs'
          simp only [step, dispatch, if_pos hid, Option.some.injEq] at hs'
          rw [← hs']
          exact (handleGatewayGameMoveReq_listsMover_iff hk hpresent gw order hparse).mpr
            (hroom hparse)
      · simp [if_neg hid]
  | _ =>
      refine iff_of_true (fun req s' hmove => ?_) trivial
      cases hmove

omit [IsStrictOrderedRing K] [HasSqrt K] [DecidableEq σ] in
/-- In no order are more uids before the mover's than there are others. -/
theorem idxOf_uidsAround_le (s : GameContext K σ) (order : IterationOrder)
    (center : SectorIndex) (accId : String) :
    (s.uidsAround order center accId).idxOf (s.uidOf accId)
      ≤ (((s.zone.size.neighbours center).flatMap s.zone.players).filter
          (· ≠ s.uidOf accId)).length := by
  have hothers : ∀ k, ((order.list k (relocate s.zone.players (s.sectorFrom accId) (some center)
      (s.uidOf accId) k)).filter (· ≠ s.uidOf accId)).length
        = ((s.zone.players k).filter (· ≠ s.uidOf accId)).length := by
    intro k
    rw [((order.perm k _).filter _).length_eq, others_relocate]
  calc (s.uidsAround order center accId).idxOf (s.uidOf accId)
      ≤ ((s.uidsAround order center accId).filter (· ≠ s.uidOf accId)).length :=
        idxOf_le_others _ _
    _ = _ := by
        simp only [uidsAround, List.filter_flatMap, List.length_flatMap, hothers]

omit [IsStrictOrderedRing K] [HasSqrt K] [DecidableEq σ] in
/-- With fewer others around than are looked at there is room in every order. -/
theorem roomFor_of_few {s : GameContext K σ} {req : GatewayGameMoveReq K}
    (hin : req.x < (GameConstants.Map.width : K) ∧ req.y < (GameConstants.Map.height : K))
    (hfew : ∀ center, mapSize.getSectorIndex (clamp GameConstants.Map.width req.x)
        (clamp GameConstants.Map.height req.y) = some center →
      (((s.zone.size.neighbours center).flatMap s.zone.players).filter
        (· ≠ s.uidOf req.accountId)).length < GameConstants.Network.maxAoiBroadcast)
    (order : IterationOrder) : s.RoomFor order req :=
  ⟨hin, fun center hcenter =>
    (s.idxOf_uidsAround_le order center req.accountId).trans_lt (hfew center hcenter)⟩

/-! ## Runs -/

omit [IsStrictOrderedRing K] in
theorem step_present {s s' : GameContext K σ} {label : Label K σ} (hk : s.PlayersKnown)
    (hpresent : s.roster.Present) (hfresh : FreshUid env s label)
    (h : step env s label = some s') : s'.roster.Present := by
  cases hmove : moveOf env label with
  | none => exact (step_drifts hk.linked hmove h).present hk.linked hpresent
  | some req =>
      rw [step_moveTo hmove h]
      exact Roster.moveTo_present hpresent hk.linked
        (fun hnone => hfresh req hmove (roster_newPlayer.mp hnone)) _ _

/-- On a run from the start whose first moves draw uids that are not in use, every
    mover is on the list of its answer exactly when there is room for it at every
    move. -/
theorem listsMover_iff_hasRoom (spawns : List (MonsterSpawn K)) (labels : List (Label K σ))
    (hfresh : Meets (step env) (FreshUid env) (start spawns) labels) :
    Meets (step env) (ListsMover env) (start spawns) labels
      ↔ Meets (step env) (HasRoom env) (start spawns) labels := by
  have hpresent : (start spawns : GameContext K σ).roster.Present := by
    rw [start_roster]
    intro accId p k hp
    cases hp
  refine meets_congr_of_meets (fun s => s.PlayersKnown ∧ s.roster.Present) ?_ ?_
    ⟨start_playersKnown spawns, hpresent⟩ hfresh
  · intro s label s' hi hf h
    exact ⟨step_playersKnown hi.1 hf h, step_present hi.1 hi.2 hf h⟩
  · intro s label s' hi _ h
    exact step_listsMover_iff hi.1 hi.2 h

/-- A first move of "a", to (10, 0). -/
theorem listsMover_firstMove :
    Meets (step .sample) (ListsMover .sample) (start [] : GameContext ℚ Nat)
        [.packet 0 PacketId.gatewayGameMoveReq [10, 1, 97, 21, 0, 0, 32, 65] .listed]
      ↔ Meets (step .sample) (HasRoom .sample) (start [] : GameContext ℚ Nat)
        [.packet 0 PacketId.gatewayGameMoveReq [10, 1, 97, 21, 0, 0, 32, 65] .listed] :=
  listsMover_iff_hasRoom [] _ ⟨fun _ _ _ => rfl, trivial⟩

/-- A first move of "a", to (1000, 0): nobody is told. -/
theorem listsMover_edgeMove :
    ¬ Meets (step .sample) (ListsMover .sample) (start [] : GameContext ℚ Nat)
      [.packet 0 PacketId.gatewayGameMoveReq [10, 1, 97, 21, 0, 0, 122, 68] .listed] := by
  intro h
  obtain ⟨gw, m, hsent, -, hmem⟩ := (meets_cons.mp h _ rfl).1 ⟨"a", 1000, 0, 0, 0⟩ _ rfl rfl
  cases (List.cons.inj hsent).1
  exact absurd hmem (by decide +kernel)

end GameContext

end MMOServers.GameServer
