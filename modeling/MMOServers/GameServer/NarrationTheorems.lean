/-
MMOServers.GameServer.NarrationTheorems — what the messages tell about the players.

Whoever reads all messages of the game server knows its players. The last move
message under an account has the position of the player, and the last attack
message with its name and uid has its hit points; where there is none, or where
it says zero, they are full. So nothing happens to a player behind the back of
the clients: not when it is hit, not when it dies and is taken home, and not when
it comes back under a new uid (`always_narrated`).
-/
import MMOServers.GameServer.Telling

namespace MMOServers.GameServer

open MMOServers.Common Transition

variable {K σ : Type}

/-! ## The last messages -/

/-- The position in the last message that gives one; the newest is the first. -/
def toldPosition (sent : List (Outgoing K σ)) (accId : String) : Option (K × K) :=
  sent.findSome? (·.positionOf accId)

def heardHp (sent : List (Outgoing K σ)) (accId : String) (uid : Nat) : Option Int :=
  sent.findSome? (·.hpOf accId uid)

/-- Nobody stays without hit points. -/
def toldHp (sent : List (Outgoing K σ)) (accId : String) (uid : Nat) : Int :=
  match heardHp sent accId uid with
  | none => GameConstants.Player.defaultHp
  | some hp => if hp ≤ 0 then GameConstants.Player.defaultHp else hp

theorem toldPosition_none {sent : List (Outgoing K σ)} {accId : String} {o : Outgoing K σ}
    (h : o.positionOf accId = none) : toldPosition (o :: sent) accId = toldPosition sent accId := by
  simp only [toldPosition, List.findSome?_cons, h]

theorem toldPosition_some {sent : List (Outgoing K σ)} {accId : String} {o : Outgoing K σ}
    {pos : K × K} (h : o.positionOf accId = some pos) :
    toldPosition (o :: sent) accId = some pos := by
  simp only [toldPosition, List.findSome?_cons, h]

theorem toldHp_none {sent : List (Outgoing K σ)} {accId : String} {uid : Nat} {o : Outgoing K σ}
    (h : o.hpOf accId uid = none) : toldHp (o :: sent) accId uid = toldHp sent accId uid := by
  simp only [toldHp, heardHp, List.findSome?_cons, h]

theorem toldHp_some {sent : List (Outgoing K σ)} {accId : String} {uid : Nat} {o : Outgoing K σ}
    {hp : Int} (h : o.hpOf accId uid = some hp) :
    toldHp (o :: sent) accId uid = if hp ≤ 0 then GameConstants.Player.defaultHp else hp := by
  simp only [toldHp, heardHp, List.findSome?_cons, h]

namespace GameContext

/-- The messages tell where every player is and how it does. -/
structure Narrated (s : GameContext K σ) : Prop where
  position : ∀ accId p, s.playerMap accId = some p →
    toldPosition s.sent accId = some (p.x, p.y)
  hp : ∀ accId p, s.playerMap accId = some p → toldHp s.sent accId p.uid = p.hp

/-- Where the last messages have a player, and how it does. -/
theorem narration : Story fun (sent : List (Outgoing K σ)) accId p =>
    toldPosition sent accId = some (p.x, p.y) ∧ toldHp sent accId p.uid = p.hp where
  silent h hplace hhp := ⟨(toldPosition_none hplace).trans h.1, (toldHp_none hhp).trans h.2⟩
  enters {sent accId q o} _ hunheard hfull _ hplace hhp := by
    have hnone : heardHp sent accId q.uid = none := List.findSome?_eq_none_iff.mpr hunheard
    refine ⟨toldPosition_some hplace, (toldHp_none hhp).trans ?_⟩
    rw [toldHp, hnone, hfull]
  walks h hplace hhp := ⟨toldPosition_some hplace, (toldHp_none hhp).trans h.2⟩
  struck h halive hplace hhp :=
    ⟨(toldPosition_none hplace).trans h.1, (toldHp_some hhp).trans (if_neg (not_le.mpr halive))⟩
  felled h hdead _ hhit hplace hhome :=
    -- the message home is the newer one
    ⟨toldPosition_some hplace, (toldHp_none hhome).trans ((toldHp_some hhit).trans (if_pos hdead))⟩

variable [Field K] [LinearOrder K] [FloorRing K] [HasSqrt K] [DecidableEq σ] {env : GameEnv K}

/-- On every run of less than 2^64 - 1 tasks in which no player comes in under the
    name of a monster. -/
theorem always_narrated (spawns : List (MonsterSpawn K)) {labels : List (Label K σ)}
    (hlen : labels.length + 1 < 2 ^ 64) (hnames : ∀ label ∈ labels, NamesPlayer env label) :
    Always (step env) Narrated (start spawns) labels :=
  (always_told narration spawns hlen hnames).imp fun _ h =>
    ⟨fun accId p hp => (h accId p hp).1, fun accId p hp => (h accId p hp).2⟩

/-! ## A fight -/

/-- "a" comes to a place half a step away from a monster, which sees it, has a path
    to it and hits. -/
def brawl : List (Label ℚ Nat) :=
  [.packet 0 PacketId.gatewayGameMoveReq [10, 1, 97, 21, 0, 0, 32, 65] .listed,
    .aiTick (1 / 10) .listed, .pathResult 0 [⟨10, 0, 0⟩], .aiTick (1 / 10) .listed,
    .aiTick (1 / 10) .listed]

def brawler : MonsterSpawn ℚ := ⟨10001, 21 / 2, 0, 20, 60⟩

theorem brawl_named : ∀ label ∈ brawl, NamesPlayer .sample label := by
  intro label hlabel req hreq
  simp only [brawl, List.mem_cons, List.not_mem_nil, or_false] at hlabel
  rcases hlabel with rfl | rfl | rfl | rfl | rfl
  · obtain rfl := Option.some.inj hreq
    exact nameable_a
  all_goals cases hreq

theorem always_narrated_brawl :
    (exec (step .sample) (start [brawler]) brawl).map (fun s => toldHp s.sent "a" 1) = some 85 ∧
      Always (step .sample) Narrated (start [brawler]) brawl :=
  ⟨by decide +kernel, always_narrated [brawler] (by decide) brawl_named⟩

end GameContext

end MMOServers.GameServer
