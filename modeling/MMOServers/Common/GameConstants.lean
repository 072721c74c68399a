/-
MMOServers.Common.GameConstants — the constants of the game server, from
`GameConstants.h`.

The float constants are those of the field the model computes in. The sizes of
the map are whole numbers and cast where the code compares them with floats.
-/
import Mathlib.Algebra.Field.Defs

namespace MMOServers.Common.GameConstants

namespace Map

def width : Int := 1000
def height : Int := 1000
def sectorSize : Int := 50

end Map

namespace Player

def defaultHp : Int := 100
def defaultAtk : Int := 30
def spawnX : Int := 0
def spawnY : Int := 0

end Player

namespace Monster

variable {K : Type} [Field K]

def defaultHp : Int := 100
def defaultAtk : Int := 15
def defaultDef : Int := 10
def moveSpeed : K := 2
def attackRange : K := 1 / 2
def attackCooldown : K := 2
def chaseRange : K := 3
def aggroRange : K := 1

end Monster

namespace Combat

def minDamage : Int := 1
def playerAttackRange {K : Type} [Field K] : K := 3 / 2

end Combat

namespace Network

def maxAoiBroadcast : Nat := 20
def monsterSyncInterval {K : Type} [Field K] : K := 2

end Network

namespace AI

variable {K : Type} [Field K]

def tickIntervalMs : Int := 100
def positionEpsilon : K := 1 / 20
def waypointEpsilon : K := 1 / 10

end AI

end MMOServers.Common.GameConstants
