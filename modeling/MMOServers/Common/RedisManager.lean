/-
MMOServers.Common.RedisManager — the hit points in Redis, with a connection that fails.

Redis is a service of its own, of which `RedisServer` has what it does with the two
commands that are sent to it and what can then be read. What is relied on is
`RedisServer.Documented`: a hash has the field that was set, a deleted key has
none, and other keys are left alone.

A `RedisManager` is taken together with the store at the other end of its
connection, so `connected` stands for `connected_` and `context_`, which are set
and reset together. A command is answered by the server, with an error, which
leaves the store as it is, or with a null pointer; then the connection is gone,
and whether the command has still been executed is left open.

What the calls are to keep is a table from accounts to hit points. A
`RedisLog` adds what a reader of the return values would know: the last call
under every key, and what it returned.
-/
import Mathlib.Logic.Function.Basic

namespace MMOServers.Common

/-! ## The store -/

inductive RedisCommand where
  | hset (key field value : String)
  | del (key : String)
  deriving DecidableEq

def RedisCommand.key : RedisCommand → String
  | .hset key _ _ => key
  | .del key => key

/-- A server with stores `S`. -/
structure RedisServer (S : Type) where
  /-- The field of the hash under a key. -/
  hget : S → String → String → Option String
  /-- The store after a command, none when it is refused. -/
  execute : RedisCommand → S → Option S

structure RedisServer.Documented {S : Type} (server : RedisServer S) : Prop where
  hset : ∀ {store store' key field value},
    server.execute (.hset key field value) store = some store' →
      server.hget store' key field = some value
  del : ∀ {store store' key}, server.execute (.del key) store = some store' →
    ∀ field, server.hget store' key field = none
  other : ∀ {store store' c}, server.execute c store = some store' →
    ∀ key, key ≠ c.key → server.hget store' key = server.hget store key

/-- A server that has nothing but hashes and does not refuse anything. -/
def RedisServer.hashes : RedisServer (String → String → Option String) where
  hget store := store
  execute
    | .hset key field value, store =>
        some (Function.update store key (Function.update (store key) field (some value)))
    | .del key, store => some (Function.update store key fun _ => none)

theorem RedisServer.hashes_documented : RedisServer.hashes.Documented where
  hset h := by
    obtain rfl := Option.some.inj h
    simp [hashes]
  del h field := by
    obtain rfl := Option.some.inj h
    simp [hashes]
  other {store store' c} h key hkey := by
    cases c with
    | hset k field value =>
        obtain rfl := Option.some.inj h
        exact Function.update_of_ne hkey ..
    | del k =>
        obtain rfl := Option.some.inj h
        exact Function.update_of_ne hkey ..

/-- What `redisCommand` comes back with. -/
inductive RedisReply where
  | answer
  | error
  | null (executed : Bool)
  deriving DecidableEq

structure RedisManager (S : Type) where
  connected : Bool
  store : S

namespace RedisManager

variable {S : Type} (server : RedisServer S)

/-! ## The calls -/

/-- What `%s` takes of an argument. -/
def cString (s : String) : String := String.ofList (s.toList.takeWhile (· ≠ '\x00'))

def playerKey (accountId : String) : String := cString ("player:" ++ accountId)

/-- A command and the test of its reply, with `HandleDisconnection`. -/
def command (m : RedisManager S) (c : RedisCommand) : RedisReply → Bool × RedisManager S
  | .answer =>
      match server.execute c m.store with
      | some store => (true, { m with store := store })
      | none => (false, m)
  | .error => (false, m)
  | .null executed =>
      (false, ⟨false, if executed then (server.execute c m.store).getD m.store else m.store⟩)

/-- The two fields are written one after the other. -/
def setPlayerOnline (m : RedisManager S) (accountId : String) (hp : Int)
    (reply1 reply2 : RedisReply) : Bool × RedisManager S :=
  if m.connected then
    match m.command server (.hset (playerKey accountId) "account_id" (cString accountId))
        reply1 with
    | (true, m) => m.command server (.hset (playerKey accountId) "hp" (toString hp)) reply2
    | (false, m) => (false, m)
  else (false, m)

def updatePlayerHp (m : RedisManager S) (accountId : String) (newHp : Int)
    (reply : RedisReply) : Bool × RedisManager S :=
  if m.connected then m.command server (.hset (playerKey accountId) "hp" (toString newHp)) reply
  else (false, m)

def removePlayer (m : RedisManager S) (accountId : String) (reply : RedisReply) :
    Bool × RedisManager S :=
  if m.connected then m.command server (.del (playerKey accountId)) reply else (false, m)

end RedisManager

inductive RedisCall where
  | setPlayerOnline (accountId : String) (hp : Int)
  | updatePlayerHp (accountId : String) (newHp : Int)
  | removePlayer (accountId : String)
  deriving DecidableEq

namespace RedisCall

def account : RedisCall → String
  | .setPlayerOnline accountId _ => accountId
  | .updatePlayerHp accountId _ => accountId
  | .removePlayer accountId => accountId

/-- The hit points that the account is to have after the call. -/
def hp : RedisCall → Option Int
  | .setPlayerOnline _ hp => some hp
  | .updatePlayerHp _ newHp => some newHp
  | .removePlayer _ => none

/-- What the call is to do to a table of hit points. -/
def apply (table : String → Option Int) (c : RedisCall) : String → Option Int :=
  Function.update table c.account c.hp

end RedisCall

namespace RedisManager

variable {S : Type} (server : RedisServer S)

/-- A call with the replies to its commands; only the first call takes two. -/
def call (m : RedisManager S) (c : RedisCall) (replies : RedisReply × RedisReply) :
    Bool × RedisManager S :=
  match c with
  | .setPlayerOnline accountId hp => m.setPlayerOnline server accountId hp replies.1 replies.2
  | .updatePlayerHp accountId newHp => m.updatePlayerHp server accountId newHp replies.1
  | .removePlayer accountId => m.removePlayer server accountId replies.1

/-- The store has the hit points of the account, or nothing about it. -/
def HasEntry (store : S) (accountId : String) : Option Int → Prop
  | some hp => server.hget store (playerKey accountId) "hp" = some (toString hp)
  | none => ∀ field, server.hget store (playerKey accountId) field = none

variable {server}

theorem HasEntry.of_eq {store store' : S} {accountId : String} {hp : Option Int}
    (h : HasEntry server store accountId hp)
    (heq : server.hget store' (playerKey accountId) = server.hget store (playerKey accountId)) :
    HasEntry server store' accountId hp := by
  cases hp with
  | none => exact fun field => (congrFun heq field).trans (h field)
  | some hp => exact (congrFun heq "hp").trans h

/-- Without a connection nothing is written, and every call returns false. -/
theorem call_disconnected {m : RedisManager S} (h : m.connected = false) (c : RedisCall)
    (replies : RedisReply × RedisReply) : m.call server c replies = (false, m) := by
  cases c with
  | setPlayerOnline accountId hp => simp [call, setPlayerOnline, h]
  | updatePlayerHp accountId newHp => simp [call, updatePlayerHp, h]
  | removePlayer accountId => simp [call, removePlayer, h]

theorem command_ok {m : RedisManager S} {c : RedisCommand} {reply : RedisReply}
    (h : (m.command server c reply).1 = true) :
    server.execute c m.store = some (m.command server c reply).2.store := by
  cases reply with
  | answer =>
      simp only [command] at h ⊢
      cases hexec : server.execute c m.store with
      | none =>
          rw [hexec] at h
          cases h
      | some store => rfl
  | error => cases h
  | null executed => cases h

section Documented

variable (hserver : server.Documented)

include hserver

theorem command_other (m : RedisManager S) (c : RedisCommand) (reply : RedisReply)
    {key : String} (h : key ≠ c.key) :
    server.hget (m.command server c reply).2.store key = server.hget m.store key := by
  have hexecuted : server.hget ((server.execute c m.store).getD m.store) key
      = server.hget m.store key := by
    cases hexec : server.execute c m.store with
    | none => rfl
    | some store => exact hserver.other hexec key h
  cases reply with
  | answer =>
      simp only [command]
      cases hexec : server.execute c m.store with
      | none => rfl
      | some store => exact hserver.other hexec key h
  | error => rfl
  | null executed =>
      cases executed with
      | false => rfl
      | true => exact hexecuted

/-- Either it fails, or the second write is the last thing that happens. -/
theorem setPlayerOnline_cases (m : RedisManager S) (accountId : String) (hp : Int)
    (reply1 reply2 : RedisReply) :
    ∃ m' : RedisManager S,
      (∀ key, key ≠ playerKey accountId → server.hget m'.store key = server.hget m.store key) ∧
      (m.setPlayerOnline server accountId hp reply1 reply2 = (false, m') ∨
        m.setPlayerOnline server accountId hp reply1 reply2
          = m'.command server (.hset (playerKey accountId) "hp" (toString hp)) reply2) := by
  have hother : ∀ key, key ≠ playerKey accountId →
      server.hget (m.command server (.hset (playerKey accountId) "account_id"
        (cString accountId)) reply1).2.store key = server.hget m.store key :=
    fun key h => m.command_other hserver _ reply1 h
  unfold setPlayerOnline
  by_cases hconnected : m.connected = true
  · rw [if_pos hconnected]
    generalize m.command server (.hset (playerKey accountId) "account_id" (cString accountId))
      reply1 = r at hother
    obtain ⟨ok, m'⟩ := r
    cases ok with
    | false => exact ⟨m', hother, Or.inl rfl⟩
    | true => exact ⟨m', hother, Or.inr rfl⟩
  · rw [if_neg hconnected]
    exact ⟨m, fun _ _ => rfl, Or.inl rfl⟩

/-- A call leaves the other keys alone. -/
theorem call_other (m : RedisManager S) (c : RedisCall) (replies : RedisReply × RedisReply)
    {key : String} (h : key ≠ playerKey c.account) :
    server.hget (m.call server c replies).2.store key = server.hget m.store key := by
  cases c with
  | setPlayerOnline accountId hp =>
      show server.hget (m.setPlayerOnline server accountId hp replies.1 replies.2).2.store key = _
      obtain ⟨m', hother, hr | hr⟩ :=
        m.setPlayerOnline_cases hserver accountId hp replies.1 replies.2
      · rw [hr]
        exact hother key h
      · rw [hr, m'.command_other hserver _ replies.2 h, hother key h]
  | updatePlayerHp accountId newHp =>
      simp only [call, updatePlayerHp]
      split
      · exact m.command_other hserver _ replies.1 h
      · rfl
  | removePlayer accountId =>
      simp only [call, removePlayer]
      split
      · exact m.command_other hserver _ replies.1 h
      · rfl

theorem hset_hasEntry (m : RedisManager S) (accountId : String) (hp : Int) {reply : RedisReply}
    (h : (m.command server (.hset (playerKey accountId) "hp" (toString hp)) reply).1 = true) :
    HasEntry server
      (m.command server (.hset (playerKey accountId) "hp" (toString hp)) reply).2.store
      accountId (some hp) :=
  hserver.hset (command_ok h)

/-- A call that returns true has done what it is for. -/
theorem call_hasEntry {m : RedisManager S} {c : RedisCall} {replies : RedisReply × RedisReply}
    (h : (m.call server c replies).1 = true) :
    HasEntry server (m.call server c replies).2.store c.account c.hp := by
  cases c with
  | setPlayerOnline accountId hp =>
      simp only [call] at h ⊢
      obtain ⟨m', -, hr | hr⟩ := m.setPlayerOnline_cases hserver accountId hp replies.1 replies.2
      · rw [hr] at h
        cases h
      · rw [hr] at h ⊢
        exact m'.hset_hasEntry hserver accountId hp h
  | updatePlayerHp accountId newHp =>
      simp only [call, updatePlayerHp] at h ⊢
      split at h
      · rename_i hconnected
        rw [if_pos hconnected]
        exact m.hset_hasEntry hserver accountId newHp h
      · cases h
  | removePlayer accountId =>
      simp only [call, removePlayer] at h ⊢
      split at h
      · rename_i hconnected
        rw [if_pos hconnected]
        exact hserver.del (command_ok h)
      · cases h

end Documented

end RedisManager

/-! ## The log -/

structure RedisLog (S : Type) where
  manager : RedisManager S
  /-- The account of the last call under each key, and what the call returned. -/
  last : String → Option (String × Bool) := fun _ => none
  /-- The store as it was when the connection was lost. -/
  lost : Option S := none
  /-- Whether some call has returned false. -/
  failed : Bool := false

namespace RedisLog

open RedisManager

variable {S : Type} (server : RedisServer S)

def call (s : RedisLog S) (c : RedisCall) (replies : RedisReply × RedisReply) : RedisLog S :=
  let r := s.manager.call server c replies
  { manager := r.2
    last := Function.update s.last (playerKey c.account) (some (c.account, r.1))
    lost := if s.manager.connected && !r.2.connected then some r.2.store else s.lost
    failed := s.failed || !r.1 }

/-- The calls of one task; the replies are numbered. -/
def calls (s : RedisLog S) : List RedisCall → (Nat → RedisReply × RedisReply) → RedisLog S
  | [], _ => s
  | c :: rest, replies => (s.call server c (replies 0)).calls rest fun n => replies (n + 1)

/-- What the return values tell about the store, which is to have the table. -/
structure Tells (s : RedisLog S) (table : String → Option Int) : Prop where
  /-- An account is there if the last call under its key was about it and returned true. -/
  shown : ∀ accId, s.last (playerKey accId) = some (accId, true) →
    HasEntry server s.manager.store accId (table accId)
  called : ∀ accId hp, table accId = some hp → ∃ called, s.last (playerKey accId) = some called
  keyed : ∀ key called, s.last key = some called → key = playerKey called.1
  returned : s.failed = false → ∀ key called, s.last key = some called → called.2 = true
  frozen : ∀ store, s.lost = some store → s.manager.connected = false ∧ s.manager.store = store

/-- Before the first call nothing is told, whatever there is in the store. -/
theorem tells_nil (m : RedisManager S) : Tells server { manager := m } fun _ => none where
  shown _ h := by cases h
  called _ _ h := by cases h
  keyed _ _ h := by cases h
  returned _ _ _ h := by cases h
  frozen _ h := by cases h

variable {server} (hserver : server.Documented)

include hserver

theorem call_tells {s : RedisLog S} {table : String → Option Int} (h : s.Tells server table)
    (c : RedisCall) (replies : RedisReply × RedisReply) :
    (s.call server c replies).Tells server (c.apply table) where
  shown accId hlast := by
    simp only [call] at hlast ⊢
    by_cases hkey : playerKey accId = playerKey c.account
    · rw [hkey, Function.update_self, Option.some.injEq, Prod.mk.injEq] at hlast
      obtain ⟨rfl, hok⟩ := hlast
      rw [RedisCall.apply, Function.update_self]
      exact call_hasEntry hserver hok
    · have hacc : accId ≠ c.account := fun heq => hkey (congrArg playerKey heq)
      rw [Function.update_of_ne hkey] at hlast
      rw [RedisCall.apply, Function.update_of_ne hacc]
      exact (h.shown accId hlast).of_eq (s.manager.call_other hserver c replies hkey)
  called accId hp htable := by
    simp only [call]
    by_cases hkey : playerKey accId = playerKey c.account
    · exact ⟨_, by rw [hkey, Function.update_self]⟩
    · have hacc : accId ≠ c.account := fun heq => hkey (congrArg playerKey heq)
      rw [RedisCall.apply, Function.update_of_ne hacc] at htable
      rw [Function.update_of_ne hkey]
      exact h.called accId hp htable
  keyed key called hlast := by
    simp only [call] at hlast
    by_cases hkey : key = playerKey c.account
    · rw [hkey, Function.update_self, Option.some.injEq] at hlast
      rw [hkey, ← hlast]
    · rw [Function.update_of_ne hkey] at hlast
      exact h.keyed key called hlast
  returned hfailed key called hlast := by
    simp only [call, Bool.or_eq_false_iff, Bool.not_eq_false'] at hfailed hlast
    by_cases hkey : key = playerKey c.account
    · rw [hkey, Function.update_self, Option.some.injEq] at hlast
      rw [← hlast]
      exact hfailed.2
    · rw [Function.update_of_ne hkey] at hlast
      exact h.returned hfailed.1 key called hlast
  frozen store hlost := by
    simp only [call] at hlost ⊢
    by_cases hnow : (s.manager.connected && !(s.manager.call server c replies).2.connected) = true
    · rw [if_pos hnow, Option.some.injEq] at hlost
      rw [Bool.and_eq_true, Bool.not_eq_true'] at hnow
      exact ⟨hnow.2, hlost⟩
    · rw [if_neg hnow] at hlost
      have hdown := h.frozen store hlost
      rw [call_disconnected hdown.1]
      exact hdown

theorem calls_tells {s : RedisLog S} {table : String → Option Int} (h : s.Tells server table)
    (cs : List RedisCall) (replies : Nat → RedisReply × RedisReply) :
    (s.calls server cs replies).Tells server (cs.foldl RedisCall.apply table) := by
  induction cs generalizing s table replies with
  | nil => exact h
  | cons c rest ih => exact ih (call_tells hserver h c (replies 0)) fun n => replies (n + 1)

end RedisLog

end MMOServers.Common
