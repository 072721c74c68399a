/-
MMOServers.StressTestTool.StressManagerTheorems — no more accounts than bots.

Every id that was ever made is in use by one live session or waits in the queue,
and none is there twice: the two together are a rearrangement of `BOT_STRESS_0`
to the last one made (`Accounted.ids`). A new id is made only when the queue is
empty, so when all ids are in use, and the loops spawn only below the target.
Hence the number of ids never exceeds the target.
-/
import MMOServers.StressTestTool.StressManager
import MMOServers.Lib.Run
import Mathlib.Data.List.Nodup
import Mathlib.Data.List.Range
import Std.Data.String.ToNat

namespace MMOServers.StressTestTool

open Transition

theorem botId_injective : Function.Injective botId := by
  intro m n h
  have hlist := congrArg String.toList h
  simp only [botId, String.toList_append, List.append_cancel_left_eq, String.toList_inj] at hlist
  exact Nat.repr_inj.mp hlist

theorem botId_ne_empty (n : Nat) : (botId n).isEmpty = false := by
  rw [Bool.eq_false_iff, Ne, String.isEmpty_iff]
  intro h
  have hlength := congrArg String.length h
  simp [botId] at hlength

namespace StressManager

/-! ## The ids that are in use or waiting -/

/-- The ids of the live sessions, and those that wait to be used again. -/
def ids (s : StressManager) : List String := s.sessions.map (·.accountId) ++ s.reusableIds

/-- The bookkeeping of a manager made for `target` connections. -/
structure Accounted (target : Int) (s : StressManager) : Prop where
  wanted : s.targetConnections = target
  ids : s.ids.Perm ((List.range s.totalSpawnCount).map botId)
  current : s.currentSpawned = s.sessions.length
  total : (s.totalSpawnCount : Int) ≤ max 0 target
  pointers : ∀ session ∈ s.sessions, session.pointer < s.nextPointer

theorem start_accounted (target rate : Int) : (start target rate).Accounted target :=
  ⟨rfl, List.Perm.refl [], rfl, Int.le_max_left 0 target, fun _ h => absurd h List.not_mem_nil⟩

/-- All ids that were made are in use when none waits. -/
theorem Accounted.total_eq {target : Int} {s : StressManager} (h : s.Accounted target) :
    s.totalSpawnCount = s.sessions.length + s.reusableIds.length := by
  have hlength := h.ids.length_eq
  simpa [StressManager.ids] using hlength.symm

/-! ## Spawning -/

/-- A new session is not in the set yet. -/
theorem Accounted.insert_eq {target : Int} {s : StressManager} (h : s.Accounted target)
    (id : String) :
    s.sessions.insert ⟨s.nextPointer, id⟩ = ⟨s.nextPointer, id⟩ :: s.sessions := by
  refine List.insert_of_not_mem fun hmem => ?_
  exact Nat.lt_irrefl _ (h.pointers _ hmem)

theorem spawn_pointers {s : StressManager} (h : ∀ t ∈ s.sessions, t.pointer < s.nextPointer)
    (id : String) :
    ∀ t ∈ (⟨s.nextPointer, id⟩ :: s.sessions : List StressSession),
      t.pointer < s.nextPointer + 1 := by
  refine List.forall_mem_cons.mpr ⟨Nat.lt_succ_self _, fun t ht => ?_⟩
  exact Nat.lt_succ_of_lt (h t ht)

/-- A bot that is spawned below the target, under the first id that waits or
    under a new one. -/
theorem spawn_accounted {target : Int} {s : StressManager} (h : s.Accounted target)
    (hroom : s.currentSpawned < target) : s.spawn.Accounted target := by
  have hcurrent := h.current
  have htotal := h.total_eq
  unfold spawn acquireBotId
  cases hqueue : s.reusableIds with
  | cons reusedId rest =>
      dsimp only
      rw [h.insert_eq]
      refine ⟨h.wanted, ?_, ?_, h.total, spawn_pointers h.pointers reusedId⟩
      · -- the id moves from the queue to the sessions
        have hids := h.ids
        rw [StressManager.ids, hqueue] at hids
        exact List.perm_middle.symm.trans hids
      · simp only [List.length_cons]
        omega
  | nil =>
      dsimp only
      rw [h.insert_eq]
      rw [hqueue, List.length_nil] at htotal
      refine ⟨h.wanted, ?_, ?_, ?_, spawn_pointers h.pointers _⟩
      · have hids := h.ids
        rw [StressManager.ids, hqueue, List.append_nil] at hids
        show (botId s.totalSpawnCount :: s.sessions.map StressSession.accountId ++ []).Perm
          ((List.range (s.totalSpawnCount + 1)).map botId)
        rw [List.append_nil, List.range_succ, List.map_append, List.map_singleton]
        exact (hids.cons _).trans (List.perm_append_singleton _ _).symm
      · simp only [List.length_cons]
        omega
      · show ((s.totalSpawnCount + 1 : Nat) : Int) ≤ _
        omega

theorem spawn_currentSpawned (s : StressManager) :
    s.spawn.currentSpawned = s.currentSpawned + 1 := by
  unfold spawn acquireBotId
  cases s.reusableIds <;> rfl

/-- The loop, as long as it does not go past the target. -/
theorem iterate_spawn_accounted {target : Int} (n : Nat) {s : StressManager}
    (h : s.Accounted target) (hroom : s.currentSpawned + n ≤ target) :
    (spawn^[n] s).Accounted target := by
  induction n generalizing s with
  | zero => exact h
  | succ n ih =>
      rw [Function.iterate_succ_apply]
      refine ih (spawn_accounted h (by omega)) ?_
      rw [spawn_currentSpawned]
      omega

theorem spawnLoop_accounted {target : Int} {s : StressManager} (h : s.Accounted target)
    (rate : Int) :
    (s.spawnLoop (min rate (s.targetConnections - s.currentSpawned))).Accounted target := by
  unfold spawnLoop
  rw [h.wanted]
  by_cases hcount : 0 ≤ min rate (target - s.currentSpawned)
  · exact iterate_spawn_accounted _ h (by omega)
  · rw [Int.toNat_of_nonpos (by omega)]
    exact h

/-! ## Disconnecting -/

theorem onSessionDisconnected_accounted {target : Int} {s : StressManager}
    (h : s.Accounted target) {session : StressSession} (hmem : session ∈ s.sessions)
    (wasInGame : Bool) : (s.onSessionDisconnected session wasInGame).Accounted target := by
  have hperm : s.sessions.Perm (session :: s.sessions.erase session) :=
    List.perm_cons_erase hmem
  have hid : session.accountId.isEmpty = false := by
    have hmade : session.accountId ∈ (List.range s.totalSpawnCount).map botId :=
      h.ids.subset (List.mem_append_left _ (List.mem_map_of_mem hmem))
    obtain ⟨n, -, hn⟩ := List.mem_map.mp hmade
    rw [← hn, botId_ne_empty]
  refine ⟨h.wanted, ?_, ?_, h.total, fun t ht => h.pointers t (List.mem_of_mem_erase ht)⟩
  · -- the id moves from the sessions to the end of the queue
    simp only [StressManager.ids, onSessionDisconnected, hid, Bool.false_eq_true, if_false]
    refine List.Perm.trans ?_ h.ids
    rw [← List.append_assoc, StressManager.ids]
    refine (List.perm_append_singleton _ _).trans ?_
    exact ((hperm.map (·.accountId)).symm.append_right s.reusableIds)
  · have hlength := hperm.length_eq
    have hcurrent := h.current
    simp only [List.length_cons] at hlength
    simp only [onSessionDisconnected]
    omega

/-! ## Runs -/

theorem step_accounted {target : Int} {s s' : StressManager} {label : Label}
    (h : s.Accounted target) (hstep : s.step label = some s') : s'.Accounted target := by
  cases label with
  | scheduleNextSpawn => exact Option.some.inj hstep ▸ spawnLoop_accounted h _
  | reconnectTick =>
      refine Option.some.inj hstep ▸ ?_
      unfold reconnectTick
      dsimp only
      split
      · exact spawnLoop_accounted h _
      · exact h
  | sessionConnected =>
      exact Option.some.inj hstep ▸ ⟨h.wanted, h.ids, h.current, h.total, h.pointers⟩
  | sessionDisconnected session wasInGame =>
      simp only [step] at hstep
      split at hstep
      · rename_i hmem
        exact Option.some.inj hstep ▸ onSessionDisconnected_accounted h hmem wasInGame
      · cases hstep

/-- The ids in use and the waiting ones are distinct, they are exactly those made
    so far, the counter is the size of the set, and there are no more ids than
    connections wanted. -/
structure BotsAccounted (target : Int) (s : StressManager) : Prop where
  distinct : s.ids.Nodup
  exact : ∀ id, id ∈ s.ids ↔ ∃ n < s.totalSpawnCount, id = "BOT_STRESS_" ++ toString n
  current : s.currentSpawned = s.sessions.length
  total : (s.totalSpawnCount : Int) ≤ max 0 target

theorem Accounted.bots {target : Int} {s : StressManager} (h : s.Accounted target) :
    s.BotsAccounted target := by
  refine ⟨?_, fun id => ?_, h.current, h.total⟩
  · rw [h.ids.nodup_iff]
    exact List.nodup_range.map botId_injective
  · rw [h.ids.mem_iff, List.mem_map]
    simp only [List.mem_range, botId]
    exact ⟨fun ⟨n, hn, hid⟩ => ⟨n, hn, hid.symm⟩, fun ⟨n, hn, hid⟩ => ⟨n, hn, hid.symm⟩⟩

/-- The ids of the bots are accounted for in every state of every run. -/
theorem always_botsAccounted (target rate : Int) (labels : List Label) :
    Always step (BotsAccounted target) (start target rate) labels := by
  have hmeets : Meets step (fun _ _ => True) (start target rate) labels := meets_true
  exact (always_of_meets (fun h _ hstep => step_accounted h hstep) (start_accounted target rate)
    hmeets).imp fun _ h => h.bots

/-- Three bots are wanted, two at a time; the first one goes and its id is used
    again. -/
example :
    (exec step (start 3 2) [.scheduleNextSpawn, .sessionDisconnected ⟨0, "BOT_STRESS_0"⟩ true,
        .reconnectTick]).map ids
      = some ["BOT_STRESS_2", "BOT_STRESS_0", "BOT_STRESS_1"] := by
  decide

end StressManager

end MMOServers.StressTestTool
