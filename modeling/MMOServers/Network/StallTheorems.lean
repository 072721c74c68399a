/-
MMOServers.Network.StallTheorems — the two ends of the link between gateway and
game server do not stall.

The end of the gateway is a `GameConnection`, which has something pending from
`Connect` on: a connect attempt, a read or the retry timer. The end of the game
server is a `GatewaySession`, whose reading stops only with a clean-up. Both
read loops end in the same bare `return` when a header has a size out of range,
and nowhere else is the chain of callbacks broken (`links_alive_iff`).

On the side of the gateway the `return` is harmless while something else is
pending, for instance the timer that a failed write has set.
-/
import MMOServers.Network.ReconnectingConnection
import MMOServers.GameServer.GatewaySessionTheorems

namespace MMOServers.Network

open MMOServers.Common MMOServers.GameServer Transition

namespace Connection

/-- A connect attempt, a read or the retry timer is pending; `ScheduleRetry` is
    about to set the timer while it closes the socket. -/
def Pending (c : Connection) : Prop :=
  0 < c.connects ∨ 0 < c.headerReads ∨ 0 < c.payloadReads ∨
    c.timerArmed = true ∨ 0 < c.timerFired ∨ 0 < c.closing

instance (c : Connection) : Decidable c.Pending := inferInstanceAs (Decidable (_ ∨ _))

/-- A header that arrives has a size in range, or more is pending than the read
    of this header. -/
def ReadsOn (profile : Profile) (c : Connection) : Event → Prop
  | .headerRead size =>
      profile.acceptsSize size = true ∨ { c with headerReads := c.headerReads - 1 }.Pending
  | _ => True

theorem start_pending (resolves : Bool) : (start resolves).Pending := by
  cases resolves <;> decide

theorem scheduleRetry_pending (c : Connection) : c.scheduleRetry.Pending := by
  simp [Pending, scheduleRetry]

theorem closeSocket_pending (c : Connection) : c.closeSocket.Pending := by
  simp [Pending, closeSocket]

theorem doConnect_pending (c : Connection) (resolves : Bool) :
    (c.doConnect resolves).Pending := by
  unfold doConnect
  split
  · simp [Pending]
  · exact scheduleRetry_pending c

theorem send_pending {profile : Profile} {c : Connection} (h : c.Pending) (pktId : UInt16)
    (payload : List UInt8) : (c.send profile pktId payload).Pending := by
  unfold send
  repeat' split
  all_goals exact h

theorem runTask_pending {c : Connection} (h : c.Pending) (task : StrandTask) :
    (c.runTask task).Pending := by
  cases task with
  | send p => exact h
  | clear => exact h
  | written p ok =>
      cases ok with
      | true => exact h
      | false => exact closeSocket_pending _

/-- Every callback that is not a header's starts or leaves something pending, and
    that of a header starts the next read unless the size is out of range. -/
theorem step_pending_iff {profile : Profile} {c c' : Connection} {e : Event} (h : c.Pending)
    (hstep : step profile c e = some c') : c'.Pending ↔ c.ReadsOn profile e := by
  cases step_inv hstep with
  | headerStops reading rejected => simp [ReadsOn, rejected]
  | headerAlone reading accepted empty => simp [ReadsOn, accepted, Pending]
  | headerRead reading accepted nonempty => simp [ReadsOn, accepted, Pending]
  | send pktId payload => exact iff_of_true (send_pending h pktId payload) trivial
  | post sending => exact iff_of_true h trivial
  | connects connecting => simp [ReadsOn, Pending]
  | connectFails connecting => exact iff_of_true (scheduleRetry_pending _) trivial
  | payloadRead reading => simp [ReadsOn, Pending]
  | headerFails reading => exact iff_of_true (scheduleRetry_pending _) trivial
  | payloadFails reading => exact iff_of_true (scheduleRetry_pending _) trivial
  | closeSocket closing => exact iff_of_true (closeSocket_pending c) trivial
  | writeEnds ok outstanding running => exact iff_of_true h trivial
  | @runStrand task rest strand =>
      have hrest : { c with strand := rest }.Pending := h
      exact iff_of_true (runTask_pending hrest task) trivial
  | timerExpires armed => simp [ReadsOn, Pending]
  | retry resolves fired => exact iff_of_true (doConnect_pending _ resolves) trivial

/-- A connection keeps something pending exactly as long as no header of a size
    out of range arrives on its last pending read. -/
theorem pending_iff_readsOn (profile : Profile) (resolves : Bool) (events : List Event) :
    Always (step profile) Pending (start resolves) events
      ↔ Meets (step profile) (ReadsOn profile) (start resolves) events :=
  always_iff_meets (fun _ => True) (fun _ _ _ _ => trivial)
    (fun _ h hstep => step_pending_iff h hstep) trivial (start_pending resolves)

end Connection

open Connection

/-- On every run of each end of the link, the end of the gateway has something
    pending and the end of the game server cleans up the sessions that stop
    reading, exactly when the sizes of the headers they read are in range. The
    clean-up takes all players of the session offline. -/
theorem links_alive_iff {K σ : Type} [Field K] [LinearOrder K] [FloorRing K] [HasSqrt K]
    [DecidableEq σ] (env : GameEnv K) (spawns : List (MonsterSpawn K)) :
    (∀ resolves events,
      Always (step gameConnection) Pending (start resolves) events
        ↔ Meets (step gameConnection) (ReadsOn gameConnection) (start resolves) events) ∧
    (∀ labels : List (GameNetworkServer.Label K σ),
      Always (GameNetworkServer.step env) GameNetworkServer.CleansUp
          (GameNetworkServer.start spawns) labels
        ↔ Meets (GameNetworkServer.step env) GameNetworkServer.SizesFit
          (GameNetworkServer.start spawns) labels) ∧
    ∀ (game : GameContext K σ) (gw : σ) (accId : String),
      accId ∈ game.gatewayPlayerMap gw → (game.gatewayDisconnected gw).playerMap accId = none :=
  ⟨pending_iff_readsOn gameConnection,
    GameNetworkServer.cleansUp_iff_sizesFit env spawns,
    fun game gw _ => game.gatewayDisconnected_offline gw⟩

/-- A header of three bytes ends the reading at both ends. -/
theorem links_stall :
    ¬ Always (step gameConnection) Pending (start true) [.connectDone true, .headerRead 3] ∧
    ¬ Always (GameNetworkServer.step .sample) GameNetworkServer.CleansUp
      (GameNetworkServer.start [] : GameNetworkServer ℚ Nat)
      [.accept 0, .headerRead 0 ⟨3, 0⟩] := by
  refine ⟨by decide, fun h => ?_⟩
  have hclean := always_iff_exec.mp h _ (List.prefix_refl _) _ rfl
  have hgone := (hclean 0 (by decide +kernel) (by decide +kernel)).1
  exact absurd hgone (by decide +kernel)

end MMOServers.Network
