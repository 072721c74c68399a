/-
MMOServers.GameServer.GatewaySessionTheorems — gateway sessions and their
clean-up.

A session is in one of three phases (`TrackedAt`): it has not been accepted, it
has a read pending, or `OnDisconnected` has run. In the last phase the clean-up
is the last task of the session on the strand, or it has been done and the
session has no accounts (`Settled`). The callbacks post to the strand in the
order of the reads, so nothing the session has read is handled after its
clean-up.

The one callback that leaves the three phases is that of a header whose size is
out of range (`cleansUp_iff_sizesFit`).
-/
import MMOServers.GameServer.GatewaySession
import MMOServers.Network.Framing

namespace MMOServers.GameServer

open MMOServers.Common Transition

namespace GameContext

variable {K σ : Type} [DecidableEq σ]

/-- The gateway whose accounts a task may change. -/
def gatewayOf : Label K σ → Option σ
  | .packet gw _ _ _ => some gw
  | .gatewayDisconnected gw => some gw
  | _ => none

omit [DecidableEq σ] in
theorem members_eq {s s' : GameContext K σ} (h : s'.registry = s.registry) (g : σ) :
    s'.gatewayPlayerMap g = s.gatewayPlayerMap g :=
  congrFun (congrArg Registry.members h) g

section Players

variable [IntCast K] [Div K] [LT K] [LE K] [DecidableLT K] [DecidableLE K] [TruncInt K]
  {env : GameEnv K}

theorem handleGatewayGameMoveReq_members (s : GameContext K σ) {gw g : σ} (hg : g ≠ gw)
    (order : IterationOrder) (payload : List UInt8) :
    (s.handleGatewayGameMoveReq env gw order payload).gatewayPlayerMap g
      = s.gatewayPlayerMap g := by
  rcases handleGatewayGameMoveReq_registry env s gw order payload with
    hkeep | ⟨a, -, henter⟩
  · exact members_eq hkeep g
  · exact (congrFun (congrArg Registry.members henter) g).trans (Function.update_of_ne hg _ _)

theorem handleGatewayGameLeaveReq_members (s : GameContext K σ) {gw g : σ} (hg : g ≠ gw)
    (payload : List UInt8) :
    (s.handleGatewayGameLeaveReq env gw payload).gatewayPlayerMap g
      = s.gatewayPlayerMap g := by
  unfold handleGatewayGameLeaveReq
  repeat' split
  · rfl
  · rfl
  · exact Function.update_of_ne hg _ _

theorem gatewayDisconnected_members (s : GameContext K σ) (gw : σ) :
    (s.gatewayDisconnected gw).gatewayPlayerMap
      = Function.update s.gatewayPlayerMap gw [] :=
  congrArg Registry.members (gatewayDisconnected_registry s gw)

/-- The clean-up takes every account of the gateway offline. -/
theorem gatewayDisconnected_offline (s : GameContext K σ) (gw : σ) {a : String}
    (ha : a ∈ s.gatewayPlayerMap gw) : (s.gatewayDisconnected gw).playerMap a = none := by
  have honline : ((s.gatewayDisconnected gw).playerMap a).isSome
      = ((s.playerMap a).isSome && decide (a ∉ s.gatewayPlayerMap gw)) :=
    congrFun (congrArg Registry.online (gatewayDisconnected_registry s gw)) a
  simpa [ha] using honline

end Players

variable [Field K] [LinearOrder K] [FloorRing K] [HasSqrt K] {env : GameEnv K}

theorem step_members {s s' : GameContext K σ} {label : Label K σ} {g : σ}
    (h : step env s label = some s') (hg : gatewayOf label ≠ some g) :
    s'.gatewayPlayerMap g = s.gatewayPlayerMap g := by
  cases step_inv h with
  | packet gw id payload order =>
      have hgw : g ≠ gw := fun heq => hg (congrArg some heq.symm)
      unfold dispatch
      repeat' split
      · exact handleGatewayGameMoveReq_members s hgw order payload
      · exact handleGatewayGameLeaveReq_members s hgw payload
      · exact congrFun (handleGatewayGameAttackReq_kept s order payload).gatewayPlayerMap g
      · exact congrFun (handleGatewayGameChatReq_kept s gw order payload).gatewayPlayerMap g
      · rfl
  | gatewayDisconnected gw =>
      have hgw : g ≠ gw := fun heq => hg (congrArg some heq.symm)
      rw [gatewayDisconnected_members, Function.update_of_ne hgw]
  | worldPacket id payload => exact members_eq (worldDispatch_registry s id payload) g
  | aiTick deltaTime order => exact members_eq (aiTick_registry s order deltaTime) g
  | pathResult waypoints asked =>
      exact congrFun (pathResult_kept _ _ waypoints).gatewayPlayerMap g

end GameContext

namespace GameNetworkServer

variable {K σ : Type} [DecidableEq σ]

/-! ## What is to hold, and when it does -/

/-- A session that has stopped reading went through `OnDisconnected`: its entry
    is gone, and the clean-up of its players is due or done. -/
def CleansUp (s : GameNetworkServer K σ) : Prop :=
  ∀ gw, (s.sessions gw).accepted = true → (s.sessions gw).reading = none →
    (s.sessions gw).disconnected = true ∧ gw ∉ s.gatewaySessions ∧
      (.disconnected gw ∈ s.gameStrand ∨ s.game.gatewayPlayerMap gw = [])

/-- The header that arrives has a size in range. -/
def SizesFit (_ : GameNetworkServer K σ) : Label K σ → Prop
  | .headerRead _ h => PacketHeader.byteSize ≤ h.size.toNat ∧ h.size.toNat ≤ maxPacketSize
  | _ => True

/-! ## The tasks of a session -/

/-- The clean-up is the last task of the session, or it is over. -/
def Settled (s : GameNetworkServer K σ) (gw : σ) : Prop :=
  (∃ before after, s.gameStrand = before ++ .disconnected gw :: after ∧
      ∀ task ∈ after, task.session ≠ gw) ∨
    (∀ task ∈ s.gameStrand, task.session ≠ gw) ∧ s.game.gatewayPlayerMap gw = []

omit [DecidableEq σ] in
theorem Settled.due_or_done {s : GameNetworkServer K σ} {gw : σ} (h : s.Settled gw) :
    .disconnected gw ∈ s.gameStrand ∨ s.game.gatewayPlayerMap gw = [] := by
  rcases h with ⟨before, after, hstrand, -⟩ | ⟨-, hdone⟩
  · exact Or.inl (by simp [hstrand])
  · exact Or.inr hdone

omit [DecidableEq σ] in
/-- Tasks of other sessions are posted. -/
theorem Settled.append {s s' : GameNetworkServer K σ} {gw : σ} (h : s.Settled gw)
    {tasks : List (GameTask σ)} (hstrand : s'.gameStrand = s.gameStrand ++ tasks)
    (htasks : ∀ task ∈ tasks, task.session ≠ gw) (hgame : s'.game = s.game) :
    s'.Settled gw := by
  rcases h with ⟨before, after, hsplit, hafter⟩ | ⟨hnone, hdone⟩
  · refine Or.inl ⟨before, after ++ tasks, by simp [hstrand, hsplit], fun task htask => ?_⟩
    exact (List.mem_append.mp htask).elim (hafter task) (htasks task)
  · refine Or.inr ⟨fun task htask => ?_, by rw [hgame, hdone]⟩
    rw [hstrand] at htask
    exact (List.mem_append.mp htask).elim (hnone task) (htasks task)

theorem onDisconnected_settled (s : GameNetworkServer K σ) (gw : σ) :
    (s.onDisconnected gw).Settled gw :=
  Or.inl ⟨s.gameStrand, [], rfl, fun _ h => absurd h List.not_mem_nil⟩

/-- The phases of a session. -/
inductive TrackedAt (s : GameNetworkServer K σ) (gw : σ) : Prop where
  | waiting (accepted : (s.sessions gw).accepted = false)
      (reading : (s.sessions gw).reading = none)
      (disconnected : (s.sessions gw).disconnected = false)
  | reads (accepted : (s.sessions gw).accepted = true)
      (reading : (s.sessions gw).reading ≠ none)
      (disconnected : (s.sessions gw).disconnected = false)
  | done (accepted : (s.sessions gw).accepted = true)
      (reading : (s.sessions gw).reading = none)
      (disconnected : (s.sessions gw).disconnected = true)
      (removed : gw ∉ s.gatewaySessions) (settled : s.Settled gw)

def Tracked (s : GameNetworkServer K σ) : Prop := ∀ gw, s.TrackedAt gw

omit [DecidableEq σ] in
theorem Tracked.cleansUp {s : GameNetworkServer K σ} (h : s.Tracked) : s.CleansUp := by
  intro gw hacc hread
  cases h gw with
  | waiting accepted _ _ => rw [hacc] at accepted; cases accepted
  | reads _ reading _ => exact absurd hread reading
  | done _ _ disconnected removed settled => exact ⟨disconnected, removed, settled.due_or_done⟩

omit [DecidableEq σ] in
/-- A session with a read pending is in the second phase. -/
theorem Tracked.of_reading {s : GameNetworkServer K σ} (h : s.Tracked) {gw : σ}
    (hread : (s.sessions gw).reading ≠ none) :
    (s.sessions gw).accepted = true ∧ (s.sessions gw).disconnected = false := by
  cases h gw with
  | waiting _ reading _ => exact absurd reading hread
  | reads accepted _ disconnected => exact ⟨accepted, disconnected⟩
  | done _ reading _ _ _ => exact absurd reading hread

omit [DecidableEq σ] in
/-- A callback of one session: the others keep their phase. -/
theorem Tracked.callback {s s' : GameNetworkServer K σ} (h : s.Tracked) (gw : σ)
    (hself : s'.TrackedAt gw) (hgame : s'.game = s.game)
    (hsessions : ∀ g, g ≠ gw → s'.sessions g = s.sessions g)
    (hentries : ∀ g, g ≠ gw → g ∈ s'.gatewaySessions → g ∈ s.gatewaySessions)
    (hstrand : ∃ tasks, s'.gameStrand = s.gameStrand ++ tasks ∧
      ∀ task ∈ tasks, task.session = gw) : s'.Tracked := by
  intro g
  by_cases hg : g = gw
  · exact hg ▸ hself
  · obtain ⟨tasks, htasks, hsession⟩ := hstrand
    have hsame := hsessions g hg
    cases h g with
    | waiting accepted reading disconnected =>
        exact .waiting (by rw [hsame, accepted]) (by rw [hsame, reading])
          (by rw [hsame, disconnected])
    | reads accepted reading disconnected =>
        exact .reads (by rw [hsame, accepted]) (by rwa [hsame]) (by rw [hsame, disconnected])
    | done accepted reading disconnected removed settled =>
        refine .done (by rw [hsame, accepted]) (by rw [hsame, reading])
          (by rw [hsame, disconnected]) (fun hmem => removed (hentries g hg hmem)) ?_
        refine settled.append htasks (fun task htask heq => ?_) hgame
        exact hg (heq.symm.trans (hsession task htask))

/-! ## Callbacks -/

theorem accept_tracked {s : GameNetworkServer K σ} (h : s.Tracked) {gw : σ}
    (hnew : (s.sessions gw).accepted = false) : (s.accept gw).Tracked := by
  have hfresh : (s.sessions gw).disconnected = false := by
    cases h gw with
    | waiting _ _ disconnected => exact disconnected
    | reads accepted _ _ => rw [hnew] at accepted; cases accepted
    | done accepted _ _ _ _ => rw [hnew] at accepted; cases accepted
  refine h.callback gw (.reads ?_ ?_ ?_) rfl (fun g hg => Function.update_of_ne hg _ _)
    (fun g hg hmem => (List.mem_insert_iff.mp hmem).resolve_left hg)
    ⟨[], (List.append_nil _).symm, by simp⟩
  · simp [accept, setSession]
  · simp [accept, setSession]
  · simp [accept, setSession, hfresh]

theorem onDisconnected_tracked {s : GameNetworkServer K σ} (h : s.Tracked) {gw : σ}
    (hread : (s.sessions gw).reading ≠ none) : (s.onDisconnected gw).Tracked := by
  have hacc := (h.of_reading hread).1
  refine h.callback gw (.done ?_ ?_ ?_ ?_ (s.onDisconnected_settled gw)) rfl
    (fun g hg => Function.update_of_ne hg _ _) (fun g _ hmem => (List.mem_filter.mp hmem).1)
    ⟨[.disconnected gw], rfl, by simp [GameTask.session]⟩
  · simp [onDisconnected, setSession, post, hacc]
  · simp [onDisconnected, setSession, post]
  · simp [onDisconnected, setSession, post]
  · simp [onDisconnected]

/-- A callback that starts the next read. -/
theorem Tracked.readsOn {s : GameNetworkServer K σ} (h : s.Tracked) {gw : σ}
    (hread : (s.sessions gw).reading ≠ none) (header : PacketHeader) (next : GatewayRead)
    {t : GameNetworkServer K σ} (ht : t = s ∨ ∃ id data, t = s.post (.dispatch gw id data)) :
    (t.setSession gw { s.sessions gw with header := header, reading := some next }).Tracked := by
  obtain ⟨haccepted, hdisconnected⟩ := h.of_reading hread
  have hself : (t.setSession gw
      { s.sessions gw with header := header, reading := some next }).TrackedAt gw := by
    refine .reads ?_ ?_ ?_
    · simp [setSession, haccepted]
    · simp [setSession]
    · simp [setSession, hdisconnected]
  rcases ht with rfl | ⟨id, data, rfl⟩
  · exact h.callback gw hself rfl (fun g hg => Function.update_of_ne hg _ _) (fun _ _ hmem => hmem)
      ⟨[], (List.append_nil _).symm, by simp⟩
  · exact h.callback gw hself rfl (fun g hg => Function.update_of_ne hg _ _) (fun _ _ hmem => hmem)
      ⟨[.dispatch gw id data], rfl, by simp [GameTask.session]⟩

theorem headerRead_tracked {s : GameNetworkServer K σ} (h : s.Tracked) {gw : σ}
    (hread : (s.sessions gw).reading ≠ none) {header : PacketHeader}
    (hmin : PacketHeader.byteSize ≤ header.size.toNat)
    (hmax : header.size.toNat ≤ maxPacketSize) : (s.headerRead gw header).Tracked := by
  unfold headerRead
  dsimp only
  rw [if_neg (not_or.mpr ⟨Nat.not_lt.mpr hmin, Nat.not_lt.mpr hmax⟩)]
  split
  · exact h.readsOn hread header .header (Or.inr ⟨_, _, rfl⟩)
  · rename_i hsize
    rw [validatePayloadSize_of_fits hmin hmax hsize, if_neg (by simp)]
    exact h.readsOn hread header (.payload _) (Or.inl rfl)

/-- A size out of range stops the reading, and that is all. -/
theorem headerRead_stops {s : GameNetworkServer K σ} (h : s.Tracked) {gw : σ}
    (hread : (s.sessions gw).reading ≠ none) {header : PacketHeader}
    (hsize : header.size.toNat < PacketHeader.byteSize ∨ maxPacketSize < header.size.toNat) :
    ¬ (s.headerRead gw header).CleansUp := by
  obtain ⟨haccepted, hdisconnected⟩ := h.of_reading hread
  intro hclean
  have hself : (s.headerRead gw header).sessions gw
      = { s.sessions gw with header := header, reading := none } := by
    simp [headerRead, hsize, setSession]
  have hgone := (hclean gw (by rw [hself, haccepted]) (by rw [hself])).1
  rw [hself] at hgone
  rw [hdisconnected] at hgone
  cases hgone

/-! ## The strand -/

variable [Field K] [LinearOrder K] [FloorRing K] [HasSqrt K] {env : GameEnv K}

omit [Field K] [LinearOrder K] [FloorRing K] [HasSqrt K] [DecidableEq σ] in
/-- A task that no callback has posted just now: the phases stay. -/
theorem Tracked.task {s : GameNetworkServer K σ} (h : s.Tracked) {game : GameContext K σ}
    {strand : List (GameTask σ)}
    (hsettled : ∀ g, s.Settled g →
      ({ s with game := game, gameStrand := strand } : GameNetworkServer K σ).Settled g) :
    ({ s with game := game, gameStrand := strand } : GameNetworkServer K σ).Tracked := by
  intro g
  cases h g with
  | waiting accepted reading disconnected => exact .waiting accepted reading disconnected
  | reads accepted reading disconnected => exact .reads accepted reading disconnected
  | done accepted reading disconnected removed settled =>
      exact .done accepted reading disconnected removed (hsettled g settled)

theorem runGameStrand_settled {s : GameNetworkServer K σ} {g : σ} (h : s.Settled g)
    {task : GameTask σ} {rest : List (GameTask σ)} (hstrand : s.gameStrand = task :: rest)
    {order : IterationOrder} {game : GameContext K σ}
    (hstep : GameContext.step env s.game (task.label order) = some game) :
    ({ s with game := game, gameStrand := rest } : GameNetworkServer K σ).Settled g := by
  rcases h with ⟨before, after, hsplit, hafter⟩ | ⟨hnone, hdone⟩
  · rw [hstrand] at hsplit
    cases before with
    | nil =>
        obtain ⟨rfl, rfl⟩ := List.cons.inj hsplit
        obtain rfl := Option.some.inj hstep
        refine Or.inr ⟨hafter, ?_⟩
        show (s.game.gatewayDisconnected g).gatewayPlayerMap g = []
        rw [GameContext.gatewayDisconnected_members, Function.update_self]
    | cons first before =>
        exact Or.inl ⟨before, after, (List.cons.inj hsplit).2, hafter⟩
  · rw [hstrand] at hnone
    have hother : task.session ≠ g := hnone task List.mem_cons_self
    refine Or.inr ⟨fun t ht => hnone t (List.mem_cons_of_mem _ ht), ?_⟩
    refine (GameContext.step_members hstep fun heq => ?_).trans hdone
    cases task with
    | dispatch gw id payload => exact hother (Option.some.inj heq)
    | disconnected gw => exact hother (Option.some.inj heq)

theorem otherTask_settled {s : GameNetworkServer K σ} {g : σ} (h : s.Settled g)
    {label : GameContext.Label K σ} (hlabel : GameContext.gatewayOf label = none)
    {game : GameContext K σ} (hstep : GameContext.step env s.game label = some game) :
    ({ s with game := game, gameStrand := s.gameStrand } : GameNetworkServer K σ).Settled g := by
  refine h.imp id fun ⟨hnone, hdone⟩ => ⟨hnone, ?_⟩
  exact (GameContext.step_members hstep (by simp [hlabel])).trans hdone

/-! ## Steps and runs -/

theorem step_tracked {s s' : GameNetworkServer K σ} {label : Label K σ} (h : s.Tracked)
    (hfit : s.SizesFit label) (hstep : step env s label = some s') : s'.Tracked := by
  cases label with
  | accept gw =>
      simp only [step] at hstep
      split at hstep
      · cases hstep
      · rename_i hnew
        exact Option.some.inj hstep ▸ accept_tracked h (Bool.eq_false_iff.mpr hnew)
  | headerRead gw header =>
      simp only [step] at hstep
      split at hstep
      · rename_i hread
        exact Option.some.inj hstep ▸ headerRead_tracked h (by simp [hread]) hfit.1 hfit.2
      · cases hstep
  | payloadRead gw bytes =>
      simp only [step] at hstep
      split at hstep
      · rename_i size hread
        split at hstep
        · obtain rfl := Option.some.inj hstep
          have hpending : (s.sessions gw).reading ≠ none := by simp [hread]
          exact h.readsOn hpending _ .header (Or.inr ⟨_, _, rfl⟩)
        · cases hstep
      · cases hstep
  | readFails gw =>
      simp only [step] at hstep
      split at hstep
      · cases hstep
      · rename_i hread
        exact Option.some.inj hstep ▸ onDisconnected_tracked h hread
  | runGameStrand order =>
      simp only [step] at hstep
      split at hstep
      · cases hstep
      · rename_i task rest hstrand
        obtain ⟨game, hgame, rfl⟩ := Option.map_eq_some_iff.mp hstep
        exact h.task fun g hg => runGameStrand_settled hg hstrand hgame
  | otherTask label =>
      cases label with
      | packet gw id payload order => cases hstep
      | gatewayDisconnected gw => cases hstep
      | _ =>
          simp only [step] at hstep
          obtain ⟨game, hgame, rfl⟩ := Option.map_eq_some_iff.mp hstep
          exact h.task fun g hg => otherTask_settled hg rfl hgame

theorem step_cleansUp_iff {s s' : GameNetworkServer K σ} {label : Label K σ} (h : s.Tracked)
    (hstep : step env s label = some s') : s'.CleansUp ↔ s.SizesFit label := by
  refine ⟨fun hclean => ?_, fun hfit => (step_tracked h hfit hstep).cleansUp⟩
  cases label with
  | headerRead gw header =>
      simp only [step] at hstep
      split at hstep
      · rename_i hread
        obtain rfl := Option.some.inj hstep
        by_contra hfit
        refine headerRead_stops h (by simp [hread]) ?_ hclean
        simp only [SizesFit, not_and_or, not_le] at hfit
        exact hfit
      · cases hstep
  | _ => trivial

omit [DecidableEq σ] [HasSqrt K] in
theorem start_tracked (spawns : List (MonsterSpawn K)) :
    (start spawns : GameNetworkServer K σ).Tracked :=
  fun _ => .waiting rfl rfl rfl

/-- Every session that stops reading is cleaned up, in every state of a run,
    exactly when all headers have sizes in range. -/
theorem cleansUp_iff_sizesFit (env : GameEnv K) (spawns : List (MonsterSpawn K))
    (labels : List (Label K σ)) :
    Always (step env) CleansUp (start spawns) labels
      ↔ Meets (step env) SizesFit (start spawns) labels :=
  always_iff_meets _ (fun h _ hfit hstep => step_tracked h hfit hstep)
    (fun h _ hstep => step_cleansUp_iff h hstep) (start_tracked spawns)
    (start_tracked spawns).cleansUp

/-! ## The read loop -/

def readOf : Network.FrameRead → GatewayRead
  | .header => .header
  | .payload size => .payload size

/-- The session is where a frame reader of its end is: with the same header, it
    waits for the same read. -/
def ReadsAs (s : GameNetworkServer K σ) (gw : σ) (r : Network.FrameReader) : Prop :=
  (s.sessions gw).header = r.header ∧ (s.sessions gw).reading = r.reading.map readOf

omit [Field K] [LinearOrder K] [FloorRing K] [HasSqrt K] in
theorem readsAs_setSession {s : GameNetworkServer K σ} {gw : σ} {c : GatewaySession}
    {r : Network.FrameReader} (hheader : c.header = r.header)
    (hreading : c.reading = r.reading.map readOf) : (s.setSession gw c).ReadsAs gw r := by
  simp only [ReadsAs, setSession, Function.update_self]
  exact ⟨hheader, hreading⟩

omit [Field K] [LinearOrder K] [FloorRing K] [HasSqrt K] in
/-- A header has one effect on both, and they post the same packets. -/
theorem headerRead_framing (s : GameNetworkServer K σ) (gw : σ) (r : Network.FrameReader)
    (h : PacketHeader) :
    (s.headerRead gw h).ReadsAs gw (r.headerRead .gatewaySession h) ∧
      ∃ packets, (r.headerRead .gatewaySession h).gameStrand = r.gameStrand ++ packets ∧
        (s.headerRead gw h).gameStrand = s.gameStrand ++
          packets.map fun packet => .dispatch gw packet.1 packet.2 := by
  unfold headerRead Network.FrameReader.headerRead
  dsimp only
  split
  · exact ⟨readsAs_setSession rfl rfl, [], (List.append_nil _).symm, (List.append_nil _).symm⟩
  · rename_i hrange
    rw [not_or, Nat.not_lt, Nat.not_lt] at hrange
    split
    · exact ⟨readsAs_setSession rfl rfl, [(h.id, [])], rfl, rfl⟩
    · rename_i hsize
      have hvalid := validatePayloadSize_of_fits hrange.1 hrange.2 hsize
      simp only [Network.FrameReader.payloadBuffer, hvalid, Bool.not_true, if_true,
        Bool.false_eq_true, if_false]
      exact ⟨readsAs_setSession rfl rfl, [], (List.append_nil _).symm, (List.append_nil _).symm⟩

omit [Field K] [LinearOrder K] [FloorRing K] [HasSqrt K] in
/-- And so has a payload. -/
theorem payloadRead_framing {s : GameNetworkServer K σ} {gw : σ} {r : Network.FrameReader}
    {size : UInt16} (hr : s.ReadsAs gw r) {bytes : List UInt8} (hlen : bytes.length = size.toNat) :
    (s.payloadRead gw bytes).ReadsAs gw ((r.fill bytes).payloadRead .gatewaySession size) ∧
      ∃ packet, ((r.fill bytes).payloadRead .gatewaySession size).gameStrand
          = r.gameStrand ++ [packet] ∧
        (s.payloadRead gw bytes).gameStrand = s.gameStrand ++ [.dispatch gw packet.1 packet.2] := by
  have hread : ((r.fill bytes).buffer).take size.toNat = bytes := by
    rw [← hlen]
    exact List.take_left
  refine ⟨readsAs_setSession hr.1 rfl, ((s.sessions gw).header.id, bytes), ?_, rfl⟩
  show r.gameStrand ++ [(r.header.id, ((r.fill bytes).buffer).take size.toNat)] = _
  rw [hread, hr.1]

end GameNetworkServer

end MMOServers.GameServer
