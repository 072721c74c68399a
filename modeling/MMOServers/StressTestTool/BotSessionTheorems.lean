/-
MMOServers.StressTestTool.BotSessionTheorems — what one step of a bot can do.

A bot never has two operations of its socket pending: a read is started where
the one before has ended, the read loop stops where the bot changes over to the
gateway, and it is started again by the connect (`Orderly`). A connect is
pending only in the two connecting states and after `Stop`. So a step leaves
`IN_GAME` and `DISCONNECTED` alone, or it goes in game, or its task of `Stop`
reports the session (`Effect`). One step is different: a connect that succeeded
before `Stop` closed the socket, and whose handler runs after it, takes the bot
out of `DISCONNECTED` again (`revives`).
-/
import MMOServers.StressTestTool.BotSession

namespace MMOServers.StressTestTool

open MMOServers.Common

namespace BotSession

variable {F Key : Type} (env : BotEnv F Key)

/-! ## What sending and receiving leave alone -/

theorem encode_eq (b : BotSession F Key) (iv : Option (List UInt8)) (serialized : List UInt8) :
    ∃ crypto, (b.encode env iv serialized).2 = { b with crypto := crypto } := by
  unfold encode
  split
  · split <;> exact ⟨_, rfl⟩
  · exact ⟨b.crypto, rfl⟩

theorem sendPacket_eq (b : BotSession F Key) (iv : Option (List UInt8)) (pktId : UInt16)
    (serialized : List UInt8) :
    ∃ crypto p, b.sendPacket env iv pktId serialized =
      { b with crypto := crypto, strand := b.strand ++ [.send p], nextBuffer := b.nextBuffer + 1 }
      := by
  obtain ⟨crypto, hencode⟩ := encode_eq env b iv serialized
  unfold sendPacket
  generalize b.encode env iv serialized = r at hencode ⊢
  obtain ⟨payload, b'⟩ := r
  obtain rfl : b' = _ := hencode
  exact ⟨_, _, rfl⟩

theorem openPayload_eq (b : BotSession F Key) (bytes : List UInt8) :
    ∃ crypto, (b.openPayload env bytes).2 = { b with crypto := crypto } := by
  unfold openPayload
  split
  · split <;> exact ⟨_, rfl⟩
  · exact ⟨b.crypto, rfl⟩

theorem enableCrypto_eq (b : BotSession F Key) :
    ∃ crypto enabled,
      b.enableCrypto env = { b with crypto := crypto, cryptoEnabled := enabled } := by
  unfold enableCrypto
  split <;> exact ⟨_, _, rfl⟩

/-- A bot that differs at most in what it sends and receives with. -/
structure SameCourse (b b' : BotSession F Key) : Prop where
  accountId : b'.accountId = b.accountId
  state : b'.state = b.state
  socketOpen : b'.socketOpen = b.socketOpen
  pending : b'.pending = b.pending

theorem sendPacket_course (b : BotSession F Key) (iv : Option (List UInt8)) (pktId : UInt16)
    (serialized : List UInt8) : SameCourse b (b.sendPacket env iv pktId serialized) := by
  obtain ⟨crypto, p, h⟩ := sendPacket_eq env b iv pktId serialized
  rw [h]
  exact ⟨rfl, rfl, rfl, rfl⟩

theorem openPayload_course (b : BotSession F Key) (bytes : List UInt8) :
    SameCourse b (b.openPayload env bytes).2 := by
  obtain ⟨crypto, h⟩ := openPayload_eq env b bytes
  rw [h]
  exact ⟨rfl, rfl, rfl, rfl⟩

theorem SameCourse.trans {a b c : BotSession F Key} (h : SameCourse a b) (h' : SameCourse b c) :
    SameCourse a c :=
  ⟨h'.accountId.trans h.accountId, h'.state.trans h.state, h'.socketOpen.trans h.socketOpen,
    h'.pending.trans h.pending⟩

theorem timerEnds_course [Add F] [Zero F] (b : BotSession F Key) (ok : Bool) (action : Nat)
    (dx dy : F) (iv : Option (List UInt8)) :
    SameCourse b (b.timerEnds env ok action dx dy iv) := by
  have hact : SameCourse b (b.act env action dx dy iv) := by
    unfold act
    split
    · exact SameCourse.trans (b := { b with x := b.x + dx, y := b.y + dy }) ⟨rfl, rfl, rfl, rfl⟩
        (sendPacket_course env ..)
    · exact sendPacket_course env ..
  unfold timerEnds
  split
  · unfold scheduleNextAction
    split
    · exact hact
    · exact hact.trans ⟨rfl, rfl, rfl, rfl⟩
  · exact ⟨rfl, rfl, rfl, rfl⟩

/-! ## Packets -/

/-- A packet changes nothing, or sends the bot to the gateway, or lets it into the
    game. -/
inductive Handled (b : BotSession F Key) : BotSession F Key → List ManagerCall → Prop where
  | kept (b' : BotSession F Key) (course : SameCourse b b') : Handled b b' []
  | toGateway (b' : BotSession F Key) (from_login : b.state = .waitingLoginRes)
      (accountId : b'.accountId = b.accountId) (state : b'.state = .connectingGateway)
      (pending : b'.pending = b.pending ++ [.connect .gateway]) : Handled b b' []
  | admitted (b' : BotSession F Key) (from_gateway : b.state = .waitingGatewayRes)
      (accountId : b'.accountId = b.accountId) (state : b'.state = .inGame)
      (pending : b'.pending = b.pending) : Handled b b' [.onSessionConnected]

theorem handlePacket_handled (b : BotSession F Key) (pktId : UInt16) (payload : List UInt8)
    (iv : Option (List UInt8)) :
    Handled b (b.handlePacket env pktId payload iv).1 (b.handlePacket env pktId payload iv).2 := by
  unfold handlePacket
  split
  · refine .kept _ ?_
    unfold handleLoginRes
    split
    · exact sendPacket_course env ..
    · exact ⟨rfl, rfl, rfl, rfl⟩
  · split
    · rename_i hselect
      unfold handleWorldSelectRes
      split
      · exact .toGateway _ hselect.2 rfl rfl rfl
      · exact .kept _ ⟨rfl, rfl, rfl, rfl⟩
    · split
      · rename_i hconnect
        unfold handleConnectRes
        split
        · obtain ⟨crypto, enabled, henable⟩ :=
            enableCrypto_eq env { b with state := .inGame }
          rw [henable]
          exact .admitted _ hconnect.2 rfl rfl rfl
        · exact .kept _ ⟨rfl, rfl, rfl, rfl⟩
      · exact .kept _ ⟨rfl, rfl, rfl, rfl⟩

/-! ## One operation at a time -/

structure Orderly (b : BotSession F Key) : Prop where
  alone : b.pending.length ≤ 1
  connecting : ∀ server, .connect server ∈ b.pending →
    b.state = .connectingLogin ∨ b.state = .connectingGateway ∨ b.state = .disconnected

/-- The operation whose handler runs was the only one. -/
theorem Orderly.finished_pending {b : BotSession F Key} (h : b.Orderly) {op : SocketOp}
    (hop : op ∈ b.pending) : (b.finished op).pending = [] := by
  have hlength : (b.pending.erase op).length = b.pending.length - 1 := List.length_erase_of_mem hop
  have halone := h.alone
  exact List.length_eq_zero_iff.mp (by show (b.pending.erase op).length = 0; omega)

theorem Orderly.of_nil {b : BotSession F Key} (h : b.pending = []) : b.Orderly := by
  refine ⟨by rw [h]; exact Nat.zero_le 1, fun server hmem => ?_⟩
  rw [h] at hmem
  cases hmem

theorem Orderly.of_read {b : BotSession F Key} {op : SocketOp} (h : b.pending = [op])
    (hread : op.isRead = true) : b.Orderly := by
  refine ⟨by rw [h]; exact Nat.le_refl 1, fun server hmem => ?_⟩
  rw [h, List.mem_singleton] at hmem
  rw [← hmem] at hread
  cases hread

theorem Orderly.of_connect {b : BotSession F Key} {server : Server}
    (h : b.pending = [.connect server])
    (hstate : b.state = .connectingLogin ∨ b.state = .connectingGateway) : b.Orderly :=
  ⟨by rw [h]; exact Nat.le_refl 1, fun _ _ => hstate.imp_right Or.inl⟩

theorem Orderly.of_course {b b' : BotSession F Key} (h : b.Orderly) (hcourse : SameCourse b b') :
    b'.Orderly := by
  refine ⟨hcourse.pending ▸ h.alone, fun server hmem => ?_⟩
  rw [hcourse.state]
  exact h.connecting server (hcourse.pending ▸ hmem)

theorem start_orderly {b : BotSession F Key} (h : b.pending = []) : b.start.Orderly := by
  have hpending : b.start.pending = [.connect .login] := by
    show b.pending ++ [.connect .login] = _
    rw [h, List.nil_append]
  exact .of_connect hpending (Or.inl rfl)

/-! ## Steps -/

/-- The connect that succeeds was started before `Stop`, and its handler runs
    after it. -/
def revives (b : BotSession F Key) : Label F → Prop
  | .connectEnds _ ok _ => ok = true ∧ b.state = .disconnected
  | _ => False

instance (b : BotSession F Key) (label : Label F) : Decidable (b.revives label) :=
  match label with
  | .connectEnds _ ok _ => inferInstanceAs (Decidable (ok = true ∧ b.state = .disconnected))
  | .headerRead _ => isFalse id
  | .payloadRead _ _ _ => isFalse id
  | .readFails _ => isFalse id
  | .timerEnds _ _ _ _ _ => isFalse id
  | .writeEnds _ _ => isFalse id
  | .runTask => isFalse id

/-- What a step tells the manager, and what it makes of the state that the manager
    counts by. -/
inductive Effect (b : BotSession F Key) (label : Label F) :
    BotSession F Key → List ManagerCall → Prop where
  | silent (b' : BotSession F Key) (game : b'.state = .inGame ↔ b.state = .inGame)
      (gone : ¬ b.revives label → (b'.state = .disconnected ↔ b.state = .disconnected)) :
      Effect b label b' []
  | admitted (b' : BotSession F Key) (before : b.state = .waitingGatewayRes)
      (after : b'.state = .inGame) : Effect b label b' [.onSessionConnected]
  | reported (b' : BotSession F Key) (before : b.state ≠ .disconnected)
      (after : b'.state = .disconnected) :
      Effect b label b' [.onSessionDisconnected (decide (b.state = .inGame))]

theorem Effect.of_state {b b' : BotSession F Key} {label : Label F} (h : b'.state = b.state) :
    Effect b label b' [] :=
  .silent b' (by rw [h]) (fun _ => by rw [h])

/-- A connect that succeeds: the bot waits for the answer, with a read pending. -/
theorem connected_eq (b : BotSession F Key) (iv : Option (List UInt8)) (server : Server) :
    (b.connected env iv server).accountId = b.accountId ∧
      (b.connected env iv server).pending = b.pending ++ [.readHeader b.socketOpen] ∧
      ((b.connected env iv server).state = .waitingLoginRes ∨
        (b.connected env iv server).state = .waitingGatewayRes) := by
  have hcourse : ∀ (state : BotState) (pktId : UInt16) (serialized : List UInt8),
      SameCourse { b with state := state }
        ({ b with state := state }.sendPacket env iv pktId serialized) :=
    fun _ _ _ => sendPacket_course env ..
  cases server with
  | login =>
      obtain ⟨haccount, hstate, hopen, hpending⟩ := hcourse .waitingLoginRes
        PacketId.clientLoginLoginReq
        (env.serializeLoginReq ⟨b.accountId, StressConstants.botPassword, 1⟩)
      refine ⟨haccount, ?_, Or.inl hstate⟩
      show _ ++ _ = _
      rw [hpending, hopen]
  | gateway =>
      obtain ⟨haccount, hstate, hopen, hpending⟩ := hcourse .waitingGatewayRes
        PacketId.clientGatewayConnectReq
        (env.serializeConnectReq ⟨b.accountId, b.sessionToken⟩)
      refine ⟨haccount, ?_, Or.inr hstate⟩
      show _ ++ _ = _
      rw [hpending, hopen]

/-- The handler of `ReadPayload`: the packet, and the next read unless the bot
    changes over or has stopped. -/
theorem payloadRead_handled (b : BotSession F Key) (bytes : List UInt8)
    (iv : Option (List UInt8)) :
    ∃ b₁ calls, Handled b b₁ calls ∧
      ((b₁.state = .disconnected ∨ b₁.state = .connectingGateway) ∧
          b.payloadRead env bytes iv = (b₁, calls) ∨
        b₁.state ≠ .connectingGateway ∧ b.payloadRead env bytes iv = (b₁.readHeader, calls)) := by
  have hopen := openPayload_course env b bytes
  unfold payloadRead
  generalize b.openPayload env bytes = r at hopen ⊢
  obtain ⟨data, b₀⟩ := r
  dsimp only at hopen ⊢
  have hhandled := handlePacket_handled env b₀ b₀.header.id data iv
  generalize b₀.handlePacket env b₀.header.id data iv = r at hhandled ⊢
  obtain ⟨b₁, calls⟩ := r
  dsimp only at hhandled ⊢
  have hfrom : Handled b b₁ calls := by
    cases hhandled with
    | kept course => exact .kept _ (hopen.trans course)
    | toGateway from_login accountId state pending =>
        exact .toGateway _ (hopen.state ▸ from_login) (accountId.trans hopen.accountId) state
          (by rw [pending, hopen.pending])
    | admitted from_gateway accountId state pending =>
        exact .admitted _ (hopen.state ▸ from_gateway) (accountId.trans hopen.accountId) state
          (pending.trans hopen.pending)
  refine ⟨b₁, calls, hfrom, ?_⟩
  split
  · rename_i hgoes
    exact Or.inr ⟨hgoes.2, rfl⟩
  · rename_i hstops
    refine Or.inl ⟨?_, rfl⟩
    by_cases hgone : b₁.state = .disconnected
    · exact Or.inl hgone
    · exact Or.inr (Decidable.not_not.mp fun h => hstops ⟨hgone, h⟩)

/-- A step of an orderly bot, in three parts. -/
structure Stepped (b : BotSession F Key) (label : Label F) (b' : BotSession F Key)
    (calls : List ManagerCall) : Prop where
  orderly : b'.Orderly
  accountId : b'.accountId = b.accountId
  effect : Effect b label b' calls

theorem Stepped.of_course {b b' : BotSession F Key} {label : Label F} (h : b.Orderly)
    (hcourse : SameCourse b b') : Stepped b label b' [] :=
  ⟨h.of_course hcourse, hcourse.accountId, .of_state hcourse.state⟩

theorem connected_stepped {b : BotSession F Key} (h : b.Orderly) {server : Server}
    (hop : .connect server ∈ b.pending) (iv : Option (List UInt8)) :
    Stepped b (.connectEnds server true iv)
      ((b.finished (.connect server)).connected env iv server) [] := by
  obtain ⟨haccount, hpending, hstate⟩ :=
    connected_eq env (b.finished (.connect server)) iv server
  rw [h.finished_pending hop, List.nil_append] at hpending
  have hbefore : b.state ≠ .inGame := by
    rcases h.connecting server hop with h | h | h <;> rw [h] <;> exact BotState.noConfusion
  refine ⟨.of_read hpending rfl, haccount, .silent _ ?_ fun hrevives => ?_⟩
  · refine iff_of_false ?_ hbefore
    rcases hstate with h | h <;> rw [h] <;> exact BotState.noConfusion
  · refine iff_of_false ?_ fun hgone => hrevives ⟨rfl, hgone⟩
    rcases hstate with h | h <;> rw [h] <;> exact BotState.noConfusion

/-- What a packet does to a bot that has no other operation pending. -/
theorem Handled.stepped {b b₀ b₁ : BotSession F Key} {label : Label F} {calls : List ManagerCall}
    (hhandled : Handled b₀ b₁ calls) (hnone : b₀.pending = []) (hstate : b₀.state = b.state)
    (haccount : b₀.accountId = b.accountId) :
    Stepped b label b₁ calls ∧ (b₁.state ≠ .connectingGateway → b₁.pending = []) := by
  cases hhandled with
  | kept course =>
      have hpending := course.pending.trans hnone
      exact ⟨⟨.of_nil hpending, course.accountId.trans haccount,
        .of_state (course.state.trans hstate)⟩, fun _ => hpending⟩
  | toGateway from_login accountId state pending =>
      rw [hnone, List.nil_append] at pending
      rw [hstate] at from_login
      refine ⟨⟨.of_connect pending (Or.inr state), accountId.trans haccount, .silent _ ?_ ?_⟩,
        fun hother => absurd state hother⟩
      · rw [state, from_login]
        exact iff_of_false BotState.noConfusion BotState.noConfusion
      · intro _
        rw [state, from_login]
        exact iff_of_false BotState.noConfusion BotState.noConfusion
  | admitted from_gateway accountId state pending =>
      have hpending := pending.trans hnone
      exact ⟨⟨.of_nil hpending, accountId.trans haccount,
        .admitted _ (hstate ▸ from_gateway) state⟩, fun _ => hpending⟩

theorem Stepped.readHeader {b b₁ : BotSession F Key} {label : Label F} {calls : List ManagerCall}
    (h : Stepped b label b₁ calls) (hnone : b₁.pending = []) :
    Stepped b label b₁.readHeader calls := by
  have hpending : b₁.readHeader.pending = [.readHeader b₁.socketOpen] := by
    show b₁.pending ++ _ = _
    rw [hnone, List.nil_append]
  refine ⟨.of_read hpending rfl, h.accountId, ?_⟩
  cases h.effect with
  | silent game gone => exact .silent _ game gone
  | admitted before after => exact .admitted _ before after
  | reported before after => exact .reported _ before after

theorem payloadRead_stepped {b : BotSession F Key} (h : b.Orderly) {size : UInt16}
    (hop : .readPayload size true ∈ b.pending) (bytes : List UInt8) (iv : Option (List UInt8)) :
    Stepped b (.payloadRead size bytes iv)
      ((b.finished (.readPayload size true)).payloadRead env bytes iv).1
      ((b.finished (.readPayload size true)).payloadRead env bytes iv).2 := by
  obtain ⟨b₁, calls, hhandled, hread⟩ :=
    payloadRead_handled env (b.finished (.readPayload size true)) bytes iv
  obtain ⟨hstepped, hpending⟩ : Stepped b (.payloadRead size bytes iv) b₁ calls ∧
      (b₁.state ≠ .connectingGateway → b₁.pending = []) :=
    hhandled.stepped (h.finished_pending hop) rfl rfl
  rcases hread with ⟨-, heq⟩ | ⟨hgoes, heq⟩
  · rw [heq]
    exact hstepped
  · rw [heq]
    exact hstepped.readHeader (hpending hgoes)

theorem runTask_stepped {b : BotSession F Key} (h : b.Orderly) (rest : List BotTask)
    (task : BotTask) :
    Stepped b .runTask ({ b with strand := rest }.runTask task).1
      ({ b with strand := rest }.runTask task).2 := by
  cases task with
  | send p => exact .of_course h ⟨rfl, rfl, rfl, rfl⟩
  | stop =>
      refine ⟨⟨h.alone, fun _ _ => Or.inr (Or.inr rfl)⟩, rfl, ?_⟩
      by_cases hgone : b.state = .disconnected
      · simp only [runTask, runStop, hgone, ne_eq, not_true_eq_false, if_false]
        exact .of_state hgone.symm
      · simp only [runTask, runStop, ne_eq, hgone, not_false_eq_true, if_true]
        exact .reported _ hgone rfl

variable [Add F] [Zero F]

theorem step_stepped {b b' : BotSession F Key} {label : Label F} {calls : List ManagerCall}
    (h : b.Orderly) (hstep : b.step env label = some (b', calls)) : Stepped b label b' calls := by
  cases label with
  | connectEnds server ok iv =>
      simp only [step] at hstep
      split at hstep
      · rename_i hop
        obtain ⟨rfl, rfl⟩ := Prod.mk.inj (Option.some.inj hstep)
        cases ok with
        | true => exact connected_stepped env h hop iv
        | false => exact ⟨.of_nil (h.finished_pending hop), rfl, .of_state rfl⟩
      · cases hstep
  | headerRead header =>
      simp only [step] at hstep
      split at hstep
      · rename_i hop
        obtain ⟨rfl, rfl⟩ := Prod.mk.inj (Option.some.inj hstep)
        have hpending : ∀ op, (b.finished (.readHeader true)).pending ++ [op] = [op] := by
          intro op
          rw [h.finished_pending hop, List.nil_append]
        exact ⟨.of_read (hpending _) rfl, rfl, .of_state rfl⟩
      · cases hstep
  | payloadRead size bytes iv =>
      simp only [step] at hstep
      split at hstep
      · rename_i hop
        have hstepped := payloadRead_stepped env h hop.1 bytes iv
        rwa [Option.some.inj hstep] at hstepped
      · cases hstep
  | readFails op =>
      simp only [step] at hstep
      split at hstep
      · rename_i hop
        obtain ⟨rfl, rfl⟩ := Prod.mk.inj (Option.some.inj hstep)
        exact ⟨.of_nil (h.finished_pending hop.1), rfl, .of_state rfl⟩
      · cases hstep
  | timerEnds ok action dx dy iv =>
      simp only [step] at hstep
      split at hstep
      · obtain ⟨rfl, rfl⟩ := Prod.mk.inj (Option.some.inj hstep)
        exact .of_course h (SameCourse.trans (b := { b with timers := b.timers - 1 })
          ⟨rfl, rfl, rfl, rfl⟩ (timerEnds_course env _ ok action dx dy iv))
      · cases hstep
  | writeEnds p ok =>
      simp only [step] at hstep
      split at hstep
      · obtain ⟨rfl, rfl⟩ := Prod.mk.inj (Option.some.inj hstep)
        cases ok <;> exact .of_course h ⟨rfl, rfl, rfl, rfl⟩
      · cases hstep
  | runTask =>
      simp only [step] at hstep
      split at hstep
      · cases hstep
      · rename_i task rest hstrand
        have hstepped := runTask_stepped h rest task
        rwa [Option.some.inj hstep] at hstepped

end BotSession

end MMOServers.StressTestTool
