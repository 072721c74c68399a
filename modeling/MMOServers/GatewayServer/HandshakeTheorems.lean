/-
MMOServers.GatewayServer.HandshakeTheorems — where the plaintext ends.

The response to a successful `GatewayConnectReq` is to be the first frame of an
admitted session, in plaintext, and everything after it encrypted. The session
is in `clientMap` before its response was posted and before `EnableEncryption`
ran, so a broadcast of another thread can fall in between; its frame is then in
plaintext, ahead of the response or after it. This is the only way the boundary
is crossed (`introduced_iff_afterEnable`): it holds in exactly the runs in which
every frame sent to an admitted session finds its encryption enabled, the first
response apart.

`Tracked` ties the frames of a session to how far its handler has come.
-/
import MMOServers.GatewayServer.Handshake
import MMOServers.GatewayServer.SessionInvariants

namespace MMOServers.GatewayServer

open MMOServers.Common Transition
open Gateway (Armed)

variable {ι F Key : Type} {env : GatewayEnv F Key}

namespace Handshake

/-! ## The boundary -/

/-- The response to a successful `GatewayConnectReq`, in plaintext. -/
def hello (env : GatewayEnv F Key) : ClientFrame :=
  ⟨PacketId.gatewayClientConnectRes, env.serializeConnectRes ⟨true, ""⟩, false,
    (ClientSession.frame PacketId.gatewayClientConnectRes
      (env.serializeConnectRes ⟨true, ""⟩)).getD []⟩

/-- Of every admitted session the first frame is the plaintext response, and all
    later frames are encrypted. -/
def Introduced (env : GatewayEnv F Key) (s : Handshake ι F Key) : Prop :=
  ∀ i, s.sent i = [] ∨
    ∃ later, s.sent i = hello env :: later ∧ ∀ f ∈ later, f.encrypted = true

/-- The `Send` to a client that the step makes. -/
def sendOf (env : GatewayEnv F Key) (s : Handshake ι F Key) :
    Label ι → Option (ι × UInt16 × List UInt8)
  | .resume i =>
      match s.connecting i with
      | some .refuse =>
          some (i, PacketId.gatewayClientConnectRes,
            env.serializeConnectRes ⟨false, "Invalid or expired session token"⟩)
      | some .respond =>
          some (i, PacketId.gatewayClientConnectRes, env.serializeConnectRes ⟨true, ""⟩)
      | _ => none
  | .sendNext =>
      match s.broadcasting with
      | some ⟨pktId, serialized, target :: _⟩ =>
          (s.gateway.clientMap target).map fun i => (i, pktId, serialized)
      | _ => none
  | _ => none

/-- The step is the response to the first `GatewayConnectReq` of a session that
    succeeded. -/
def FirstResponse (s : Handshake ι F Key) : Label ι → Prop
  | .resume i => s.connecting i = some .respond ∧ s.admissions i = 1
  | _ => False

/-- When the step sends a frame to an admitted session, other than its first
    response, `EnableEncryption` has run for the session. -/
def AfterEnable (env : GatewayEnv F Key) (s : Handshake ι F Key) (label : Label ι) : Prop :=
  match sendOf env s label with
  | none => True
  | some (i, pktId, serialized) =>
      s.admissions i ≠ 0 → (frameOf env s.gateway i pktId serialized).isSome = true →
        ¬ FirstResponse s label → (s.gateway.sessions i).cryptoEnabled = true

instance (s : Handshake ι F Key) (label : Label ι) : Decidable (FirstResponse s label) := by
  unfold FirstResponse
  split <;> infer_instance

instance (s : Handshake ι F Key) (label : Label ι) : Decidable (AfterEnable env s label) := by
  unfold AfterEnable
  split <;> infer_instance

/-! ## The invariant -/

/-- How the frames of a session go with how far its handler has come. -/
structure Staged (admissions : Nat) (connecting : Option ConnectStage)
    (sent : List ClientFrame) : Prop where
  admitted : connecting = some .respond ∨ connecting = some .enable → admissions ≠ 0
  unadmitted : admissions = 0 → sent = []
  unanswered : admissions ≠ 0 → sent = [] → admissions = 1 ∧ connecting = some .respond
  answered : admissions = 1 → connecting = some .respond → sent = []

structure Tracked (s : Handshake ι F Key) : Prop where
  armed : ∀ i, Armed (s.gateway.sessions i) ∧
    ((s.gateway.sessions i).cryptoEnabled = true → s.sent i ≠ [])
  reads : s.gateway.ReadsAccepted
  waits : ∀ i, s.connecting i ≠ none → s.gateway.Waits i
  responses : ∀ b, s.broadcasting = some b → b.pktId ≠ PacketId.gatewayClientConnectRes
  staged : ∀ i, Staged (s.admissions i) (s.connecting i) (s.sent i)

theorem start_tracked : (start : Handshake ι F Key).Tracked where
  armed _ := ⟨fun h => (nomatch h), fun h => (nomatch h)⟩
  reads _ h := absurd rfl h
  waits _ h := absurd rfl h
  responses _ h := (nomatch h)
  staged _ :=
    ⟨fun h => by simp [start] at h, fun _ => rfl, fun h => absurd rfl h, fun h => (nomatch h)⟩

/-- The posted frame is encrypted when the encryption is enabled. -/
theorem frameOf_encrypted {g : Gateway ι F Key} {i : ι} {pktId : UInt16}
    {serialized : List UInt8} {f : ClientFrame} (harmed : Armed (g.sessions i))
    (h : frameOf env g i pktId serialized = some f) :
    f.encrypted = (g.sessions i).cryptoEnabled := by
  rw [(frameOf_sealed h).2.2.1]
  cases hon : (g.sessions i).cryptoEnabled with
  | false => rfl
  | true => rw [harmed hon]; rfl

/-- The response in plaintext. -/
theorem frameOf_response {g : Gateway ι F Key} {i : ι} {f : ClientFrame}
    (hoff : (g.sessions i).cryptoEnabled = false)
    (h : frameOf env g i PacketId.gatewayClientConnectRes
      (env.serializeConnectRes ⟨true, ""⟩) = some f) : f = hello env := by
  obtain ⟨hid, hserialized, hplain, payload, hframe, hpayload⟩ := frameOf_sealed h
  rw [hoff, Bool.false_and] at hplain
  rw [hplain, if_neg Bool.false_ne_true] at hpayload
  obtain ⟨pktId, serialized, encrypted, data⟩ := f
  subst hid hserialized hplain hpayload
  rw [hello, hframe, Option.getD_some]

theorem frameOf_hello {g : Gateway ι F Key} {i : ι}
    (hres : env.serializeConnectRes ⟨true, ""⟩ = [8, 1])
    (hoff : (g.sessions i).cryptoEnabled ≠ true) :
    frameOf env g i PacketId.gatewayClientConnectRes (env.serializeConnectRes ⟨true, ""⟩)
      = some (hello env) := by
  have hoff := Bool.eq_false_iff.mpr hoff
  have hframe : (frameOf env g i PacketId.gatewayClientConnectRes
      (env.serializeConnectRes ⟨true, ""⟩)).isSome = true := by
    simp only [frameOf, ClientSession.encode, hoff, hres, Bool.false_and, Bool.false_eq_true,
      if_false]
    rfl
  obtain ⟨f, hf⟩ := Option.isSome_iff_exists.mp hframe
  rw [hf, frameOf_response hoff hf]

variable [DecidableEq ι]

/-! ## Sending -/

theorem send_sent (s : Handshake ι F Key) (i j : ι) (pktId : UInt16) (serialized : List UInt8) :
    (s.send env i pktId serialized).sent j = s.sent j ++
      if j = i ∧ s.admissions i ≠ 0 then (frameOf env s.gateway i pktId serialized).toList
      else [] := by
  unfold send
  by_cases hadm : s.admissions i = 0
  · simp [hadm]
  · by_cases hj : j = i
    · subst hj
      simp [hadm]
    · simp [hadm, hj]

/-- What a `Send` leaves as it is, and what it keeps. -/
theorem send_tracked (env : GatewayEnv F Key) {s : Handshake ι F Key} (h : s.Tracked) (i : ι)
    (pktId : UInt16) (serialized : List UInt8) :
    (∀ j, Armed ((s.send env i pktId serialized).gateway.sessions j) ∧
      (((s.send env i pktId serialized).gateway.sessions j).cryptoEnabled = true →
        (s.send env i pktId serialized).sent j ≠ [])) ∧
    (s.send env i pktId serialized).gateway.ReadsAccepted ∧
    ∀ j, s.gateway.Waits j → (s.send env i pktId serialized).gateway.Waits j := by
  have hsame : Gateway.SameReads s.gateway (s.send env i pktId serialized).gateway :=
    (Gateway.send_silent s.gateway i pktId serialized).sameReads
  refine ⟨fun j => ?_, hsame.readsAccepted h.reads, fun j => hsame.waits⟩
  obtain ⟨harmed, hsent⟩ := Gateway.send_all (Gateway.unenabled_inv fun j => s.sent j ≠ [])
    i pktId serialized h.armed j
  refine ⟨harmed, fun hon => ?_⟩
  rw [send_sent]
  exact List.append_ne_nil_of_left_ne_nil (hsent hon) _

/-! ## One step -/

/-- The handler of a session returns. -/
theorem finish_tracked {s : Handshake ι F Key} {i : ι}
    (armed : ∀ j, Armed (s.gateway.sessions j) ∧
      ((s.gateway.sessions j).cryptoEnabled = true → s.sent j ≠ []))
    (reads : s.gateway.ReadsAccepted) (accepted : (s.gateway.sessions i).accepted = true)
    (waits : ∀ j, j ≠ i → s.connecting j ≠ none → s.gateway.Waits j)
    (responses : ∀ b, s.broadcasting = some b → b.pktId ≠ PacketId.gatewayClientConnectRes)
    (staged : ∀ j, j ≠ i → Staged (s.admissions j) (s.connecting j) (s.sent j))
    (returned : Staged (s.admissions i) none (s.sent i)) : (s.finish i).Tracked where
  armed := Gateway.modify_all (s := s.gateway) (i := i)
    (Q := fun j c => Armed c ∧ (c.cryptoEnabled = true → s.sent j ≠ []))
    (f := fun c => { c with reading := some .header }) armed (armed i)
  reads j hj := by
    by_cases hji : j = i
    · subst hji
      rw [finish, Gateway.setReading_accepted, accepted]
    · rw [finish, Gateway.setReading_other _ _ hji] at hj
      rw [finish, Gateway.setReading_accepted, reads j hj]
  waits j hj := by
    by_cases hji : j = i
    · subst hji
      simp [finish] at hj
    · have hwaits := waits j hji (by simpa [finish, hji] using hj)
      exact ⟨(Gateway.setReading_accepted ..).trans hwaits.1,
        (Gateway.setReading_other _ _ hji).trans hwaits.2⟩
  responses := responses
  staged j := by
    by_cases hji : j = i
    · subst hji
      simpa [finish] using returned
    · simpa [finish, hji] using staged j hji

/-- `EnableEncryption` at the end of the handler. -/
theorem enable_tracked {s : Handshake ι F Key} (h : s.Tracked) {i : ι}
    (hstage : s.connecting i = some .enable) :
    ({ s with gateway := s.gateway.modify i (·.enableEncryption env) }.finish i).Tracked := by
  have hsent : s.sent i ≠ [] := by
    intro hnil
    have := (h.staged i).unanswered ((h.staged i).admitted (Or.inr hstage)) hnil
    rw [hstage] at this
    cases this.2
  have hsame : Gateway.SameReads s.gateway
      (s.gateway.modify i fun c => c.enableEncryption env) :=
    (Gateway.enableEncryption_silent s.gateway i).sameReads
  refine finish_tracked ?_ (hsame.readsAccepted h.reads)
    (hsame.waits (h.waits i (by simp [hstage]))).1 (fun j _ hj => hsame.waits (h.waits j hj))
    h.responses (fun j _ => h.staged j) ?_
  · refine Gateway.modify_all (Q := fun j c => Armed c ∧ (c.cryptoEnabled = true → s.sent j ≠ []))
      h.armed ⟨?_, fun _ => hsent⟩
    exact Gateway.armed_keptByEnable i _ (h.armed i).1
  · have hstaged := h.staged i
    rw [hstage] at hstaged
    exact ⟨fun hc => by simp at hc, hstaged.unadmitted,
      fun _ hnil => absurd hnil hsent, fun _ hc => (nomatch hc)⟩

theorem refuse_tracked {s : Handshake ι F Key} (h : s.Tracked) {i : ι}
    (hstage : s.connecting i = some .refuse) (pktId : UInt16) (serialized : List UInt8) :
    ((s.send env i pktId serialized).finish i).Tracked := by
  obtain ⟨harmed, hreads, hwaits⟩ := send_tracked env h i pktId serialized
  have hstaged := h.staged i
  rw [hstage] at hstaged
  have hsent : s.admissions i ≠ 0 → s.sent i ≠ [] := by
    intro hadm hnil
    cases (hstaged.unanswered hadm hnil).2
  refine finish_tracked harmed hreads (hwaits i (h.waits i (by simp [hstage]))).1
    (fun j _ hj => hwaits j (h.waits j hj)) h.responses (fun j hj => ?_) ?_
  · rw [send_sent, if_neg (by simp [hj]), List.append_nil]
    exact h.staged j
  · rw [send_sent]
    refine ⟨fun hc => by simp at hc, fun hadm => ?_, fun hadm hnil => ?_, fun _ hc => (nomatch hc)⟩
    · have hzero : s.admissions i = 0 := hadm
      rw [if_neg (by simp [hzero]), List.append_nil]
      exact hstaged.unadmitted hzero
    · exact absurd (List.append_eq_nil_iff.mp hnil).1 (hsent hadm)

theorem respond_tracked {s : Handshake ι F Key} (h : s.Tracked)
    (hres : env.serializeConnectRes ⟨true, ""⟩ = [8, 1]) {i : ι}
    (hstage : s.connecting i = some .respond) :
    Tracked { s.send env i PacketId.gatewayClientConnectRes
        (env.serializeConnectRes ⟨true, ""⟩) with
      connecting := Function.update s.connecting i (some .enable) } := by
  obtain ⟨harmed, hreads, hwaits⟩ := send_tracked env h i
    PacketId.gatewayClientConnectRes (env.serializeConnectRes ⟨true, ""⟩)
  have hadm := (h.staged i).admitted (Or.inl hstage)
  have hsent : (s.send env i PacketId.gatewayClientConnectRes
      (env.serializeConnectRes ⟨true, ""⟩)).sent i ≠ [] := by
    by_cases hon : (s.gateway.sessions i).cryptoEnabled = true
    · rw [send_sent]
      exact List.append_ne_nil_of_left_ne_nil ((h.armed i).2 hon) _
    · rw [send_sent, if_pos ⟨rfl, hadm⟩, frameOf_hello hres hon]
      simp
  refine ⟨harmed, hreads, fun j hj => ?_, h.responses, fun j => ?_⟩
  · refine hwaits j (h.waits j ?_)
    by_cases hji : j = i
    · simp [hji, hstage]
    · simpa [hji] using hj
  · by_cases hji : j = i
    · subst hji
      simp only [Function.update_self]
      exact ⟨fun _ => hadm, fun hzero => absurd hzero hadm, fun _ hnil => absurd hnil hsent,
        fun _ hc => (nomatch hc)⟩
    · simp only [Function.update_of_ne hji]
      rw [send_sent, if_neg (by simp [hji]), List.append_nil]
      exact h.staged j

theorem insert_tracked {s : Handshake ι F Key} (h : s.Tracked) {i : ι} {accountId : String}
    (hstage : s.connecting i = some (.insert accountId)) :
    Tracked { s with
      gateway := s.gateway.insertClient i accountId
      connecting := Function.update s.connecting i (some .respond)
      admissions := Function.update s.admissions i (s.admissions i + 1) } := by
  have hstaged := h.staged i
  rw [hstage] at hstaged
  have hzero : s.sent i = [] → s.admissions i = 0 := by
    intro hnil
    by_contra hadm
    cases (hstaged.unanswered hadm hnil).2
  refine ⟨h.armed, h.reads, fun j hj => h.waits j ?_, h.responses, fun j => ?_⟩
  · by_cases hji : j = i
    · simp [hji, hstage]
    · simpa [hji] using hj
  · by_cases hji : j = i
    · subst hji
      simp only [Function.update_self]
      refine ⟨fun _ => Nat.succ_ne_zero _, fun hc => absurd hc (Nat.succ_ne_zero _),
        fun _ hnil => ⟨by rw [hzero hnil], rfl⟩, fun hone _ => ?_⟩
      exact hstaged.unadmitted (Nat.succ.inj hone)
    · simpa only [Function.update_of_ne hji] using h.staged j

theorem sendNext_tracked {s : Handshake ι F Key} (h : s.Tracked) {b : Broadcast}
    (hb : s.broadcasting = some b) (hafter : AfterEnable env s .sendNext) :
    (s.sendNext env b).Tracked := by
  have hpktId := h.responses b hb
  obtain ⟨pktId, serialized, targets⟩ := b
  cases targets with
  | nil => exact ⟨h.armed, h.reads, h.waits, fun _ hc => (nomatch hc), h.staged⟩
  | cons target targets =>
      have hnext : Tracked { s with broadcasting := some ⟨pktId, serialized, targets⟩ } := by
        refine ⟨h.armed, h.reads, h.waits, fun b' hb' => ?_, h.staged⟩
        cases hb'
        exact hpktId
      unfold sendNext
      dsimp only
      cases htarget : s.gateway.clientMap target with
      | none => exact hnext
      | some i =>
          have hsend : sendOf env s .sendNext = some (i, pktId, serialized) := by
            simp [sendOf, hb, htarget]
          obtain ⟨harmed, hreads, hwaits⟩ := send_tracked env hnext i pktId serialized
          refine ⟨harmed, hreads, fun j hj => hwaits j (h.waits j hj), hnext.responses,
            fun j => ?_⟩
          rw [send_sent]
          by_cases hj : j = i ∧ s.admissions i ≠ 0
          · rw [if_pos hj]
            obtain ⟨rfl, hadm⟩ := hj
            cases hframe : frameOf env s.gateway j pktId serialized with
            | none =>
                simp only [Option.toList_none, List.append_nil]
                exact h.staged j
            | some f =>
                simp only [AfterEnable, hsend] at hafter
                have hon := hafter hadm (by simp [hframe]) id
                have hsent := (h.armed j).2 hon
                refine ⟨(h.staged j).admitted, fun hzero => absurd hzero hadm,
                  fun _ hnil => ?_, fun hone hresp => ?_⟩
                · exact absurd (List.append_eq_nil_iff.mp hnil).1 hsent
                · exact absurd ((h.staged j).answered hone hresp) hsent
          · rw [if_neg hj, List.append_nil]
            exact h.staged j

omit [DecidableEq ι] in
theorem broadcastOf_pktId {id : UInt16} {payload : List UInt8} {b : Broadcast}
    (h : Gateway.broadcastOf env id payload = some b) :
    b.pktId ≠ PacketId.gatewayClientConnectRes := by
  unfold Gateway.broadcastOf at h
  repeat' split at h
  all_goals try cases h
  all_goals
    obtain ⟨res, -, rfl⟩ := Option.map_eq_some_iff.mp h
    dsimp only
    decide

theorem gamePacket_tracked {s s' : Handshake ι F Key} (h : s.Tracked) {id : UInt16}
    {payload : List UInt8} (hstep : step env s (.gamePacket id payload) = some s') :
    s'.Tracked := by
  simp only [step] at hstep
  split at hstep
  · obtain rfl := Option.some.inj hstep
    have hsame : Gateway.SameReads s.gateway (s.gateway.gameDispatch env id payload) :=
      (Gateway.gameDispatch_silent s.gateway id payload).sameReads
    refine ⟨?_, hsame.readsAccepted h.reads, fun j hj => hsame.waits (h.waits j hj), h.responses,
      h.staged⟩
    exact Gateway.gameDispatch_all (Gateway.unenabled_inv fun j => s.sent j ≠ []) id payload
      h.armed
  · rename_i b hb
    split at hstep
    · cases hstep
    · obtain rfl := Option.some.inj hstep
      refine ⟨h.armed, h.reads, h.waits, fun b' hb' => ?_, h.staged⟩
      cases hb'
      exact broadcastOf_pktId hb

/-- The handler stops after the verification of the token. -/
theorem begun_tracked {s : Handshake ι F Key} {g : Gateway ι F Key} {i : ι}
    {stage : ConnectStage} (h : s.Tracked) (hidle : s.connecting i = none)
    (hstage : stage ≠ .respond ∧ stage ≠ .enable)
    (armed : ∀ j, Armed (g.sessions j) ∧ ((g.sessions j).cryptoEnabled = true → s.sent j ≠ []))
    (reads : g.ReadsAccepted) (waits : ∀ j, s.gateway.Waits j ∨ j = i → g.Waits j) :
    Tracked { s with
      gateway := g, connecting := Function.update s.connecting i (some stage) } := by
  refine ⟨armed, reads, fun j hj => waits j ?_, h.responses, fun j => ?_⟩
  · by_cases hji : j = i
    · exact Or.inr hji
    · exact Or.inl (h.waits j (by simpa [hji] using hj))
  · by_cases hji : j = i
    · subst hji
      have hstaged := h.staged j
      rw [hidle] at hstaged
      simp only [Function.update_self]
      refine ⟨fun hc => ?_, hstaged.unadmitted, fun hadm hnil => ?_, fun _ hc => ?_⟩
      · rcases hc with hc | hc
        · exact absurd (Option.some.inj hc) hstage.1
        · exact absurd (Option.some.inj hc) hstage.2
      · cases (hstaged.unanswered hadm hnil).2
      · exact absurd (Option.some.inj hc) hstage.1
    · simpa only [Function.update_of_ne hji] using h.staged j

/-- The read of a session is over. -/
theorem Tracked.readOver {s : Handshake ι F Key} (h : s.Tracked) {i : ι}
    (hreading : (s.gateway.sessions i).reading ≠ none) {f : ClientSession Key → ClientSession Key}
    (harmed : Armed (f (s.gateway.sessions i)) ∧
      ((f (s.gateway.sessions i)).cryptoEnabled = true → s.sent i ≠ []))
    (haccepted : (f (s.gateway.sessions i)).accepted = (s.gateway.sessions i).accepted)
    (hnone : (f (s.gateway.sessions i)).reading = none) :
    (∀ j, Armed ((s.gateway.modify i f).sessions j) ∧
      (((s.gateway.modify i f).sessions j).cryptoEnabled = true → s.sent j ≠ [])) ∧
    (s.gateway.modify i f).ReadsAccepted ∧
    ∀ j, s.gateway.Waits j ∨ j = i → (s.gateway.modify i f).Waits j := by
  refine ⟨Gateway.modify_all (Q := fun j c => Armed c ∧ (c.cryptoEnabled = true → s.sent j ≠ []))
    h.armed harmed, fun j hj => ?_, fun j hj => ?_⟩
  · by_cases hji : j = i
    · subst hji
      rw [Gateway.modify_self] at hj
      exact absurd hnone hj
    · rw [Gateway.modify_other _ _ hji] at hj ⊢
      exact h.reads j hj
  · unfold Gateway.Waits
    by_cases hji : j = i
    · subst hji
      rw [Gateway.modify_self]
      exact ⟨haccepted.trans (h.reads j hreading), hnone⟩
    · rw [Gateway.modify_other _ _ hji]
      exact hj.resolve_right hji

/-- The session of a packet has no other handler running, and reads nothing
    while this one runs. -/
theorem beforeDispatch_tracked {s : Handshake ι F Key} (h : s.Tracked) {g : Gateway ι F Key}
    {label : Gateway.Label ι} {i : ι} {id : UInt16} {data : List UInt8}
    (hdispatch : Gateway.dispatchOf env s.gateway label = some (i, id, data))
    (hstep : Gateway.step env s.gateway label = some g) :
    s.connecting i = none ∧
      (∀ j, Armed ((s.gateway.beforeDispatch env label).1.sessions j) ∧
        (((s.gateway.beforeDispatch env label).1.sessions j).cryptoEnabled = true →
          s.sent j ≠ [])) ∧
      (s.gateway.beforeDispatch env label).1.ReadsAccepted ∧
      ∀ j, s.gateway.Waits j ∨ j = i → (s.gateway.beforeDispatch env label).1.Waits j := by
  have hreading := Gateway.dispatched_reading hdispatch hstep
  have hidle : s.connecting i = none := by
    by_contra hc
    exact hreading (h.waits i hc).2
  have hinv : SessionInv env fun j c => Armed c ∧ (c.cryptoEnabled = true → s.sent j ≠ []) :=
    Gateway.unenabled_inv _
  refine ⟨hidle, ?_⟩
  cases label with
  | headerRead j hdr now nowMs =>
      simp only [Gateway.dispatchOf] at hdispatch
      split at hdispatch
      · cases hdispatch
        obtain ⟨hcrypto, henabled⟩ := Gateway.inspectHeader_crypto (s.gateway.sessions i) hdr now
        exact h.readOver hreading
          (f := fun c => { (c.inspectHeader hdr now).2 with header := hdr, reading := none })
          (hinv.frame (j := i) hcrypto henabled (h.armed i))
          (Gateway.inspectHeader_fields (s.gateway.sessions i) hdr now).2.1 rfl
      · cases hdispatch
  | payloadRead j bytes nowMs =>
      simp only [Gateway.dispatchOf] at hdispatch
      split at hdispatch
      · obtain ⟨plain, -, heq⟩ := Option.map_eq_some_iff.mp hdispatch
        cases heq
        exact h.readOver hreading
          (f := fun c => { (c.openPayload env bytes).2 with reading := none })
          (hinv.frame (j := i) (c := ((s.gateway.sessions i).openPayload env bytes).2) rfl rfl
            (hinv.openPayload bytes (h.armed i)))
          (Gateway.openPayload_fields env (s.gateway.sessions i) bytes).2.1 rfl
      · cases hdispatch
  | _ => cases hdispatch

theorem setAccountId_reads (g : Gateway ι F Key) (i : ι) (accountId : String) :
    Gateway.SameReads g (g.setAccountId i accountId) := by
  let f : ClientSession Key → ClientSession Key := fun c => { c with accountId := accountId }
  exact fun j => ⟨Gateway.modify_field (·.accepted) g i (f := f) rfl j,
    Gateway.modify_field (·.reading) g i (f := f) rfl j⟩

/-- The handler up to the verification, from the state its callback left. -/
theorem connectReq_tracked {s : Handshake ι F Key} {g : Gateway ι F Key} {i : ι}
    (h : s.Tracked) (hidle : s.connecting i = none)
    (armed : ∀ j, Armed (g.sessions j) ∧ ((g.sessions j).cryptoEnabled = true → s.sent j ≠ []))
    (reads : g.ReadsAccepted) (waits : ∀ j, s.gateway.Waits j ∨ j = i → g.Waits j)
    (data : List UInt8) (nowMs : Int) :
    (s.connectReq env (g.record (.dispatched i PacketId.clientGatewayConnectReq)) i data
      nowMs).Tracked := by
  unfold connectReq
  cases hparse : env.parseConnectReq data with
  | none =>
      have heffect : Gateway.DispatchEffect env g i PacketId.clientGatewayConnectReq data
          ((g.record (.dispatched i PacketId.clientGatewayConnectReq)).parseFailed env i) :=
        Gateway.parseFailed_effect
          (by simp [Gateway.requestOf, PacketId.clientGatewayConnectReq,
            PacketId.clientGatewayChatReq, PacketId.clientGatewayMoveReq,
            PacketId.clientGatewayAttackReq])
          (by simp [Gateway.unparsable, hparse])
      have hsame := heffect.reads
      refine finish_tracked ?_ (hsame.readsAccepted reads) (hsame.waits (waits i (Or.inr rfl))).1
        (fun j _ hj => hsame.waits (waits j (Or.inl (h.waits j hj)))) h.responses
        (fun j _ => h.staged j) (hidle ▸ h.staged i)
      exact Gateway.parseFailed_all (Gateway.unenabled_inv fun j => s.sent j ≠ []) i armed
  | some req =>
      dsimp only
      have hverify := Gateway.verifyAndConsumeToken_sessions
        ((g.record (.dispatched i PacketId.clientGatewayConnectReq)).parseSucceeded i)
        req.accountId req.sessionToken nowMs
      generalize Gateway.verifyAndConsumeToken _ req.accountId req.sessionToken nowMs = v
        at hverify ⊢
      obtain ⟨valid, g₁⟩ := v
      have hsessions : g₁.sessions = (g.parseSucceeded i).sessions := hverify
      have hparsed : Gateway.SameReads g g₁ := by
        intro j
        rw [hsessions]
        exact (Gateway.modify_silent g i rfl rfl rfl).sameReads j
      have armed₁ : ∀ j, Armed (g₁.sessions j) ∧
          ((g₁.sessions j).cryptoEnabled = true → s.sent j ≠ []) := by
        rw [hsessions]
        exact Gateway.modify_all (s := g) (i := i)
          (Q := fun j c => Armed c ∧ (c.cryptoEnabled = true → s.sent j ≠ []))
          (f := fun c => { c with parseTracker := c.parseTracker.onParseSuccess }) armed (armed i)
      cases valid with
      | false =>
          exact begun_tracked h hidle (by simp) armed₁ (hparsed.readsAccepted reads)
            fun j hj => hparsed.waits (waits j hj)
      | true =>
          have haccount : Gateway.SameReads g₁
              ((g₁.record (.verified i req.accountId)).setAccountId i req.accountId) :=
            setAccountId_reads (g₁.record (.verified i req.accountId)) i req.accountId
          have hsame := hparsed.trans haccount
          refine begun_tracked h hidle (by simp) ?_ (hsame.readsAccepted reads)
            fun j hj => hsame.waits (waits j hj)
          exact Gateway.modify_all (s := g₁) (i := i)
            (Q := fun j c => Armed c ∧ (c.cryptoEnabled = true → s.sent j ≠ []))
            (f := fun c => { c with accountId := req.accountId }) armed₁ (armed₁ i)

theorem callback_sent {s s' : Handshake ι F Key} {label : Gateway.Label ι}
    (hstep : s.callback env label = some s') : s'.sent = s.sent := by
  unfold callback connectReq at hstep
  repeat' split at hstep
  all_goals
    cases hstep
    try rfl

theorem callback_tracked {s s' : Handshake ι F Key} (h : s.Tracked) {label : Gateway.Label ι}
    (hstep : s.callback env label = some s') : s'.Tracked := by
  unfold callback at hstep
  cases hgateway : Gateway.step env s.gateway label with
  | none => rw [hgateway] at hstep; cases hstep
  | some g =>
      rw [hgateway] at hstep
      dsimp only at hstep
      -- a callback of the gateway that enables no encryption
      have hother : ¬ Gateway.Connects env s.gateway label →
          Tracked { s with gateway := g } := by
        intro hconnects
        obtain ⟨hreads, hwaits⟩ := Gateway.step_reads h.reads hgateway
        refine ⟨?_, hreads, fun j hj => hwaits j (h.waits j hj), h.responses, h.staged⟩
        exact Gateway.step_all (Gateway.unenabled_inv fun j => s.sent j ≠ [])
          (fun hc => absurd hc hconnects) h.armed hgateway
      split at hstep
      · cases hstep
      split at hstep
      · rename_i hdispatch
        obtain rfl := Option.some.inj hstep
        refine hother ?_
        rintro ⟨i, data, hc⟩
        rw [hdispatch] at hc
        cases hc
      · rename_i i id data hdispatch
        split at hstep
        · rename_i hid
          subst hid
          obtain rfl := Option.some.inj hstep
          obtain ⟨hidle, harmed, hreads, hwaits⟩ := beforeDispatch_tracked h hdispatch hgateway
          exact connectReq_tracked h hidle harmed hreads hwaits data _
        · rename_i hid
          obtain rfl := Option.some.inj hstep
          refine hother ?_
          rintro ⟨i', data', hc⟩
          rw [hdispatch] at hc
          cases hc
          exact hid rfl

theorem step_callback {s : Handshake ι F Key} {label : Gateway.Label ι} {s' : Handshake ι F Key}
    (hstep : step env s (.callback label) = some s') : s.callback env label = some s' := by
  cases label <;> first | exact hstep | cases hstep

theorem step_tracked (hres : env.serializeConnectRes ⟨true, ""⟩ = [8, 1])
    {s s' : Handshake ι F Key} {label : Label ι} (h : s.Tracked)
    (hafter : AfterEnable env s label) (hstep : step env s label = some s') : s'.Tracked := by
  cases label with
  | callback label => exact callback_tracked h (step_callback hstep)
  | resume i =>
      obtain ⟨stage, hstage, hresume⟩ := Option.bind_eq_some_iff.mp hstep
      cases stage with
      | refuse =>
          obtain rfl := Option.some.inj hresume
          exact refuse_tracked h hstage _ _
      | insert accountId =>
          simp only [resume] at hresume
          split at hresume
          · cases hresume
          · obtain rfl := Option.some.inj hresume
            exact insert_tracked h hstage
      | respond =>
          obtain rfl := Option.some.inj hresume
          exact respond_tracked h hres hstage
      | enable =>
          obtain rfl := Option.some.inj hresume
          exact enable_tracked h hstage
  | gamePacket id payload => exact gamePacket_tracked h hstep
  | sendNext =>
      obtain ⟨b, hb, rfl⟩ := Option.map_eq_some_iff.mp hstep
      exact sendNext_tracked h hb hafter

/-- The frames after a step: those before it and the one it sends. -/
theorem step_sent {s s' : Handshake ι F Key} {label : Label ι}
    (hstep : step env s label = some s') :
    s'.sent = match sendOf env s label with
      | none => s.sent
      | some (i, pktId, serialized) => (s.send env i pktId serialized).sent := by
  cases label with
  | callback label => exact callback_sent (step_callback hstep)
  | resume i =>
      obtain ⟨stage, hstage, hresume⟩ := Option.bind_eq_some_iff.mp hstep
      simp only [sendOf, hstage]
      cases stage with
      | insert accountId =>
          simp only [resume] at hresume
          split at hresume
          · cases hresume
          · obtain rfl := Option.some.inj hresume
            rfl
      | _ =>
          obtain rfl := Option.some.inj hresume
          rfl
  | gamePacket id payload =>
      simp only [step] at hstep
      repeat' split at hstep
      all_goals
        cases hstep
        try rfl
  | sendNext =>
      obtain ⟨⟨pktId, serialized, targets⟩, hb, rfl⟩ := Option.map_eq_some_iff.mp hstep
      simp only [sendOf, hb]
      cases targets with
      | nil => rfl
      | cons target targets =>
          cases htarget : s.gateway.clientMap target with
          | none => simp [sendNext, htarget]
          | some i => simp [sendNext, htarget, send]

/-! ## The bytes of the frames -/

/-- The bytes of a frame are what `Encrypt` made of the message when it is encrypted,
    and else the message. -/
def Sealed (env : GatewayEnv F Key) (f : ClientFrame) : Prop :=
  ∃ payload, ClientSession.frame f.pktId payload = some f.data ∧
    if f.encrypted then
      ∃ (crypto : PacketCrypto Key) (iv : Option (List UInt8)),
        (crypto.encrypt env.bcrypt iv (f.serialized.take (f.serialized.length % 65536))).1
          = .ok payload
    else payload = f.serialized

omit [DecidableEq ι] in
theorem frameOf_bytes {g : Gateway ι F Key} {i : ι} {pktId : UInt16} {serialized : List UInt8}
    {f : ClientFrame} (h : frameOf env g i pktId serialized = some f) :
    Sealed env f := by
  obtain ⟨rfl, rfl, -, payload, hframe, hpayload⟩ := frameOf_sealed h
  refine ⟨payload, hframe, ?_⟩
  by_cases hon : f.encrypted = true
  · rw [if_pos hon] at hpayload ⊢
    exact ⟨_, _, hpayload⟩
  · rw [if_neg hon] at hpayload ⊢
    exact hpayload

/-- `encrypted` is true to the bytes of every frame that is sent. -/
theorem always_sealed (env : GatewayEnv F Key) (labels : List (Label ι)) :
    Always (step env) (fun s => ∀ i, ∀ f ∈ s.sent i, Sealed env f) start labels := by
  refine always_of_meets (C := fun _ _ => True) ?_ (fun i f hf => absurd hf List.not_mem_nil)
    meets_true
  intro s label s' h _ hstep i f hf
  rw [step_sent hstep] at hf
  split at hf
  · exact h i f hf
  · rw [send_sent] at hf
    rcases List.mem_append.mp hf with hf | hf
    · exact h i f hf
    · split at hf
      · exact frameOf_bytes (Option.mem_toList.mp hf)
      · exact absurd hf List.not_mem_nil

/-! ## Runs -/

omit [DecidableEq ι] in
/-- One more frame keeps the boundary when it is the response, or encrypted
    after it. -/
theorem introduced_append {sent : List ClientFrame} {f : ClientFrame}
    (h : sent = [] ∨ ∃ later, sent = hello env :: later ∧ ∀ f ∈ later, f.encrypted = true) :
    (sent ++ [f] = [] ∨ ∃ later, sent ++ [f] = hello env :: later ∧
        ∀ f ∈ later, f.encrypted = true)
      ↔ if sent = [] then f = hello env else f.encrypted = true := by
  rcases h with rfl | ⟨later, rfl, hlater⟩
  · constructor
    · rintro (hnil | ⟨later, hcons, -⟩)
      · cases hnil
      · cases hcons
        rfl
    · rintro rfl
      exact Or.inr ⟨[], rfl, nofun⟩
  · rw [if_neg (List.cons_ne_nil _ _)]
    constructor
    · rintro (hnil | ⟨later', hcons, hlater'⟩)
      · cases hnil
      · cases hcons
        exact hlater' f (by simp)
    · intro hf
      refine Or.inr ⟨later ++ [f], rfl, fun g hg => ?_⟩
      rcases List.mem_append.mp hg with hg | hg
      · exact hlater g hg
      · rw [List.mem_singleton.mp hg, hf]

/-- The same for all sessions, when one of them gets a frame. -/
theorem introduced_posted {sent : ι → List ClientFrame}
    (h : ∀ j, sent j = [] ∨ ∃ later, sent j = hello env :: later ∧
      ∀ f ∈ later, f.encrypted = true) (i : ι) (f : ClientFrame) :
    (∀ j, (sent j ++ if j = i then [f] else []) = [] ∨
        ∃ later, (sent j ++ if j = i then [f] else []) = hello env :: later ∧
          ∀ f ∈ later, f.encrypted = true)
      ↔ if sent i = [] then f = hello env else f.encrypted = true := by
  rw [← introduced_append (h i)]
  constructor
  · intro hall
    simpa using hall i
  · intro hone j
    by_cases hji : j = i
    · subst hji
      simpa using hone
    · simpa [hji] using h j

omit [DecidableEq ι] in
/-- Who sends to a session whose first response is still to come. -/
theorem sendOf_cases {s : Handshake ι F Key} (h : s.Tracked) {label : Label ι} {i : ι}
    {pktId : UInt16} {serialized : List UInt8}
    (hsend : sendOf env s label = some (i, pktId, serialized))
    (hstage : s.connecting i = some .respond) :
    (label = .resume i ∧ pktId = PacketId.gatewayClientConnectRes ∧
      serialized = env.serializeConnectRes ⟨true, ""⟩) ∨
    (label = .sendNext ∧ pktId ≠ PacketId.gatewayClientConnectRes) := by
  cases label with
  | resume j =>
      simp only [sendOf] at hsend
      split at hsend
      · rename_i hrefuse
        cases hsend
        rw [hstage] at hrefuse
        cases hrefuse
      · cases hsend
        exact Or.inl ⟨rfl, rfl, rfl⟩
      · cases hsend
  | sendNext =>
      simp only [sendOf] at hsend
      split at hsend
      · rename_i hb
        obtain ⟨j, -, heq⟩ := Option.map_eq_some_iff.mp hsend
        cases heq
        exact Or.inr ⟨rfl, h.responses _ hb⟩
      · cases hsend
  | _ => cases hsend

omit [DecidableEq ι] in
theorem resume_target {s : Handshake ι F Key} {i j : ι} {pktId : UInt16}
    {serialized : List UInt8} (h : sendOf env s (.resume j) = some (i, pktId, serialized)) :
    j = i := by
  simp only [sendOf] at h
  split at h
  all_goals
    cases h
    try rfl

/-- A step keeps the boundary exactly when its frame finds the encryption
    enabled. -/
theorem step_introduced_iff {s s' : Handshake ι F Key} {label : Label ι} (h : s.Tracked)
    (hi : Introduced env s) (hstep : step env s label = some s') :
    Introduced env s' ↔ AfterEnable env s label := by
  have hsent := step_sent hstep
  unfold Introduced
  rw [hsent]
  cases hsend : sendOf env s label with
  | none =>
      exact iff_of_true hi (by simp only [AfterEnable, hsend])
  | some m =>
      obtain ⟨i, pktId, serialized⟩ := m
      simp only [send_sent]
      by_cases hposts : s.admissions i ≠ 0 ∧
          (frameOf env s.gateway i pktId serialized).isSome = true
      · obtain ⟨hadm, hsome⟩ := hposts
        obtain ⟨f, hf⟩ := Option.isSome_iff_exists.mp hsome
        have hafter : AfterEnable env s label
            ↔ (¬ FirstResponse s label → (s.gateway.sessions i).cryptoEnabled = true) := by
          simp only [AfterEnable, hsend]
          exact ⟨fun hall => hall hadm hsome, fun hon _ _ => hon⟩
        have hposted : ∀ j, (if j = i ∧ s.admissions i ≠ 0 then
            (frameOf env s.gateway i pktId serialized).toList else [])
              = if j = i then [f] else [] := by
          intro j
          simp [hadm, hf]
        simp only [hposted]
        have hencrypted := frameOf_encrypted (h.armed i).1 hf
        rw [introduced_posted hi i f, hafter, hencrypted]
        split
        · rename_i hnil
          obtain ⟨hone, hstage⟩ := (h.staged i).unanswered hadm hnil
          have hoff : (s.gateway.sessions i).cryptoEnabled = false :=
            Bool.eq_false_iff.mpr fun hon => (h.armed i).2 hon hnil
          rcases sendOf_cases h hsend hstage with ⟨rfl, rfl, rfl⟩ | ⟨rfl, hpktId⟩
          · exact iff_of_true (frameOf_response hoff hf) fun hfirst =>
              absurd ⟨hstage, hone⟩ hfirst
          · have hid := (frameOf_sealed hf).1
            refine iff_of_false (fun hc => hpktId (hid ▸ congrArg ClientFrame.pktId hc))
              fun hon => ?_
            rw [hoff] at hon
            exact Bool.false_ne_true (hon id)
        · rename_i hne
          refine ⟨fun hon _ => hon, fun hon => hon fun hfirst => ?_⟩
          cases label with
          | resume j =>
              obtain rfl : j = i := resume_target hsend
              exact hne ((h.staged j).answered hfirst.2 hfirst.1)
          | _ => exact hfirst
      · refine iff_of_true (fun j => ?_) ?_
        · have hnone : (if j = i ∧ s.admissions i ≠ 0 then
              (frameOf env s.gateway i pktId serialized).toList else []) = [] := by
            split
            · rename_i hj
              simpa [hj.2] using hposts
            · rfl
          rw [hnone, List.append_nil]
          exact hi j
        · simp only [AfterEnable, hsend]
          exact fun hadm hsome => absurd ⟨hadm, hsome⟩ hposts

/-- The boundary holds throughout a run exactly when every frame to an admitted
    session, its first response apart, is sent after `EnableEncryption`. The
    response is the two bytes of a message whose field 1 is true. -/
theorem introduced_iff_afterEnable (env : GatewayEnv F Key)
    (hres : env.serializeConnectRes ⟨true, ""⟩ = [8, 1]) (labels : List (Label ι)) :
    Always (step env) (Introduced env) start labels
      ↔ Meets (step env) (AfterEnable env) start labels :=
  always_iff_meets Tracked (fun hs _ hafter hstep => step_tracked hres hs hafter hstep)
    (fun hs hi hstep => step_introduced_iff hs hi hstep) start_tracked fun _ => Or.inl rfl

/-- A gateway that is sent one more message: a word of "b", for "a". -/
def chatEnv : GatewayEnv Unit Unit :=
  { GatewayEnv.sample with
    parseChatRes := fun payload =>
      if payload = [10, 1, 98, 18, 1, 104, 26, 1, 97] then some ⟨"b", "h", ["a"]⟩ else none
    serializeChatRes := fun _ => [10, 1, 98, 18, 1, 104] }

/-- The token of "a" arrives, and session 0 presents it. -/
def verified : List (Label Nat) :=
  [.gamePacket PacketId.gameGatewayTokenNotify [10, 1, 97, 18, 1, 116, 24, 100],
    .callback (.accept 0 0), .callback (.headerRead 0 ⟨10, PacketId.clientGatewayConnectReq⟩ 0 0),
    .callback (.payloadRead 0 [10, 1, 97, 18, 1, 116] 0)]

/-- The word of "b". -/
def word : List (Label Nat) :=
  [.gamePacket PacketId.gameGatewayChatRes [10, 1, 98, 18, 1, 104, 26, 1, 97], .sendNext]

/-- The broadcast comes after the handler has returned. -/
theorem introduced_lateWord :
    Always (step chatEnv) (Introduced chatEnv) (start : Handshake Nat Unit Unit)
      (verified ++ [.resume 0, .resume 0, .resume 0] ++ word) :=
  (introduced_iff_afterEnable chatEnv rfl _).mpr (by decide +kernel)

/-- The broadcast comes between the entry in `clientMap` and the response. -/
theorem introduced_earlyWord :
    ¬ Always (step chatEnv) (Introduced chatEnv) (start : Handshake Nat Unit Unit)
      (verified ++ [.resume 0] ++ word) := by
  intro h
  obtain ⟨t, hexec, hsent⟩ : ∃ t, exec (step chatEnv) (start : Handshake Nat Unit Unit)
      (verified ++ [.resume 0] ++ word) = some t ∧
        t.sent 0 = [⟨PacketId.gatewayClientChatRes, [10, 1, 98, 18, 1, 104], false,
          [10, 0, 23, 0, 10, 1, 98, 18, 1, 104]⟩] :=
    ⟨_, rfl, by decide +kernel⟩
  rcases always_iff_exec.mp h _ (List.prefix_refl _) t hexec 0 with hnil | ⟨later, hcons, -⟩
  · rw [hsent] at hnil
    cases hnil
  · rw [hsent] at hcons
    exact absurd (congrArg ClientFrame.pktId (List.cons.inj hcons).1) (by decide)

end Handshake

end MMOServers.GatewayServer
