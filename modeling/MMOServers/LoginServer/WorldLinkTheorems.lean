/-
MMOServers.LoginServer.WorldLinkTheorems — which world selections the world
server can read.

A payload of a client has up to 4092 bytes, so an id that a session gets has up
to 4089 (`Bounded`). In the packet for the world server there is the world
beside it, which takes up to eleven bytes more, and the frame can have up to
4107. The link holds on a run exactly when no session selects a world that
together with its id takes too much (`linkHolds_iff_selectsShort`). With a
database the ids have up to 50 bytes, and the link always holds.
-/
import MMOServers.LoginServer.WorldLink
import MMOServers.LoginServer.LoginSteps
import MMOServers.Network.FramingTheorems

namespace MMOServers.LoginServer

open MMOServers.Common MMOServers.Network Transition Protobuf

/-! ## Lengths -/

/-- The id can stand in a payload. -/
def IdFits (id : String) : Prop :=
  (stringField 1 id).length ≤ maxPacketSize - PacketHeader.byteSize

theorem idFits_empty : IdFits "" := Nat.zero_le _

theorem IdFits.utf8ByteSize_le {id : String} (h : IdFits id) : id.utf8ByteSize ≤ 4092 :=
  Nat.le_trans (utf8ByteSize_le_stringField 1 id) h

theorem int32Varint_length_le (x : Int32) : (int32Varint x).length ≤ 10 := varint_length_le _

/-- A selection is longer than its id by eleven bytes at most. -/
theorem IdFits.wire_length_le {req : LoginWorldSelectReq} (h : IdFits req.accountId) :
    req.wire.length ≤ 4103 := by
  have hid : (stringField 1 req.accountId).length ≤ 4092 := h
  have hworld := int32Varint_length_le req.worldId
  rw [LoginWorldSelectReq.wire, List.length_append]
  by_cases hzero : req.worldId = 0
  · rw [hzero, int32Field_zero, List.length_nil]
    omega
  · rw [int32Field_length (by decide) hzero]
    omega

/-- When a selection fits, in terms of its id and its world. -/
theorem IdFits.wire_fits_iff {req : LoginWorldSelectReq} (h : IdFits req.accountId) :
    req.wire.length ≤ maxPacketSize - PacketHeader.byteSize ↔
      req.worldId = 0 ∨ req.accountId.utf8ByteSize + (int32Varint req.worldId).length ≤ 4088 := by
  have hid : (stringField 1 req.accountId).length ≤ 4092 := h
  have hworld := int32Varint_length_le req.worldId
  have hsize := h.utf8ByteSize_le
  show req.wire.length ≤ 4092 ↔ _
  rw [LoginWorldSelectReq.wire, List.length_append]
  by_cases hzero : req.worldId = 0
  · rw [hzero, int32Field_zero, List.length_nil]
    exact iff_of_true (by omega) (Or.inl rfl)
  · rw [int32Field_length (by decide) hzero, or_iff_right hzero]
    by_cases hempty : req.accountId = ""
    · have hnone : (stringField 1 req.accountId).length = 0 := by
        rw [hempty]
        rfl
      have hbytes : req.accountId.utf8ByteSize = 0 := by
        rw [hempty]
        rfl
      omega
    · rw [stringField_length (by decide) hempty (by omega)]
      split <;> omega

/-! ## Frames on the link -/

theorem accepted_iff (h : PacketHeader) : Accepted h ↔ h.InRange := by
  constructor
  · intro haccepted
    have hread := haccepted { stream := [], buffer := [] }
    by_contra hout
    have hrange : h.size.toNat < PacketHeader.byteSize ∨ maxPacketSize < h.size.toNat := by
      unfold PacketHeader.InRange at hout
      omega
    simp only [FrameReader.headerRead, if_pos hrange] at hread
    exact hread rfl
  · intro hin r
    have hrange : ¬ (h.size.toNat < PacketHeader.byteSize ∨ maxPacketSize < h.size.toNat) := by
      unfold PacketHeader.InRange at hin
      omega
    simp only [FrameReader.headerRead, if_neg hrange]
    split
    · intro hnone
      cases hnone
    · rename_i hsize
      have hvalid := validatePayloadSize_of_fits hin.1 hin.2 hsize
      simp only [FrameReader.payloadBuffer, hvalid, if_true]
      intro hnone
      cases hnone

/-- The header of a frame of up to 65535 bytes is accepted when the payload fits. -/
theorem framed_accepted_iff {packet : UInt16 × List UInt8}
    (hlen : packet.2.length < 65536 - PacketHeader.byteSize) :
    Accepted (PacketHeader.ofBytes (framed packet)) ↔ Fits packet := by
  have hsize : (UInt16.ofNat (PacketHeader.byteSize + packet.2.length)).toNat
      = PacketHeader.byteSize + packet.2.length := by
    rw [UInt16.toNat_ofNat']
    unfold PacketHeader.byteSize at *
    omega
  rw [framed, PacketHeader.ofBytes_bytes, accepted_iff]
  unfold PacketHeader.InRange Fits
  rw [hsize]
  unfold PacketHeader.byteSize maxPacketSize
  omega

namespace LoginContext

variable {ι : Type} [DecidableEq ι] {env : ServerEnv}

/-! ## What a client can bring -/

/-- A payload that is read has up to 4092 bytes, and so has the id of every task. -/
structure Sized (s : LoginContext ι) : Prop where
  payload : ∀ i size, (s.sessions i).reading = some (.payload size) →
    size.toNat ≤ maxPacketSize - PacketHeader.byteSize
  tasks : ∀ task ∈ s.dbTasks, IdFits task.req.id

omit [DecidableEq ι] in
theorem start_sized : (start : LoginContext ι).Sized where
  payload _ _ hread := by cases hread
  tasks _ htask := by cases htask

theorem Sized.modify {s : LoginContext ι} (h : s.Sized) (i : ι) {f : Session → Session}
    (hf : ∀ size, (f (s.sessions i)).reading = some (.payload size) →
      size.toNat ≤ maxPacketSize - PacketHeader.byteSize) : (s.modify i f).Sized := by
  refine ⟨?_, h.tasks⟩
  intro j size hread
  by_cases hj : j = i
  · subst hj
    rw [modify_self] at hread
    exact hf size hread
  · rw [modify_other s f hj] at hread
    exact h.payload j size hread

/-- An update that leaves the pending read alone. -/
theorem Sized.modify_other {s : LoginContext ι} (h : s.Sized) (i : ι) {f : Session → Session}
    (hf : (f (s.sessions i)).reading = (s.sessions i).reading) : (s.modify i f).Sized := by
  refine h.modify i fun size hread => h.payload i size ?_
  rw [← hf, hread]

theorem Sized.send {s : LoginContext ι} (h : s.Sized) (i : ι) (pktId : UInt16)
    (serialized : List UInt8) : (s.send i pktId serialized).Sized := by
  unfold LoginContext.send
  split
  · exact h
  · rename_i data _
    have hposted := h.modify_other i (f := fun c =>
      { c with strand := c.strand ++ [.send ⟨s.nextBuffer, data⟩] }) rfl
    exact ⟨hposted.payload, hposted.tasks⟩

theorem Sized.onDisconnected {s : LoginContext ι} (h : s.Sized) (i : ι) :
    (s.onDisconnected i).Sized := by
  have hcancelled := h.modify_other i (f := Session.cancelTimer) rfl
  unfold LoginContext.onDisconnected
  dsimp only
  split
  · exact ⟨hcancelled.payload, hcancelled.tasks⟩
  · exact ⟨hcancelled.payload, hcancelled.tasks⟩

theorem Sized.worldDispatch {s : LoginContext ι} (h : s.Sized) (id : UInt16)
    (payload : List UInt8) : (s.worldDispatch env id payload).Sized := by
  rw [worldDispatch_relays]
  split
  · exact h
  · exact h.send _ _ _

theorem Sized.runTask {s : LoginContext ι} (h : s.Sized) (i : ι) (task : SessionTask) :
    (s.runTask i task).Sized := by
  unfold LoginContext.runTask
  split
  · exact h.modify_other i rfl
  · exact h.modify_other i rfl

/-- The id of a new task stands in the payload. -/
theorem Sized.dispatch {s : LoginContext ι} (h : s.Sized) (hwire : WireFormat env) (i : ι)
    (id : UInt16) {payload : List UInt8}
    (hpayload : payload.length ≤ maxPacketSize - PacketHeader.byteSize) (now : Nat) :
    (s.dispatch env i id payload now).Sized := by
  unfold LoginContext.dispatch
  split
  · unfold handleLoginReq
    split
    · exact h
    · rename_i req hparse
      refine ⟨h.payload, ?_⟩
      intro task htask
      rcases List.mem_append.mp htask with hold | hnew
      · exact h.tasks task hold
      · obtain rfl := List.mem_singleton.mp hnew
        exact Nat.le_trans (hwire.parse payload req hparse) hpayload
  split
  · unfold handleHeartbeat
    split
    · exact h.modify_other i rfl
    · exact h
  split
  · unfold handleWorldSelectReq
    split
    · exact h
    · dsimp only
      split
      · exact ⟨h.payload, h.tasks⟩
      · exact h
  · exact h

theorem Sized.setReading {s : LoginContext ι} (h : s.Sized) (i : ι) {op : Option ReadOp}
    (hop : ∀ size, op = some (.payload size) →
      size.toNat ≤ maxPacketSize - PacketHeader.byteSize) : (s.setReading i op).Sized :=
  h.modify i hop

theorem Sized.endRead {s : LoginContext ι} (h : s.Sized) (i : ι) :
    (s.setReading i none).Sized := h.setReading i fun size hsize => by cases hsize

theorem Sized.readHeader {s : LoginContext ι} (h : s.Sized) (i : ι) :
    (s.setReading i (some .header)).Sized := h.setReading i fun size hsize => by cases hsize

theorem Sized.headerRead {s : LoginContext ι} (h : s.Sized) (hwire : WireFormat env) (i : ι)
    (header : PacketHeader) (now : Nat) : (s.headerRead env i header now).Sized := by
  have hread : (s.modify i fun c => { c with header := header, reading := none }).Sized :=
    h.modify i fun size hsize => by cases hsize
  unfold LoginContext.headerRead
  dsimp only
  split
  · exact hread
  split
  · exact (hread.dispatch hwire i header.id (Nat.zero_le _) now).readHeader i
  split
  · exact hread.onDisconnected i
  · rename_i hvalid
    refine hread.setReading i ?_
    intro size hsize
    obtain rfl := ReadOp.payload.inj (Option.some.inj hsize)
    simp only [validatePayloadSize, Bool.not_eq_true', Bool.not_eq_false, Bool.and_eq_true,
      decide_eq_true_eq] at hvalid
    exact hvalid.2

theorem Sized.timerRuns {s : LoginContext ι} (h : s.Sized) (i : ι) (now : Nat) :
    (s.timerRuns i now).Sized := by
  have hidle : (s.modify i fun c => { c with heartbeatTimer := .idle }).Sized :=
    h.modify_other i rfl
  unfold LoginContext.timerRuns
  dsimp only
  split
  · exact hidle.onDisconnected i
  · exact hidle.modify_other i rfl

theorem Sized.runDbTask {s : LoginContext ι} (h : s.Sized) (task : DbTask ι)
    (answer : DbAnswer) : (s.runDbTask env task answer).Sized := by
  unfold LoginContext.runDbTask
  dsimp only
  split
  · have hid := h.modify_other task.session (f := fun c =>
      { c with loggedInId := task.req.id }) rfl
    have hgranted : (s.grant task.session task.req.id).Sized := ⟨hid.payload, hid.tasks⟩
    exact hgranted.send _ _ _
  · exact h.send _ _ _

theorem step_sized (hwire : WireFormat env) {s s' : LoginContext ι} {label : Label ι}
    (h : s.Sized) (hstep : step env s label = some s') : s'.Sized := by
  cases step_inv hstep with
  | accept i now new =>
      have hstarted := h.modify i (f := fun c => c.start now) fun size hsize => by cases hsize
      exact ⟨hstarted.payload, hstarted.tasks⟩
  | headerRead header now reading => exact h.headerRead hwire _ header now
  | @payloadRead i size bytes now reading length =>
      have hbytes := length ▸ h.payload i size reading
      exact ((h.endRead i).dispatch hwire i _ hbytes now).readHeader i
  | readFails reading => exact (h.endRead _).onDisconnected _
  | timerExpires waiting => exact h.modify_other _ rfl
  | timerRuns now expired => exact h.timerRuns _ now
  | @dbTask n task answer queued =>
      have hrest : ({ s with dbTasks := s.dbTasks.eraseIdx n } : LoginContext ι).Sized :=
        ⟨h.payload, fun task htask => h.tasks task (List.mem_of_mem_eraseIdx htask)⟩
      exact hrest.runDbTask _ _
  | writeEnds ec outstanding running => exact h.modify_other _ rfl
  | runStrand strand => exact (h.modify_other _ rfl).runTask _ _
  | worldPacket id payload => exact h.worldDispatch id payload
  | worldLink isOpen => exact ⟨h.payload, h.tasks⟩

/-! ## What is selected -/

/-- The selection that the step hands to the world connection. -/
def newSelection (env : ServerEnv) (s : LoginContext ι) (label : Label ι) :
    Option LoginWorldSelectReq :=
  if s.worldOpen then
    (selectOf env s label).map fun select => ⟨(s.sessions select.1).loggedInId, select.2.worldId⟩
  else none

omit [DecidableEq ι] in
theorem Silent.selections {s s' : LoginContext ι} (h : Silent s s') :
    s'.selections = s.selections := by
  rw [LoginContext.selections, LoginContext.selections, h.trace]

theorem onDisconnected_selections (s : LoginContext ι) (i : ι) :
    (s.onDisconnected i).selections = s.selections := by
  rw [selections, selections, onDisconnected_trace, List.reverse_cons, List.filterMap_append]
  exact List.append_nil _

theorem grant_selections (s : LoginContext ι) (i : ι) (id : String) :
    (s.grant i id).selections = s.selections := by
  have htrace : (s.grant i id).trace = .granted i id :: s.trace := rfl
  rw [selections, selections, htrace, List.reverse_cons, List.filterMap_append]
  exact List.append_nil _

omit [DecidableEq ι] in
theorem record_forwarded_selections (s : LoginContext ι) (i : ι) (req : LoginWorldSelectReq) :
    (s.record (.forwarded i req)).selections = s.selections ++ [req] := by
  have htrace : (s.record (.forwarded i req)).trace = .forwarded i req :: s.trace := rfl
  rw [selections, selections, htrace, List.reverse_cons, List.filterMap_append]
  rfl

omit [DecidableEq ι] in
theorem newSelection_none {s : LoginContext ι} {label : Label ι}
    (h : selectOf env s label = none) : newSelection env s label = none := by
  simp only [newSelection, h, Option.map_none, ite_self]

omit [DecidableEq ι] in
theorem selections_append_none {s s' : LoginContext ι} {label : Label ι}
    (h : s'.selections = s.selections) (hnone : selectOf env s label = none) :
    s'.selections = s.selections ++ (newSelection env s label).toList := by
  rw [newSelection_none hnone, h]
  exact (List.append_nil _).symm

omit [DecidableEq ι] in
/-- The world connection has no check, so it takes every selection while it is up. -/
theorem handleWorldSelectReq_selections {s s₀ : LoginContext ι} {label : Label ι} {i : ι}
    {payload : List UInt8} (h : Silent s s₀) (hopen : s₀.worldOpen = s.worldOpen)
    (hselect : selectOf env s label = (env.parseWorldSelectReq payload).map fun req => (i, req)) :
    (s₀.handleWorldSelectReq env i payload).selections
      = s.selections ++ (newSelection env s label).toList := by
  unfold handleWorldSelectReq
  cases hparse : env.parseWorldSelectReq payload with
  | none =>
      rw [hparse] at hselect
      exact selections_append_none h.selections hselect
  | some req =>
      rw [hparse] at hselect
      have hnew : newSelection env s label
          = if s.worldOpen then some ⟨(s.sessions i).loggedInId, req.worldId⟩ else none := by
        rw [newSelection, hselect]
        rfl
      rw [hnew, ← hopen, ← h.loggedInId, ← h.selections]
      cases s₀.worldOpen with
      | false => exact (List.append_nil _).symm
      | true => exact record_forwarded_selections s₀ i _

/-- Only the handler of world selections selects anything. -/
theorem dispatch_selections (s : LoginContext ι) (i : ι) {id : UInt16} (payload : List UInt8)
    (now : Nat) (hother : id ≠ PacketId.clientLoginWorldSelectReq) :
    (s.dispatch env i id payload now).selections = s.selections := by
  unfold dispatch
  split
  · unfold handleLoginReq
    split <;> rfl
  split
  · unfold handleHeartbeat
    split
    · exact (modify_silent s i rfl).selections
    · rfl
  · rfl

theorem dispatch_newSelection {s s₀ : LoginContext ι} {label : Label ι} {i : ι} {id : UInt16}
    {payload : List UInt8} (now : Nat) (h : Silent s s₀) (hopen : s₀.worldOpen = s.worldOpen)
    (hselect : selectOf env s label =
      if id = PacketId.clientLoginWorldSelectReq then
        (env.parseWorldSelectReq payload).map fun req => (i, req)
      else none) :
    (s₀.dispatch env i id payload now).selections
      = s.selections ++ (newSelection env s label).toList := by
  by_cases hid : id = PacketId.clientLoginWorldSelectReq
  · subst hid
    exact handleWorldSelectReq_selections h hopen hselect
  · rw [if_neg hid] at hselect
    refine selections_append_none ?_ hselect
    rw [dispatch_selections s₀ i payload now hid, h.selections]

/-- A packet of four bytes has an empty payload, and no other has. -/
theorem payloadSize_eq_zero_iff (size : UInt16) :
    PacketHeader.payloadSize size = 0 ↔ size.toNat = PacketHeader.byteSize := by
  constructor
  · intro hzero
    have hsize : PacketHeader.payloadSize size + 4 = size := UInt16.sub_add_cancel size 4
    rw [← hsize, hzero]
    rfl
  · intro hfour
    obtain rfl : size = 4 := UInt16.toNat_inj.mp hfour
    rfl

theorem headerRead_selections (s : LoginContext ι) (i : ι) (h : PacketHeader) (now : Nat) :
    (s.headerRead env i h now).selections
      = s.selections ++ (newSelection env s (.headerRead i h now)).toList := by
  have hread : Silent s (s.modify i fun c => { c with header := h, reading := none }) :=
    modify_silent s i rfl
  unfold headerRead
  dsimp only
  by_cases hsize : h.size.toNat = PacketHeader.byteSize
  · have hrange : ¬ (h.size.toNat < PacketHeader.byteSize || maxPacketSize < h.size.toNat) = true
        := by
      rw [hsize]
      decide
    rw [if_neg hrange, if_pos ((payloadSize_eq_zero_iff h.size).mpr hsize),
      (setReading_silent _ i _).selections]
    refine dispatch_newSelection now hread rfl ?_
    simp only [selectOf, hsize, true_and]
  · have hnone : selectOf env s (.headerRead i h now) = none := by
      simp only [selectOf, hsize, false_and, if_false]
    refine selections_append_none ?_ hnone
    split
    · exact hread.selections
    rw [if_neg (mt (payloadSize_eq_zero_iff h.size).mp hsize)]
    split
    · rw [onDisconnected_selections, hread.selections]
    · rw [(setReading_silent _ i _).selections, hread.selections]

theorem timerRuns_selections (s : LoginContext ι) (i : ι) (now : Nat) :
    (s.timerRuns i now).selections = s.selections := by
  have hidle : Silent s (s.modify i fun c => { c with heartbeatTimer := .idle }) :=
    modify_silent s i rfl
  unfold timerRuns
  dsimp only
  split
  · rw [onDisconnected_selections, hidle.selections]
  · exact (hidle.trans (modify_silent _ i rfl)).selections

theorem runDbTask_selections (s : LoginContext ι) (task : DbTask ι) (answer : DbAnswer) :
    (s.runDbTask env task answer).selections = s.selections := by
  unfold runDbTask
  rw [(send_silent _ _ _ _).selections]
  split
  · exact grant_selections _ _ _
  · rfl

theorem step_selections {s s' : LoginContext ι} {label : Label ι}
    (hstep : step env s label = some s') :
    s'.selections = s.selections ++ (newSelection env s label).toList := by
  cases step_inv hstep with
  | headerRead h now reading => exact headerRead_selections s _ h now
  | @payloadRead i size bytes now reading length =>
      rw [payloadRead, (setReading_silent _ i _).selections]
      exact dispatch_newSelection now (setReading_silent s i none) rfl rfl
  | accept i now new =>
      have hstarted : Silent s (s.modify i fun c => c.start now) := modify_silent s i rfl
      exact selections_append_none hstarted.selections rfl
  | @readFails i reading =>
      refine selections_append_none ?_ rfl
      rw [onDisconnected_selections, (setReading_silent s i none).selections]
  | timerExpires waiting => exact selections_append_none (modify_silent s _ rfl).selections rfl
  | timerRuns now expired => exact selections_append_none (timerRuns_selections s _ now) rfl
  | dbTask answer queued => exact selections_append_none (runDbTask_selections _ _ answer) rfl
  | writeEnds ec outstanding running =>
      exact selections_append_none (modify_silent s _ rfl).selections rfl
  | @runStrand i task rest strand =>
      have htail : Silent s (s.modify i fun c => { c with strand := rest }) :=
        modify_silent s i rfl
      exact selections_append_none (htail.trans (runTask_silent _ i task)).selections rfl
  | worldPacket id payload =>
      exact selections_append_none (worldDispatch_silent s id payload).selections rfl
  | worldLink isOpen => exact selections_append_none rfl rfl

/-! ## The link -/

/-- The sizes of all that is on its way to the world connection. -/
structure Bounded (env : ServerEnv) (s : LoginContext ι) : Prop where
  sized : s.Sized
  ids : ∀ i, IdFits (s.sessions i).loggedInId
  dbIds : env.useDB = true → ∀ i, (s.sessions i).loggedInId.utf8ByteSize ≤ 50
  selections : ∀ req ∈ s.selections, IdFits req.accountId

omit [DecidableEq ι] in
theorem start_bounded (env : ServerEnv) : (start : LoginContext ι).Bounded env where
  sized := start_sized
  ids _ := idFits_empty
  dbIds _ _ := Nat.zero_le _
  selections := nofun

/-- With a database a login passes the length test. -/
theorem wellSized_of_isAuthSuccess (huse : env.useDB = true) {req : LoginReq} {answer : DbAnswer}
    (h : isAuthSuccess env req answer = true) :
    (⟨req.id, req.password, req.inputType.toInt⟩ : LoginArgs).wellSized = true := by
  cases answer with
  | noConnection =>
      rw [isAuthSuccess, huse] at h
      cases h
  | processed result =>
      by_contra hsized
      have herror : processLogin req result = .dbError := by
        unfold processLogin
        dsimp only
        rw [if_neg hsized]
      rw [isAuthSuccess, huse, herror] at h
      exact absurd h (by decide)

omit [DecidableEq ι] in
/-- The id of a granted login stands in its task, and `ProcessLogin` has measured it. -/
theorem Sized.grantOf {s : LoginContext ι} (h : s.Sized) {label : Label ι} {i : ι} {id : String}
    (hgrant : grantOf env s label = some (i, id)) :
    IdFits id ∧ (env.useDB = true → id.utf8ByteSize ≤ 50) := by
  cases label with
  | dbTask n answer =>
      simp only [LoginContext.grantOf] at hgrant
      split at hgrant
      · cases hgrant
      · rename_i task htask
        split at hgrant
        · rename_i hgranted
          obtain ⟨-, rfl⟩ := Prod.mk.inj (Option.some.inj hgrant)
          refine ⟨h.tasks task (List.mem_of_getElem? htask), ?_⟩
          intro huse
          rw [grants, Bool.and_eq_true] at hgranted
          have hsized := wellSized_of_isAuthSuccess huse hgranted.1
          simp only [LoginArgs.wellSized, Bool.not_eq_true', Bool.or_eq_false_iff,
            decide_eq_false_iff_not, Nat.not_lt] at hsized
          exact hsized.1.1.2
        · cases hgrant
  | _ => cases hgrant

theorem step_bounded (hwire : WireFormat env) {s s' : LoginContext ι} {label : Label ι}
    (h : s.Bounded env) (hstep : step env s label = some s') : s'.Bounded env := by
  have hids : (∀ i, IdFits (s'.sessions i).loggedInId) ∧
      (env.useDB = true → ∀ i, (s'.sessions i).loggedInId.utf8ByteSize ≤ 50) := by
    cases step_effect hstep with
    | quiet ungranted hs => exact ⟨fun i => hs.loggedInId i ▸ h.ids i,
        fun huse i => hs.loggedInId i ▸ h.dbIds huse i⟩
    | forwards j req ungranted account hs => exact ⟨fun i => hs.loggedInId i ▸ h.ids i,
        fun huse i => hs.loggedInId i ▸ h.dbIds huse i⟩
    | disconnects j s₁ ungranted hs =>
        have hkept : ∀ i, ((s₁.onDisconnected j).sessions i).loggedInId
            = (s.sessions i).loggedInId := by
          intro i
          rw [onDisconnected_loggedInId, hs.loggedInId]
        exact ⟨fun i => hkept i ▸ h.ids i, fun huse i => hkept i ▸ h.dbIds huse i⟩
    | grants j id granted unused hs =>
        obtain ⟨hfits, hshort⟩ := h.sized.grantOf granted
        have hid : ∀ i, (s'.sessions i).loggedInId = id ∨
            (s'.sessions i).loggedInId = (s.sessions i).loggedInId := by
          intro i
          rw [hs.loggedInId]
          by_cases hi : i = j
          · subst hi
            exact Or.inl (by simp [grant, record])
          · exact Or.inr (by simp [grant, record, modify, hi])
        refine ⟨?_, ?_⟩
        · intro i
          rcases hid i with heq | heq
          · exact heq ▸ hfits
          · exact heq ▸ h.ids i
        · intro huse i
          rcases hid i with heq | heq
          · exact heq ▸ hshort huse
          · exact heq ▸ h.dbIds huse i
  refine ⟨step_sized hwire h.sized hstep, hids.1, hids.2, ?_⟩
  intro req hreq
  rw [step_selections hstep] at hreq
  rcases List.mem_append.mp hreq with hold | hnew
  · exact h.selections req hold
  · rw [Option.mem_toList, newSelection] at hnew
    split at hnew
    · obtain ⟨select, -, rfl⟩ := Option.map_eq_some_iff.mp hnew
      exact h.ids select.1
    · cases hnew

/-- The packet for a selection. -/
def selectPacket (req : LoginWorldSelectReq) : UInt16 × List UInt8 :=
  (PacketId.loginWorldSelectReq, req.wire)

omit [DecidableEq ι] in
theorem Bounded.selectFrames_eq (hwire : WireFormat env) {s : LoginContext ι}
    (h : s.Bounded env) :
    s.selectFrames env = s.selections.map fun req => framed (selectPacket req) := by
  rw [selectFrames, ← List.filterMap_eq_map]
  refine List.filterMap_congr ?_
  intro req hreq
  rw [hwire.serialize]
  refine worldConnection_frame (selectPacket req) ?_
  have hlen : (selectPacket req).2.length ≤ 4103 := (h.selections req hreq).wire_length_le
  unfold PacketHeader.byteSize
  omega

omit [DecidableEq ι] in
/-- The link holds as long as every selection fits. -/
theorem Bounded.linkHolds_iff (hwire : WireFormat env) {s : LoginContext ι}
    (h : s.Bounded env) :
    s.LinkHolds env ↔ ∀ req ∈ s.selections, Fits (selectPacket req) := by
  have hframes := h.selectFrames_eq hwire
  constructor
  · intro hlink req hreq
    have haccepted := hlink.accepted (framed (selectPacket req)) (by
      rw [hframes]
      exact List.mem_map_of_mem hreq)
    refine (framed_accepted_iff ?_).mp haccepted
    have hlen : (selectPacket req).2.length ≤ 4103 := (h.selections req hreq).wire_length_le
    unfold PacketHeader.byteSize
    omega
  · intro hfits
    refine ⟨?_, ?_⟩
    · intro frame hframe
      rw [hframes] at hframe
      obtain ⟨req, hreq, rfl⟩ := List.mem_map.mp hframe
      have hpacket := hfits req hreq
      have hlen : (selectPacket req).2.length ≤ 4092 := hpacket
      refine (framed_accepted_iff ?_).mpr hpacket
      unfold PacketHeader.byteSize
      omega
    · intro labels r hrun
      have hflat : (s.selectFrames env).flatten
          = (s.selections.map selectPacket).flatMap framed := by
        rw [hframes, List.flatMap_map]
        rfl
      rw [hflat] at hrun
      refine (exec_inv FrameReader.step_tracks (FrameReader.start_tracks _ _) hrun).reading_ne_none
        ?_
      intro packet hpacket
      obtain ⟨req, hreq, rfl⟩ := List.mem_map.mp hpacket
      exact hfits req hreq

theorem step_linkHolds_iff (hwire : WireFormat env) {s s' : LoginContext ι} {label : Label ι}
    (h : s.Bounded env) (hlink : s.LinkHolds env) (hstep : step env s label = some s') :
    s'.LinkHolds env ↔ SelectsShort env s label := by
  have hold := (h.linkHolds_iff hwire).mp hlink
  rw [(step_bounded hwire h hstep).linkHolds_iff hwire, step_selections hstep]
  constructor
  · intro hfits hopen i select hselect
    have hnew : newSelection env s label = some ⟨(s.sessions i).loggedInId, select.worldId⟩ := by
      rw [newSelection, if_pos hopen, hselect]
      rfl
    have hpacket := hfits _ (List.mem_append_right _ (Option.mem_toList.mpr hnew))
    exact (h.ids i).wire_fits_iff.mp hpacket
  · intro hshort req hreq
    rcases List.mem_append.mp hreq with hmem | hmem
    · exact hold req hmem
    · rw [Option.mem_toList, newSelection] at hmem
      split at hmem
      · rename_i hopen
        obtain ⟨⟨i, select⟩, hselect, rfl⟩ := Option.map_eq_some_iff.mp hmem
        exact (h.ids i).wire_fits_iff.mpr (hshort hopen i select hselect)
      · cases hmem

omit [DecidableEq ι] in
/-- Ids that the database accepts are short enough for any world. -/
theorem Bounded.selectsShort {s : LoginContext ι} (h : s.Bounded env) (huse : env.useDB = true)
    (label : Label ι) : SelectsShort env s label := by
  intro _ i select _
  have hid := h.dbIds huse i
  have hworld := int32Varint_length_le select.worldId
  exact Or.inr (by omega)

/-- The link holds on exactly the runs on which no session selects a world that takes
    too much beside its id; with a database these are all runs. -/
theorem linkHolds_iff_selectsShort (env : ServerEnv) (hwire : WireFormat env)
    (labels : List (Label ι)) :
    (Always (step env) (LinkHolds env) start labels
      ↔ Meets (step env) (SelectsShort env) start labels) ∧
      (env.useDB = true → Always (step env) (LinkHolds env) start labels) := by
  have hstart : (start : LoginContext ι).LinkHolds env :=
    ((start_bounded env).linkHolds_iff hwire).mpr nofun
  have hiff : Always (step env) (LinkHolds env) start labels
      ↔ Meets (step env) (SelectsShort env) start labels :=
    always_iff_meets (Bounded env) (fun h _ _ hstep => step_bounded hwire h hstep)
      (fun h hlink hstep => step_linkHolds_iff hwire h hlink hstep) (start_bounded env) hstart
  refine ⟨hiff, fun huse => hiff.mpr ?_⟩
  exact meets_of_labels (Bounded env) (fun h _ hstep => step_bounded hwire h hstep)
    (fun h _ _ => h.selectsShort huse _) (start_bounded env) fun _ _ => trivial

/-! ## A client with a long id -/

/-- A payload that is announced with a size in range is waited for. -/
theorem headerRead_payload (s : LoginContext ι) (i : ι) {h : PacketHeader} (now : Nat)
    (hin : h.InRange) (hsize : PacketHeader.payloadSize h.size ≠ 0) :
    s.headerRead env i h now =
      (s.modify i fun c => { c with header := h, reading := none }).setReading i
        (some (.payload (PacketHeader.payloadSize h.size))) := by
  have hrange : ¬ (h.size.toNat < PacketHeader.byteSize || maxPacketSize < h.size.toNat) = true
      := by
    unfold PacketHeader.InRange at hin
    simp only [Bool.or_eq_true, decide_eq_true_eq]
    omega
  have hvalid := validatePayloadSize_of_fits hin.1 hin.2 hsize
  unfold headerRead
  dsimp only
  rw [if_neg hrange, if_neg hsize, hvalid]
  rfl

theorem send_read (s : LoginContext ι) (i : ι) (pktId : UInt16) (serialized : List UInt8) :
    ((s.send i pktId serialized).sessions i).reading = (s.sessions i).reading ∧
      (s.send i pktId serialized).worldOpen = s.worldOpen := by
  unfold send
  split
  · exact ⟨rfl, rfl⟩
  · refine ⟨?_, rfl⟩
    simp only [modify_self]

/-- A granted task gives its session the id and leaves it reading. -/
theorem runDbTask_granted {s : LoginContext ι} {task : DbTask ι} {answer : DbAnswer}
    (h : s.grants env task answer = true) :
    Silent (s.grant task.session task.req.id) (s.runDbTask env task answer) ∧
      ((s.runDbTask env task answer).sessions task.session).reading
        = (s.sessions task.session).reading ∧
      (s.runDbTask env task answer).worldOpen = s.worldOpen := by
  have hread : ((s.grant task.session task.req.id).sessions task.session).reading
      = (s.sessions task.session).reading := by
    simp only [grant, record, modify_self]
  have hrun : s.runDbTask env task answer = (s.grant task.session task.req.id).send task.session
      PacketId.loginClientLoginRes (env.serializeLoginRes ⟨true⟩) := by
    simp only [runDbTask, h, if_true]
  obtain ⟨hreading, hopen⟩ := send_read (s.grant task.session task.req.id) task.session
    PacketId.loginClientLoginRes (env.serializeLoginRes ⟨true⟩)
  rw [hrun]
  exact ⟨send_silent _ _ _ _, hreading.trans hread, hopen⟩

/-- A packet with a payload: the header and the payload are read. -/
def packetReads (i : ι) (id : UInt16) (payload : List UInt8) (now : Nat) : List (Label ι) :=
  [.headerRead i ⟨UInt16.ofNat (PacketHeader.byteSize + payload.length), id⟩ now,
    .payloadRead i payload now]

theorem exec_packetReads (env : ServerEnv) {s : LoginContext ι} {i : ι}
    (hreading : (s.sessions i).reading = some .header) {payload : List UInt8}
    (hpos : 0 < payload.length)
    (hlen : payload.length ≤ maxPacketSize - PacketHeader.byteSize) (id : UInt16) (now : Nat) :
    ∃ s₀, Silent s s₀ ∧ s₀.worldOpen = s.worldOpen ∧ s₀.dbTasks = s.dbTasks ∧
      exec (step env) s (packetReads i id payload now)
        = some ((s₀.dispatch env i id payload now).setReading i (some .header)) := by
  let h : PacketHeader := ⟨UInt16.ofNat (PacketHeader.byteSize + payload.length), id⟩
  have htotal : h.size.toNat = PacketHeader.byteSize + payload.length := by
    show (UInt16.ofNat (PacketHeader.byteSize + payload.length)).toNat = _
    rw [UInt16.toNat_ofNat']
    unfold maxPacketSize PacketHeader.byteSize at *
    omega
  have hin : h.InRange := by
    unfold PacketHeader.InRange
    unfold maxPacketSize PacketHeader.byteSize at *
    omega
  have hsize : (PacketHeader.payloadSize h.size).toNat = payload.length := by
    rw [PacketHeader.payloadSize_toNat hin.1, htotal]
    exact Nat.add_sub_cancel_left _ _
  have hsome : PacketHeader.payloadSize h.size ≠ 0 := by
    intro hzero
    rw [hzero] at hsize
    exact absurd hsize.symm (Nat.ne_of_gt hpos)
  let s₁ := (s.modify i fun c => { c with header := h, reading := none }).setReading i
    (some (.payload (PacketHeader.payloadSize h.size)))
  have hs₁ : Silent s s₁ := (modify_silent s i rfl).trans (setReading_silent _ i _)
  refine ⟨s₁.setReading i none, hs₁.trans (setReading_silent s₁ i none), rfl, rfl, ?_⟩
  have hfirst : step env s (.headerRead i h now) = some s₁ := by
    simp only [step, hreading, if_true, headerRead_payload s i now hin hsome]
    rfl
  have hwaits : (s₁.sessions i).reading = some (.payload (PacketHeader.payloadSize h.size)) := by
    simp only [s₁, setReading, modify_self]
  have hheader : (s₁.sessions i).header.id = id := by
    simp only [s₁, setReading, modify_self, h]
  have hsecond : step env s₁ (.payloadRead i payload now)
      = some (s₁.payloadRead env i payload now) := by
    simp only [step, hwaits, hsize, if_true]
  refine exec_cons_some.mpr ⟨s₁, hfirst, exec_cons_some.mpr ⟨_, hsecond, ?_⟩⟩
  rw [payloadRead, hheader]
  rfl

/-- The login of a session, with what the database answers. -/
theorem exec_login {s : LoginContext ι} {i : ι} (hreading : (s.sessions i).reading = some .header)
    (htasks : s.dbTasks = []) {payload : List UInt8} {req : LoginReq} {answer : DbAnswer}
    (hparse : env.parseLoginReq payload = some req) (hpos : 0 < payload.length)
    (hlen : payload.length ≤ maxPacketSize - PacketHeader.byteSize)
    (hanswer : isAuthSuccess env req answer = true) (hunused : req.id ∉ s.loggedInUsers) :
    ∃ s', exec (step env) s (packetReads i PacketId.clientLoginLoginReq payload 0 ++
        [.dbTask 0 answer]) = some s' ∧
      (s'.sessions i).reading = some .header ∧ (s'.sessions i).loggedInId = req.id ∧
      s'.worldOpen = s.worldOpen ∧ s'.selections = s.selections := by
  obtain ⟨s₀, hs₀, hopen₀, htasks₀, hread⟩ := exec_packetReads env hreading hpos hlen
    PacketId.clientLoginLoginReq 0
  have hdispatch : s₀.dispatch env i PacketId.clientLoginLoginReq payload 0
      = { s₀ with dbTasks := [⟨i, req⟩] } := by
    rw [dispatch, if_pos rfl, handleLoginReq, hparse, htasks₀, htasks]
    rfl
  rw [hdispatch] at hread
  -- `s₁` is the state the task runs in
  let s₁ : LoginContext ι :=
    { ({ s₀ with dbTasks := [⟨i, req⟩] } : LoginContext ι).setReading i (some .header) with
      dbTasks := [] }
  have hs₁ : Silent s s₁ := by
    have hreads := hs₀.trans (setReading_silent s₀ i (some .header))
    exact ⟨hreads.loggedInId, hreads.loggedInUsers, hreads.sessionMap, hreads.trace⟩
  have hgrants : s₁.grants env ⟨i, req⟩ answer = true := by
    rw [grants, hanswer, Bool.true_and, decide_eq_true_eq, hs₁.loggedInUsers]
    exact hunused
  obtain ⟨hgranted, hreading', hopen'⟩ := runDbTask_granted hgrants
  refine ⟨s₁.runDbTask env ⟨i, req⟩ answer, ?_, ?_, ?_, ?_, ?_⟩
  · refine exec_append_some.mpr ⟨_, hread, ?_⟩
    exact exec_cons_some.mpr ⟨_, rfl, rfl⟩
  · rw [hreading']
    simp only [s₁, setReading, modify_self]
  · rw [hgranted.loggedInId]
    simp only [grant, record, modify_self]
  · exact hopen'.trans hopen₀
  · rw [hgranted.selections, grant_selections, hs₁.selections]

/-- The world selection of a session. -/
theorem exec_select {s : LoginContext ι} {i : ι} (hreading : (s.sessions i).reading = some .header)
    (hopen : s.worldOpen = true) {payload : List UInt8} {req : WorldSelectReq}
    (hparse : env.parseWorldSelectReq payload = some req) (hpos : 0 < payload.length)
    (hlen : payload.length ≤ maxPacketSize - PacketHeader.byteSize) :
    ∃ s', exec (step env) s (packetReads i PacketId.clientLoginWorldSelectReq payload 0) = some s' ∧
      s'.selections = s.selections ++ [⟨(s.sessions i).loggedInId, req.worldId⟩] := by
  obtain ⟨s₀, hs₀, hopen₀, htasks₀, hread⟩ := exec_packetReads env hreading hpos hlen
    PacketId.clientLoginWorldSelectReq 0
  refine ⟨_, hread, ?_⟩
  have hselect : s₀.dispatch env i PacketId.clientLoginWorldSelectReq payload 0
      = s₀.record (.forwarded i ⟨(s₀.sessions i).loggedInId, req.worldId⟩) := by
    show s₀.handleWorldSelectReq env i payload = _
    rw [handleWorldSelectReq, hparse]
    simp only [hopen₀, hopen, worldConnection, Option.isSome_some, Bool.and_self, if_true]
  rw [(setReading_silent _ i _).selections, hselect, record_forwarded_selections, hs₀.selections,
    hs₀.loggedInId]

/-- A new session logs in and selects a world. -/
def selectRun (i : ι) (login select : List UInt8) (answer : DbAnswer) : List (Label ι) :=
  [.worldLink true, .accept i 0] ++ ((packetReads i PacketId.clientLoginLoginReq login 0 ++
    [.dbTask 0 answer]) ++ packetReads i PacketId.clientLoginWorldSelectReq select 0)

/-- Whatever id and world the packets of a client hold get to the world connection. -/
theorem exec_selectRun (i : ι) {login select : List UInt8} {req : LoginReq}
    {world : WorldSelectReq} (answer : DbAnswer) (hlogin : env.parseLoginReq login = some req)
    (hselect : env.parseWorldSelectReq select = some world)
    (hanswer : isAuthSuccess env req answer = true)
    (hpos : 0 < login.length ∧ 0 < select.length)
    (hlen : login.length ≤ maxPacketSize - PacketHeader.byteSize ∧
      select.length ≤ maxPacketSize - PacketHeader.byteSize) :
    ∃ s, exec (step env) start (selectRun i login select answer) = some s ∧
      s.selections = [⟨req.id, world.worldId⟩] := by
  have hstart : ∃ s : LoginContext ι,
      exec (step env) start [.worldLink true, .accept i 0] = some s ∧
      (s.sessions i).reading = some .header ∧ s.worldOpen = true ∧ s.dbTasks = [] ∧
      s.loggedInUsers = ∅ ∧ s.selections = [] := by
    refine ⟨_, rfl, ?_, rfl, rfl, rfl, rfl⟩
    simp only [modify_self, Session.start]
  obtain ⟨s, hexec, hreading, hopen, htasks, husers, hselections⟩ := hstart
  have hunused : req.id ∉ s.loggedInUsers := husers ▸ Finset.notMem_empty _
  obtain ⟨s₁, hexec₁, hreading₁, hid₁, hopen₁, hselections₁⟩ :=
    exec_login hreading htasks hlogin hpos.1 hlen.1 hanswer hunused
  obtain ⟨s₂, hexec₂, hselections₂⟩ :=
    exec_select hreading₁ (hopen₁.trans hopen) hselect hpos.2 hlen.2
  refine ⟨s₂, ?_, ?_⟩
  · exact exec_append_some.mpr ⟨s, hexec, exec_append_some.mpr ⟨s₁, hexec₁, hexec₂⟩⟩
  · rw [hselections₂, hselections₁, hselections, hid₁]
    rfl

end LoginContext

/-! ## An id that fills its packet -/

theorem replicate_utf8ByteSize (n : Nat) :
    (String.ofList (List.replicate n 'a')).utf8ByteSize = n := by
  induction n with
  | zero => rfl
  | succ n ih =>
      rw [List.replicate_succ', String.ofList_append, String.utf8ByteSize_append, ih]
      rfl

def fullLogin : LoginReq := ⟨String.ofList (List.replicate 4089 'a'), "", 0⟩

/-- A server without a database, which knows the messages of a client with this login
    and the encoding of what it forwards. -/
def ServerEnv.full : ServerEnv :=
  { ServerEnv.sample with
    parseLoginReq := fun payload => if payload = fullLogin.wire then some fullLogin else none
    parseWorldSelectReq := fun payload =>
      if payload = [] then some ⟨0⟩ else if payload = [8, 1] then some ⟨1⟩ else none
    serializeLoginWorldSelectReq := LoginWorldSelectReq.wire }

theorem fullLogin_length : fullLogin.id.utf8ByteSize = 4089 ∧ fullLogin.wire.length = 4092 := by
  have hbytes : fullLogin.id.utf8ByteSize = 4089 := replicate_utf8ByteSize 4089
  have hid : fullLogin.id ≠ "" := by
    intro hempty
    rw [hempty] at hbytes
    cases hbytes
  refine ⟨hbytes, ?_⟩
  rw [LoginReq.wire, List.length_append, stringField_length (by decide) hid (by omega), hbytes]
  rfl

theorem full_wireFormat : WireFormat .full where
  parse payload req hparse := by
    by_cases hfull : payload = fullLogin.wire
    · have hreq : some fullLogin = some req := (if_pos hfull).symm.trans hparse
      obtain rfl := Option.some.inj hreq
      rw [hfull, LoginReq.wire, List.length_append]
      exact Nat.le_add_right _ _
    · have hnone : none = some req := (if_neg hfull).symm.trans hparse
      cases hnone
  serialize _ := rfl

namespace LoginContext

/-- The run of such a client, who selects the world 1. -/
def fullRun : List (Label Nat) := selectRun 0 fullLogin.wire [8, 1] (.processed .success)

theorem linkHolds_fullRun :
    (Always (step .full) (LinkHolds .full) start fullRun
      ↔ Meets (step .full) (SelectsShort .full) start fullRun) ∧
      (ServerEnv.full.useDB = true → Always (step .full) (LinkHolds .full) start fullRun) :=
  linkHolds_iff_selectsShort .full full_wireFormat fullRun

/-- The frame of the selection takes 4098 bytes, and its header is not accepted. -/
theorem rejected_fullRun :
    WireFormat .full ∧ ∃ s, exec (step .full) start fullRun = some s ∧
      ∃ frame ∈ s.selectFrames .full, ¬ Accepted (PacketHeader.ofBytes frame) := by
  obtain ⟨hid, hlen⟩ := fullLogin_length
  have hlogin : ServerEnv.full.parseLoginReq fullLogin.wire = some fullLogin := by
    simp only [ServerEnv.full, if_true]
  have hpos : 0 < fullLogin.wire.length ∧ 0 < [(8 : UInt8), 1].length := by
    rw [hlen]
    decide
  have hmax : fullLogin.wire.length ≤ maxPacketSize - PacketHeader.byteSize ∧
      [(8 : UInt8), 1].length ≤ maxPacketSize - PacketHeader.byteSize := by
    rw [hlen]
    decide
  have hselect : ServerEnv.full.parseWorldSelectReq [8, 1] = some ⟨1⟩ := rfl
  have hanswer : isAuthSuccess .full fullLogin (.processed .success) = true := by
    rw [isAuthSuccess]
    rfl
  obtain ⟨s, hexec, hselections⟩ :=
    exec_selectRun 0 (.processed .success) hlogin hselect hanswer hpos hmax
  have hbounded : s.Bounded .full :=
    exec_inv (step_bounded full_wireFormat) (start_bounded .full) hexec
  let req : LoginWorldSelectReq := ⟨fullLogin.id, 1⟩
  have hreq : req ∈ s.selections := by
    rw [hselections]
    exact List.mem_singleton.mpr rfl
  refine ⟨full_wireFormat, s, hexec, framed (selectPacket req), ?_, ?_⟩
  · rw [hbounded.selectFrames_eq full_wireFormat]
    exact List.mem_map_of_mem hreq
  · have hlong : ¬ Fits (selectPacket req) := by
      intro hfits
      have hshort := (hbounded.selections req hreq).wire_fits_iff.mp hfits
      rcases hshort with hzero | hbytes
      · exact absurd hzero (by decide)
      · have hworld : (int32Varint req.worldId).length = 1 := rfl
        have hreqId : req.accountId.utf8ByteSize = 4089 := hid
        omega
    have hwire : (selectPacket req).2.length ≤ 4103 :=
      (hbounded.selections req hreq).wire_length_le
    refine mt (framed_accepted_iff ?_).mp hlong
    unfold PacketHeader.byteSize
    omega

end LoginContext

end MMOServers.LoginServer
