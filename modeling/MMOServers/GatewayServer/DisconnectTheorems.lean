/-
MMOServers.GatewayServer.DisconnectTheorems — what `OnDisconnected` leaves
behind.

* A disconnected session is silent: no packet of it is dispatched any more.
  `OnDisconnected` does not stop the read loop and closes no socket; the loop
  ends where the callback returns without reading on. Two callers do not return
  from the loop: a handler whose session has reached the parse-violation
  threshold, after which the callback reads the next header, and the completion
  of a failed write, which runs beside a pending read. On a run without these
  two (`Orderly`) the invariant `Stopped` holds: a session that has
  disconnected has no read pending, and so never dispatches again.
* A later session survives: `OnDisconnected` removes the map entry of its
  account and announces the leave, whoever holds the entry now. `account` and
  `holder` read a session's account and the holder of an account off the
  history; the state agrees with them on every run (`Faithful`). A session that
  took over an account keeps it through its predecessor's disconnect exactly
  when it still holds it and the predecessor has another account by then, or
  none (`keepsSuccessor_iff_outlived`).
-/
import MMOServers.GatewayServer.GatewaySteps
import MMOServers.Lib.Run

namespace MMOServers.GatewayServer

open MMOServers.Common Transition

namespace Gateway

variable {ι F Key : Type} {env : GatewayEnv F Key}

/-! ## No packet after the disconnect -/

/-- No packet is dispatched for a session that has disconnected before. -/
def NoLateDispatch : List (Event ι F) → Prop
  | [] => True
  | .dispatched i _ :: older => .disconnected i ∉ older ∧ NoLateDispatch older
  | .verified _ _ :: older => NoLateDispatch older
  | .forwarded _ _ :: older => NoLateDispatch older
  | .disconnected _ :: older => NoLateDispatch older

def Quiet (s : Gateway ι F Key) : Prop := NoLateDispatch s.trace

variable [DecidableEq ι]

instance decidableNoLateDispatch [DecidableEq F] :
    (trace : List (Event ι F)) → Decidable (NoLateDispatch trace)
  | [] => isTrue trivial
  | .dispatched i _ :: older =>
      have := decidableNoLateDispatch older
      inferInstanceAs (Decidable (Event.disconnected i ∉ older ∧ NoLateDispatch older))
  | .verified _ _ :: older => decidableNoLateDispatch older
  | .forwarded _ _ :: older => decidableNoLateDispatch older
  | .disconnected _ :: older => decidableNoLateDispatch older

instance [DecidableEq F] (s : Gateway ι F Key) : Decidable s.Quiet :=
  inferInstanceAs (Decidable (NoLateDispatch s.trace))

/-- The handler of a dispatched packet does not reach the parse-violation
    threshold. -/
def NoLastViolation (env : GatewayEnv F Key) (s : Gateway ι F Key) (label : Label ι) : Prop :=
  match dispatchOf env s label with
  | none => True
  | some (i, id, data) => unparsable env id data = true → ¬ s.LastViolation i

/-- A write that fails fatally finds no read pending. -/
def NoWriteFailureInRead (s : Gateway ι F Key) : Label ι → Prop
  | .runStrand i =>
      match (s.sessions i).strand with
      | .written _ ec :: _ => shouldDisconnect ec = true → (s.sessions i).reading = none
      | _ => True
  | _ => True

def Orderly (env : GatewayEnv F Key) (s : Gateway ι F Key) (label : Label ι) : Prop :=
  NoLastViolation env s label ∧ s.NoWriteFailureInRead label

instance (s : Gateway ι F Key) (label : Label ι) : Decidable (Orderly env s label) := by
  unfold Orderly NoLastViolation NoWriteFailureInRead
  exact @instDecidableAnd _ _ (by split <;> infer_instance)
    (by repeat' split
        all_goals infer_instance)

omit [DecidableEq ι] in
theorem NoWriteFailureInRead.reading {s : Gateway ι F Key} {i : ι}
    (h : s.NoWriteFailureInRead (.runStrand i)) (hfatal : s.FatalWrite i) :
    (s.sessions i).reading = none := by
  obtain ⟨p, ec, rest, hstrand, hec⟩ := hfatal
  simp only [NoWriteFailureInRead, hstrand] at h
  exact h hec

/-- Reads are pending on accepted sessions only, and on none that has
    disconnected. -/
structure Stopped (s : Gateway ι F Key) : Prop where
  accepted : ∀ i, (s.sessions i).reading ≠ none → (s.sessions i).accepted = true
  stopped : ∀ i, .disconnected i ∈ s.trace →
    (s.sessions i).accepted = true ∧ (s.sessions i).reading = none

omit [DecidableEq ι] in
theorem start_stopped : (start : Gateway ι F Key).Stopped :=
  ⟨fun _ h => absurd rfl h, fun _ h => absurd h List.not_mem_nil⟩

omit [DecidableEq ι] in
/-- What the invariant needs of a later state: sessions stay accepted, no read
    is started, and the history has the same disconnects. -/
theorem Stopped.mono {s s' : Gateway ι F Key} (h : s.Stopped)
    (haccepted : ∀ j, (s'.sessions j).accepted = (s.sessions j).accepted)
    (hreading : ∀ j, (s'.sessions j).reading ≠ none → (s.sessions j).reading ≠ none)
    (htrace : ∀ j, .disconnected j ∈ s'.trace → .disconnected j ∈ s.trace) : s'.Stopped := by
  refine ⟨fun j hj => ?_, fun j hj => ?_⟩
  · rw [haccepted]
    exact h.accepted j (hreading j hj)
  · obtain ⟨hacc, hnone⟩ := h.stopped j (htrace j hj)
    refine ⟨by rw [haccepted, hacc], ?_⟩
    by_contra hsome
    exact hreading j hsome hnone

theorem onDisconnected_stopped {s : Gateway ι F Key} (h : s.Stopped) {i : ι}
    (haccepted : (s.sessions i).accepted = true) (hreading : (s.sessions i).reading = none) :
    (s.onDisconnected env i).Stopped := by
  refine ⟨fun j hj => ?_, fun j hj => ?_⟩
  · obtain ⟨-, hacc, hread⟩ := onDisconnected_sessions env s i j
    rw [hacc]
    exact h.accepted j (hread ▸ hj)
  · obtain ⟨-, hacc, hread⟩ := onDisconnected_sessions env s i j
    rw [hacc, hread]
    have hmem : j = i ∨ .disconnected j ∈ s.trace := by
      rw [onDisconnected_trace] at hj
      split at hj
      · simpa using hj
      · simpa using hj
    rcases hmem with rfl | hmem
    · exact ⟨haccepted, hreading⟩
    · exact h.stopped j hmem

theorem onDisconnected_quiet {s : Gateway ι F Key} (i : ι) :
    (s.onDisconnected env i).Quiet ↔ s.Quiet := by
  unfold Quiet
  rw [onDisconnected_trace]
  split <;> exact Iff.rfl

/-- A dispatch that closes nothing adds no disconnect, starts no read, and is
    the only one it adds. -/
theorem DispatchEffect.open {s s' : Gateway ι F Key} {i : ι} {id : UInt16} {data : List UInt8}
    (h : DispatchEffect env s i id data s')
    (hopen : unparsable env id data = true → ¬ s.LastViolation i) :
    (∀ j, (s'.sessions j).accepted = (s.sessions j).accepted) ∧
      (∀ j, (s'.sessions j).reading = (s.sessions j).reading) ∧
      (∀ j, .disconnected j ∈ s'.trace → .disconnected j ∈ s.trace) ∧
      (s'.Quiet ↔ .disconnected i ∉ s.trace ∧ s.Quiet) := by
  cases h with
  | quiet h =>
      refine ⟨h.accepted, h.reading, by simp [h.trace], ?_⟩
      rw [Quiet, h.trace]
      exact Iff.rfl
  | relayed m request accepted h =>
      refine ⟨h.accepted, h.reading, by simp [h.trace], ?_⟩
      rw [Quiet, h.trace]
      exact Iff.rfl
  | verified a unrequested h =>
      refine ⟨fun j => (h.accepted j).trans (authenticate_fields _ i a j).1,
        fun j => (h.reading j).trans (authenticate_fields _ i a j).2, ?_, ?_⟩
      · rw [h.trace]
        simp [authenticate]
      · rw [Quiet, h.trace]
        exact Iff.rfl
  | closed s₁ h unrequested violation => exact absurd violation.2 (hopen violation.1)

theorem step_stopped {s s' : Gateway ι F Key} {label : Label ι} (hs : s.Stopped ∧ s.Quiet)
    (horderly : Orderly env s label) (hstep : step env s label = some s') :
    s'.Stopped ∧ s'.Quiet := by
  obtain ⟨hstopped, hquiet⟩ := hs
  obtain ⟨hviolation, hwrite⟩ := horderly
  cases step_effect hstep with
  | accepts i now new =>
      refine ⟨⟨fun j hj => ?_, fun j hj => ?_⟩, hquiet⟩
      · by_cases hji : j = i
        · simp [hji]
        · rw [modify_other _ _ hji] at hj ⊢
          exact hstopped.accepted j hj
      · obtain ⟨hacc, hnone⟩ := hstopped.stopped j hj
        have hji : j ≠ i := by
          rintro rfl
          rw [new] at hacc
          cases hacc
        rw [modify_other _ _ hji]
        exact ⟨hacc, hnone⟩
  | passive undispatched h =>
      exact ⟨hstopped.mono h.accepted h.reading (by simp [h.trace]), by rwa [Quiet, h.trace]⟩
  | disconnects i s₁ undispatched h cause =>
      have hs₁ : s₁.Stopped := hstopped.mono h.accepted h.reading (by simp [h.trace])
      have hq₁ : s₁.Quiet := by rwa [Quiet, h.trace]
      refine ⟨?_, (onDisconnected_quiet i).mpr hq₁⟩
      rcases cause with ⟨hreading, hnone⟩ | ⟨rfl, haccepted, hfatal⟩
      · exact onDisconnected_stopped hs₁ (by rw [h.accepted, hstopped.accepted i hreading]) hnone
      · refine onDisconnected_stopped hs₁ (by rw [h.accepted, haccepted]) ?_
        by_contra hsome
        exact h.reading i hsome (hwrite.reading hfatal)
  | dispatches i id data nowMs s₁ dispatched h reading gameOpen tracker =>
      have hs₁ : s₁.Stopped := hstopped.mono h.accepted h.reading (by simp [h.trace])
      have hopen : unparsable env id data = true → ¬ s₁.LastViolation i := by
        simp only [NoLastViolation, dispatched] at hviolation
        unfold LastViolation
        rw [tracker]
        exact hviolation
      obtain ⟨haccepted, hread, htrace, hdispatch⟩ :=
        (dispatch_effect env s₁ i id data nowMs).open hopen
      have hrunning : .disconnected i ∉ s.trace := fun hd => reading (hstopped.stopped i hd).2
      refine ⟨⟨fun j hj => ?_, fun j hj => ?_⟩, ?_⟩
      · rw [setReading_accepted, haccepted, h.accepted]
        by_cases hji : j = i
        · exact hji ▸ hstopped.accepted i reading
        · rw [setReading_other _ _ hji, hread] at hj
          exact hstopped.accepted j (h.reading j hj)
      · have hd : .disconnected j ∈ s.trace := h.trace ▸ htrace j hj
        have hji : j ≠ i := by
          rintro rfl
          exact hrunning hd
        rw [setReading_accepted, setReading_other _ _ hji, haccepted, hread]
        exact hs₁.stopped j (h.trace ▸ hd)
      · rw [Quiet, setReading_trace]
        refine hdispatch.mpr ⟨h.trace ▸ hrunning, ?_⟩
        rwa [Quiet, h.trace]

/-- On an orderly run no packet of a disconnected session is dispatched. -/
theorem noLateDispatch_of_orderly (env : GatewayEnv F Key) (labels : List (Label ι))
    (h : Meets (step env) (Orderly env) start labels) :
    Always (step env) Quiet start labels :=
  (always_of_meets step_stopped ⟨start_stopped, trivial⟩ h).imp fun _ hs => hs.2

/-- A chat packet whose payload is no protobuf message. -/
def badChat : List (Label Nat) :=
  [.headerRead 0 ⟨5, PacketId.clientGatewayChatReq⟩ 0 0, .payloadRead 0 [255] 0]

theorem noLateDispatch_fourBadChats :
    Always (step .sample) Quiet (start : Gateway Nat Unit Unit)
      (.accept 0 0 :: badChat ++ badChat ++ badChat ++ badChat ++ [.readFails 0 .eof]) :=
  noLateDispatch_of_orderly .sample _ (by decide)

/-- Five unparsable packets in a row, and a sixth packet; and a refused connect
    whose answer cannot be written, followed by a packet. -/
theorem dispatch_afterDisconnect :
    ¬ Always (step .sample) Quiet (start : Gateway Nat Unit Unit)
      (.accept 0 0 :: badChat ++ badChat ++ badChat ++ badChat ++ badChat ++
        [.headerRead 0 ⟨4, PacketId.clientGatewayChatReq⟩ 0 0]) ∧
    ¬ Always (step .sample) Quiet (start : Gateway Nat Unit Unit)
      [.accept 0 0, .headerRead 0 ⟨4, PacketId.clientGatewayConnectReq⟩ 0 0, .runStrand 0,
        .writeEnds 0 ⟨0, [38, 0, 21, 0, 18, 32] ++
          "Invalid or expired session token".toUTF8.toList⟩ .connectionReset,
        .runStrand 0, .headerRead 0 ⟨4, PacketId.clientGatewayChatReq⟩ 0 0] := by
  decide +kernel

/-! ## The later session of an account -/

/-- The account of a session, as the history has it. -/
def account : List (Event ι F) → ι → String
  | [], _ => ""
  | .verified i a :: older, j => if j = i then a else account older j
  | .disconnected i :: older, j => if j = i then "" else account older j
  | .dispatched _ _ :: older, j => account older j
  | .forwarded _ _ :: older, j => account older j

/-- The session that holds an account, as the history has it. -/
def holder : List (Event ι F) → String → Option ι
  | [], _ => none
  | .verified i a :: older, b => if b = a then some i else holder older b
  | .disconnected i :: older, b =>
      if b ≠ "" ∧ account older i = b then none else holder older b
  | .dispatched _ _ :: older, b => holder older b
  | .forwarded _ _ :: older, b => holder older b

/-- The accounts and the map are what the history says. -/
structure Faithful (s : Gateway ι F Key) : Prop where
  account : ∀ j, (s.sessions j).accountId = account s.trace j
  holder : ∀ a, s.clientMap a = holder s.trace a

theorem Faithful.of_silent {s s' : Gateway ι F Key} (h : s.Faithful) (hs : Silent s s') :
    s'.Faithful :=
  ⟨fun j => by rw [hs.account, hs.trace, h.account],
    fun a => by rw [hs.clientMap, hs.trace, h.holder]⟩

theorem Faithful.of_passive {s s' : Gateway ι F Key} (h : s.Faithful) (hs : Passive s s') :
    s'.Faithful :=
  ⟨fun j => by rw [hs.account, hs.trace, h.account],
    fun a => by rw [hs.clientMap, hs.trace, h.holder]⟩

theorem account_onDisconnected (env : GatewayEnv F Key) (s : Gateway ι F Key) (i j : ι) :
    account (s.onDisconnected env i).trace j = if j = i then "" else account s.trace j := by
  rw [onDisconnected_trace, apply_ite (account · j)]
  exact ite_self _

theorem holder_onDisconnected (env : GatewayEnv F Key) (s : Gateway ι F Key) (i : ι)
    (a : String) :
    holder (s.onDisconnected env i).trace a
      = if a ≠ "" ∧ account s.trace i = a then none else holder s.trace a := by
  rw [onDisconnected_trace, apply_ite (holder · a)]
  exact ite_self _

theorem onDisconnected_faithful {s : Gateway ι F Key} (h : s.Faithful) (i : ι) :
    (s.onDisconnected env i).Faithful := by
  refine ⟨fun j => ?_, fun a => ?_⟩
  · rw [(onDisconnected_sessions env s i j).1, account_onDisconnected, h.account]
  · rw [onDisconnected_clientMap, holder_onDisconnected, h.account]
    by_cases hempty : Gateway.account s.trace i = ""
    · rw [if_pos hempty, h.holder, if_neg]
      rintro ⟨hne, rfl⟩
      exact hne hempty
    · rw [if_neg hempty]
      by_cases ha : a = Gateway.account s.trace i
      · subst ha
        simp [hempty]
      · rw [Function.update_of_ne ha, h.holder, if_neg fun h => ha h.2.symm]

theorem authenticate_faithful {s : Gateway ι F Key} (h : s.Faithful) (i : ι) (a : String) :
    ((s.record (.verified i a)).authenticate i a).Faithful := by
  refine ⟨fun j => ?_, fun b => ?_⟩
  · show (((s.authenticate i a).sessions j).accountId)
      = if j = i then a else Gateway.account s.trace j
    by_cases hj : j = i
    · simp [authenticate, modify, hj]
    · simp [authenticate, modify, hj, h.account]
  · show Function.update s.clientMap a (some i) b
      = if b = a then some i else Gateway.holder s.trace b
    by_cases hb : b = a
    · simp [hb]
    · simp [hb, h.holder]

theorem DispatchEffect.faithful {s s' : Gateway ι F Key} {i : ι} {id : UInt16}
    {data : List UInt8} (h : DispatchEffect env s i id data s') (hs : s.Faithful) :
    s'.Faithful := by
  have hd : (s.record (.dispatched i id)).Faithful := ⟨hs.account, hs.holder⟩
  cases h with
  | quiet h => exact hd.of_silent h
  | relayed m request accepted h =>
      have hf : ((s.record (.dispatched i id)).record (.forwarded i m)).Faithful :=
        ⟨hs.account, hs.holder⟩
      exact hf.of_silent h
  | verified a unrequested h => exact (authenticate_faithful hd i a).of_silent h
  | closed s₁ h unrequested violation => exact onDisconnected_faithful (hd.of_silent h) i

theorem step_faithful {s s' : Gateway ι F Key} {label : Label ι} (hs : s.Faithful)
    (hstep : step env s label = some s') : s'.Faithful := by
  cases step_effect hstep with
  | accepts i now new =>
      exact ⟨fun j => by rw [modify_field (·.accountId) s i rfl, hs.account]; rfl, hs.holder⟩
  | passive undispatched h => exact hs.of_passive h
  | disconnects i s₁ undispatched h => exact onDisconnected_faithful (hs.of_passive h) i
  | dispatches i id data nowMs s₁ dispatched h =>
      have hd := (dispatch_effect env s₁ i id data nowMs).faithful (hs.of_passive h)
      exact ⟨fun j => by rw [setReading_account, hd.account]; rfl, hd.holder⟩

/-- What `OnDisconnected` adds to the history. -/
theorem onDisconnected_new (env : GatewayEnv F Key) (s : Gateway ι F Key) (i : ι) :
    ∃ new, (s.onDisconnected env i).trace = new ++ s.trace ∧
      (∀ j, .disconnected j ∈ new → j = i) ∧
      ∀ k a, .forwarded k (.leaveReq a) ∈ new → a = (s.sessions i).accountId ∧ a ≠ "" := by
  rw [onDisconnected_trace]
  split
  · rename_i hleave
    refine ⟨[.forwarded i (.leaveReq (s.sessions i).accountId), .disconnected i], rfl,
      by simp, ?_⟩
    intro k a hk
    obtain ⟨-, rfl⟩ : k = i ∧ a = (s.sessions i).accountId := by simpa using hk
    exact ⟨rfl, hleave.1⟩
  · exact ⟨[.disconnected i], rfl, by simp, by simp⟩

/-- The step runs `OnDisconnected` of the session `i`, and `new` is what it adds
    to the history. -/
def Disconnects (env : GatewayEnv F Key) (s : Gateway ι F Key) (label : Label ι)
    (s' : Gateway ι F Key) (new : List (Event ι F)) (i : ι) : Prop :=
  step env s label = some s' ∧ s'.trace = new ++ s.trace ∧ .disconnected i ∈ new

/-- A step that disconnects a session does to the map what `OnDisconnected`
    does, and announces no other leave. -/
theorem Disconnects.effect {s s' : Gateway ι F Key} {label : Label ι} {new : List (Event ι F)}
    {i : ι} (h : Disconnects env s label s' new i) :
    s'.clientMap = (if (s.sessions i).accountId = "" then s.clientMap
        else Function.update s.clientMap (s.sessions i).accountId none) ∧
      ∀ k a, .forwarded k (.leaveReq a) ∈ new → a = (s.sessions i).accountId ∧ a ≠ "" := by
  obtain ⟨hstep, hnew, hi⟩ := h
  have nothing : ∀ added : List (Event ι F), s'.trace = added ++ s.trace →
      .disconnected i ∉ added → False := by
    intro added htrace hadded
    have : new = added := List.append_cancel_right (hnew.symm.trans htrace)
    exact hadded (this ▸ hi)
  cases step_effect hstep with
  | accepts j now fresh => exact (nothing [] rfl List.not_mem_nil).elim
  | passive undispatched h => exact (nothing [] h.trace List.not_mem_nil).elim
  | disconnects j s₁ undispatched h =>
      obtain ⟨added, htrace, hdisc, hleave⟩ := onDisconnected_new env s₁ j
      rw [htrace, h.trace] at hnew
      obtain rfl : added = new := List.append_cancel_right hnew
      obtain rfl : i = j := hdisc i hi
      rw [onDisconnected_clientMap, h.clientMap, ← h.account]
      exact ⟨rfl, hleave⟩
  | dispatches j id data nowMs s₁ dispatched h =>
      generalize hs₂ : s₁.dispatch env j id data nowMs = s₂ at hnew nothing
      have heffect := dispatch_effect env s₁ j id data nowMs
      rw [hs₂] at heffect
      rw [setReading_trace] at hnew nothing
      cases heffect with
      | quiet h₂ =>
          refine (nothing [.dispatched j id] ?_ (by simp)).elim
          rw [h₂.trace, record_trace, h.trace]
          rfl
      | relayed m request accepted h₂ =>
          refine (nothing [.forwarded j m, .dispatched j id] ?_ (by simp)).elim
          rw [h₂.trace, record_trace, record_trace, h.trace]
          rfl
      | verified a unrequested h₂ =>
          refine (nothing [.verified j a, .dispatched j id] ?_ (by simp)).elim
          rw [h₂.trace, ← h.trace]
          rfl
      | closed s₃ h₃ unrequested violation =>
          obtain ⟨added, htrace, hdisc, hleave⟩ := onDisconnected_new env s₃ j
          rw [htrace, h₃.trace, record_trace, h.trace, List.append_cons] at hnew
          obtain rfl : added ++ [.dispatched j id] = new := List.append_cancel_right hnew
          have hi' : .disconnected i ∈ added := by simpa using hi
          obtain rfl : i = j := hdisc i hi'
          have haccount : (s₃.sessions i).accountId = (s.sessions i).accountId :=
            (h₃.account i).trans (h.account i)
          rw [haccount] at hleave
          refine ⟨?_, fun k a hk => hleave k a (by simpa using hk)⟩
          rw [setReading_clientMap, onDisconnected_clientMap, haccount, h₃.clientMap,
            record_clientMap, h.clientMap]

/-- `t` was verified for the account after `s` and has not disconnected since. -/
def Succeeded (trace : List (Event ι F)) (a : String) (s t : ι) : Prop :=
  s ≠ t ∧ ∃ newer older, trace = newer ++ .verified t a :: older ∧
    .verified s a ∈ older ∧ .disconnected t ∉ newer

/-- A session that disconnects leaves its account to its successor. -/
def KeepsSuccessor (env : GatewayEnv F Key) (s : Gateway ι F Key) (label : Label ι) : Prop :=
  ∀ s' new i, Disconnects env s label s' new i → ∀ a t, Succeeded s.trace a i t →
    s'.clientMap a = some t ∧ ∀ k, .forwarded k (.leaveReq a) ∉ new

/-- When a session disconnects, its successor in an account still holds it, and
    the session itself has another account by now, or none. -/
def Outlived (env : GatewayEnv F Key) (s : Gateway ι F Key) (label : Label ι) : Prop :=
  ∀ s' new i, Disconnects env s label s' new i → ∀ a t, Succeeded s.trace a i t →
    holder s.trace a = some t ∧ (a = "" ∨ account s.trace i ≠ a)

theorem Disconnects.keeps_iff {s s' : Gateway ι F Key} {label : Label ι}
    {new : List (Event ι F)} {i : ι} (hs : s.Faithful) (h : Disconnects env s label s' new i)
    (a : String) (t : ι) :
    (s'.clientMap a = some t ∧ ∀ k, .forwarded k (.leaveReq a) ∉ new)
      ↔ holder s.trace a = some t ∧ (a = "" ∨ account s.trace i ≠ a) := by
  obtain ⟨hmap, hleave⟩ := h.effect
  rw [hs.account] at hmap hleave
  constructor
  · rintro ⟨hkept, -⟩
    rw [hmap] at hkept
    split at hkept
    · rename_i hempty
      rw [hs.holder] at hkept
      refine ⟨hkept, ?_⟩
      by_cases ha : a = ""
      · exact Or.inl ha
      · exact Or.inr fun h => ha (h ▸ hempty)
    · by_cases ha : a = account s.trace i
      · rw [ha, Function.update_self] at hkept
        cases hkept
      · rw [Function.update_of_ne ha, hs.holder] at hkept
        exact ⟨hkept, Or.inr fun h => ha h.symm⟩
  · rintro ⟨hheld, hother⟩
    have hne : account s.trace i = "" ∨ a ≠ account s.trace i := by
      by_cases hempty : account s.trace i = ""
      · exact Or.inl hempty
      · rcases hother with rfl | hother
        · exact Or.inr fun h => hempty h.symm
        · exact Or.inr fun h => hother h.symm
    refine ⟨?_, fun k hk => ?_⟩
    · rw [hmap]
      rcases hne with hempty | hne
      · rw [if_pos hempty, hs.holder, hheld]
      · split
        · rw [hs.holder, hheld]
        · rw [Function.update_of_ne hne, hs.holder, hheld]
    · obtain ⟨rfl, hnonempty⟩ := hleave k a hk
      rcases hne with hempty | hne
      · exact hnonempty hempty
      · exact hne rfl

/-- On the runs where every successor keeps its account through the disconnect
    of its predecessor, and on no others, every disconnect finds the account
    outlived. -/
theorem keepsSuccessor_iff_outlived (env : GatewayEnv F Key) (labels : List (Label ι)) :
    Meets (step env) (KeepsSuccessor env) start labels
      ↔ Meets (step env) (Outlived env) start labels := by
  refine meets_congr Faithful (fun hs _ hstep => step_faithful hs hstep) ?_
    ⟨fun _ => rfl, fun _ => rfl⟩
  intro s label s' hs hstep
  refine forall_congr' fun s' => forall_congr' fun new => forall_congr' fun i =>
    forall_congr' fun hd => forall_congr' fun a => forall_congr' fun t => ?_
  rw [hd.keeps_iff hs]

/-- The game server announces the token of "a", and the session connects with
    it. -/
def connect (i : Nat) : List (Label Nat) :=
  [.gamePacket PacketId.gameGatewayTokenNotify [10, 1, 97, 18, 1, 116, 24, 100],
    .accept i 0, .headerRead i ⟨10, PacketId.clientGatewayConnectReq⟩ 0 0,
    .payloadRead i [10, 1, 97, 18, 1, 116] 0]

/-- Two sessions of "a", and the first one's connection breaks. -/
theorem disconnect_evictsSuccessor :
    ¬ Meets (step .sample) (KeepsSuccessor .sample) (start : Gateway Nat Unit Unit)
      (.gameLink true :: connect 0 ++ connect 1 ++ [.readFails 0 .eof]) := by
  intro h
  have hkeeps := h.of_exec [] rfl rfl
  obtain ⟨hkept, -⟩ := hkeeps _ [.forwarded 0 (.leaveReq "a"), .disconnected 0] 0
    ⟨rfl, by decide +kernel, by simp⟩ "a" 1
    ⟨by decide, [], _, rfl, by decide, by simp⟩
  exact absurd hkept (by decide +kernel)

end Gateway

end MMOServers.GatewayServer
