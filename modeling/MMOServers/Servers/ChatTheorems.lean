/-
MMOServers.Servers.ChatTheorems — a chat line is what somebody said.

The chat lines that a gateway shows are, in order and without repetition, some of
those that its own clients have asked it to pass on; and who speaks under a name
was verified for it (`always_spoken`). Connections may break and come back,
packets may be lost, and everything else may happen in between.

A line is on its way in three places, the queue of the gateway, the connection to
the game server and the connection back, and each of them keeps the order.
`Ordered` says that what was shown, followed by what is on its way from the back
to the front, is part of what was said. Every step either moves a line one place
on, adds one that was just said behind all others, or loses some.

A size that is cut to 16 bits lets a message go out with somebody else's bytes in
it (`MMOServers.Network.SendBuffer`), and no more can be said of a chat line then;
`Uncut` is the condition that no chat message is as long.
-/
import MMOServers.GameServer.AudienceTheorems
import MMOServers.GatewayServer.AuthenticationTheorems
import MMOServers.Servers.Realm

namespace MMOServers.GatewayServer

open MMOServers.Common

namespace Gateway

variable {ι F Key : Type}

/-! ## What is said to a gateway -/

/-- Every message under a name comes from a session that was verified for it. -/
def Vouched : List (Event ι F) → Prop
  | [] => True
  | .forwarded i m :: older => (m.accountId ≠ "" → .verified i m.accountId ∈ older) ∧ Vouched older
  | .verified _ _ :: older => Vouched older
  | .dispatched _ _ :: older => Vouched older
  | .disconnected _ :: older => Vouched older

variable [DecidableEq ι] {env : GatewayEnv F Key}

theorem onDisconnected_vouched {s : Gateway ι F Key} (hk : s.Known) (h : Vouched s.trace) (i : ι) :
    Vouched (s.onDisconnected env i).trace := by
  rw [onDisconnected_trace]
  split
  · rename_i hleave
    exact ⟨fun _ => List.mem_cons_of_mem _ (hk i hleave.1), h⟩
  · exact h

theorem DispatchEffect.vouched {s s' : Gateway ι F Key} {i : ι} {id : UInt16} {data : List UInt8}
    (h : DispatchEffect env s i id data s') (hk : s.Known) (hs : Vouched s.trace) :
    Vouched s'.trace := by
  cases h with
  | quiet h =>
      rw [h.trace]
      exact hs
  | relayed m request accepted h =>
      rw [h.trace]
      refine ⟨fun hne => ?_, hs⟩
      rw [(requestOf_account request).1] at hne ⊢
      exact List.mem_cons_of_mem _ (hk i hne)
  | verified a unrequested h =>
      rw [h.trace]
      exact hs
  | closed s₁ h =>
      have hk₁ : s₁.Known := hk.of_trace h.account fun e he => by
        rw [h.trace]
        exact List.mem_cons_of_mem _ he
      refine onDisconnected_vouched hk₁ ?_ i
      rw [h.trace]
      exact hs

theorem step_vouched {s s' : Gateway ι F Key} {label : Label ι} (hk : s.Known)
    (hs : Vouched s.trace) (hstep : step env s label = some s') : Vouched s'.trace := by
  cases step_effect hstep with
  | accepts i now new => exact hs
  | passive undispatched h =>
      rw [h.trace]
      exact hs
  | disconnects i s₁ undispatched h =>
      have hk₁ : s₁.Known := hk.of_trace h.account fun e he => h.trace ▸ he
      exact onDisconnected_vouched hk₁ (h.trace ▸ hs) i
  | dispatches i id data nowMs s₁ dispatched h =>
      have hk₁ : s₁.Known := hk.of_trace h.account fun e he => h.trace ▸ he
      exact (dispatch_effect env s₁ i id data nowMs).vouched hk₁ (h.trace ▸ hs)

theorem onDisconnected_suffix (s : Gateway ι F Key) (i : ι) :
    s.trace <:+ (s.onDisconnected env i).trace := by
  obtain ⟨new, hnew, -, -⟩ := onDisconnected_new env s i
  exact ⟨new, hnew.symm⟩

theorem DispatchEffect.suffix {s s' : Gateway ι F Key} {i : ι} {id : UInt16} {data : List UInt8}
    (h : DispatchEffect env s i id data s') : s.trace <:+ s'.trace := by
  have hdispatched : s.trace <:+ (s.record (.dispatched i id)).trace := List.suffix_cons _ _
  cases h with
  | quiet h => exact h.trace ▸ hdispatched
  | relayed m request accepted h =>
      rw [h.trace]
      exact hdispatched.trans (List.suffix_cons _ _)
  | verified a unrequested h =>
      rw [h.trace]
      exact hdispatched.trans (List.suffix_cons (Event.verified i a) _)
  | closed s₁ h => exact hdispatched.trans (h.trace ▸ onDisconnected_suffix s₁ i)

/-- A history only grows. -/
theorem step_suffix {s s' : Gateway ι F Key} {label : Label ι}
    (hstep : step env s label = some s') : s.trace <:+ s'.trace := by
  cases step_effect hstep with
  | accepts i now new => exact List.suffix_refl _
  | passive undispatched h => exact h.trace ▸ List.suffix_refl _
  | disconnects i s₁ undispatched h => exact h.trace ▸ onDisconnected_suffix s₁ i
  | dispatches i id data nowMs s₁ dispatched h =>
      rw [setReading_trace, ← h.trace]
      exact (dispatch_effect env s₁ i id data nowMs).suffix

end Gateway

end MMOServers.GatewayServer

namespace MMOServers.Servers

open MMOServers.Common MMOServers.GameServer MMOServers.GatewayServer MMOServers.Network
  Transition

namespace Realm

variable {ι K Key : Type} {env : RealmEnv K Key}

/-! ## Lines in messages and packets -/

theorem filterMap_sublist_of_imp {α β : Type} {f g : α → Option β} {l : List α}
    (h : ∀ x ∈ l, ∀ y, f x = some y → g x = some y) :
    (l.filterMap f).Sublist (l.filterMap g) := by
  induction l with
  | nil => exact List.Sublist.refl _
  | cons x l ih =>
      have hrest := ih fun z hz => h z (List.mem_cons_of_mem _ hz)
      cases hf : f x with
      | none =>
          rw [List.filterMap_cons_none hf]
          cases hg : g x with
          | none => rwa [List.filterMap_cons_none hg]
          | some y =>
              rw [List.filterMap_cons_some hg]
              exact hrest.cons y
      | some y =>
          rw [List.filterMap_cons_some hf, List.filterMap_cons_some (h x List.mem_cons_self y hf)]
          exact hrest.cons_cons y

/-- The chat line that a message asks for. -/
def lineOf : ToGame K → Option ChatLine
  | .chatReq a msg => some ⟨a, msg⟩
  | _ => none

/-- The chat line that a packet of a gateway asks for. -/
def requestLine (env : RealmEnv K Key) (packet : S2SPacket) : Option ChatLine :=
  if packet.id = PacketId.gatewayGameChatReq then
    (env.game.parseChatReq packet.payload).map fun req => ⟨req.accountId, req.msg⟩
  else none

/-- The chat lines that the sessions of a gateway have asked for, in order. -/
def said (trace : List (Event ι K)) : List ChatLine :=
  (trace.reverse.filterMap messageOf).filterMap lineOf

/-- The size of the message is not cut. -/
def Short (serialized : List UInt8) : Prop := serialized.length < 65536 - PacketHeader.byteSize

instance (serialized : List UInt8) : Decidable (Short serialized) :=
  inferInstanceAs (Decidable (_ < _))

theorem packetOf_some {pktId : UInt16} {frame : List UInt8} {p : S2SPacket}
    (h : packetOf pktId frame = some p) : p = ⟨pktId, frame.drop PacketHeader.byteSize⟩ := by
  unfold packetOf at h
  split at h
  · cases h
  · exact (Option.some.inj h).symm

theorem packetToGame_id {m : ToGame K} {p : S2SPacket} (h : packetToGame env m = some p) :
    p.id = m.pktId := by
  obtain ⟨frame, -, hp⟩ := Option.bind_eq_some_iff.mp h
  rw [packetOf_some hp]

/-- A short message goes out as it is. -/
theorem packetToGame_payload {m : ToGame K} {p : S2SPacket}
    (hshort : Short (env.gateway.serializeToGame m)) (h : packetToGame env m = some p) :
    p.payload = env.gateway.serializeToGame m := by
  obtain ⟨frame, hframe, hp⟩ := Option.bind_eq_some_iff.mp h
  rw [packetOf_some hp]
  generalize env.gateway.serializeToGame m = bytes at *
  have hlen : (UInt16.ofNat bytes.length).toNat = bytes.length := by
    unfold Short PacketHeader.byteSize at hshort
    rw [UInt16.toNat_ofNat']
    omega
  simp only [gameConnection, hlen, if_true] at hframe
  split at hframe
  · cases hframe
  · obtain rfl := Option.some.inj hframe
    rfl

theorem packetToGame_line (henv : env.Faithful) {m : ToGame K}
    (hshort : m.pktId = PacketId.gatewayGameChatReq → Short (env.gateway.serializeToGame m))
    {l : ChatLine} (h : (packetToGame env m).bind (requestLine env) = some l) :
    lineOf m = some l := by
  obtain ⟨p, hp, hl⟩ := Option.bind_eq_some_iff.mp h
  have hid := packetToGame_id hp
  unfold requestLine at hl
  split at hl
  · rename_i hchat
    obtain ⟨req, hreq, rfl⟩ := Option.map_eq_some_iff.mp hl
    rw [packetToGame_payload (hshort (hid.symm.trans hchat)) hp] at hreq
    cases m with
    | chatReq a msg =>
        obtain rfl := henv.chatReq a msg req hreq
        rfl
    | moveReq a x y z yaw =>
        exact absurd (hid.symm.trans hchat) (show PacketId.gatewayGameMoveReq ≠ _ by decide)
    | leaveReq a =>
        exact absurd (hid.symm.trans hchat) (show PacketId.gatewayGameLeaveReq ≠ _ by decide)
    | attackReq a =>
        exact absurd (hid.symm.trans hchat) (show PacketId.gatewayGameAttackReq ≠ _ by decide)
  · cases hl

/-- What a gateway queues is, as far as chat lines go, part of what was said. -/
theorem queued_lines (henv : env.Faithful) {messages : List (ToGame K)}
    (hshort : ∀ m ∈ messages, m.pktId = PacketId.gatewayGameChatReq →
      Short (env.gateway.serializeToGame m)) :
    ((messages.filterMap (packetToGame env)).filterMap (requestLine env)).Sublist
      (messages.filterMap lineOf) := by
  rw [List.filterMap_filterMap]
  exact filterMap_sublist_of_imp fun m hm l hl => packetToGame_line henv (hshort m hm) hl

theorem pooledSend_payload {buffer : SendBuffer} {pktId : UInt16} {bytes : List UInt8}
    (hshort : Short bytes) {p : S2SPacket}
    (h : ((pooledSend buffer pktId bytes).bind fun q => packetOf pktId q.frame) = some p) :
    p.payload = bytes := by
  obtain ⟨q, hq, hp⟩ := Option.bind_eq_some_iff.mp h
  have hmeasured : bytes.length ≤ maxPacketSize - PacketHeader.byteSize ∨
      Dropped bytes.length := by
    unfold Short Dropped maxPacketSize PacketHeader.byteSize at *
    omega
  have hwhole := (pooledSend_whole_iff buffer pktId bytes).mpr hmeasured q hq
  rw [packetOf_some hp]
  show q.frame.drop PacketHeader.byteSize = bytes
  rw [hwhole.frame]
  rfl

theorem pooledSend_line (henv : env.Faithful) {m : ToGateway K} {buffer : SendBuffer}
    (hshort : m.chatLine ≠ none → Short (env.serializeToGateway m)) {l : ChatLine}
    (h : ((pooledSend buffer (pktIdOf m) (env.serializeToGateway m)).bind fun q =>
      packetOf (pktIdOf m) q.frame).bind (chatLineOf env) = some l) : m.chatLine = some l := by
  obtain ⟨p, hp, hl⟩ := Option.bind_eq_some_iff.mp h
  have hid : p.id = pktIdOf m := by
    obtain ⟨q, -, hq⟩ := Option.bind_eq_some_iff.mp hp
    rw [packetOf_some hq]
  unfold chatLineOf at hl
  split at hl
  · rename_i hchat
    obtain ⟨res, hres, rfl⟩ := Option.map_eq_some_iff.mp hl
    cases m with
    | chatRes r =>
        rw [pooledSend_payload (hshort (by simp [ToGateway.chatLine])) hp] at hres
        obtain rfl := henv.chatRes r res hres
        rfl
    | moveRes r =>
        exact absurd (hid.symm.trans hchat) (show PacketId.gameGatewayMoveRes ≠ _ by decide)
    | attackRes r =>
        exact absurd (hid.symm.trans hchat) (show PacketId.gameGatewayAttackRes ≠ _ by decide)
    | tokenNotify r =>
        exact absurd (hid.symm.trans hchat) (show PacketId.gameGatewayTokenNotify ≠ _ by decide)
  · cases hl

/-- A packet with a chat line is the line that was sent. -/
theorem packetFor_line (henv : env.Faithful) {s : Realm ι K Key} {c : Nat} {buffer : SendBuffer}
    {o : Outgoing K Nat}
    (hshort : o.chatLine ≠ none → Short (env.serializeToGateway o.message)) {l : ChatLine}
    (h : (s.packetFor env c buffer o).bind (chatLineOf env) = some l) : o.chatLine = some l := by
  cases o with
  | send gw m =>
      simp only [packetFor] at h
      split at h
      · exact pooledSend_line henv hshort h
      · cases h
  | broadcast m =>
      simp only [packetFor] at h
      split at h
      · exact pooledSend_line henv hshort h
      · cases h

/-- The packets that a session gets of the messages of a task. -/
def packetsFor (env : RealmEnv K Key) (s : Realm ι K Key) (c : Nat) (buffers : Nat → SendBuffer)
    (messages : List (Outgoing K Nat)) : List S2SPacket :=
  messages.zipIdx.filterMap fun o => s.packetFor env c (buffers o.2) o.1

/-- A task that sends no chat line. -/
theorem packetsFor_noChat (henv : env.Faithful) (s : Realm ι K Key) (c : Nat)
    (buffers : Nat → SendBuffer) {messages : List (Outgoing K Nat)}
    (h : ∀ o ∈ messages, o.chatLine = none) :
    (s.packetsFor env c buffers messages).filterMap (chatLineOf env) = [] := by
  unfold packetsFor
  rw [List.filterMap_filterMap]
  refine List.filterMap_eq_nil_iff.mpr fun o ho => ?_
  have hquiet : o.1.chatLine = none := h o.1 (List.fst_mem_of_mem_zipIdx ho)
  by_contra hline
  obtain ⟨l, hl⟩ := Option.ne_none_iff_exists'.mp hline
  have hsent := packetFor_line henv (fun hne => absurd hquiet hne) hl
  rw [hquiet] at hsent
  cases hsent

/-- A task that answers one session with a chat line. -/
theorem packetsFor_chat (henv : env.Faithful) (s : Realm ι K Key) (c : Nat)
    (buffers : Nat → SendBuffer) {gw : Nat} {res : GameGatewayChatRes}
    (hshort : Short (env.serializeToGateway (.chatRes res))) :
    ((s.packetsFor env c buffers [.send gw (.chatRes res)]).filterMap (chatLineOf env)).Sublist
      (if gw = c then [⟨res.accountId, res.msg⟩] else []) := by
  let f : Outgoing K Nat × Nat → Option ChatLine :=
    fun o => (s.packetFor env c (buffers o.2) o.1).bind (chatLineOf env)
  unfold packetsFor
  rw [List.filterMap_filterMap]
  show (List.filterMap f [(.send gw (.chatRes res), 0)]).Sublist _
  cases hline : f (.send gw (.chatRes res), 0) with
  | none =>
      rw [List.filterMap_cons_none hline]
      exact List.nil_sublist _
  | some l =>
      rw [List.filterMap_cons_some hline]
      by_cases hgw : gw = c
      · have hl := packetFor_line henv (o := .send gw (.chatRes res)) (fun _ => hshort) hline
        obtain rfl : _ = l := Option.some.inj hl
        rw [if_pos hgw]
        exact List.Sublist.refl _
      · simp only [f, packetFor, if_neg hgw] at hline
        cases hline

/-! ## Lines on their way -/

/-- The chat lines between a gateway and its clients' screens, the nearest first. -/
def inFlight (env : RealmEnv K Key) (s : Realm ι K Key) (w : Nat) : List ChatLine :=
  match s.connection w with
  | none => []
  | some c =>
      (s.toGateway c).filterMap (chatLineOf env) ++ (s.toGame c).filterMap (requestLine env)

/-- What was shown and what is on its way is, in order, part of what was said. -/
structure Ordered (env : RealmEnv K Key) (s : Realm ι K Key) : Prop where
  lines : ∀ w, (s.shown w ++ (s.inFlight env w ++
    (s.queued w).filterMap (requestLine env))).Sublist (said (s.gateways w).trace)
  unmade : ∀ c, s.connections ≤ c → (s.toGateway c).filterMap (chatLineOf env) = [] ∧
    (s.toGame c).filterMap (requestLine env) = []
  made : ∀ w c, s.connection w = some c → c < s.connections
  own : ∀ w w' c, s.connection w = some c → s.connection w' = some c → w = w'

theorem said_append (new trace : List (Event ι K)) :
    said (new ++ trace) = said trace ++ (new.reverse.filterMap messageOf).filterMap lineOf := by
  simp [said, List.filterMap_append]

theorem newEvents_eq {old new : Gateway ι K Key} {added : List (Event ι K)}
    (h : new.trace = added ++ old.trace) : newEvents old new = added.reverse := by
  simp [newEvents, h]

/-- No chat message is so long that its size is cut. -/
def Uncut [DecidableEq ι] [Field K] [LinearOrder K] [FloorRing K] [HasSqrt K]
    (env : RealmEnv K Key) (s : Realm ι K Key) : Label ι K → Prop
  | .gateway w label => ∀ gateway, Gateway.step env.gateway (s.gateways w) label = some gateway →
      ∀ m ∈ (newEvents (s.gateways w) gateway).filterMap messageOf,
        m.pktId = PacketId.gatewayGameChatReq → Short (env.gateway.serializeToGame m)
  | .gameReceives c order _ => ∀ packet rest, s.toGame c = packet :: rest →
      ∀ o ∈ (GameContext.dispatch env.game { s.game with sent := [] } c packet.id packet.payload
        order).sent, o.chatLine ≠ none → Short (env.serializeToGateway o.message)
  | _ => True

/-! ## Steps -/

theorem inFlight_of_eq {s s' : Realm ι K Key} {w : Nat}
    (hconnection : s'.connection w = s.connection w)
    (hkept : ∀ c, s.connection w = some c →
      (s'.toGateway c).filterMap (chatLineOf env) = (s.toGateway c).filterMap (chatLineOf env) ∧
      (s'.toGame c).filterMap (requestLine env) = (s.toGame c).filterMap (requestLine env)) :
    s'.inFlight env w = s.inFlight env w := by
  unfold inFlight
  rw [hconnection]
  cases hc : s.connection w with
  | none => rfl
  | some c =>
      obtain ⟨hgateway, hgame⟩ := hkept c hc
      simp only [hgateway, hgame]

theorem gatewayStepped_ordered (henv : env.Faithful) {s : Realm ι K Key} (hs : s.Ordered env)
    {w : Nat} {gateway : Gateway ι K Key}
    (hsuffix : (s.gateways w).trace <:+ gateway.trace)
    (hshort : ∀ m ∈ (newEvents (s.gateways w) gateway).filterMap messageOf,
      m.pktId = PacketId.gatewayGameChatReq → Short (env.gateway.serializeToGame m)) :
    (s.gatewayStepped env w gateway).Ordered env := by
  refine ⟨fun v => ?_, hs.unmade, hs.made, hs.own⟩
  have hflight : (s.gatewayStepped env w gateway).inFlight env v = s.inFlight env v :=
    inFlight_of_eq rfl fun _ _ => ⟨rfl, rfl⟩
  rw [hflight]
  by_cases hv : v = w
  · subst hv
    obtain ⟨added, hadded⟩ := hsuffix
    rw [newEvents_eq hadded.symm] at hshort
    simp only [gatewayStepped, Function.update_self, newEvents_eq hadded.symm,
      List.filterMap_append, ← hadded, said_append]
    rw [← List.append_assoc, ← List.append_assoc]
    refine List.Sublist.append ?_ (queued_lines henv hshort)
    rw [List.append_assoc]
    exact hs.lines v
  · simp only [gatewayStepped, Function.update_of_ne hv]
    exact hs.lines v

theorem connect_ordered {s : Realm ι K Key} (hs : s.Ordered env) {w : Nat}
    (halone : s.connection w = none) : (s.connect w).Ordered env := by
  have hunmade := hs.unmade s.connections (Nat.le_refl _)
  have hother : ∀ v, v ≠ w → (s.connect w).connection v = s.connection v :=
    fun v hv => Function.update_of_ne hv _ _
  have hself : (s.connect w).connection w = some s.connections := Function.update_self ..
  refine ⟨fun v => ?_, fun c hc => hs.unmade c (Nat.le_of_succ_le hc), fun v c hc => ?_,
    fun v v' c hc hc' => ?_⟩
  · have hflight : (s.connect w).inFlight env v = s.inFlight env v := by
      by_cases hv : v = w
      · subst hv
        show (match (s.connect v).connection v with | none => [] | some c => _) = _
        simp only [hself, inFlight, halone]
        show (s.toGateway s.connections).filterMap _ ++ (s.toGame s.connections).filterMap _ = []
        rw [hunmade.1, hunmade.2]
        rfl
      · exact inFlight_of_eq (hother v hv) fun _ _ => ⟨rfl, rfl⟩
    rw [hflight]
    exact hs.lines v
  · by_cases hv : v = w
    · subst hv
      rw [hself, Option.some.injEq] at hc
      exact hc ▸ Nat.lt_succ_self _
    · rw [hother v hv] at hc
      exact Nat.lt_succ_of_lt (hs.made v c hc)
  · have hold : ∀ {v}, v ≠ w → (s.connect w).connection v = some c → c < s.connections :=
      fun hv h => hs.made _ c (hother _ hv ▸ h)
    have hnew : ∀ {v}, v = w → (s.connect w).connection v = some c → c = s.connections := by
      rintro v rfl h
      exact (Option.some.inj (hself.symm.trans h)).symm
    by_cases hv : v = w
    · by_cases hv' : v' = w
      · rw [hv, hv']
      · exact absurd (hnew hv hc) (Nat.ne_of_lt (hold hv' hc'))
    · by_cases hv' : v' = w
      · exact absurd (hnew hv' hc') (Nat.ne_of_lt (hold hv hc))
      · exact hs.own v v' c (hother v hv ▸ hc) (hother v' hv' ▸ hc')

theorem disconnect_ordered {s : Realm ι K Key} (hs : s.Ordered env) (w : Nat) :
    Ordered env { s with connection := Function.update s.connection w none } := by
  have hother : ∀ v c, Function.update s.connection w none v = some c →
      s.connection v = some c := by
    intro v c hc
    by_cases hv : v = w
    · rw [hv, Function.update_self] at hc
      cases hc
    · rwa [Function.update_of_ne hv] at hc
  refine ⟨fun v => ?_, hs.unmade, fun v c hc => hs.made v c (hother v c hc),
    fun v v' c hc hc' => hs.own v v' c (hother v c hc) (hother v' c hc')⟩
  refine List.Sublist.trans ?_ (hs.lines v)
  refine (List.Sublist.refl _).append (List.Sublist.append ?_ (List.Sublist.refl _))
  by_cases hv : v = w
  · subst hv
    simp [inFlight]
  · simp [inFlight, Function.update_of_ne hv]

/-- The oldest packet of the queue goes to the back of the connection. -/
theorem transmits_ordered {s : Realm ι K Key} (hs : s.Ordered env) {w c : Nat}
    {packet : S2SPacket} {rest : List S2SPacket} (hconnected : s.connection w = some c)
    (hwaiting : s.queued w = packet :: rest) :
    Ordered env { s with
      queued := Function.update s.queued w rest
      toGame := Function.update s.toGame c (s.toGame c ++ [packet]) } := by
  refine ⟨fun v => ?_, fun c' hc' => ?_, hs.made, hs.own⟩
  · by_cases hv : v = w
    · subst hv
      have hlines := hs.lines v
      simp only [inFlight, hconnected, hwaiting, Function.update_self, List.append_assoc,
        ← List.filterMap_append] at hlines ⊢
      rwa [List.singleton_append]
    · have hflight : inFlight env { s with
          queued := Function.update s.queued w rest
          toGame := Function.update s.toGame c (s.toGame c ++ [packet]) } v
            = s.inFlight env v := by
        refine inFlight_of_eq rfl fun c' hc' => ⟨rfl, ?_⟩
        have hne : c' ≠ c := by
          rintro rfl
          exact hv (hs.own v w c' hc' hconnected)
        simp only [Function.update_of_ne hne]
      rw [hflight]
      simp only [Function.update_of_ne hv]
      exact hs.lines v
  · have hne : c' ≠ c := Nat.ne_of_gt (Nat.lt_of_lt_of_le (hs.made w c hconnected) hc')
    simp only [Function.update_of_ne hne]
    exact hs.unmade c' hc'

theorem update_sublist {β : Type} {f : S2SPacket → Option β} {ways : Nat → List S2SPacket}
    (c n v : Nat) : ((Function.update ways c ((ways c).eraseIdx n) v).filterMap f).Sublist
      ((ways v).filterMap f) := by
  by_cases hv : v = c
  · subst hv
    rw [Function.update_self]
    exact (List.eraseIdx_sublist _ _).filterMap f
  · rw [Function.update_of_ne hv]

/-- Fewer lines on their way. -/
theorem Ordered.of_sublist {s s' : Realm ι K Key} (hs : s.Ordered env)
    (hshown : s'.shown = s.shown) (hgateways : s'.gateways = s.gateways)
    (hconnection : s'.connection = s.connection) (hconnections : s'.connections = s.connections)
    (hqueued : ∀ w, ((s'.queued w).filterMap (requestLine env)).Sublist
      ((s.queued w).filterMap (requestLine env)))
    (hgame : ∀ c, ((s'.toGame c).filterMap (requestLine env)).Sublist
      ((s.toGame c).filterMap (requestLine env)))
    (hgateway : ∀ c, ((s'.toGateway c).filterMap (chatLineOf env)).Sublist
      ((s.toGateway c).filterMap (chatLineOf env))) : s'.Ordered env := by
  refine ⟨fun w => ?_, fun c hc => ?_, ?_, ?_⟩
  · rw [hshown, hgateways]
    refine List.Sublist.trans ?_ (hs.lines w)
    refine (List.Sublist.refl _).append (List.Sublist.append ?_ (hqueued w))
    unfold inFlight
    rw [hconnection]
    cases s.connection w with
    | none => exact List.Sublist.refl _
    | some c => exact (hgateway c).append (hgame c)
  · obtain ⟨hnil, hnil'⟩ := hs.unmade c (hconnections ▸ hc)
    exact ⟨List.sublist_nil.mp (hnil ▸ hgateway c), List.sublist_nil.mp (hnil' ▸ hgame c)⟩
  · rw [hconnection, hconnections]
    exact hs.made
  · rw [hconnection]
    exact hs.own

theorem loses_ordered {s : Realm ι K Key} (hs : s.Ordered env) (n : Nat) (way : Way) :
    (s.loses n way).Ordered env := by
  cases way with
  | queued w =>
      exact hs.of_sublist rfl rfl rfl rfl (update_sublist w n) (fun _ => List.Sublist.refl _)
        fun _ => List.Sublist.refl _
  | toGame c =>
      exact hs.of_sublist rfl rfl rfl rfl (fun _ => List.Sublist.refl _) (update_sublist c n)
        fun _ => List.Sublist.refl _
  | toGateway c =>
      exact hs.of_sublist rfl rfl rfl rfl (fun _ => List.Sublist.refl _)
        (fun _ => List.Sublist.refl _) (update_sublist c n)

/-- A task that sends no chat line. -/
theorem gameStepped_quiet (henv : env.Faithful) {s : Realm ι K Key} (hs : s.Ordered env)
    (buffers : Nat → Nat → SendBuffer) {game : GameContext K Nat}
    (hquiet : ∀ o ∈ game.sent, o.chatLine = none) :
    (s.gameStepped env buffers game).Ordered env := by
  refine hs.of_sublist rfl rfl rfl rfl (fun _ => List.Sublist.refl _)
    (fun _ => List.Sublist.refl _) fun c => ?_
  have hnone := packetsFor_noChat henv s c (buffers c)
    (fun o ho => hquiet o (List.mem_reverse.mp ho))
  show ((s.toGateway c ++ s.packetsFor env c (buffers c) game.sent.reverse).filterMap _).Sublist _
  rw [List.filterMap_append, hnone, List.append_nil]

/-- A request leaves the connection to the game server, and its answer takes its
    place on the connection back. -/
theorem gameStepped_answers (henv : env.Faithful) {s : Realm ι K Key} (hs : s.Ordered env)
    (buffers : Nat → Nat → SendBuffer) {c : Nat} {packet : S2SPacket} {rest : List S2SPacket}
    (hwaiting : s.toGame c = packet :: rest) {game : GameContext K Nat}
    {res : GameGatewayChatRes} (hsent : game.sent = [.send c (.chatRes res)])
    (hline : requestLine env packet = some ⟨res.accountId, res.msg⟩)
    (hshort : Short (env.serializeToGateway (.chatRes res))) :
    ((s.gameReads c rest).gameStepped env buffers game).Ordered env := by
  have hanswer : ∀ v, (((s.gameReads c rest).packetsFor env v (buffers v)
      game.sent.reverse).filterMap (chatLineOf env)).Sublist
        (if c = v then [⟨res.accountId, res.msg⟩] else []) := by
    intro v
    rw [hsent]
    exact packetsFor_chat henv (s.gameReads c rest) v (buffers v) hshort
  have hback : ∀ v, (((s.gameReads c rest).gameStepped env buffers game).toGateway v).filterMap
      (chatLineOf env) = (s.toGateway v).filterMap (chatLineOf env) ++
        ((s.gameReads c rest).packetsFor env v (buffers v) game.sent.reverse).filterMap
          (chatLineOf env) := by
    intro v
    rw [← List.filterMap_append]
    rfl
  have hforth : ∀ v, (s.toGame v).filterMap (requestLine env)
      = (if c = v then [⟨res.accountId, res.msg⟩] else []) ++
        ((s.gameReads c rest).toGame v).filterMap (requestLine env) := by
    intro v
    unfold gameReads
    by_cases hv : c = v
    · subst hv
      simp only [hwaiting, List.filterMap_cons_some hline, if_true, Function.update_self,
        List.singleton_append]
    · simp only [if_neg hv, Function.update_of_ne (Ne.symm hv), List.nil_append]
  have hunmade : ∀ v, s.connections ≤ v → c ≠ v := by
    rintro v hv rfl
    have hnil := (hs.unmade c hv).2
    rw [hwaiting, List.filterMap_cons_some hline] at hnil
    cases hnil
  refine ⟨fun w => ?_, fun v hv => ?_, hs.made, hs.own⟩
  · refine List.Sublist.trans ?_ (hs.lines w)
    refine (List.Sublist.refl _).append (List.Sublist.append ?_ (List.Sublist.refl _))
    show List.Sublist (match s.connection w with | none => [] | some v => _) _
    unfold inFlight
    cases s.connection w with
    | none => exact List.Sublist.refl _
    | some v =>
        dsimp only
        rw [hback v, hforth v, List.append_assoc]
        exact (List.Sublist.refl _).append ((hanswer v).append (List.Sublist.refl _))
  · have hne := hunmade v hv
    have hgame := hforth v
    have hnil := hanswer v
    rw [if_neg hne] at hnil hgame
    rw [hback v, List.sublist_nil.mp hnil, (hs.unmade v hv).1]
    exact ⟨rfl, hgame.symm.trans (hs.unmade v hv).2⟩

theorem gatewayReceives_ordered [DecidableEq ι] {s : Realm ι K Key} (hs : s.Ordered env)
    {w c : Nat} {packet : S2SPacket} {rest : List S2SPacket}
    (hconnected : s.connection w = some c) (hwaiting : s.toGateway c = packet :: rest) :
    (s.gatewayReceives env w c packet rest).Ordered env := by
  have hsaid : ∀ v, said ((s.gatewayReceives env w c packet rest).gateways v).trace
      = said (s.gateways v).trace := by
    intro v
    by_cases hv : v = w
    · subst hv
      simp only [gatewayReceives, Function.update_self]
      rw [(Gateway.gameDispatch_silent (s.gateways v) packet.id packet.payload).trace]
    · simp only [gatewayReceives, Function.update_of_ne hv]
  refine ⟨fun v => ?_, fun v hv => ?_, hs.made, hs.own⟩
  · rw [hsaid]
    by_cases hv : v = w
    · subst hv
      have hlines := hs.lines v
      have hhead : (packet :: rest).filterMap (chatLineOf env)
          = (chatLineOf env packet).toList ++ rest.filterMap (chatLineOf env) := by
        cases hline : chatLineOf env packet with
        | none => rw [List.filterMap_cons_none hline]; rfl
        | some l => rw [List.filterMap_cons_some hline]; rfl
      simp only [inFlight, hconnected, hwaiting, hhead, List.append_assoc] at hlines
      simp only [inFlight, gatewayReceives, hconnected, Function.update_self, List.append_assoc]
      exact hlines
    · have hflight : (s.gatewayReceives env w c packet rest).inFlight env v = s.inFlight env v := by
        refine inFlight_of_eq rfl fun c' hc' => ⟨?_, rfl⟩
        have hne : c' ≠ c := by
          rintro rfl
          exact hv (hs.own v w c' hc' hconnected)
        simp only [gatewayReceives, Function.update_of_ne hne]
      rw [hflight]
      simp only [gatewayReceives, Function.update_of_ne hv]
      exact hs.lines v
  · have hne : v ≠ c := Nat.ne_of_gt (Nat.lt_of_lt_of_le (hs.made w c hconnected) hv)
    simp only [gatewayReceives, Function.update_of_ne hne]
    exact hs.unmade v hv

/-! ## Runs -/

section Runs

variable [DecidableEq ι] [Field K] [LinearOrder K] [FloorRing K] [HasSqrt K]

theorem gameReceives_ordered (henv : env.Faithful) {s : Realm ι K Key} (hs : s.Ordered env)
    {c : Nat} {packet : S2SPacket} {rest : List S2SPacket} (order : IterationOrder)
    (buffers : Nat → Nat → SendBuffer) (hwaiting : s.toGame c = packet :: rest)
    (huncut : Uncut env s (.gameReceives c order buffers)) :
    ((s.gameReads c rest).gameStepped env buffers
      (GameContext.dispatch env.game { s.game with sent := [] } c packet.id packet.payload
        order)).Ordered env := by
  have hread : (s.gameReads c rest).Ordered env := by
    refine hs.of_sublist rfl rfl rfl rfl (fun _ => List.Sublist.refl _) (fun v => ?_)
      fun _ => List.Sublist.refl _
    unfold gameReads
    by_cases hv : v = c
    · subst hv
      simp only [Function.update_self, hwaiting]
      exact (List.sublist_cons_self packet rest).filterMap _
    · simp only [Function.update_of_ne hv]
      exact List.Sublist.refl _
  have hshort := huncut packet rest hwaiting
  by_cases hid : packet.id = PacketId.gatewayGameChatReq
  · have hdispatch : GameContext.dispatch env.game { s.game with sent := [] } c packet.id
        packet.payload order = GameContext.handleGatewayGameChatReq env.game
          { s.game with sent := [] } c order packet.payload := by
      rw [hid]
      rfl
    rw [hdispatch] at hshort ⊢
    have hsends : _ ∨ ∃ req targets, env.game.parseChatReq packet.payload = some req ∧
        (GameContext.handleGatewayGameChatReq env.game { s.game with sent := [] } c order
          packet.payload).sent = [.send c (.chatRes ⟨req.accountId, req.msg, targets⟩)] :=
      GameContext.chatReq_sends { s.game with sent := [] } c order packet.payload
    rcases hsends with hsent | ⟨req, targets, hparse, hsent⟩
    · exact gameStepped_quiet henv hread buffers (by simp [hsent])
    · refine gameStepped_answers henv hs buffers hwaiting hsent ?_ ?_
      · rw [requestLine, if_pos hid, hparse]
        rfl
      · refine hshort (.send c (.chatRes ⟨req.accountId, req.msg, targets⟩)) ?_
          (Option.some_ne_none _)
        rw [hsent]
        exact List.mem_cons_self
  · have hquiet : GameContext.NoChat { s.game with sent := [] }
        (GameContext.dispatch env.game { s.game with sent := [] } c packet.id packet.payload
          order) := GameContext.dispatch_noChat hid
    obtain ⟨new, hsent, hnew⟩ := hquiet
    refine gameStepped_quiet henv hread buffers fun o ho => hnew o ?_
    rwa [hsent, List.append_nil] at ho

theorem step_ordered (henv : env.Faithful) {s s' : Realm ι K Key} {label : Label ι K}
    (hs : s.Ordered env) (huncut : Uncut env s label) (hstep : step env s label = some s') :
    s'.Ordered env := by
  cases step_inv hstep with
  | gateway own stepped =>
      exact gatewayStepped_ordered henv hs (Gateway.step_suffix stepped) (huncut _ stepped)
  | connect alone => exact connect_ordered hs alone
  | disconnect w => exact disconnect_ordered hs w
  | transmits connected waiting => exact transmits_ordered hs connected waiting
  | loses way n => exact loses_ordered hs n way
  | gameReceives order buffers waiting =>
      exact gameReceives_ordered henv hs order buffers waiting huncut
  | sessionEnds c => exact ⟨hs.lines, hs.unmade, hs.made, hs.own⟩
  | game buffers own stepped =>
      obtain ⟨new, hsent, hnew⟩ := GameContext.step_noChat own stepped
      refine gameStepped_quiet henv hs buffers fun o ho => hnew o ?_
      rwa [hsent, List.append_nil] at ho
  | gatewayReceives connected waiting => exact gatewayReceives_ordered hs connected waiting

omit [DecidableEq ι] [HasSqrt K] in
theorem start_ordered (spawns : List (MonsterSpawn K)) :
    Ordered env (start spawns : Realm ι K Key) :=
  ⟨fun _ => List.Sublist.refl _, fun _ _ => ⟨rfl, rfl⟩, fun _ _ h => absurd h (by simp [start]),
    fun _ _ _ h => absurd h (by simp [start])⟩

/-- The gateways know who speaks. -/
def Attributed (s : Realm ι K Key) : Prop :=
  ∀ w, (s.gateways w).Known ∧ Gateway.Vouched (s.gateways w).trace

theorem step_attributed {s s' : Realm ι K Key} {label : Label ι K} (hs : s.Attributed)
    (hstep : step env s label = some s') : s'.Attributed := by
  have hupdate : ∀ {t : Realm ι K Key} {w : Nat} {gateway : Gateway ι K Key},
      gateway.Known ∧ Gateway.Vouched gateway.trace →
      t.gateways = Function.update s.gateways w gateway → t.Attributed := by
    intro t w gateway hgateway hgateways v
    rw [hgateways]
    by_cases hv : v = w
    · rw [hv, Function.update_self]
      exact hgateway
    · rw [Function.update_of_ne hv]
      exact hs v
  cases step_inv hstep with
  | @gateway w label gateway own stepped =>
      have hw := hs w
      exact hupdate ⟨Gateway.step_known hw.1 stepped, Gateway.step_vouched hw.1 hw.2 stepped⟩ rfl
  | loses way n => cases way <;> exact hs
  | @gatewayReceives w c packet rest connected waiting =>
      have hw := hs w
      have hsilent : Gateway.Silent (s.gateways w)
          ((s.gateways w).gameDispatch env.gateway packet.id packet.payload) :=
        Gateway.gameDispatch_silent (s.gateways w) packet.id packet.payload
      refine hupdate (w := w) ⟨hw.1.of_trace hsilent.account (by simp [hsilent.trace]), ?_⟩ rfl
      rw [hsilent.trace]
      exact hw.2
  | _ => exact hs

/-- What a gateway shows was said there, in this order, each line once; and who spoke
    under a name was verified for it before. -/
def Spoken (s : Realm ι K Key) : Prop :=
  ∀ w, (s.shown w).Sublist (said (s.gateways w).trace) ∧ Gateway.Vouched (s.gateways w).trace

/-- In every run in which no chat message is so long that its size is cut. -/
theorem always_spoken (henv : env.Faithful) (spawns : List (MonsterSpawn K))
    (labels : List (Label ι K))
    (h : Meets (step env) (Uncut env) (start spawns : Realm ι K Key) labels) :
    Always (step env) Spoken (start spawns : Realm ι K Key) labels := by
  have hinv : Always (step env) (fun s => s.Ordered env ∧ s.Attributed)
      (start spawns : Realm ι K Key) labels := by
    refine always_of_meets ?_ ⟨start_ordered spawns, fun _ => ⟨Gateway.start_known, trivial⟩⟩ h
    intro s label s' hs huncut hstep
    exact ⟨step_ordered henv hs.1 huncut hstep, step_attributed hs.2 hstep⟩
  refine hinv.imp fun s hs w => ⟨?_, (hs.2 w).2⟩
  exact (List.sublist_append_left _ _).trans (hs.1.lines w)

/-- Where no message is long, no size is cut. -/
theorem meets_uncut (hgame : ∀ m, Short (env.gateway.serializeToGame m))
    (hgateway : ∀ m, Short (env.serializeToGateway m)) (s : Realm ι K Key)
    (labels : List (Label ι K)) : Meets (step env) (Uncut env) s labels := by
  refine meets_of_labels (fun _ => True) (L := fun _ => True) (fun _ _ _ => trivial) ?_ trivial
    fun _ _ => trivial
  intro s label s' _ _ _
  cases label with
  | gateway w label => exact fun _ _ m _ _ => hgame m
  | gameReceives c order buffers => exact fun _ _ _ o _ _ => hgateway o.message
  | _ => trivial

end Runs

/-! ## A sample -/

def sampleNotifyBytes : List UInt8 := [10, 1, 97, 18, 1, 116, 24, 100]

/-- The protobuf encoding of what is sent when "a" comes in and says nothing much. -/
def sampleEnv : RealmEnv ℚ Unit where
  game :=
    { GameEnv.sample with
        parseMoveReq := fun bytes => if bytes = [10, 1, 97] then some ⟨"a", 0, 0, 0, 0⟩ else none
        parseChatReq := fun bytes => if bytes = [10, 1, 97] then some ⟨"a", ""⟩ else none
        parseTokenNotify := fun bytes =>
          if bytes = sampleNotifyBytes then some ⟨"a", "t", 100⟩ else none }
  gateway :=
    { bcrypt := .plain
      randomIv := fun _ => some (List.replicate 16 0)
      parseConnectReq := fun bytes =>
        if bytes = [10, 1, 97, 18, 1, 116] then some ⟨"a", "t"⟩ else none
      parseChatReq := fun bytes => if bytes = [] then some ⟨""⟩ else none
      parseMoveReq := fun bytes => if bytes = [] then some ⟨0, 0, 0, 0⟩ else none
      parseAttackReq := fun bytes => if bytes = [] then some ⟨0⟩ else none
      parseMoveRes := fun bytes =>
        if bytes = [10, 1, 97, 50, 1, 97] then some ⟨"a", 0, 0, 0, 0, ["a"]⟩ else none
      parseAttackRes := fun _ => none
      parseChatRes := fun bytes =>
        if bytes = [10, 1, 97, 26, 1, 97] then some ⟨"a", "", ["a"]⟩ else none
      parseTokenNotify := fun bytes =>
        if bytes = sampleNotifyBytes then some ⟨"a", "t", 100⟩ else none
      serializeConnectRes := fun _ => [8, 1]
      serializeMoveRes := fun _ => [10, 1, 97]
      serializeAttackRes := fun _ => []
      serializeChatRes := fun _ => [10, 1, 97]
      serializeToGame := fun m =>
        if m = .moveReq "a" 0 0 0 0 ∨ m = .chatReq "a" "" then [10, 1, 97] else [] }
  serializeToGateway
    | .tokenNotify m =>
        if m.accountId = "a" ∧ m.sessionToken = "t" ∧ m.expireTimeMs = 100 then sampleNotifyBytes
        else []
    | .chatRes m =>
        if m.accountId = "a" ∧ m.msg = "" ∧ m.targetAccountIds = ["a"] then [10, 1, 97, 26, 1, 97]
        else []
    | .moveRes m =>
        if m.accountId = "a" ∧ [m.x, m.y, m.z, m.yaw] = [0, 0, 0, 0] ∧
            m.targetAccountIds = ["a"] then [10, 1, 97, 50, 1, 97]
        else []
    | .attackRes _ => []

theorem sampleEnv_faithful : sampleEnv.Faithful where
  chatReq a msg req h := by
    by_cases hm : a = "a" ∧ msg = ""
    · obtain ⟨rfl, rfl⟩ := hm
      exact (Option.some.inj h).symm
    · simp [sampleEnv, hm] at h
  chatRes m m' h := by
    obtain ⟨a, msg, targets⟩ := m
    by_cases hm : a = "a" ∧ msg = "" ∧ targets = ["a"]
    · simp only [sampleEnv, if_pos hm, if_true, Option.some.injEq] at h
      obtain ⟨rfl, rfl, rfl⟩ := hm
      exact h.symm
    · simp [sampleEnv, if_neg hm] at h

/-- "a" connects with its token, makes a first move and speaks. -/
def sampleChat : List (Label Nat ℚ) :=
  let fresh : Nat → Nat → SendBuffer := fun _ _ => .fresh
  [.connect 0, .game (.worldPacket PacketId.worldGameTokenNotify sampleNotifyBytes) fresh,
    .gatewayReceives 0, .gateway 0 (.gameLink true), .gateway 0 (.accept 0 0),
    .gateway 0 (.headerRead 0 ⟨10, PacketId.clientGatewayConnectReq⟩ 0 0),
    .gateway 0 (.payloadRead 0 [10, 1, 97, 18, 1, 116] 0),
    .gateway 0 (.headerRead 0 ⟨4, PacketId.clientGatewayMoveReq⟩ 0 0),
    .gateway 0 (.headerRead 0 ⟨4, PacketId.clientGatewayChatReq⟩ 0 0),
    .transmits 0, .gameReceives 0 .listed fresh, .transmits 0, .gameReceives 0 .listed fresh,
    .gatewayReceives 0, .gatewayReceives 0]

theorem sampleEnv_short (m : ToGame ℚ) : Short (sampleEnv.gateway.serializeToGame m) := by
  show Short (if _ then _ else _)
  split <;> decide

theorem sampleEnv_shortBack (m : ToGateway ℚ) : Short (sampleEnv.serializeToGateway m) := by
  cases m with
  | tokenNotify m =>
      show Short (if _ then _ else _)
      split <;> decide
  | chatRes m =>
      show Short (if _ then _ else _)
      split <;> decide
  | moveRes m =>
      show Short (if _ then _ else _)
      split <;> decide
  | attackRes m => exact (by decide : Short [])

/-- In the sample the line is shown. -/
theorem always_spoken_sample :
    (exec (step sampleEnv) (start []) sampleChat).map (·.shown 0) = some [⟨"a", ""⟩] ∧
      Always (step sampleEnv) Spoken (start []) sampleChat :=
  ⟨by decide +kernel, always_spoken sampleEnv_faithful [] sampleChat
    (meets_uncut sampleEnv_short sampleEnv_shortBack _ _)⟩

end Realm

end MMOServers.Servers
