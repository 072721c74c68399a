/-
MMOServers.GatewayServer.EncryptionTheorems — handlers run on decrypted data.

Once the encryption of a session is enabled, `ReadPayload` hands its handlers
what `Decrypt` returns and closes the session when it fails. `ReadHeader` has a
path of its own for packets without a payload: it dispatches them at once, with
no data, and nothing is decrypted or checked. The handlers run on decrypted data
only exactly as long as no such packet arrives for a registered id with the rate
limit not used up (`decryptedOnly_iff_carriesData`).
-/
import MMOServers.GatewayServer.SessionInvariants
import MMOServers.Lib.Run

namespace MMOServers.GatewayServer

open MMOServers.Common Transition LittleEndian

variable {ι F Key : Type} {env : GatewayEnv F Key}

namespace Gateway

variable [DecidableEq ι]

/-! ## What the handlers are given -/

/-- A packet of a session with its encryption enabled goes to a handler only as
    what `Decrypt` made of the payload read, after a check of its number. -/
def DecryptedOnly (env : GatewayEnv F Key) (s : Gateway ι F Key) (label : Label ι) : Prop :=
  ∀ i id data, dispatchOf env s label = some (i, id, data) →
    (s.sessions i).cryptoEnabled = true →
      ∃ bytes nowMs crypto, label = .payloadRead i bytes nowMs ∧
        (s.sessions i).crypto.decrypt env.bcrypt bytes = (.ok data, crypto) ∧
        (s.sessions i).crypto.validateSequence (readU32 bytes) = true

/-- No header of an empty packet that has a handler is let through by the rate
    limiter of a session with its encryption enabled. -/
def CarriesData (s : Gateway ι F Key) : Label ι → Prop
  | .headerRead i h now _ =>
      (s.sessions i).cryptoEnabled = true → h.size.toNat = PacketHeader.byteSize →
        ClientSession.hasHandler h.id = true →
          ((s.sessions i).rateLimiter.allowPacket now).1 = false
  | _ => True

omit [DecidableEq ι] in
theorem inspectHeader_dispatch_iff (c : ClientSession Key) (h : PacketHeader) (now : Nat) :
    (c.inspectHeader h now).1 = .dispatch ↔
      h.size.toNat = PacketHeader.byteSize ∧ ClientSession.hasHandler h.id = true ∧
        (c.rateLimiter.allowPacket now).1 = true := by
  have hdrop : ∀ size, ClientSession.dropPacket size ≠ .dispatch := by
    intro size
    unfold ClientSession.dropPacket
    repeat' split
    all_goals exact nofun
  have hempty : PacketHeader.byteSize ≤ h.size.toNat →
      (PacketHeader.payloadSize h.size = 0 ↔ h.size.toNat = PacketHeader.byteSize) := by
    intro hle
    rw [← UInt16.toNat_inj]
    have hlt := h.size.toNat_lt
    simp only [PacketHeader.payloadSize, PacketHeader.byteSize, UInt16.toNat_sub,
      UInt16.toNat_ofNat] at hle ⊢
    omega
  unfold ClientSession.inspectHeader
  dsimp only
  by_cases hsize : (h.size.toNat < PacketHeader.byteSize || maxPacketSize < h.size.toNat) = true
  · rw [if_pos hsize]
    simp only [Bool.or_eq_true, decide_eq_true_eq] at hsize
    refine iff_of_false nofun fun hall => ?_
    have := hall.1
    unfold PacketHeader.byteSize maxPacketSize at *
    omega
  · rw [if_neg hsize]
    simp only [Bool.or_eq_true, decide_eq_true_eq, not_or, Nat.not_lt] at hsize
    rw [← hempty hsize.1]
    cases hallowed : (c.rateLimiter.allowPacket now).1 with
    | false =>
        refine iff_of_false ?_ (by simp)
        simp only [Bool.not_false, if_true]
        split
        · exact nofun
        · exact hdrop _
    | true =>
        simp only [Bool.not_true, Bool.false_eq_true, if_false]
        cases hhandler : ClientSession.hasHandler h.id with
        | false => simpa using hdrop _
        | true =>
            by_cases hzero : PacketHeader.payloadSize h.size = 0
            · simp [hzero]
            · simp only [hzero, Bool.not_true, Bool.false_eq_true, if_false, false_and, iff_false]
              split <;> exact nofun

/-- A step gives its handler decrypted data exactly when it is not the header of
    an empty packet. -/
theorem step_decryptedOnly_iff {s s' : Gateway ι F Key} {label : Label ι}
    (hs : ∀ j, Armed (s.sessions j)) (hstep : step env s label = some s') :
    DecryptedOnly env s label ↔ CarriesData s label := by
  cases label with
  | headerRead i h now nowMs =>
      have hiff := inspectHeader_dispatch_iff (s.sessions i) h now
      constructor
      · intro honly hon hsize hhandler
        by_contra hallowed
        rw [Bool.not_eq_false] at hallowed
        have hdispatch : dispatchOf env s (.headerRead i h now nowMs) = some (i, h.id, []) := by
          simp only [dispatchOf, hiff.mpr ⟨hsize, hhandler, hallowed⟩]
        obtain ⟨bytes, t, crypto, hlabel, -, -⟩ := honly i h.id [] hdispatch hon
        cases hlabel
      · intro hcarries j id data hdispatch hon
        simp only [dispatchOf] at hdispatch
        split at hdispatch
        · rename_i haction
          rw [Option.some.injEq, Prod.mk.injEq] at hdispatch
          obtain ⟨rfl, -⟩ := hdispatch
          obtain ⟨hsize, hhandler, hallowed⟩ := hiff.mp haction
          rw [hcarries hon hsize hhandler] at hallowed
          cases hallowed
        · cases hdispatch
  | payloadRead i bytes nowMs =>
      refine iff_of_true (fun j id data hdispatch hon => ?_) trivial
      simp only [dispatchOf] at hdispatch
      split at hdispatch
      · obtain ⟨plain, hplain, heq⟩ := Option.map_eq_some_iff.mp hdispatch
        rw [Prod.mk.injEq, Prod.mk.injEq] at heq
        obtain ⟨rfl, rfl, rfl⟩ := heq
        simp only [ClientSession.openPayload, hon, hs i hon, Bool.and_self, if_true] at hplain
        rcases PacketCrypto.decrypt_cases env.bcrypt (s.sessions i).crypto bytes with
          ⟨msg, hdec⟩ | ⟨plain', hdec, hvalid, -⟩
        · rw [hdec] at hplain
          cases hplain
        · rw [hdec] at hplain
          obtain rfl := Option.some.inj hplain
          exact ⟨bytes, nowMs, _, rfl, hdec, hvalid⟩
      · cases hdispatch
  | _ =>
      refine iff_of_true (fun _ _ _ hdispatch => ?_) trivial
      cases hdispatch

omit [DecidableEq ι] in
theorem start_armed (j : ι) : Armed ((start : Gateway ι F Key).sessions j) :=
  fun hon => (nomatch hon)

/-- After the encryption of a session was enabled its handlers run on decrypted
    data only, in every step of a run, exactly when no empty packet gets through
    to a handler. -/
theorem decryptedOnly_iff_carriesData (env : GatewayEnv F Key) (labels : List (Label ι)) :
    Meets (step env) (DecryptedOnly env) start labels
      ↔ Meets (step env) (CarriesData) start labels :=
  meets_congr (fun s => ∀ j, Armed (s.sessions j)) (fun hs _ hstep => step_armed hs hstep)
    (fun hs hstep => step_decryptedOnly_iff hs hstep) start_armed

/-- Session 0 authenticates, and then sends an empty `ChatReq`. -/
theorem emptyPacket_dispatched :
    ¬ Meets (step .sample) (DecryptedOnly .sample) (start : Gateway Nat Unit Unit)
      ([.gamePacket PacketId.gameGatewayTokenNotify [10, 1, 97, 18, 1, 116, 24, 100], .accept 0 0,
          .headerRead 0 ⟨10, PacketId.clientGatewayConnectReq⟩ 0 0,
          .payloadRead 0 [10, 1, 97, 18, 1, 116] 0] ++
        [.headerRead 0 ⟨4, PacketId.clientGatewayChatReq⟩ 0 0]) := by
  intro h
  have honly := h.of_exec [] rfl rfl
  obtain ⟨bytes, nowMs, crypto, hlabel, -, -⟩ :=
    honly 0 PacketId.clientGatewayChatReq [] (by decide +kernel) (by decide +kernel)
  cases hlabel

end Gateway

end MMOServers.GatewayServer
