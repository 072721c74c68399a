/-
MMOServers.GatewayServer.AuthenticationTheorems — requests carry verified
accounts.

A request that is forwarded to the game server should carry an account for
which the session presented a valid token. The handlers take the account from
`account_id_`, which is empty before the handshake and after `OnDisconnected`,
and they do not look. The invariant `Known` says that a nonempty `account_id_`
is one the session was verified for, so an empty one is the only gap
(`authenticated_iff_identified`).
-/
import MMOServers.GatewayServer.GatewaySteps
import MMOServers.Lib.Run

namespace MMOServers.GatewayServer

open MMOServers.Common Transition

namespace Gateway

variable {ι F Key : Type} [DecidableEq ι] {env : GatewayEnv F Key}

/-! ## Requests are authenticated -/

/-- Every forwarded request carries an account for which a token of its session
    was verified before. -/
def AuthenticatedTrace : List (Event ι F) → Prop
  | [] => True
  | .forwarded i m :: older =>
      (m.isRequest = true → .verified i m.accountId ∈ older) ∧ AuthenticatedTrace older
  | .verified _ _ :: older => AuthenticatedTrace older
  | .dispatched _ _ :: older => AuthenticatedTrace older
  | .disconnected _ :: older => AuthenticatedTrace older

instance decidableAuthenticatedTrace [DecidableEq F] :
    (trace : List (Event ι F)) → Decidable (AuthenticatedTrace trace)
  | [] => isTrue trivial
  | .forwarded i m :: older =>
      have := decidableAuthenticatedTrace older
      inferInstanceAs (Decidable ((m.isRequest = true → Event.verified i m.accountId ∈ older) ∧
        AuthenticatedTrace older))
  | .verified _ _ :: older => decidableAuthenticatedTrace older
  | .dispatched _ _ :: older => decidableAuthenticatedTrace older
  | .disconnected _ :: older => decidableAuthenticatedTrace older

def Authenticated (s : Gateway ι F Key) : Prop := AuthenticatedTrace s.trace

instance [DecidableEq F] (s : Gateway ι F Key) : Decidable s.Authenticated :=
  inferInstanceAs (Decidable (AuthenticatedTrace s.trace))

/-- A request that the step passes on comes from a session with an account, or
    one that was verified for the empty one. -/
def Identified (env : GatewayEnv F Key) (s : Gateway ι F Key) (label : Label ι) : Prop :=
  ∀ i id data, dispatchOf env s label = some (i, id, data) →
    ∀ m, requestOf env (s.sessions i).accountId id data = some m →
      s.gameAccepts env m = true →
        (s.sessions i).accountId ≠ "" ∨ .verified i "" ∈ s.trace

/-- A session's account is one it was verified for. -/
def Known (s : Gateway ι F Key) : Prop :=
  ∀ i, (s.sessions i).accountId ≠ "" → .verified i (s.sessions i).accountId ∈ s.trace

omit [DecidableEq ι] in
theorem start_known : (start : Gateway ι F Key).Known := by
  intro i hi
  exact absurd rfl hi

omit [DecidableEq ι] in
theorem Known.of_trace {s s' : Gateway ι F Key} (h : s.Known)
    (haccount : ∀ j, (s'.sessions j).accountId = (s.sessions j).accountId)
    (htrace : ∀ e ∈ s.trace, e ∈ s'.trace) : s'.Known := by
  intro j hj
  rw [haccount] at hj ⊢
  exact htrace _ (h j hj)

theorem onDisconnected_known {s : Gateway ι F Key} (h : s.Known) (i : ι) :
    (s.onDisconnected env i).Known := by
  intro j hj
  obtain ⟨haccount, -, -⟩ := onDisconnected_sessions env s i j
  rw [haccount] at hj ⊢
  by_cases hji : j = i
  · rw [if_pos hji] at hj
    exact absurd rfl hj
  · rw [if_neg hji] at hj ⊢
    rw [onDisconnected_trace]
    split <;> simp [h j hj]

theorem onDisconnected_authenticated {s : Gateway ι F Key} (i : ι) :
    (s.onDisconnected env i).Authenticated ↔ s.Authenticated := by
  unfold Authenticated
  rw [onDisconnected_trace]
  split <;> simp [AuthenticatedTrace, ToGame.isRequest]

theorem DispatchEffect.known {s s' : Gateway ι F Key} {i : ι} {id : UInt16}
    {data : List UInt8} (h : DispatchEffect env s i id data s') (hs : s.Known) : s'.Known := by
  cases h with
  | quiet h => exact hs.of_trace h.account (by simp +contextual [h.trace])
  | relayed m request accepted h => exact hs.of_trace h.account (by simp +contextual [h.trace])
  | verified a unrequested h =>
      intro j hj
      rw [h.account] at hj ⊢
      rw [h.trace]
      by_cases hji : j = i
      · subst hji
        simp [authenticate]
      · have haccount := hs j
        simp only [authenticate, modify_other _ _ hji, record_sessions] at hj ⊢
        simp [haccount hj]
  | closed s₁ h =>
      exact onDisconnected_known (hs.of_trace h.account (by simp +contextual [h.trace])) i

/-- A dispatch keeps the history authenticated exactly when the request it
    passes on, if any, has an account behind it. -/
theorem DispatchEffect.authenticated_iff {s s' : Gateway ι F Key} {i : ι} {id : UInt16}
    {data : List UInt8} (h : DispatchEffect env s i id data s') (hk : s.Known)
    (ha : s.Authenticated) :
    s'.Authenticated ↔ ∀ m, requestOf env (s.sessions i).accountId id data = some m →
      s.gameAccepts env m = true →
        (s.sessions i).accountId ≠ "" ∨ .verified i "" ∈ s.trace := by
  cases h with
  | quiet h refused =>
      refine ⟨fun _ m hm hacc => ?_, fun _ => ?_⟩
      · rw [refused m hm] at hacc
        cases hacc
      · rw [Authenticated, h.trace]
        exact ha
  | relayed m request accepted h =>
      obtain ⟨haccount, hisRequest⟩ := requestOf_account request
      have hiff : s'.Authenticated ↔ .verified i (s.sessions i).accountId ∈ s.trace := by
        rw [Authenticated, h.trace]
        simp only [record_trace, AuthenticatedTrace, hisRequest, haccount, true_implies,
          List.mem_cons, reduceCtorEq, false_or]
        exact and_iff_left ha
      rw [hiff]
      constructor
      · intro hverified m' hm' hacc
        by_cases hempty : (s.sessions i).accountId = ""
        · exact Or.inr (hempty ▸ hverified)
        · exact Or.inl hempty
      · intro hidentified
        rcases hidentified m request accepted with hne | hempty
        · exact hk i hne
        · by_cases hne : (s.sessions i).accountId = ""
          · exact hne ▸ hempty
          · exact hk i hne
  | verified a unrequested h =>
      refine ⟨fun _ m hm => ?_, fun _ => ?_⟩
      · rw [unrequested] at hm
        cases hm
      · rw [Authenticated, h.trace]
        exact ha
  | closed s₁ h unrequested =>
      refine ⟨fun _ m hm => ?_, fun _ => ?_⟩
      · rw [unrequested] at hm
        cases hm
      · rw [onDisconnected_authenticated, Authenticated, h.trace]
        exact ha

theorem step_known {s s' : Gateway ι F Key} {label : Label ι} (hs : s.Known)
    (hstep : step env s label = some s') : s'.Known := by
  cases step_effect hstep with
  | accepts i now new =>
      exact hs.of_trace (modify_field (·.accountId) s i rfl) (fun _ he => he)
  | passive undispatched h => exact hs.of_trace h.account (by simp [h.trace])
  | disconnects i s₁ undispatched h =>
      exact onDisconnected_known (hs.of_trace h.account (by simp [h.trace])) i
  | dispatches i id data nowMs s₁ dispatched h =>
      have hs₁ : s₁.Known := hs.of_trace h.account (by simp [h.trace])
      have hd := (dispatch_effect env s₁ i id data nowMs).known hs₁
      exact hd.of_trace (setReading_account _ i _) (by simp)

theorem step_authenticated_iff {s s' : Gateway ι F Key} {label : Label ι} (hk : s.Known)
    (ha : s.Authenticated) (hstep : step env s label = some s') :
    s'.Authenticated ↔ s.Identified env label := by
  have undispatched_iff : dispatchOf env s label = none → (s'.Authenticated ↔ s.Authenticated) →
      (s'.Authenticated ↔ s.Identified env label) := by
    intro hnone hiff
    refine ⟨fun _ i id data hd => ?_, fun _ => hiff.mpr ha⟩
    rw [hnone] at hd
    cases hd
  cases step_effect hstep with
  | accepts i now new => exact undispatched_iff rfl Iff.rfl
  | passive undispatched h =>
      exact undispatched_iff undispatched (by rw [Authenticated, h.trace, Authenticated])
  | disconnects i s₁ undispatched h =>
      refine undispatched_iff undispatched ?_
      rw [onDisconnected_authenticated, Authenticated, h.trace, Authenticated]
  | dispatches i id data nowMs s₁ dispatched h reading gameOpen tracker =>
      have hk₁ : s₁.Known := hk.of_trace h.account (by simp [h.trace])
      have ha₁ : s₁.Authenticated := by rwa [Authenticated, h.trace]
      have hiff := (dispatch_effect env s₁ i id data nowMs).authenticated_iff hk₁ ha₁
      have haccepts : ∀ m, s₁.gameAccepts env m = s.gameAccepts env m := by
        intro m
        rw [gameAccepts, gameOpen, gameAccepts]
      simp only [h.account, h.trace, haccepts] at hiff
      rw [Authenticated, setReading_trace]
      refine hiff.trans ?_
      constructor
      · intro hall i' id' data' hd
        rw [dispatched, Option.some.injEq, Prod.mk.injEq, Prod.mk.injEq] at hd
        obtain ⟨rfl, rfl, rfl⟩ := hd
        exact hall
      · intro hall
        exact hall i id data dispatched

/-- The requests of a run are authenticated exactly as long as none is passed on
    for a session without an account. -/
theorem authenticated_iff_identified (env : GatewayEnv F Key) (labels : List (Label ι)) :
    Always (step env) Authenticated start labels
      ↔ Meets (step env) (Identified env) start labels :=
  always_iff_meets _ (fun hk _ _ hstep => step_known hk hstep)
    (fun hk ha hstep => step_authenticated_iff hk ha hstep) start_known trivial

/-- An empty `ChatReq`, sent as the first packet of a fresh connection. -/
theorem chat_beforeConnect :
    ¬ Always (step .sample) Authenticated (start : Gateway Nat Unit Unit)
      [.gameLink true, .accept 0 0, .headerRead 0 ⟨4, PacketId.clientGatewayChatReq⟩ 0 0] := by
  decide

end Gateway

end MMOServers.GatewayServer
