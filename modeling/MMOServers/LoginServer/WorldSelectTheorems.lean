/-
MMOServers.LoginServer.WorldSelectTheorems — for which accounts worlds are
selected.

`Handle_WorldSelectReq` takes the account from `logged_in_id_` and does not ask
whether the session has logged in. The id is the account of the latest grant of
the session (`LoggedIn`), and before the first grant it is empty. So what is
forwarded carries a granted account exactly when the session has logged in
before it selects a world (`forwardsGranted_iff_loggedInBefore`).
-/
import MMOServers.LoginServer.LoginTheorems

namespace MMOServers.LoginServer

open MMOServers.Common Transition

namespace LoginContext

variable {ι : Type} [DecidableEq ι] {env : ServerEnv}

/-- The step forwards a world selection of the session `i`. -/
def Forwards (env : ServerEnv) (s : LoginContext ι) (label : Label ι) (i : ι)
    (req : LoginWorldSelectReq) : Prop :=
  ∃ s', step env s label = some s' ∧ s'.trace = .forwarded i req :: s.trace

/-- A world selection that is forwarded carries an account that was granted to the
    session. -/
def ForwardsGranted (env : ServerEnv) (s : LoginContext ι) (label : Label ι) : Prop :=
  ∀ i req, Forwards env s label i req → .granted i req.accountId ∈ s.trace

/-- A session on behalf of which a world selection is forwarded was granted some
    login before. -/
def LoggedInBefore (env : ServerEnv) (s : LoginContext ι) (label : Label ι) : Prop :=
  ∀ i req, Forwards env s label i req → ∃ a, .granted i a ∈ s.trace

/-- A session that was granted a login has the account of one of its grants. -/
def LoggedIn (s : LoginContext ι) : Prop :=
  ∀ i a, .granted i a ∈ s.trace → .granted i (s.sessions i).loggedInId ∈ s.trace

omit [DecidableEq ι] in
theorem LoggedIn.of_silent {s s' : LoginContext ι} (h : s.LoggedIn) (hs : Silent s s') :
    s'.LoggedIn := by
  intro i a ha
  rw [hs.trace] at ha ⊢
  rw [hs.loggedInId]
  exact h i a ha

omit [DecidableEq ι] in
/-- An event that is no grant. -/
theorem LoggedIn.of_event {s s' : LoginContext ι} (h : s.LoggedIn) {e : Event ι}
    (he : ∀ i a, e ≠ .granted i a) (htrace : s'.trace = e :: s.trace)
    (hid : ∀ i, (s'.sessions i).loggedInId = (s.sessions i).loggedInId) : s'.LoggedIn := by
  intro i a ha
  rw [htrace] at ha ⊢
  rw [hid]
  rcases List.mem_cons.mp ha with heq | hmem
  · exact absurd heq.symm (he i a)
  · exact List.mem_cons_of_mem _ (h i a hmem)

theorem grant_loggedIn {s : LoginContext ι} (h : s.LoggedIn) (i : ι) (id : String) :
    (s.grant i id).LoggedIn := by
  intro j a ha
  show .granted j ((s.grant i id).sessions j).loggedInId ∈ Event.granted i id :: s.trace
  replace ha : .granted j a ∈ Event.granted i id :: s.trace := ha
  by_cases hj : j = i
  · subst hj
    simp [grant, record]
  · have hid : ((s.grant i id).sessions j).loggedInId = (s.sessions j).loggedInId := by
      simp [grant, record, modify, hj]
    rw [hid]
    rcases List.mem_cons.mp ha with heq | hmem
    · cases heq
      exact absurd rfl hj
    · exact List.mem_cons_of_mem _ (h j a hmem)

theorem step_loggedIn {s s' : LoginContext ι} {label : Label ι} (hs : s.LoggedIn)
    (hstep : step env s label = some s') : s'.LoggedIn := by
  cases step_effect hstep with
  | quiet ungranted h => exact hs.of_silent h
  | forwards i req ungranted account h =>
      have hrecord : (s.record (.forwarded i req)).LoggedIn :=
        hs.of_event (by simp) rfl fun _ => rfl
      exact hrecord.of_silent h
  | disconnects i s₁ ungranted h =>
      exact (hs.of_silent h).of_event (by simp) (onDisconnected_trace s₁ i)
        (onDisconnected_loggedInId s₁ i)
  | grants i id granted unused h => exact (grant_loggedIn hs i id).of_silent h

/-- The account in what is forwarded is the id of the session. -/
theorem Forwards.account {s : LoginContext ι} {label : Label ι} {i : ι}
    {req : LoginWorldSelectReq} (h : Forwards env s label i req) :
    req.accountId = (s.sessions i).loggedInId := by
  obtain ⟨s', hstep, htrace⟩ := h
  cases step_effect hstep with
  | quiet ungranted h =>
      rw [h.trace] at htrace
      exact absurd htrace.symm (List.cons_ne_self _ _)
  | forwards j req' ungranted account h =>
      have hhead : Event.forwarded j req' :: s.trace = .forwarded i req :: s.trace :=
        h.trace.symm.trans htrace
      rw [List.cons.injEq, Event.forwarded.injEq] at hhead
      obtain ⟨⟨rfl, rfl⟩, -⟩ := hhead
      exact account
  | disconnects j s₁ ungranted h =>
      rw [onDisconnected_trace] at htrace
      cases htrace
  | grants j id granted unused h =>
      have hhead := h.trace.symm.trans htrace
      cases hhead

/-- The runs on which everything that is forwarded carries a granted account are
    those on which sessions log in before they select a world. -/
theorem forwardsGranted_iff_loggedInBefore (env : ServerEnv) (labels : List (Label ι)) :
    Meets (step env) (ForwardsGranted env) start labels
      ↔ Meets (step env) (LoggedInBefore env) start labels := by
  have hstart : (start : LoginContext ι).LoggedIn := fun _ _ ha => (nomatch ha)
  refine meets_congr LoggedIn (fun hs _ hstep => step_loggedIn hs hstep) ?_ hstart
  intro s label s' hs _
  refine forall_congr' fun i => forall_congr' fun req => forall_congr' fun hforwards => ?_
  rw [hforwards.account]
  constructor
  · intro hgranted
    exact ⟨_, hgranted⟩
  · rintro ⟨a, ha⟩
    exact hs i a ha

/-- A session selects a world and has not logged in. -/
theorem forwardsEmptyId_beforeLogin :
    ¬ Meets (step .sample) (ForwardsGranted .sample) (start : LoginContext Nat)
      ([.worldLink true, .accept 0 0] ++
        [.headerRead 0 ⟨4, PacketId.clientLoginWorldSelectReq⟩ 0]) := by
  intro h
  have hgranted := h.of_exec [] rfl rfl 0 ⟨"", 0⟩ ⟨_, rfl, by decide +kernel⟩
  exact absurd hgranted (by decide +kernel)

end LoginContext

end MMOServers.LoginServer
