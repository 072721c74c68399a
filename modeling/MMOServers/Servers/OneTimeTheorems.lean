/-
MMOServers.Servers.OneTimeTheorems — how often a session token admits somebody.

A token should admit one session, wherever that is. Every gateway gets a notice
of it, though, and `VerifyAndConsumeToken` erases the token of its own gateway
only, so the token goes on admitting sessions at the others. On the runs on which
a gateway that accepts a token is the only one left with a copy of it
(`SoleCopy`), each token is accepted once (`oneTime_of_soleCopy`).

One gateway alone always meets this condition, since a notice reaches it at most
once (`soleCopy_oneGateway`).
-/
import MMOServers.Servers.AdmissionTheorems

namespace MMOServers.Servers

open MMOServers.Common MMOServers.LoginServer MMOServers.WorldServer MMOServers.GameServer
  MMOServers.GatewayServer Tokens Transition

namespace Cluster

variable {K F Key : Type} {env : ClusterEnv K F Key}

/-! ## What is to hold, and when it does -/

/-- Every issued token has admitted one session at most, over all gateways. -/
def OneTime (s : Cluster K F Key) : Prop :=
  ∀ n ∈ s.issued, s.admitted.countP (fun adm => adm.req.sessionToken = n.token) ≤ 1

instance (s : Cluster K F Key) : Decidable s.OneTime := inferInstanceAs (Decidable (∀ _ ∈ _, _))

/-- When a gateway accepts a token, no other gateway keeps it or has a notice of
    it on the way. -/
def SoleCopy (env : ClusterEnv K F Key) (s : Cluster K F Key) (label : Label K) : Prop :=
  ∀ w n, s.acceptanceOf env label = some (w, n) → (s.ledger env).Sole w n.token

/-- Notices reach a gateway once, and nobody has a copy of an accepted token. -/
structure Counted (env : ClusterEnv K F Key) (s : Cluster K F Key) : Prop where
  genuine : (s.ledger env).Genuine
  single : (s.ledger env).Single
  spent : (s.ledger env).Spent
  once : ((s.ledger env).accepted.map (·.2.token)).Nodup

theorem Counted.oneTime {s : Cluster K F Key} (h : s.Counted env) : s.OneTime := by
  intro n _
  have hcount := List.nodup_iff_count_le_one.mp h.once n.token
  rw [List.count_eq_countP, List.countP_map] at hcount
  simpa [ledger, accepts, List.countP_map, Function.comp_def, beq_eq_decide] using hcount

section Steps

variable [Field K] [LinearOrder K] [FloorRing K] [HasSqrt K]

theorem step_counted (henv : env.Faithful) {s s' : Cluster K F Key} {label : Label K}
    (h : s.Counted env) (hsole : SoleCopy env s label) (hstep : step env s label = some s') :
    s'.Counted env := by
  have hrefines := step_refines henv hstep
  exact ⟨TokenLedger.step_genuine h.genuine hrefines,
    TokenLedger.step_single h.genuine h.single hrefines,
    TokenLedger.step_spent h.genuine h.single h.spent hrefines hsole,
    TokenLedger.step_acceptedOnce h.spent h.once hrefines⟩

omit [HasSqrt K] in
theorem start_single (spawns : Nat → List (MonsterSpawn K)) :
    ((start spawns : Cluster K F Key).ledger env).Single :=
  ⟨fun _ => List.nodup_nil, fun _ _ _ ht => (nomatch ht)⟩

omit [HasSqrt K] in
theorem start_counted (spawns : Nat → List (MonsterSpawn K)) :
    (start spawns : Cluster K F Key).Counted env :=
  ⟨start_genuine spawns, start_single spawns, fun _ he => (nomatch he), List.nodup_nil⟩

/-- On a run on which tokens are accepted by the last gateway with a copy, each
    token is accepted once. -/
theorem oneTime_of_soleCopy (env : ClusterEnv K F Key) (henv : env.Faithful)
    (spawns : Nat → List (MonsterSpawn K)) (labels : List (Label K))
    (h : Meets (step env) (SoleCopy env) (start spawns) labels) :
    Always (step env) OneTime (start spawns) labels :=
  (always_of_meets (step_counted henv) (start_counted spawns) h).imp fun _ hs => hs.oneTime

/-! ## One gateway -/

/-- Only the gateway `w`, and its game server, ever connect. -/
def OnlyConnects (env : ClusterEnv K F Key) (w : Nat) : Label K → Prop
  | .gatewayLink v linked => linked = true → v = w
  | .link (.gameServer g) linked => linked = true → g = env.gameServerOf w
  | _ => True

instance (w : Nat) (label : Label K) : Decidable (OnlyConnects env w label) := by
  unfold OnlyConnects
  split <;> infer_instance

/-- Other gateways, and other game servers, have nothing. -/
structure OnlyAt (env : ClusterEnv K F Key) (w : Nat) (s : Cluster K F Key) : Prop where
  gatewaySessions : ∀ v, v ≠ w → s.gatewaySessions v = false
  toGateway : ∀ v, v ≠ w → s.toGateway v = []
  pendingTokens : ∀ v, v ≠ w → ∀ a, (s.gateways v).pendingTokens a = none
  serverSessions : ∀ g, g ≠ env.gameServerOf w → s.world.serverSessions (.gameServer g) = false
  posted : ∀ g, g ≠ env.gameServerOf w → s.world.posted (.gameServer g) = []

omit [HasSqrt K] in
theorem start_onlyAt (w : Nat) (spawns : Nat → List (MonsterSpawn K)) :
    OnlyAt env w (start spawns : Cluster K F Key) :=
  ⟨fun _ _ => rfl, fun _ _ => rfl, fun _ _ _ => rfl, fun _ _ => rfl, fun _ _ => rfl⟩

omit [Field K] [LinearOrder K] [FloorRing K] [HasSqrt K] in
/-- A step of the world server. -/
theorem OnlyAt.of_world {w : Nat} {s s' : Cluster K F Key} (h : OnlyAt env w s)
    (hsessions : s'.gatewaySessions = s.gatewaySessions) (htoGateway : s'.toGateway = s.toGateway)
    (hgateways : s'.gateways = s.gateways)
    (hlinks : ∀ g, g ≠ env.gameServerOf w → s'.world.serverSessions (.gameServer g) = false)
    (hposted : ∀ g, g ≠ env.gameServerOf w →
      (s'.world.posted (.gameServer g)).Sublist (s.world.posted (.gameServer g))) :
    OnlyAt env w s' :=
  ⟨hsessions ▸ h.gatewaySessions, htoGateway ▸ h.toGateway, hgateways ▸ h.pendingTokens, hlinks,
    fun g hg => List.sublist_nil.mp (h.posted g hg ▸ hposted g hg)⟩

omit [Field K] [LinearOrder K] [FloorRing K] [HasSqrt K] in
theorem gameStepped_onlyAt {w : Nat} {s : Cluster K F Key} (h : OnlyAt env w s) (g : Nat)
    (game : GameContext K Nat) : OnlyAt env w (s.gameStepped env g game) := by
  refine ⟨h.gatewaySessions, fun v hv => ?_, h.pendingTokens, h.serverSessions, h.posted⟩
  have hunlinked : ¬ (env.gameServerOf v = g ∧ s.gatewaySessions v = true) := by
    rw [h.gatewaySessions v hv]
    simp
  exact (if_neg hunlinked).trans (h.toGateway v hv)

omit [Field K] [LinearOrder K] [FloorRing K] [HasSqrt K] in
/-- A gateway without tokens gets none on its own. -/
theorem gatewayStepped_onlyAt {w v : Nat} {s : Cluster K F Key} (h : OnlyAt env w s)
    {label : Gateway.Label Nat} {gateway : Gateway Nat F Key}
    (heffect : Gateway.TokenEffect (s.gateways v) gateway
      (Gateway.admissionOf env.gateway (s.gateways v) label)) :
    OnlyAt env w (s.gatewayStepped env v label gateway) := by
  refine ⟨h.gatewaySessions, h.toGateway, fun u hu a => ?_, h.serverSessions, h.posted⟩
  show (Function.update s.gateways v gateway u).pendingTokens a = none
  by_cases huv : u = v
  · subst huv
    rw [Function.update_self]
    have hnone := h.pendingTokens u hu
    generalize Gateway.admissionOf env.gateway (s.gateways u) label = e at heffect
    cases heffect with
    | keeps tokens verified =>
        refine Option.eq_none_iff_forall_ne_some.mpr fun p hp => ?_
        have hp := tokens a p hp
        rw [hnone a] at hp
        cases hp
    | admits i req expireMs has consumes verified =>
        rw [hnone] at has
        cases has
  · rw [Function.update_of_ne huv]
    exact h.pendingTokens u hu a

theorem step_onlyAt {w : Nat} {s s' : Cluster K F Key} {label : Label K} (h : OnlyAt env w s)
    (hlabel : OnlyConnects env w label) (hstep : step env s label = some s') :
    OnlyAt env w s' := by
  cases step_inv hstep with
  | login l stepped => exact ⟨h.1, h.2, h.3, h.4, h.5⟩
  | otherSends p packet => exact ⟨h.1, h.2, h.3, h.4, h.5⟩
  | loginReceives posted =>
      exact h.of_world rfl rfl rfl h.serverSessions
        fun g _ => WorldContext.pop_posted s.world _ _
  | link p linked =>
      refine h.of_world rfl rfl rfl (fun g hg => ?_)
        fun g _ => WorldContext.setLink_posted s.world p linked _
      show Function.update s.world.serverSessions p linked (.gameServer g) = false
      by_cases hp : Peer.gameServer g = p
      · subst hp
        rw [Function.update_self]
        exact Bool.eq_false_iff.mpr fun hlinked => hg (hlabel hlinked)
      · rw [Function.update_of_ne hp]
        exact h.serverSessions g hg
  | worldReceives p packet rest nowMs fresh =>
      refine h.of_world rfl rfl rfl (fun g hg => ?_) fun g hg => ?_
      · show (s.world.dispatch env.world p packet _ nowMs).serverSessions _ = false
        rw [WorldContext.dispatch_serverSessions]
        exact h.serverSessions g hg
      · show ((s.world.dispatch env.world p packet _ nowMs).posted _).Sublist _
        rw [WorldContext.dispatch_unlinked _ _ (h.serverSessions g hg)]
  | buffMonsterHp addHp =>
      obtain ⟨payload, hposts⟩ := WorldContext.buffMonsterHp_posts env.world s.world addHp
      refine h.of_world rfl rfl rfl (fun g hg => ?_) fun g hg => ?_
      · show (s.world.buffMonsterHp env.world addHp).serverSessions _ = false
        rw [WorldContext.buffMonsterHp_serverSessions]
        exact h.serverSessions g hg
      · rw [hposts.unlinked (h.serverSessions g hg)]
  | game own stepped => exact gameStepped_onlyAt h _ _
  | @gameReceives g packet rest posted =>
      have hpopped : OnlyAt env w { s with world := s.world.pop (.gameServer g) } :=
        h.of_world rfl rfl rfl h.serverSessions fun _ _ => WorldContext.pop_posted s.world _ _
      exact gameStepped_onlyAt hpopped g _
  | gatewayLink v linked =>
      refine ⟨fun u hu => ?_, fun u hu => ?_, h.pendingTokens, h.serverSessions, h.posted⟩
      · show Function.update s.gatewaySessions v linked u = false
        by_cases huv : u = v
        · subst huv
          rw [Function.update_self]
          exact Bool.eq_false_iff.mpr fun hlinked => hu (hlabel hlinked)
        · rw [Function.update_of_ne huv]
          exact h.gatewaySessions u hu
      · show Function.update s.toGateway v [] u = []
        by_cases huv : u = v
        · rw [huv, Function.update_self]
        · rw [Function.update_of_ne huv]
          exact h.toGateway u hu
  | gateway own stepped => exact gatewayStepped_onlyAt h (Gateway.step_tokens own stepped)
  | @gatewayReceives v packet rest waiting =>
      have hv : v = w := by
        by_contra hv
        rw [h.toGateway v hv] at waiting
        cases waiting
      subst hv
      refine ⟨h.gatewaySessions, fun u hu => ?_, fun u hu a => ?_, h.serverSessions, h.posted⟩
      · exact (Function.update_of_ne hu _ _).trans (h.toGateway u hu)
      · show (Function.update s.gateways v _ u).pendingTokens a = none
        rw [Function.update_of_ne hu]
        exact h.pendingTokens u hu a

omit [Field K] [LinearOrder K] [FloorRing K] [HasSqrt K] in
/-- The gateway that keeps a token has no notice of it on the way, and what is on
    its way to a game server is on the way to all gateways of it. -/
theorem OnlyAt.soleCopy {w : Nat} {s : Cluster K F Key} (h : OnlyAt env w s)
    (hsingle : (s.ledger env).Single) {v : Nat} {n : Notice String String}
    (hkept : (s.ledger env).kept v n.account = some n.token) :
    (s.ledger env).Sole v n.token := by
  have hnone : ∀ u, u ≠ w → ∀ a, (s.ledger env).kept u a = none :=
    fun u hu a => congrArg (Option.map _) (h.pendingTokens u hu a)
  obtain rfl : v = w := by
    by_contra hv
    rw [hnone v hv] at hkept
    cases hkept
  rintro u hu (⟨m, hm, htoken⟩ | ⟨a, ha⟩)
  · replace hm : m ∈ notices _ (s.toGateway u) ++
      notices _ (s.world.posted (.gameServer (env.gameServerOf u))) := hm
    rw [h.toGateway u hu] at hm
    by_cases hgame : env.gameServerOf u = env.gameServerOf v
    · refine hsingle.kept v _ _ hkept m (List.mem_append_right _ ?_) htoken
      rwa [hgame] at hm
    · rw [h.posted _ hgame] at hm
      cases hm
  · rw [hnone u hu] at ha
    cases ha

theorem soleCopy_oneGateway (henv : env.Faithful) (w : Nat)
    (spawns : Nat → List (MonsterSpawn K)) (labels : List (Label K))
    (h : ∀ label ∈ labels, OnlyConnects env w label) :
    Meets (step env) (SoleCopy env) (start spawns : Cluster K F Key) labels := by
  let Inv (s : Cluster K F Key) : Prop :=
    OnlyAt env w s ∧ (s.ledger env).Genuine ∧ (s.ledger env).Single
  refine meets_of_labels Inv (L := OnlyConnects env w) ?_ ?_
    ⟨start_onlyAt w spawns, start_genuine spawns, start_single spawns⟩ h
  · rintro s label s' ⟨honly, hgenuine, hsingle⟩ hlabel hstep
    have hrefines := step_refines henv hstep
    exact ⟨step_onlyAt honly hlabel hstep, TokenLedger.step_genuine hgenuine hrefines,
      TokenLedger.step_single hgenuine hsingle hrefines⟩
  · rintro s label s' ⟨honly, -, hsingle⟩ - hstep v n hacceptance
    have hrefines := step_refines henv hstep
    rw [hacceptance] at hrefines
    cases hrefines with
    | accept _ _ issued coming has consumes others accepted => exact honly.soleCopy hsingle has

end Steps

theorem oneTime_oneGateway :
    (exec (step .sample) (start fun _ => []) (selectWorld ++ connectTo 0)).map
        (·.admitted.length) = some 1 ∧
      Always (step .sample) OneTime (start fun _ => []) (selectWorld ++ connectTo 0) :=
  ⟨by decide +kernel, oneTime_of_soleCopy .sample ClusterEnv.sample_faithful _ _
    (soleCopy_oneGateway ClusterEnv.sample_faithful 0 _ _ (by decide))⟩

/-- A second gateway is connected, and the client goes there too. -/
theorem oneTime_twoGateways :
    ¬ Always (step .sample) OneTime (start fun _ => [] : Cluster ℚ Unit Unit)
      (.gatewayLink 1 true :: selectWorld ++ connectTo 0 ++ connectTo 1) := by
  decide +kernel

end Cluster

end MMOServers.Servers
