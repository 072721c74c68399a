/-
MMOServers.Servers.AdmissionTheorems — who can be admitted under an account.

The token that admits a session was made for the account, and the only clients
that a login server has sent it to are sessions it had granted that account. The
first half is the way of the token through the game servers, which the ledger
follows (`TokenLedger.Genuine`). The second is its way through the login servers:
an answer on its way there carries an issued token with its account, and it is
passed on to the session in the entry of that account, which a grant has made.
The two ways meet because a token is issued for one account only.

The messages in `relayed` are the ones that the handler sends
(`loginReceives_sends`). Each carries the history of its login server at the time,
so the grant of an account comes before the token is sent.
-/
import MMOServers.Servers.TokenFlow
import MMOServers.Lib.Run

namespace MMOServers.Servers

open MMOServers.Common MMOServers.LoginServer MMOServers.WorldServer MMOServers.GameServer
  MMOServers.GatewayServer Tokens Transition

namespace Cluster

variable {K F Key : Type} {env : ClusterEnv K F Key}

/-- When a token was sent to a client, it had been issued for an account that the
    session had been granted before. -/
def RelaysGranted (s : Cluster K F Key) : Prop :=
  ∀ r ∈ s.relayed, r.history <:+ (s.logins r.login).trace ∧
    ∃ a, ⟨a, r.res.sessionToken⟩ ∈ s.issued ∧ .granted r.session a ∈ r.history

/-- Every verified session presented a token that was issued for its account,
    and whoever got that token from a login server had been granted the account
    before. -/
structure EndToEnd (s : Cluster K F Key) : Prop where
  presented : ∀ w i a, .verified i a ∈ (s.gateways w).trace →
    ∃ adm ∈ s.admitted, adm.gateway = w ∧ adm.session = i ∧ adm.req.accountId = a
  issued : ∀ adm ∈ s.admitted, ⟨adm.req.accountId, adm.req.sessionToken⟩ ∈ s.issued
  granted : s.RelaysGranted
  relayed : ∀ adm ∈ s.admitted, ∀ r ∈ s.relayed,
    r.res.sessionToken = adm.req.sessionToken →
      .granted r.session adm.req.accountId ∈ r.history

/-! ## Answers of the world server -/

/-- Every answer on its way to a login server carries a token that was issued for
    the account in it. -/
def AnswersIssued (env : ClusterEnv K F Key) (s : Cluster K F Key) : Prop :=
  ∀ l, ∀ p ∈ s.world.posted (.loginServer l), ∀ res,
    LoginContext.answerOf env.login p.id p.payload = some res →
      ⟨res.accountId, res.sessionToken⟩ ∈ s.issued

theorem AnswersIssued.of_sublist {s s' : Cluster K F Key} (h : s.AnswersIssued env)
    (hissued : s.issued ⊆ s'.issued)
    (hposted : ∀ p, (s'.world.posted p).Sublist (s.world.posted p)) : s'.AnswersIssued env :=
  fun l p hp res hres => hissued (h l p ((hposted _).subset hp) res hres)

/-- One more message is posted. -/
theorem AnswersIssued.of_posts {s s' : Cluster K F Key} (h : s.AnswersIssued env)
    (hissued : s.issued ⊆ s'.issued) {packet : S2SPacket}
    (hposts : s.world.Posts s'.world packet)
    (hpacket : ∀ res, LoginContext.answerOf env.login packet.id packet.payload = some res →
      ⟨res.accountId, res.sessionToken⟩ ∈ s'.issued) : s'.AnswersIssued env := by
  intro l p hp res hres
  obtain ⟨xs, hposted, hxs, -⟩ := hposts (.loginServer l)
  rw [hposted] at hp
  rcases List.mem_append.mp hp with hp | hp
  · exact hissued (h l p hp res hres)
  · obtain rfl := List.mem_singleton.mp (hxs.subset hp)
    exact hpacket res hres

theorem worldReceives_answersIssued (henv : env.Faithful) {s : Cluster K F Key}
    (h : s.AnswersIssued env) (p : Peer) (packet : S2SPacket) (rest : List S2SPacket)
    (newToken : String) (nowMs : Int) :
    (s.worldReceives env p packet rest newToken nowMs).AnswersIssued env := by
  have hissued : s.issued ⊆ (s.worldReceives env p packet rest newToken nowMs).issued :=
    List.subset_append_right _ _
  cases hreq : WorldContext.selectReqOf env.world packet with
  | none =>
      refine h.of_sublist hissued fun q => ?_
      simp only [worldReceives, WorldContext.dispatch_ignored env.world hreq]
      exact List.Sublist.refl _
  | some req =>
      obtain ⟨world₁, expireMs, hnotify, -, hanswer⟩ :=
        WorldContext.dispatch_posts env.world hreq s.world p newToken nowMs
      let s₁ : Cluster K F Key :=
        { s with world := world₁
                 issued := ⟨req.accountId, newToken⟩ :: s.issued }
      have hs₁ : s₁.AnswersIssued env := by
        refine h.of_posts (List.subset_cons_self _ _) hnotify fun res hres => ?_
        cases hres
      have hadds : s₁.issued ⊆ (s.worldReceives env p packet rest newToken nowMs).issued := by
        simp [s₁, worldReceives, issueOf, hreq]
      refine hs₁.of_posts hadds hanswer fun res hres => hadds ?_
      rw [henv.selectRes _ res hres]
      exact List.mem_cons_self

/-! ## Relays and admissions -/

/-- What `Handle_S2SWorldSelectRes` sends is what is recorded. -/
theorem loginReceives_sends (s : Cluster K F Key) (l : Nat) (packet : S2SPacket) :
    ∃ sent : Option (Nat × WorldSelectRes),
      (s.loginReceives env l packet).logins l = (match sent with
        | none => s.logins l
        | some (i, res) => (s.logins l).send i PacketId.loginClientWorldSelectRes
            (env.login.serializeWorldSelectRes res)) ∧
      (s.loginReceives env l packet).relayed = (sent.toList.map fun (i, res) =>
        ⟨l, i, res, (s.logins l).trace⟩) ++ s.relayed := by
  refine ⟨LoginContext.relayOf env.login (s.logins l) packet.id packet.payload, ?_, rfl⟩
  have hlogin : (s.loginReceives env l packet).logins l
      = (s.logins l).worldDispatch env.login packet.id packet.payload :=
    Function.update_self ..
  rw [hlogin, LoginContext.worldDispatch_relays]
  cases LoginContext.relayOf env.login (s.logins l) packet.id packet.payload <;> rfl

/-- A relay is to the session in the entry of the account in the answer. -/
theorem relayOf_granted {s : Cluster K F Key} {l : Nat} {packet : S2SPacket}
    {rest : List S2SPacket} (hanswers : s.AnswersIssued env) (hlogin : (s.logins l).Consistent)
    (hposted : s.world.posted (.loginServer l) = packet :: rest) {i : Nat} {res : WorldSelectRes}
    (hrelay : LoginContext.relayOf env.login (s.logins l) packet.id packet.payload
      = some (i, res)) :
    ∃ a, ⟨a, res.sessionToken⟩ ∈ s.issued ∧ .granted i a ∈ (s.logins l).trace := by
  obtain ⟨answer, hanswer, hmap⟩ := Option.bind_eq_some_iff.mp hrelay
  obtain ⟨j, hj, heq⟩ := Option.map_eq_some_iff.mp hmap
  rw [Prod.mk.injEq] at heq
  obtain ⟨rfl, rfl⟩ := heq
  exact ⟨answer.accountId, hanswers l packet (by simp [hposted]) answer hanswer,
    LoginContext.granted_of_grantee (hlogin.granted _ _ hj)⟩

/-- Every verification is an admission. -/
def AdmissionsRecorded (s : Cluster K F Key) : Prop :=
  ∀ w i a, .verified i a ∈ (s.gateways w).trace →
    ∃ adm ∈ s.admitted, adm.gateway = w ∧ adm.session = i ∧ adm.req.accountId = a

theorem gatewayStepped_recorded {s : Cluster K F Key} (h : s.AdmissionsRecorded) {w : Nat}
    {label : Gateway.Label Nat} {gateway : Gateway Nat F Key}
    (heffect : Gateway.TokenEffect (s.gateways w) gateway
      (Gateway.admissionOf env.gateway (s.gateways w) label)) :
    (s.gatewayStepped env w label gateway).AdmissionsRecorded := by
  have hold : ∀ v i a, .verified i a ∈ (s.gateways v).trace →
      ∃ adm ∈ (s.gatewayStepped env w label gateway).admitted,
        adm.gateway = v ∧ adm.session = i ∧ adm.req.accountId = a := by
    intro v i a hi
    obtain ⟨adm, hadm, hfields⟩ := h v i a hi
    exact ⟨adm, List.mem_append_right _ hadm, hfields⟩
  intro v i a hi
  by_cases hv : v = w
  · subst hv
    replace hi : .verified i a ∈ (Function.update s.gateways v gateway v).trace := hi
    rw [Function.update_self] at hi
    generalize hadmission : Gateway.admissionOf env.gateway (s.gateways v) label = e at heffect
    cases heffect with
    | keeps tokens verified => exact hold v i a (verified i a hi)
    | admits j req expireMs has consumes verified =>
        rcases verified i a hi with ⟨rfl, rfl⟩ | hi
        · exact ⟨⟨v, i, req⟩, by simp [gatewayStepped, hadmission], rfl, rfl, rfl⟩
        · exact hold v i a hi
  · refine hold v i a ?_
    replace hi : .verified i a ∈ (Function.update s.gateways w gateway v).trace := hi
    rwa [Function.update_of_ne hv] at hi

theorem gatewayReceives_recorded {s : Cluster K F Key} (h : s.AdmissionsRecorded) (w : Nat)
    (packet : S2SPacket) (rest : List S2SPacket) :
    (s.gatewayReceives env w packet rest).AdmissionsRecorded := by
  have htrace : ((s.gateways w).gameDispatch env.gateway packet.id packet.payload).trace
      = (s.gateways w).trace :=
    (Gateway.gameDispatch_silent (s.gateways w) packet.id packet.payload).trace
  intro v i a hi
  refine h v i a ?_
  replace hi : .verified i a ∈ (Function.update s.gateways w
    ((s.gateways w).gameDispatch env.gateway packet.id packet.payload) v).trace := hi
  by_cases hv : v = w
  · subst hv
    rwa [Function.update_self, htrace] at hi
  · rwa [Function.update_of_ne hv] at hi

/-! ## Steps -/

section Steps

variable [Field K] [LinearOrder K] [FloorRing K] [HasSqrt K]

theorem step_answersIssued (henv : env.Faithful) {s s' : Cluster K F Key} {label : Label K}
    (h : s.AnswersIssued env) (hstep : step env s label = some s') : s'.AnswersIssued env := by
  cases step_inv hstep with
  | worldReceives p packet rest nowMs fresh =>
      exact worldReceives_answersIssued henv h p packet rest _ nowMs
  | buffMonsterHp addHp =>
      obtain ⟨payload, hposts⟩ := WorldContext.buffMonsterHp_posts env.world s.world addHp
      exact h.of_posts (List.Subset.refl _) hposts fun res hres => (nomatch hres)
  | loginReceives posted =>
      exact h.of_sublist (List.Subset.refl _) (WorldContext.pop_posted s.world _)
  | gameReceives posted =>
      exact h.of_sublist (List.Subset.refl _) (WorldContext.pop_posted s.world _)
  | link p linked =>
      exact h.of_sublist (List.Subset.refl _) (WorldContext.setLink_posted s.world p linked)
  | _ => exact h

/-- A login server makes one of its own steps, or stays as it is. -/
theorem step_logins {s s' : Cluster K F Key} {label : Label K}
    (hstep : step env s label = some s') (l : Nat) :
    s'.logins l = s.logins l ∨
      ∃ label, LoginContext.step env.login (s.logins l) label = some (s'.logins l) := by
  cases step_inv hstep with
  | @login l' label login stepped =>
      by_cases hl : l = l'
      · subst hl
        exact Or.inr ⟨label, by rw [stepped]; simp [loginStepped]⟩
      · exact Or.inl (Function.update_of_ne hl _ _)
  | @loginReceives l' packet rest posted =>
      by_cases hl : l = l'
      · subst hl
        exact Or.inr ⟨.worldPacket packet.id packet.payload,
          by simp [loginReceives, LoginContext.step]⟩
      · exact Or.inl (Function.update_of_ne hl _ _)
  | _ => exact Or.inl rfl

theorem step_loginHistory {s s' : Cluster K F Key} {label : Label K}
    (hstep : step env s label = some s') (l : Nat) :
    (s.logins l).trace <:+ (s'.logins l).trace := by
  rcases step_logins hstep l with heq | ⟨label', hlogin⟩
  · rw [heq]
  · exact LoginContext.step_history hlogin

theorem step_loginsConsistent {s s' : Cluster K F Key} {label : Label K}
    (h : ∀ l, (s.logins l).Consistent) (hstep : step env s label = some s') (l : Nat) :
    (s'.logins l).Consistent := by
  rcases step_logins hstep l with heq | ⟨label', hlogin⟩
  · rw [heq]
    exact h l
  · exact LoginContext.step_consistent (h l) hlogin

theorem step_relaysGranted (henv : env.Faithful) {s s' : Cluster K F Key} {label : Label K}
    (hanswers : s.AnswersIssued env) (hlogins : ∀ l, (s.logins l).Consistent)
    (h : s.RelaysGranted) (hstep : step env s label = some s') : s'.RelaysGranted := by
  have hissued : s.issued ⊆ s'.issued := TokenLedger.step_issued (step_refines henv hstep)
  have hhistory := step_loginHistory hstep
  have hold : ∀ r ∈ s.relayed, r.history <:+ (s'.logins r.login).trace ∧
      ∃ a, ⟨a, r.res.sessionToken⟩ ∈ s'.issued ∧ .granted r.session a ∈ r.history := by
    intro r hr
    obtain ⟨hbefore, a, ha, hgranted⟩ := h r hr
    exact ⟨hbefore.trans (hhistory r.login), a, hissued ha, hgranted⟩
  cases step_inv hstep with
  | @loginReceives l packet rest posted =>
      intro r hr
      rcases List.mem_append.mp hr with hr | hr
      · obtain ⟨⟨i, res⟩, hrelay, rfl⟩ := List.mem_map.mp hr
        rw [Option.mem_toList] at hrelay
        obtain ⟨a, ha, hgranted⟩ := relayOf_granted hanswers (hlogins l) posted hrelay
        exact ⟨hhistory l, a, ha, hgranted⟩
      · exact hold r hr
  | _ => exact hold

theorem step_admissionsRecorded {s s' : Cluster K F Key} {label : Label K}
    (h : s.AdmissionsRecorded) (hstep : step env s label = some s') : s'.AdmissionsRecorded := by
  cases step_inv hstep with
  | gateway own stepped => exact gatewayStepped_recorded h (Gateway.step_tokens own stepped)
  | gatewayReceives waiting => exact gatewayReceives_recorded h _ _ _
  | _ => exact h

/-! ## Runs -/

/-- What holds of the tokens in every state. -/
structure Traced (env : ClusterEnv K F Key) (s : Cluster K F Key) : Prop where
  genuine : (s.ledger env).Genuine
  answers : s.AnswersIssued env
  logins : ∀ l, (s.logins l).Consistent
  relays : s.RelaysGranted
  recorded : s.AdmissionsRecorded

omit [HasSqrt K] in
theorem start_genuine (spawns : Nat → List (MonsterSpawn K)) :
    ((start spawns : Cluster K F Key).ledger env).Genuine :=
  ⟨List.nodup_nil, fun _ _ hn => (nomatch hn), fun _ _ _ ht => (nomatch ht),
    fun _ he => (nomatch he)⟩

omit [HasSqrt K] in
theorem start_traced (spawns : Nat → List (MonsterSpawn K)) :
    (start spawns : Cluster K F Key).Traced env :=
  ⟨start_genuine spawns, fun _ _ hp => (nomatch hp), fun _ => LoginContext.start_consistent,
    fun _ hr => (nomatch hr), fun _ _ _ hi => (nomatch hi)⟩

theorem step_traced (henv : env.Faithful) {s s' : Cluster K F Key} {label : Label K}
    (h : s.Traced env) (hstep : step env s label = some s') : s'.Traced env where
  genuine := TokenLedger.step_genuine h.genuine (step_refines henv hstep)
  answers := step_answersIssued henv h.answers hstep
  logins := step_loginsConsistent h.logins hstep
  relays := step_relaysGranted henv h.answers h.logins h.relays hstep
  recorded := step_admissionsRecorded h.recorded hstep

omit [Field K] [LinearOrder K] [FloorRing K] [HasSqrt K] in
theorem Traced.endToEnd {s : Cluster K F Key} (h : s.Traced env) : s.EndToEnd := by
  have hissued : ∀ adm ∈ s.admitted, accepts adm.req ∈ s.issued := by
    intro adm hadm
    exact h.genuine.accepted (adm.gateway, accepts adm.req)
      (List.mem_map.mpr ⟨adm, hadm, rfl⟩)
  refine ⟨h.recorded, hissued, h.relays, fun adm hadm r hr htoken => ?_⟩
  obtain ⟨-, a, ha, hgranted⟩ := h.relays r hr
  have hsame : (⟨a, r.res.sessionToken⟩ : Notice String String) = accepts adm.req :=
    h.genuine.unique ha (hissued adm hadm) htoken
  have haccount : a = adm.req.accountId := congrArg Notice.account hsame
  exact haccount ▸ hgranted

/-- In every state of every run, whoever is admitted under an account presented
    a token of that account, and the login servers have sent the token only to
    sessions that they had granted the account before. -/
theorem admitted_endToEnd (env : ClusterEnv K F Key) (henv : env.Faithful)
    (spawns : Nat → List (MonsterSpawn K)) (labels : List (Label K)) :
    Always (step env) EndToEnd (start spawns) labels :=
  always_iff_exec.mpr fun _ _ _ ht =>
    (exec_inv (step_traced henv) (start_traced spawns) ht).endToEnd

end Steps

/-- "a" logs in, selects a world and gets a token, and gateway 0 a notice of it. -/
def selectWorld : List (Label ℚ) :=
  [.link (.loginServer 0) true, .link (.gameServer 0) true, .gatewayLink 0 true,
    .login 0 (.accept 0 0), .login 0 (.headerRead 0 ⟨7, PacketId.clientLoginLoginReq⟩ 0),
    .login 0 (.payloadRead 0 [10, 1, 97] 0), .login 0 (.dbTask 0 (.processed .success)),
    .login 0 (.worldLink true),
    .login 0 (.headerRead 0 ⟨4, PacketId.clientLoginWorldSelectReq⟩ 0),
    .worldReceives (.loginServer 0) sampleToken 0, .loginReceives 0, .loginReceives 0,
    .gameReceives 0]

/-- The gateway gets the notice, and a client connects with the token. -/
def connectTo (w : Nat) : List (Label ℚ) :=
  [.gatewayReceives w, .gateway w (.accept 0 0),
    .gateway w (.headerRead 0 ⟨73, PacketId.clientGatewayConnectReq⟩ 0 0),
    .gateway w (.payloadRead 0 sampleConnectBytes 0)]

theorem endToEnd_connect :
    (exec (step .sample) (start fun _ => []) (selectWorld ++ connectTo 0)).map
        (fun s => (s.admitted.length, s.relayed.length)) = some (1, 1) ∧
      Always (step .sample) EndToEnd (start fun _ => []) (selectWorld ++ connectTo 0) :=
  ⟨by decide +kernel, admitted_endToEnd .sample ClusterEnv.sample_faithful _ _⟩

end Cluster

end MMOServers.Servers
