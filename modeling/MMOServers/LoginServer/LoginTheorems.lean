/-
MMOServers.LoginServer.LoginTheorems — who the logins of the server belong to.

* No leak: a session that has disconnected, and that no database task holds any
  more, has no entry left in the tables. `OnDisconnected` removes the entry of
  `logged_in_id_` and nothing else, so this fails when a login is granted to a
  session that has disconnected already, when a session logs in a second time
  under another id, and for the empty id. On the runs without such grants
  (`CleanGrant`) the invariant `Owned` holds.
* No theft: `OnDisconnected` removes only an entry of its own session. It can be
  reached more than once in a session, since neither the read loop nor the timer
  stops the other one, and `logged_in_id_` is never cleared. A run keeps every
  entry from the disconnects of others exactly when no disconnect repeats an
  earlier one after the account was given away (`removesOwn_iff_firstDisconnect`).
-/
import MMOServers.LoginServer.LoginSteps

namespace MMOServers.LoginServer

open MMOServers.Common Transition

namespace LoginContext

variable {ι : Type} {env : ServerEnv}

/-! ## The tables and the history -/

/-- The session of the latest grant of an account. -/
def grantee : List (Event ι) → String → Option ι
  | [], _ => none
  | .granted i id :: older, a => if a = id then some i else grantee older a
  | .forwarded _ _ :: older, a => grantee older a
  | .disconnected _ :: older, a => grantee older a

theorem granted_of_grantee {trace : List (Event ι)} {a : String} {i : ι}
    (h : grantee trace a = some i) : .granted i a ∈ trace := by
  induction trace with
  | nil => cases h
  | cons e older ih =>
      cases e with
      | granted j id =>
          simp only [grantee] at h
          split at h
          · rename_i ha
            obtain rfl := Option.some.inj h
            exact ha ▸ List.mem_cons_self
          · exact List.mem_cons_of_mem _ (ih h)
      | forwarded j req => exact List.mem_cons_of_mem _ (ih h)
      | disconnected j => exact List.mem_cons_of_mem _ (ih h)

/-- The tables have the same accounts, and an entry belongs to the session of
    the account's latest grant. -/
structure Consistent (s : LoginContext ι) : Prop where
  users : ∀ a, a ∈ s.loggedInUsers ↔ s.sessionMap a ≠ none
  granted : ∀ a i, s.sessionMap a = some i → grantee s.trace a = some i

theorem start_consistent : (start : LoginContext ι).Consistent :=
  ⟨fun _ => by simp [start], fun _ _ h => nomatch h⟩

theorem Consistent.of_silent {s s' : LoginContext ι} (h : s.Consistent) (hs : Silent s s') :
    s'.Consistent :=
  ⟨fun a => by rw [hs.loggedInUsers, hs.sessionMap, h.users],
    fun a i hi => by rw [hs.trace, h.granted a i (hs.sessionMap ▸ hi)]⟩

variable [DecidableEq ι]

theorem grant_consistent {s : LoginContext ι} (h : s.Consistent) (i : ι) (id : String) :
    (s.grant i id).Consistent := by
  refine ⟨fun a => ?_, fun a j hj => ?_⟩
  · show a ∈ insert id s.loggedInUsers ↔ Function.update s.sessionMap id (some i) a ≠ none
    by_cases ha : a = id
    · simp [ha]
    · rw [Function.update_of_ne ha, Finset.mem_insert, h.users]
      simp [ha]
  · show (if a = id then some i else grantee s.trace a) = some j
    replace hj : Function.update s.sessionMap id (some i) a = some j := hj
    by_cases ha : a = id
    · rw [ha, Function.update_self] at hj
      rw [if_pos ha, hj]
    · rw [Function.update_of_ne ha] at hj
      rw [if_neg ha, h.granted a j hj]

theorem onDisconnected_consistent {s : LoginContext ι} (h : s.Consistent) (i : ι) :
    (s.onDisconnected i).Consistent := by
  refine ⟨fun a => ?_, fun a j hj => ?_⟩
  · rw [onDisconnected_loggedInUsers, onDisconnected_sessionMap]
    split
    · exact h.users a
    · by_cases ha : a = (s.sessions i).loggedInId
      · simp [ha]
      · rw [Function.update_of_ne ha, Finset.mem_erase, h.users]
        simp [ha]
  · rw [onDisconnected_sessionMap] at hj
    rw [onDisconnected_trace]
    refine h.granted a j ?_
    split at hj
    · exact hj
    · by_cases ha : a = (s.sessions i).loggedInId
      · rw [ha, Function.update_self] at hj
        cases hj
      · rwa [Function.update_of_ne ha] at hj

theorem step_consistent {s s' : LoginContext ι} {label : Label ι} (hs : s.Consistent)
    (hstep : step env s label = some s') : s'.Consistent := by
  cases step_effect hstep with
  | quiet ungranted h => exact hs.of_silent h
  | forwards i req ungranted account h =>
      have hf : (s.record (.forwarded i req)).Consistent := ⟨hs.users, hs.granted⟩
      exact hf.of_silent h
  | disconnects i s₁ ungranted h => exact onDisconnected_consistent (hs.of_silent h) i
  | grants i id granted unused h => exact (grant_consistent hs i id).of_silent h

/-- The tables are consistent in every reachable state. -/
theorem exec_consistent {s : LoginContext ι} {labels : List (Label ι)}
    (h : exec (step env) start labels = some s) : s.Consistent :=
  exec_inv step_consistent start_consistent h

/-! ## No login is left behind -/

/-- A session that has disconnected and that no task holds has no entry: none
    of `sessionMap` is its own, and none of `loggedInUsers` was last granted to
    it. -/
def NoLeak (s : LoginContext ι) : Prop :=
  ∀ i, .disconnected i ∈ s.trace → (∀ task ∈ s.dbTasks, task.session ≠ i) →
    ∀ a, s.sessionMap a ≠ some i ∧ ¬ (a ∈ s.loggedInUsers ∧ grantee s.trace a = some i)

/-- The login a step grants has a name, its session has not disconnected, and
    that session holds no entry under the id it will forget. -/
def CleanGrant (env : ServerEnv) (s : LoginContext ι) (label : Label ι) : Prop :=
  match grantOf env s label with
  | none => True
  | some (i, id) =>
      id ≠ "" ∧ .disconnected i ∉ s.trace ∧ s.sessionMap (s.sessions i).loggedInId ≠ some i

instance (s : LoginContext ι) (label : Label ι) : Decidable (CleanGrant env s label) := by
  unfold CleanGrant
  split <;> infer_instance

/-- Every entry is the one its session will remove, and its session is there to
    remove it. -/
structure Owned (s : LoginContext ι) : Prop where
  consistent : s.Consistent
  own : ∀ a i, s.sessionMap a = some i → a ≠ "" ∧ (s.sessions i).loggedInId = a
  connected : ∀ a i, s.sessionMap a = some i → .disconnected i ∉ s.trace

omit [DecidableEq ι] in
theorem start_owned : (start : LoginContext ι).Owned :=
  ⟨start_consistent, fun _ _ h => (nomatch h), fun _ _ h => (nomatch h)⟩

omit [DecidableEq ι] in
theorem Owned.of_silent {s s' : LoginContext ι} (h : s.Owned) (hs : Silent s s') : s'.Owned := by
  refine ⟨h.consistent.of_silent hs, fun a i hi => ?_, fun a i hi => ?_⟩
  · rw [hs.sessionMap] at hi
    rw [hs.loggedInId]
    exact h.own a i hi
  · rw [hs.sessionMap] at hi
    rw [hs.trace]
    exact h.connected a i hi

theorem onDisconnected_owned {s : LoginContext ι} (h : s.Owned) (i : ι) :
    (s.onDisconnected i).Owned := by
  -- an entry that is left was there before, and is not one of the session `i`
  have hleft : ∀ a j, (s.onDisconnected i).sessionMap a = some j →
      s.sessionMap a = some j ∧ j ≠ i := by
    intro a j hj
    rw [onDisconnected_sessionMap] at hj
    split at hj
    · rename_i hempty
      refine ⟨hj, ?_⟩
      rintro rfl
      obtain ⟨hne, ha⟩ := h.own a j hj
      exact hne (ha.symm.trans hempty)
    · by_cases ha : a = (s.sessions i).loggedInId
      · rw [ha, Function.update_self] at hj
        cases hj
      · rw [Function.update_of_ne ha] at hj
        refine ⟨hj, ?_⟩
        rintro rfl
        exact ha (h.own a j hj).2.symm
  refine ⟨onDisconnected_consistent h.consistent i, fun a j hj => ?_, fun a j hj => ?_⟩
  · rw [onDisconnected_loggedInId]
    exact h.own a j (hleft a j hj).1
  · obtain ⟨hj, hji⟩ := hleft a j hj
    rw [onDisconnected_trace, List.mem_cons, Event.disconnected.injEq]
    rintro (heq | hmem)
    · exact hji heq
    · exact h.connected a j hj hmem

theorem grant_owned {s : LoginContext ι} (h : s.Owned) {i : ι} {id : String} (hid : id ≠ "")
    (hconnected : .disconnected i ∉ s.trace)
    (hsingle : s.sessionMap (s.sessions i).loggedInId ≠ some i) : (s.grant i id).Owned := by
  have hentry : ∀ a j, (s.grant i id).sessionMap a = some j →
      (a = id ∧ j = i) ∨ (s.sessionMap a = some j ∧ j ≠ i) := by
    intro a j hj
    replace hj : Function.update s.sessionMap id (some i) a = some j := hj
    by_cases ha : a = id
    · rw [ha, Function.update_self, Option.some.injEq] at hj
      exact Or.inl ⟨ha, hj.symm⟩
    · rw [Function.update_of_ne ha] at hj
      refine Or.inr ⟨hj, ?_⟩
      rintro rfl
      exact hsingle ((h.own a j hj).2 ▸ hj)
  have hid' : ∀ j, j ≠ i → ((s.grant i id).sessions j).loggedInId
      = (s.sessions j).loggedInId := by
    intro j hj
    simp [grant, record, modify, hj]
  refine ⟨grant_consistent h.consistent i id, fun a j hj => ?_, fun a j hj => ?_⟩
  · rcases hentry a j hj with ⟨rfl, rfl⟩ | ⟨hj, hji⟩
    · exact ⟨hid, by simp [grant, modify, record]⟩
    · rw [hid' j hji]
      exact h.own a j hj
  · have htrace : (s.grant i id).trace = .granted i id :: s.trace := rfl
    rw [htrace, List.mem_cons]
    rintro (heq | hmem)
    · cases heq
    · rcases hentry a j hj with ⟨-, rfl⟩ | ⟨hj, -⟩
      · exact hconnected hmem
      · exact h.connected a j hj hmem

theorem step_owned {s s' : LoginContext ι} {label : Label ι} (hs : s.Owned)
    (hclean : CleanGrant env s label) (hstep : step env s label = some s') : s'.Owned := by
  cases step_effect hstep with
  | quiet ungranted h => exact hs.of_silent h
  | forwards i req ungranted account h =>
      have hf : (s.record (.forwarded i req)).Owned := by
        refine ⟨⟨hs.consistent.users, hs.consistent.granted⟩, hs.own, fun a j hj => ?_⟩
        show .disconnected j ∉ Event.forwarded i req :: s.trace
        simpa using hs.connected a j hj
      exact hf.of_silent h
  | disconnects i s₁ ungranted h => exact onDisconnected_owned (hs.of_silent h) i
  | grants i id granted unused h =>
      simp only [CleanGrant, granted] at hclean
      obtain ⟨hid, hconnected, hsingle⟩ := hclean
      exact (grant_owned hs hid hconnected hsingle).of_silent h

omit [DecidableEq ι] in
theorem Owned.noLeak {s : LoginContext ι} (h : s.Owned) : s.NoLeak := by
  intro i hdisc _ a
  have hnone : s.sessionMap a ≠ some i := fun ha => h.connected a i ha hdisc
  refine ⟨hnone, ?_⟩
  rintro ⟨hmem, hgrantee⟩
  obtain ⟨j, hj⟩ := Option.ne_none_iff_exists'.mp ((h.consistent.users a).mp hmem)
  have hji : some j = some i := (h.consistent.granted a j hj).symm.trans hgrantee
  exact hnone (hj.trans hji)

/-- A run whose grants are clean leaks no login. -/
theorem noLeak_of_cleanGrant (env : ServerEnv) (labels : List (Label ι))
    (h : Meets (step env) (CleanGrant env) start labels) :
    Always (step env) NoLeak start labels :=
  (always_of_meets step_owned start_owned h).imp fun _ hs => hs.noLeak

/-- A login request for "a" or "b" of the session `0`, up to its posted task. -/
def loginAs (letter : UInt8) : List (Label Nat) :=
  [.headerRead 0 ⟨7, PacketId.clientLoginLoginReq⟩ 0, .payloadRead 0 [10, 1, letter] 0]

def granted : Label Nat := .dbTask 0 (.processed .success)

theorem noLeak_oneLogin :
    Always (step .sample) NoLeak (start : LoginContext Nat)
      (.accept 0 0 :: loginAs 97 ++ [granted, .readFails 0]) :=
  noLeak_of_cleanGrant .sample _ (by decide)

/-- The session disconnects before its task runs. -/
theorem leak_lateGrant :
    ¬ Always (step .sample) NoLeak (start : LoginContext Nat)
      (.accept 0 0 :: loginAs 97 ++ [.readFails 0, granted]) := by
  intro h
  have hleft := always_iff_exec.mp h _ (List.prefix_refl _) _ rfl 0 (by decide) (by decide) "a"
  exact hleft.1 (by decide)

/-! ## No login is taken away -/

/-- The session has disconnected since its latest grant. -/
def disconnectedSince : List (Event ι) → ι → Bool
  | [], _ => false
  | .granted j _ :: older, i => if i = j then false else disconnectedSince older i
  | .forwarded _ _ :: older, i => disconnectedSince older i
  | .disconnected j :: older, i => if i = j then true else disconnectedSince older i

/-- The step runs `OnDisconnected` of the session `i`. -/
def Disconnects (env : ServerEnv) (s : LoginContext ι) (label : Label ι) (s' : LoginContext ι)
    (i : ι) : Prop :=
  step env s label = some s' ∧ s'.trace = .disconnected i :: s.trace

/-- An account that a disconnect removes from one of the tables belonged to the
    session, and its latest grant went to it. -/
def RemovesOwn (env : ServerEnv) (s : LoginContext ι) (label : Label ι) : Prop :=
  ∀ s' i, Disconnects env s label s' i → ∀ a,
    (s.sessionMap a ≠ none ∧ s'.sessionMap a = none) ∨
        (a ∈ s.loggedInUsers ∧ a ∉ s'.loggedInUsers) →
      s.sessionMap a = some i ∧ grantee s.trace a = some i

/-- A session that disconnects has not done so since its latest grant, or its
    account is not logged in, or has no name. -/
def FirstDisconnect (env : ServerEnv) (s : LoginContext ι) (label : Label ι) : Prop :=
  ∀ s' i, Disconnects env s label s' i →
    disconnectedSince s.trace i = false ∨ (s.sessions i).loggedInId ∉ s.loggedInUsers ∨
      (s.sessions i).loggedInId = ""

/-- A session holds the entry of its id until it disconnects. -/
structure Held (s : LoginContext ι) : Prop where
  consistent : s.Consistent
  held : ∀ i, (s.sessions i).loggedInId ≠ "" →
    (s.sessionMap (s.sessions i).loggedInId = some i ↔ disconnectedSince s.trace i = false)

theorem start_held : (start : LoginContext ι).Held :=
  ⟨start_consistent, fun _ h => absurd rfl h⟩

theorem Held.of_silent {s s' : LoginContext ι} (h : s.Held) (hs : Silent s s') : s'.Held := by
  refine ⟨h.consistent.of_silent hs, fun i hi => ?_⟩
  rw [hs.loggedInId] at hi ⊢
  rw [hs.sessionMap, hs.trace]
  exact h.held i hi

theorem grant_held {s : LoginContext ι} (h : s.Held) {i : ι} {id : String}
    (unused : id ∉ s.loggedInUsers) : (s.grant i id).Held := by
  have hnone : s.sessionMap id = none := by
    by_contra hne
    exact unused ((h.consistent.users id).mpr hne)
  refine ⟨grant_consistent h.consistent i id, fun j hj => ?_⟩
  show Function.update s.sessionMap id (some i) ((s.grant i id).sessions j).loggedInId = some j
    ↔ (if j = i then false else disconnectedSince s.trace j) = false
  by_cases hji : j = i
  · subst hji
    simp [grant, record, modify]
  · have hid : ((s.grant i id).sessions j).loggedInId = (s.sessions j).loggedInId := by
      simp [grant, record, modify, hji]
    rw [hid] at hj ⊢
    rw [if_neg hji, ← h.held j hj]
    by_cases ha : (s.sessions j).loggedInId = id
    · rw [ha, Function.update_self, hnone]
      simp [Ne.symm hji]
    · rw [Function.update_of_ne ha]

/-- A disconnect that removes no entry of another session keeps `Held`. -/
theorem onDisconnected_held {s : LoginContext ι} (h : s.Held) {i : ι}
    (hown : ∀ j, (s.sessions i).loggedInId ≠ "" →
      s.sessionMap (s.sessions i).loggedInId = some j → j = i) :
    (s.onDisconnected i).Held := by
  refine ⟨onDisconnected_consistent h.consistent i, fun j hj => ?_⟩
  rw [onDisconnected_loggedInId] at hj ⊢
  rw [onDisconnected_trace, onDisconnected_sessionMap]
  show _ ↔ (if j = i then true else disconnectedSince s.trace j) = false
  by_cases hji : j = i
  · subst hji
    simp [hj]
  · rw [if_neg hji, ← h.held j hj]
    split
    · exact Iff.rfl
    · rename_i hi
      by_cases ha : (s.sessions j).loggedInId = (s.sessions i).loggedInId
      · rw [ha, Function.update_self]
        refine ⟨fun h => (nomatch h), fun hsome => ?_⟩
        exact absurd (hown j hi hsome) hji
      · rw [Function.update_of_ne ha]

/-- What a disconnect does to the tables. -/
theorem Disconnects.effect {s s' : LoginContext ι} {label : Label ι} {i : ι}
    (h : Disconnects env s label s' i) :
    ∃ s₁, Silent s s₁ ∧ s' = s₁.onDisconnected i := by
  obtain ⟨hstep, htrace⟩ := h
  cases step_effect hstep with
  | quiet ungranted h =>
      rw [h.trace] at htrace
      exact absurd htrace.symm (List.cons_ne_self _ _)
  | forwards j req ungranted account h =>
      have hhead := h.trace.symm.trans htrace
      cases hhead
  | disconnects j s₁ ungranted h =>
      rw [onDisconnected_trace, List.cons.injEq, Event.disconnected.injEq] at htrace
      obtain ⟨rfl, -⟩ := htrace
      exact ⟨s₁, h, rfl⟩
  | grants j id granted unused h =>
      have hhead := h.trace.symm.trans htrace
      cases hhead

/-- A disconnect removes the entry of the session's id and no other. -/
theorem Disconnects.removes_iff {s s' : LoginContext ι} {label : Label ι} {i : ι}
    (hs : s.Consistent) (h : Disconnects env s label s' i) (a : String) :
    (s.sessionMap a ≠ none ∧ s'.sessionMap a = none) ∨
        (a ∈ s.loggedInUsers ∧ a ∉ s'.loggedInUsers)
      ↔ a = (s.sessions i).loggedInId ∧ a ≠ "" ∧ a ∈ s.loggedInUsers := by
  obtain ⟨s₁, h₁, rfl⟩ := h.effect
  rw [onDisconnected_sessionMap, onDisconnected_loggedInUsers, h₁.loggedInId, h₁.sessionMap,
    h₁.loggedInUsers, ← hs.users]
  by_cases hempty : (s.sessions i).loggedInId = ""
  · rw [if_pos hempty, if_pos hempty, hs.users]
    constructor
    · rintro (⟨hsome, hnone⟩ | ⟨hmem, hnot⟩)
      · exact absurd hnone hsome
      · exact absurd hmem hnot
    · rintro ⟨ha, hne, -⟩
      exact absurd (ha.trans hempty) hne
  · rw [if_neg hempty, if_neg hempty]
    by_cases ha : a = (s.sessions i).loggedInId
    · subst ha
      simp [hempty]
    · rw [Function.update_of_ne ha, Finset.mem_erase, hs.users]
      simp [ha]

theorem removesOwn_iff {s s' : LoginContext ι} {label : Label ι} {i : ι} (hs : s.Held)
    (h : Disconnects env s label s' i) :
    (∀ a, (s.sessionMap a ≠ none ∧ s'.sessionMap a = none) ∨
        (a ∈ s.loggedInUsers ∧ a ∉ s'.loggedInUsers) →
      s.sessionMap a = some i ∧ grantee s.trace a = some i)
      ↔ disconnectedSince s.trace i = false ∨ (s.sessions i).loggedInId ∉ s.loggedInUsers ∨
        (s.sessions i).loggedInId = "" := by
  simp only [h.removes_iff hs.consistent]
  constructor
  · intro hown
    by_cases hempty : (s.sessions i).loggedInId = ""
    · exact Or.inr (Or.inr hempty)
    by_cases hin : (s.sessions i).loggedInId ∈ s.loggedInUsers
    · exact Or.inl ((hs.held i hempty).mp (hown _ ⟨rfl, hempty, hin⟩).1)
    · exact Or.inr (Or.inl hin)
  · rintro hfirst a ⟨rfl, hne, hin⟩
    rcases hfirst with hfirst | hout | hempty
    · have hmap := (hs.held i hne).mpr hfirst
      exact ⟨hmap, hs.consistent.granted _ i hmap⟩
    · exact absurd hin hout
    · exact absurd hempty hne

theorem step_held {s s' : LoginContext ι} {label : Label ι} (hs : s.Held)
    (hown : RemovesOwn env s label) (hstep : step env s label = some s') : s'.Held := by
  cases step_effect hstep with
  | quiet ungranted h => exact hs.of_silent h
  | forwards i req ungranted account h =>
      have hf : (s.record (.forwarded i req)).Held :=
        ⟨⟨hs.consistent.users, hs.consistent.granted⟩, hs.held⟩
      exact hf.of_silent h
  | disconnects i s₁ ungranted h =>
      refine onDisconnected_held (hs.of_silent h) fun j hne hj => ?_
      rw [h.loggedInId, h.sessionMap] at hj
      rw [h.loggedInId] at hne
      have hd : Disconnects env s label (s₁.onDisconnected i) i :=
        ⟨hstep, by rw [onDisconnected_trace, h.trace]⟩
      have hin : (s.sessions i).loggedInId ∈ s.loggedInUsers := by
        rw [hs.consistent.users, hj]
        exact Option.some_ne_none j
      obtain ⟨hmap, -⟩ := hown _ i hd _ ((hd.removes_iff hs.consistent _).mpr ⟨rfl, hne, hin⟩)
      exact Option.some.inj (hj.symm.trans hmap)
  | grants i id granted unused h => exact (grant_held hs unused).of_silent h

/-- The runs on which every disconnect removes only its own session's entry are
    those on which every disconnect is a first one. -/
theorem removesOwn_iff_firstDisconnect (env : ServerEnv) (labels : List (Label ι)) :
    Meets (step env) (RemovesOwn env) start labels
      ↔ Meets (step env) (FirstDisconnect env) start labels := by
  refine meets_congr Held step_held ?_ start_held
  intro s label s' hs hstep
  exact forall_congr' fun s' => forall_congr' fun i => forall_congr' fun hd =>
    removesOwn_iff hs hd

/-- Session 0 logs in as "a" and times out, session 1 logs in as "a", and the
    read of session 0 fails. -/
theorem removesOther_secondDisconnect :
    ¬ Meets (step .sample) (RemovesOwn .sample) (start : LoginContext Nat)
      (.accept 0 0 :: loginAs 97 ++ [granted, .timerExpires 0, .timerRuns 0 31000000000,
        .accept 1 0, .headerRead 1 ⟨7, PacketId.clientLoginLoginReq⟩ 0,
        .payloadRead 1 [10, 1, 97] 0, granted] ++ [.readFails 0]) := by
  intro h
  have hown := h.of_exec [] rfl rfl
  have hremoved := (hown _ 0 ⟨rfl, by decide +kernel⟩ "a" (by decide +kernel)).1
  exact absurd hremoved (by decide +kernel)

end LoginContext

end MMOServers.LoginServer
