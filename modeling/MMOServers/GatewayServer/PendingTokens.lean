/-
MMOServers.GatewayServer.PendingTokens — what `VerifyAndConsumeToken` answers.

The two functions of the token store are called in any order, for any accounts
and at any clock readings, also at readings that go back. A history is the list
of these calls, the oldest first, and `answer` is what a verification returns
after it.

The map is compared with a reading of the history itself. A store for an
account stands at the end of a history (`Stands`) when it is the last one for
that account and no verification since has used it up or found it expired.
`entry_eq_some_iff` says that the map holds the store that stands, so a
verification succeeds exactly with its token and before its expiry. One
account's entry evolves by itself (`entryAfter`), which is why calls for others
do not matter, and a failed call that finds the entry unexpired leaves it as it
was.

`run_calls` closes the gap to the running gateway: whatever its sessions and the
game server do, its tokens are those of some history of calls.
-/
import MMOServers.GatewayServer.TokenSteps
import MMOServers.Lib.Run
import Mathlib.Data.List.Induction

namespace MMOServers.GatewayServer

open MMOServers.Common

/-- A call of one of the two functions. -/
inductive TokenCall where
  | store (accountId token : String) (expireMs : Int)
  | verify (accountId token : String) (nowMs : Int)
  deriving DecidableEq

namespace TokenCall

def accountId : TokenCall → String
  | .store accountId _ _ => accountId
  | .verify accountId _ _ => accountId

end TokenCall

namespace Gateway

variable {ι F Key : Type}

/-! ## Histories -/

def call (s : Gateway ι F Key) : TokenCall → Gateway ι F Key
  | .store a t expireMs => s.storePendingToken a t expireMs
  | .verify a t nowMs => (s.verifyAndConsumeToken a t nowMs).2

/-- The gateway after a history of calls, the oldest first. -/
def afterCalls (s : Gateway ι F Key) (calls : List TokenCall) : Gateway ι F Key :=
  calls.foldl call s

variable (ι F Key) in
/-- What a verification returns after a history on a gateway that had no tokens. -/
def answer (calls : List TokenCall) (a t : String) (nowMs : Int) : Bool :=
  ((start : Gateway ι F Key).afterCalls calls |>.verifyAndConsumeToken a t nowMs).1

/-! ## One account's entry -/

/-- What a call does to the entry of the account `a`. -/
def entryAfter (a : String) (entry : Option PendingToken) : TokenCall → Option PendingToken
  | .store b t expireMs => if b = a then some ⟨t, expireMs⟩ else entry
  | .verify b t nowMs =>
      if b = a then entry.filter fun p => nowMs ≤ p.expireTimeMs ∧ p.sessionToken ≠ t else entry

theorem verify_answer (s : Gateway ι F Key) (a t : String) (nowMs : Int) :
    (s.verifyAndConsumeToken a t nowMs).1 = true
      ↔ ∃ expireMs, s.pendingTokens a = some ⟨t, expireMs⟩ ∧ nowMs ≤ expireMs := by
  unfold verifyAndConsumeToken
  cases hpending : s.pendingTokens a with
  | none => simp
  | some p =>
      obtain ⟨u, expireMs⟩ := p
      dsimp only
      split
      · rename_i hlate
        simp only [Bool.false_eq_true, Option.some.injEq, PendingToken.mk.injEq, false_iff]
        rintro ⟨e, ⟨-, rfl⟩, hle⟩
        omega
      · split
        · rename_i hwrong
          simp [hwrong]
        · rename_i hlate hright
          simp only [Option.some.injEq, PendingToken.mk.injEq, true_iff]
          exact ⟨expireMs, ⟨not_not.mp hright, rfl⟩, Int.not_lt.mp hlate⟩

/-- The map is one entry for each account: a call changes that of its own
    account and reads no other. -/
theorem call_pendingTokens (s : Gateway ι F Key) (c : TokenCall) (a : String) :
    (s.call c).pendingTokens a = entryAfter a (s.pendingTokens a) c := by
  cases c with
  | store b t expireMs =>
      show Function.update s.pendingTokens b _ a = _
      simp only [Function.update_apply, entryAfter, eq_comm]
  | verify b t nowMs =>
      simp only [call, verifyAndConsumeToken, entryAfter]
      by_cases hba : b = a
      · subst hba
        cases hpending : s.pendingTokens b with
        | none => simp [hpending]
        | some p =>
            dsimp only
            split
            · rename_i hlate
              have : ¬ nowMs ≤ p.expireTimeMs := by omega
              simp [Option.filter_some, this]
            · rename_i hlate
              have : nowMs ≤ p.expireTimeMs := by omega
              split
              · rename_i hwrong
                simp [hpending, Option.filter_some, this, hwrong]
              · rename_i hright
                simp [Option.filter_some, hright]
      · have hother : ∀ entry, Function.update s.pendingTokens b entry a = s.pendingTokens a :=
          fun entry => Function.update_of_ne (Ne.symm hba) _ _
        rw [if_neg hba]
        repeat' split
        all_goals simp [hother]

theorem afterCalls_snoc (s : Gateway ι F Key) (calls : List TokenCall) (c : TokenCall) :
    s.afterCalls (calls ++ [c]) = (s.afterCalls calls).call c := by
  simp [afterCalls]

theorem afterCalls_pendingTokens (s : Gateway ι F Key) (calls : List TokenCall) (a : String) :
    (s.afterCalls calls).pendingTokens a = calls.foldl (entryAfter a) (s.pendingTokens a) := by
  induction calls generalizing s with
  | nil => rfl
  | cons c calls ih =>
      show ((s.call c).afterCalls calls).pendingTokens a = _
      rw [ih, call_pendingTokens, List.foldl_cons]

variable (ι F Key) in
/-- The entry of an account after a history. -/
def entry (calls : List TokenCall) (a : String) : Option PendingToken :=
  (start : Gateway ι F Key).afterCalls calls |>.pendingTokens a

theorem entry_eq (calls : List TokenCall) (a : String) :
    entry ι F Key calls a = calls.foldl (entryAfter a) none :=
  afterCalls_pendingTokens _ calls a

theorem entry_snoc (calls : List TokenCall) (c : TokenCall) (a : String) :
    entry ι F Key (calls ++ [c]) a = entryAfter a (entry ι F Key calls a) c := by
  rw [entry, afterCalls_snoc, call_pendingTokens]
  rfl

theorem answer_iff_entry (calls : List TokenCall) (a t : String) (nowMs : Int) :
    answer ι F Key calls a t nowMs = true
      ↔ ∃ expireMs, entry ι F Key calls a = some ⟨t, expireMs⟩ ∧ nowMs ≤ expireMs :=
  verify_answer _ a t nowMs

/-! ## Stores that stand -/

variable (ι F Key) in
/-- After `calls` the last store for `a` is one of the token `t`, and none of the
    verifications for `a` since then returned true or read a clock later than its
    expiry. -/
def Stands (calls : List TokenCall) (a t : String) (expireMs : Int) : Prop :=
  ∃ before since, calls = before ++ .store a t expireMs :: since ∧
    (∀ u e, .store a u e ∉ since) ∧
    ∀ mid u nowMs rest, since = mid ++ .verify a u nowMs :: rest →
      answer ι F Key (before ++ .store a t expireMs :: mid) a u nowMs = false ∧
        nowMs ≤ expireMs

/-- A store stands once it is made. -/
theorem stands_store (calls : List TokenCall) (a t : String) (expireMs : Int) :
    Stands ι F Key (calls ++ [.store a t expireMs]) a t expireMs := by
  refine ⟨calls, [], rfl, by simp, ?_⟩
  intro mid u nowMs rest h
  simp at h

/-- The last call of a history with a store that stands is that store, or one
    that is no store for the account and does not use it up. -/
theorem stands_snoc (calls : List TokenCall) (c : TokenCall) (a t : String) (expireMs : Int) :
    Stands ι F Key (calls ++ [c]) a t expireMs ↔ c = .store a t expireMs ∨
      (Stands ι F Key calls a t expireMs ∧ (∀ u e, c ≠ .store a u e) ∧
        ∀ u nowMs, c = .verify a u nowMs →
          answer ι F Key calls a u nowMs = false ∧ nowMs ≤ expireMs) := by
  constructor
  · rintro ⟨before, since, hcalls, hstores, hverifies⟩
    rcases List.eq_nil_or_concat' since with rfl | ⟨since, d, rfl⟩
    · exact Or.inl (by simpa using List.append_inj_right' hcalls rfl)
    · rw [← List.cons_append, ← List.append_assoc] at hcalls
      obtain ⟨rfl, hd⟩ := List.append_inj' hcalls rfl
      obtain rfl : c = d := by simpa using hd
      refine Or.inr ⟨⟨before, since, rfl, ?_, ?_⟩, ?_, ?_⟩
      · intro u e hmem
        exact hstores u e (List.mem_append_left _ hmem)
      · intro mid u nowMs rest hsince
        exact hverifies mid u nowMs (rest ++ [c]) (by rw [hsince]; simp)
      · rintro u e rfl
        exact hstores u e (by simp)
      · rintro u nowMs rfl
        exact hverifies since u nowMs [] rfl
  · rintro (rfl | ⟨⟨before, since, rfl, hstores, hverifies⟩, hstore, hverify⟩)
    · exact stands_store calls a t expireMs
    · refine ⟨before, since ++ [c], by simp, ?_, ?_⟩
      · intro u e hmem
        rcases List.mem_append.mp hmem with hmem | hmem
        · exact hstores u e hmem
        · exact hstore u e (List.mem_singleton.mp hmem).symm
      · intro mid u nowMs rest hsince
        rcases List.eq_nil_or_concat' rest with rfl | ⟨rest, d, rfl⟩
        · obtain ⟨rfl, hc⟩ := List.append_inj' hsince rfl
          exact hverify u nowMs (by simpa using hc)
        · rw [← List.cons_append, ← List.append_assoc] at hsince
          obtain ⟨rfl, -⟩ := List.append_inj' hsince rfl
          exact hverifies mid u nowMs rest rfl

/-- The map holds the store that stands. -/
theorem entry_eq_some_iff (calls : List TokenCall) (a t : String) (expireMs : Int) :
    entry ι F Key calls a = some ⟨t, expireMs⟩ ↔ Stands ι F Key calls a t expireMs := by
  induction calls using List.reverseRecOn generalizing t expireMs with
  | nil => simp [entry_eq, Stands]
  | append_singleton calls c ih =>
      rw [entry_snoc, stands_snoc]
      cases c with
      | store b u e =>
          by_cases hba : b = a
          · subst hba
            simp [entryAfter]
          · simp [entryAfter, hba, ih]
      | verify b u nowMs =>
          by_cases hba : b = a
          · subst hba
            simp only [entryAfter, if_true, Option.filter_eq_some_iff, ih]
            simp only [reduceCtorEq, false_or, ne_eq, not_false_eq_true, implies_true, true_and,
              TokenCall.verify.injEq]
            refine and_congr_right fun hstands => ?_
            -- the answer is decided by the entry that stands
            have hentry := (ih t expireMs).mpr hstands
            have hanswer : answer ι F Key calls b u nowMs = true ↔ t = u ∧ nowMs ≤ expireMs := by
              rw [answer_iff_entry, hentry]
              simp only [Option.some.injEq, PendingToken.mk.injEq]
              constructor
              · rintro ⟨e, ⟨rfl, rfl⟩, hle⟩
                exact ⟨rfl, hle⟩
              · rintro ⟨rfl, hle⟩
                exact ⟨expireMs, ⟨rfl, rfl⟩, hle⟩
            simp only [decide_eq_true_eq]
            constructor
            · rintro ⟨hle, hne⟩ v m ⟨rfl, rfl⟩
              exact ⟨Bool.eq_false_iff.mpr fun h => hne (hanswer.mp h).1, hle⟩
            · intro h
              obtain ⟨hfalse, hle⟩ := h u nowMs ⟨rfl, rfl⟩
              refine ⟨hle, ?_⟩
              intro heq
              rw [hanswer.mpr ⟨heq, hle⟩] at hfalse
              cases hfalse
          · simp [entryAfter, hba, ih]

/-! ## Calls that change no answer -/

/-- The entry, if a verification at `nowMs` does not find it expired. -/
def unexpired (nowMs : Int) (entry : Option PendingToken) : Option PendingToken :=
  entry.filter fun p => nowMs ≤ p.expireTimeMs

theorem answer_iff_unexpired (calls : List TokenCall) (a t : String) (nowMs : Int) :
    answer ι F Key calls a t nowMs = true
      ↔ ∃ expireMs, unexpired nowMs (entry ι F Key calls a) = some ⟨t, expireMs⟩ := by
  rw [answer_iff_entry]
  simp [unexpired, Option.filter_eq_some_iff]

theorem filter_swap {β : Type} (x : Option β) (p q : β → Bool) :
    (x.filter p).filter q = (x.filter q).filter p := by
  simp only [Option.filter_filter, Bool.and_comm]

/-- Entries that agree as far as they are unexpired keep doing so. -/
theorem unexpired_entryAfter {nowMs : Int} {a : String} {x y : Option PendingToken}
    (h : unexpired nowMs x = unexpired nowMs y) (c : TokenCall) :
    unexpired nowMs (entryAfter a x c) = unexpired nowMs (entryAfter a y c) := by
  cases c with
  | store b t expireMs =>
      simp only [entryAfter]
      split
      · rfl
      · exact h
  | verify b t m =>
      simp only [entryAfter]
      split
      · simp only [unexpired] at h ⊢
        rw [filter_swap, h, filter_swap]
      · exact h

theorem unexpired_foldl {nowMs : Int} {a : String} {x y : Option PendingToken}
    (h : unexpired nowMs x = unexpired nowMs y) (calls : List TokenCall) :
    unexpired nowMs (calls.foldl (entryAfter a) x)
      = unexpired nowMs (calls.foldl (entryAfter a) y) := by
  induction calls generalizing x y with
  | nil => exact h
  | cons c calls ih => exact ih (unexpired_entryAfter h c)

/-- A call that leaves the unexpired entry alone can be left out of the history. -/
theorem answer_without {nowMs : Int} {a : String} {ahead : List TokenCall} {c : TokenCall}
    (h : unexpired nowMs (entryAfter a (entry ι F Key ahead a) c)
      = unexpired nowMs (entry ι F Key ahead a)) (behind : List TokenCall) (t : String) :
    answer ι F Key (ahead ++ c :: behind) a t nowMs
      = answer ι F Key (ahead ++ behind) a t nowMs := by
  have hentries : unexpired nowMs (entry ι F Key (ahead ++ c :: behind) a)
      = unexpired nowMs (entry ι F Key (ahead ++ behind) a) := by
    simp only [entry_eq, List.foldl_append, List.foldl_cons] at h ⊢
    exact unexpired_foldl h behind
  rw [Bool.eq_iff_iff, answer_iff_unexpired, answer_iff_unexpired, hentries]

theorem entryAfter_other {a : String} {c : TokenCall} (h : c.accountId ≠ a)
    (entry : Option PendingToken) : entryAfter a entry c = entry := by
  cases c with
  | store b t expireMs => exact if_neg h
  | verify b t nowMs => exact if_neg h

/-- A verification that fails on an entry it does not find expired fails on the
    token, and the entry stays. -/
theorem unexpired_guess {calls : List TokenCall} {a u : String} {m nowMs : Int}
    (hfails : answer ι F Key calls a u m = false)
    (hclock : ∀ t expireMs, Stands ι F Key calls a t expireMs → m ≤ expireMs ∨ m ≤ nowMs) :
    unexpired nowMs (entryAfter a (entry ι F Key calls a) (.verify a u m))
      = unexpired nowMs (entry ι F Key calls a) := by
  have hunverified : ¬ ∃ expireMs, entry ι F Key calls a = some ⟨u, expireMs⟩ ∧ m ≤ expireMs := by
    rw [← answer_iff_entry, hfails]
    simp
  simp only [← entry_eq_some_iff] at hclock
  simp only [entryAfter, if_true]
  cases hentry : entry ι F Key calls a with
  | none => rfl
  | some p =>
      obtain ⟨t, expireMs⟩ := p
      simp only [unexpired, Option.filter_some]
      by_cases hlive : nowMs ≤ expireMs
      · have hm : m ≤ expireMs := by
          have := hclock t expireMs hentry
          omega
        have htoken : t ≠ u := by
          rintro rfl
          exact hunverified ⟨expireMs, hentry, hm⟩
        simp [hlive, hm, htoken]
      · have hexpired : expireMs < nowMs := Int.not_le.mp hlive
        simp [hlive, hexpired]

/-- `VerifyAndConsumeToken` over whole histories: it returns true exactly when a
    store of this token stands whose expiry the clock has not passed; a call for
    another account can be left out, and so can a failed call, unless the clock it
    read was both past the expiry and later than the reading now. -/
theorem verifyAndConsumeToken_answers (calls : List TokenCall) (a t : String) (nowMs : Int) :
    (answer ι F Key calls a t nowMs = true
      ↔ ∃ expireMs, nowMs ≤ expireMs ∧ Stands ι F Key calls a t expireMs) ∧
    (∀ ahead c behind, calls = ahead ++ c :: behind → c.accountId ≠ a →
      answer ι F Key calls a t nowMs = answer ι F Key (ahead ++ behind) a t nowMs) ∧
    (∀ ahead u m behind, calls = ahead ++ .verify a u m :: behind →
      answer ι F Key ahead a u m = false →
      (∀ t' expireMs, Stands ι F Key ahead a t' expireMs → m ≤ expireMs ∨ m ≤ nowMs) →
      answer ι F Key calls a t nowMs = answer ι F Key (ahead ++ behind) a t nowMs) := by
  refine ⟨?_, ?_, ?_⟩
  · simp only [answer_iff_entry, entry_eq_some_iff, and_comm]
  · rintro ahead c behind rfl hother
    exact answer_without (by rw [entryAfter_other hother]) behind t
  · rintro ahead u m behind rfl hfails hclock
    exact answer_without (unexpired_guess hfails hclock) behind t

-- the exception: a reading past the expiry erases, and then the clock goes back
example : answer Unit Unit Unit [.store "a" "t" 10, .verify "a" "x" 20] "a" "t" 5 = false := by
  decide

/-! ## Histories of runs -/

/-- The tokens of `s'` are those of `s` after some calls. -/
def Calls (s s' : Gateway ι F Key) : Prop :=
  ∃ calls, s'.pendingTokens = (s.afterCalls calls).pendingTokens

theorem TokensKept.calls {s s' : Gateway ι F Key} (h : TokensKept s s') : Calls s s' :=
  ⟨[], h.pendingTokens⟩

theorem calls_one (s : Gateway ι F Key) (c : TokenCall) : Calls s (s.call c) := ⟨[c], rfl⟩

/-- The calls read and write the tokens only. -/
theorem afterCalls_congr {s s₁ : Gateway ι F Key} (h : s₁.pendingTokens = s.pendingTokens)
    (calls : List TokenCall) :
    (s₁.afterCalls calls).pendingTokens = (s.afterCalls calls).pendingTokens := by
  funext a
  rw [afterCalls_pendingTokens, afterCalls_pendingTokens, h]

theorem Calls.trans {s₁ s₂ s₃ : Gateway ι F Key} (h : Calls s₁ s₂) (h' : Calls s₂ s₃) :
    Calls s₁ s₃ := by
  obtain ⟨calls, hcalls⟩ := h
  obtain ⟨more, hmore⟩ := h'
  refine ⟨calls ++ more, ?_⟩
  rw [hmore, afterCalls_congr hcalls, afterCalls, afterCalls, afterCalls, List.foldl_append]

section Runs

variable [DecidableEq ι] {env : GatewayEnv F Key}

theorem handleGatewayConnectReq_calls (s : Gateway ι F Key) (i : ι) (payload : List UInt8)
    (nowMs : Int) : Calls s (s.handleGatewayConnectReq env i payload nowMs) := by
  unfold handleGatewayConnectReq
  cases hparse : env.parseConnectReq payload with
  | none => exact (parseFailed_tokens s i).calls
  | some req =>
      have hparsed : Calls s (s.parseSucceeded i) := (modify_tokens s i _).calls
      have hverify : Calls (s.parseSucceeded i)
          ((s.parseSucceeded i).verifyAndConsumeToken req.accountId req.sessionToken nowMs).2 :=
        calls_one _ (.verify req.accountId req.sessionToken nowMs)
      dsimp only
      split
      · rename_i s₁ hres
        rw [hres] at hverify
        exact (hparsed.trans hverify).trans (send_tokens s₁ i _ _).calls
      · rename_i s₁ hres
        rw [hres] at hverify
        let s₂ := (s₁.record (.verified i req.accountId)).authenticate i req.accountId
        have hadmitted : Calls s₁ s₂ := ⟨[], rfl⟩
        refine ((hparsed.trans hverify).trans hadmitted).trans (TokensKept.calls ?_)
        exact (send_tokens s₂ i _ _).trans (modify_tokens _ i _)

theorem dispatch_calls (s : Gateway ι F Key) (i : ι) (id : UInt16) (data : List UInt8)
    (nowMs : Int) : Calls s (s.dispatch env i id data nowMs) := by
  have hrecord : Calls s (s.record (.dispatched i id)) := ⟨[], rfl⟩
  unfold dispatch
  dsimp only
  repeat' split
  · exact hrecord.trans (handleGatewayConnectReq_calls _ i data nowMs)
  · exact hrecord.trans (relay_tokens _ _ _ i data).calls
  · exact hrecord.trans (relay_tokens _ _ _ i data).calls
  · exact hrecord.trans (relay_tokens _ _ _ i data).calls
  · exact hrecord

theorem gameDispatch_calls (s : Gateway ι F Key) (id : UInt16) (payload : List UInt8) :
    Calls s (s.gameDispatch env id payload) := by
  unfold gameDispatch
  repeat' split
  · unfold handleMoveResFromGame
    split
    · exact ⟨[], rfl⟩
    · exact (broadcast_tokens s _ _ _).calls
  · unfold handleGameGatewayAttackRes
    split
    · exact ⟨[], rfl⟩
    · exact (broadcast_tokens s _ _ _).calls
  · unfold handleTokenNotifyFromGame
    split
    · exact ⟨[], rfl⟩
    · exact calls_one s (.store _ _ _)
  · unfold handleChatResFromGame
    split
    · exact ⟨[], rfl⟩
    · exact (broadcast_tokens s _ _ _).calls
  · exact ⟨[], rfl⟩

theorem step_calls {s s' : Gateway ι F Key} {label : Label ι}
    (hstep : step env s label = some s') : Calls s s' := by
  by_cases hgame : ∃ id payload, label = .gamePacket id payload
  · obtain ⟨id, payload, rfl⟩ := hgame
    simp only [step, Option.some.injEq] at hstep
    exact hstep ▸ gameDispatch_calls s id payload
  · have hlabel : ∀ id payload, label ≠ .gamePacket id payload :=
      fun id payload h => hgame ⟨id, payload, h⟩
    cases step_through hlabel hstep with
    | aside undispatched kept => exact kept.calls
    | dispatches i id data s₁ dispatched before after =>
        exact (before.calls.trans (dispatch_calls s₁ i id data _)).trans after.calls

/-- What a run of the gateway can verify is what a history of calls can. -/
theorem run_calls {s : Gateway ι F Key} {labels : List (Label ι)}
    (h : Transition.exec (step env) start labels = some s) :
    ∃ calls, ∀ a t nowMs,
      (s.verifyAndConsumeToken a t nowMs).1 = answer ι F Key calls a t nowMs := by
  have hcalls : Calls start s :=
    Transition.exec_inv (fun hs hstep => hs.trans (step_calls hstep)) ⟨[], rfl⟩ h
  obtain ⟨calls, hcalls⟩ := hcalls
  refine ⟨calls, ?_⟩
  intro a t nowMs
  rw [Bool.eq_iff_iff, verify_answer, answer, verify_answer, hcalls]

end Runs

end Gateway

end MMOServers.GatewayServer
