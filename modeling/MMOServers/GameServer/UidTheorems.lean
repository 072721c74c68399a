/-
MMOServers.GameServer.UidTheorems — the uid table is the inverse of the players.

`uidToAccount` and `playerMap` are changed together by the first move of an
account, by a leave and by the clean-up after a gateway, and read by every
broadcast. The roster invariant `Linked` says that they are inverse to each
other. It survives an entry only if the uid that is drawn is free, so it is
carried together with the number of entries so far (`Issued`): uids are drawn in
order, and while fewer than 2^64 accounts have entered no uid is drawn twice.

A uid that has been issued is never given to anybody else (`Inherits`), so one
that was removed stays unused for good.

The counter is a `uint64_t` that starts at 1. After 2^64 - 1 entries it has
wrapped around to 0, below every uid in use. No uid is repeated yet at that
point, so only the comparison with the counter is lost there.
-/
import MMOServers.GameServer.PlayerTheorems

namespace MMOServers.GameServer

open MMOServers.Common Transition

/-! ## Rosters and the uids they have issued -/

namespace Roster

variable {K : Type}

/-- `n` accounts have entered, and their uids were drawn in order. -/
structure Issued (n : Nat) (r : Roster K) : Prop where
  next : r.next = (n + 1) % 2 ^ 64
  issued : ∀ uid accId, r.accounts uid = some accId → uid ≤ n

/-- Of the uids up to `n` the later roster has only those of the earlier one,
    for the same accounts. -/
def Inherits (n : Nat) (r r' : Roster K) : Prop :=
  ∀ uid accId, uid ≤ n → r'.accounts uid = some accId → r.accounts uid = some accId

theorem Inherits.refl (n : Nat) (r : Roster K) : Inherits n r r := fun _ _ _ h => h

theorem Inherits.trans {m n : Nat} (hmn : m ≤ n) {r₁ r₂ r₃ : Roster K}
    (h : Inherits m r₁ r₂) (h' : Inherits n r₂ r₃) : Inherits m r₁ r₃ :=
  fun uid accId huid hacc => h uid accId huid (h' uid accId (huid.trans hmn) hacc)

/-- The next uid is new as long as the counter has not wrapped around. -/
theorem Issued.fresh {n : Nat} {r : Roster K} (h : r.Issued n) (hn : n + 1 < 2 ^ 64) :
    r.next = n + 1 ∧ r.accounts r.next = none := by
  have hnext : r.next = n + 1 := h.next.trans (Nat.mod_eq_of_lt hn)
  refine ⟨hnext, Option.eq_none_iff_forall_ne_some.mpr fun accId hacc => ?_⟩
  have := h.issued _ accId hacc
  omega

variable [Field K] [LinearOrder K] [FloorRing K]

theorem Drifts.inherits {homeX homeY : K} {r r' : Roster K} (h : Drifts homeX homeY r r')
    (n : Nat) : Inherits n r r' := by
  induction h with
  | refl => exact Inherits.refl n r
  | @leave r' _ p _ _ ih =>
      intro uid accId huid hacc
      replace hacc : Function.update r'.accounts p.uid none uid = some accId := hacc
      rw [Function.update_apply] at hacc
      split at hacc
      · cases hacc
      · exact ih uid accId huid hacc
  | home _ _ ih => exact ih

theorem Drifts.issued {homeX homeY : K} {r r' : Roster K} (h : Drifts homeX homeY r r')
    {n : Nat} (hr : r.Issued n) : r'.Issued n := by
  refine ⟨h.next.trans hr.next, fun uid accId hacc => ?_⟩
  exact hr.issued uid accId (h.inherits uid uid accId le_rfl hacc)

/-- A move of an account that is online issues no uid. -/
theorem moveTo_accounts {r : Roster K} {accId : String} (hp : r.players accId ≠ none)
    (x y : K) :
    (r.moveTo accId x y).next = r.next ∧ (r.moveTo accId x y).accounts = r.accounts := by
  unfold moveTo
  split
  · exact ⟨rfl, rfl⟩
  · rename_i hnone
    exact absurd hnone hp

/-- A first move issues the next one. -/
theorem moveTo_enters {r : Roster K} {accId : String} (hp : r.players accId = none) (x y : K) :
    (r.moveTo accId x y).next = (r.next + 1) % 2 ^ 64 ∧
      (r.moveTo accId x y).accounts = Function.update r.accounts r.next (some accId) := by
  unfold moveTo
  split
  · rename_i p hsome
    rw [hp] at hsome
    cases hsome
  · exact ⟨rfl, rfl⟩

theorem moveTo_issued {r : Roster K} {n : Nat} (hr : r.Issued n) (hn : n + 1 < 2 ^ 64)
    {accId : String} (hp : r.players accId = none) (x y : K) :
    (r.moveTo accId x y).Issued (n + 1) ∧ Inherits n r (r.moveTo accId x y) := by
  obtain ⟨hnext, -⟩ := hr.fresh hn
  obtain ⟨hcount, haccounts⟩ := moveTo_enters hp x y
  rw [hnext] at hcount haccounts
  refine ⟨⟨hcount, fun uid a hacc => ?_⟩, fun uid a huid hacc => ?_⟩
  · rw [haccounts, Function.update_apply] at hacc
    split at hacc
    · omega
    · exact (hr.issued uid a hacc).trans (Nat.le_succ n)
  · rwa [haccounts, Function.update_of_ne (by omega)] at hacc

end Roster

namespace GameContext

variable {K σ : Type}

/-! ## The tables -/

/-- `uidToAccount` is the inverse of `playerMap`. -/
structure UidsExact (s : GameContext K σ) : Prop where
  inverse : ∀ uid accId, s.uidToAccount uid = some accId ↔
    ∃ p, s.playerMap accId = some p ∧ p.uid = uid
  distinct : ∀ a b p q, s.playerMap a = some p → s.playerMap b = some q → p.uid = q.uid → a = b

def UidsBelowCounter (s : GameContext K σ) : Prop :=
  ∀ accId p, s.playerMap accId = some p → p.uid < s.uidCounter

theorem uidsExact_of_linked {s : GameContext K σ} (h : s.roster.Linked) : s.UidsExact := by
  refine ⟨fun uid accId => ?_, fun a b p q hp hq huid => ?_⟩
  · rw [show s.uidToAccount uid = s.roster.accounts uid from rfl, h uid accId]
    constructor
    · rintro ⟨place, hplace, rfl⟩
      obtain ⟨p, hp, rfl⟩ := Option.map_eq_some_iff.mp hplace
      exact ⟨p, hp, rfl⟩
    · rintro ⟨p, hp, rfl⟩
      exact ⟨p.place, roster_player hp, rfl⟩
  · exact h.unique (roster_player hp) (roster_player hq) huid

variable [Field K] [LinearOrder K] [FloorRing K] [HasSqrt K] [DecidableEq σ] {env : GameEnv K}

/-- The task is the first move of an account. -/
def Enters (env : GameEnv K) (s : GameContext K σ) (label : Label K σ) : Prop :=
  match moveOf env label with
  | none => False
  | some req => s.playerMap req.accountId = none

instance (env : GameEnv K) (s : GameContext K σ) (label : Label K σ) :
    Decidable (Enters env s label) := by
  unfold Enters
  split <;> infer_instance

/-- What holds after `n` entries. -/
structure UidsKnown (n : Nat) (s : GameContext K σ) : Prop where
  players : s.PlayersKnown
  issued : s.roster.Issued n

theorem step_uidsKnown {n : Nat} {s s' : GameContext K σ} {label : Label K σ}
    (hs : s.UidsKnown n) (hn : n + (if Enters env s label then 1 else 0) < 2 ^ 64)
    (h : step env s label = some s') :
    s'.UidsKnown (n + if Enters env s label then 1 else 0) ∧
      Roster.Inherits n s.roster s'.roster := by
  cases hmove : moveOf env label with
  | none =>
      have hdrift := step_drifts hs.players.linked hmove h
      rw [if_neg (by simp [Enters, hmove])]
      refine ⟨⟨step_playersKnown hs.players ?_ h, hdrift.issued hs.issued⟩, hdrift.inherits n⟩
      intro req hreq
      rw [hmove] at hreq
      cases hreq
  | some req =>
      have hroster := step_moveTo hmove h
      have henters : Enters env s label ↔ s.playerMap req.accountId = none := by
        simp only [Enters, hmove]
      by_cases hnew : s.playerMap req.accountId = none
      · rw [if_pos (henters.mpr hnew)] at hn ⊢
        have hknown := step_playersKnown hs.players
          (fun _ _ _ => (hs.issued.fresh hn).2) h
        have hissued := Roster.moveTo_issued hs.issued hn (roster_newPlayer.mpr hnew)
          (clamp GameConstants.Map.width req.x) (clamp GameConstants.Map.height req.y)
        rw [← hroster] at hissued
        exact ⟨⟨hknown, hissued.1⟩, hissued.2⟩
      · rw [if_neg (mt henters.mp hnew)]
        have hkept := Roster.moveTo_accounts (mt roster_newPlayer.mp hnew)
          (clamp GameConstants.Map.width req.x) (clamp GameConstants.Map.height req.y)
        rw [← hroster] at hkept
        refine ⟨⟨step_playersKnown hs.players ?_ h, ?_⟩, ?_⟩
        · intro req' hreq' hnew'
          rw [hmove, Option.some.injEq] at hreq'
          exact absurd (hreq' ▸ hnew') hnew
        · exact ⟨hkept.1.trans hs.issued.next, hkept.2 ▸ hs.issued.issued⟩
        · intro uid accId _ hacc
          rwa [hkept.2] at hacc

omit [HasSqrt K] [DecidableEq σ] in
theorem start_uidsKnown (spawns : List (MonsterSpawn K)) :
    (start spawns : GameContext K σ).UidsKnown 0 := by
  refine ⟨start_playersKnown spawns, ?_⟩
  rw [start_roster]
  exact ⟨rfl, fun _ _ h => (nomatch h)⟩

/-! ## Runs -/

theorem exec_uidsKnown {spawns : List (MonsterSpawn K)} {labels : List (Label K σ)}
    {s : GameContext K σ} (h : exec (step env) (start spawns) labels = some s)
    (hN : count (step env) (Enters env) (start spawns) labels < 2 ^ 64) :
    s.UidsKnown (count (step env) (Enters env) (start spawns) labels) := by
  have hinv : ∀ {n} {s : GameContext K σ} {label s'}, UidsKnown n s →
      n + (if Enters env s label then 1 else 0) < 2 ^ 64 → step env s label = some s' →
        UidsKnown (n + if Enters env s label then 1 else 0) s' :=
    fun hs hn hstep => (step_uidsKnown hs hn hstep).1
  have hknown := exec_inv_count hinv (start_uidsKnown spawns) h (by rwa [Nat.zero_add])
  rwa [Nat.zero_add] at hknown

/-- Between two states of a run no uid goes over to another account. -/
theorem exec_inherits {m : Nat} {s t : GameContext K σ} {labels : List (Label K σ)}
    (hs : s.UidsKnown m) (h : exec (step env) s labels = some t)
    (hN : m + count (step env) (Enters env) s labels < 2 ^ 64) :
    Roster.Inherits m s.roster t.roster := by
  let Later (n : Nat) (u : GameContext K σ) : Prop :=
    u.UidsKnown n ∧ m ≤ n ∧ Roster.Inherits m s.roster u.roster
  have hinv : ∀ {n u label u'}, Later n u →
      n + (if Enters env u label then 1 else 0) < 2 ^ 64 → step env u label = some u' →
        Later (n + if Enters env u label then 1 else 0) u' := by
    rintro n u label u' ⟨hknown, hmn, hinherits⟩ hn hstep
    obtain ⟨hknown', hstep'⟩ := step_uidsKnown hknown hn hstep
    exact ⟨hknown', hmn.trans (Nat.le_add_right _ _), hinherits.trans hmn hstep'⟩
  have hfirst : Later m s := ⟨hs, le_rfl, Roster.Inherits.refl m s.roster⟩
  exact (exec_inv_count hinv hfirst h hN).2.2

/-- On every run with fewer than 2^64 entries the tables are inverse to each
    other in every state, a uid in use is below the counter unless the counter
    has just wrapped around, and a uid that was removed is not used again. -/
theorem uids_exact (env : GameEnv K) (spawns : List (MonsterSpawn K))
    (labels : List (Label K σ))
    (hN : count (step env) (Enters env) (start spawns) labels < 2 ^ 64) :
    Always (step env) UidsExact (start spawns) labels ∧
    (∀ as s, as <+: labels → exec (step env) (start spawns) as = some s →
      count (step env) (Enters env) (start spawns) as ≠ 2 ^ 64 - 1 → s.UidsBelowCounter) ∧
    ∀ as bs cs s t u, as ++ bs ++ cs <+: labels →
      exec (step env) (start spawns) as = some s → exec (step env) s bs = some t →
      exec (step env) t cs = some u →
      ∀ uid accId, s.uidToAccount uid = some accId → t.uidToAccount uid ≠ some accId →
        u.uidToAccount uid = none := by
  refine ⟨always_iff_exec.mpr fun as hpre s hs => ?_, fun as s hpre hs hlast => ?_, ?_⟩
  · have hcount := (count_prefix_le hpre).trans_lt hN
    exact uidsExact_of_linked (exec_uidsKnown hs hcount).players.linked
  · have hcount := (count_prefix_le (C := Enters env) (s := start spawns) hpre).trans_lt hN
    have hknown := exec_uidsKnown hs hcount
    intro accId p hp
    have hissued := hknown.issued.issued p.uid accId
      ((uidsExact_of_linked hknown.players.linked).inverse p.uid accId |>.mpr ⟨p, hp, rfl⟩)
    have hnext : s.uidCounter = count (step env) (Enters env) (start spawns) as + 1 :=
      hknown.issued.next.trans (Nat.mod_eq_of_lt (by omega))
    omega
  · intro as bs cs s t u hpre hs ht hu uid accId hacc hgone
    have hst : exec (step env) (start spawns) (as ++ bs) = some t :=
      exec_append_some.mpr ⟨s, hs, ht⟩
    have hcount := (count_prefix_le (C := Enters env) (s := start spawns) hpre).trans_lt hN
    rw [count_append cs hst] at hcount
    have hkt := exec_uidsKnown hst (by omega)
    rw [count_append bs hs] at hcount hkt
    have hks := exec_uidsKnown hs (by omega)
    have huid := hks.issued.issued uid accId hacc
    rw [Option.eq_none_iff_forall_ne_some]
    intro b hb
    have htb : t.uidToAccount uid = some b :=
      exec_inherits hkt hu hcount uid b (huid.trans (Nat.le_add_right _ _)) hb
    have hsb : s.uidToAccount uid = some b :=
      exec_inherits hks ht (by omega) uid b huid htb
    exact hgone (htb.trans (hsb.symm.trans hacc))

/-! ### The wrap of the counter -/

/-- A move request of "a". -/
def enterA : Label ℚ Nat :=
  .packet 0 PacketId.gatewayGameMoveReq [10, 1, 97, 21, 0, 0, 32, 65] .listed

def leaveA : Label ℚ Nat := .packet 0 PacketId.gatewayGameLeaveReq [10, 1, 97] .listed

theorem uids_exact_twoEntries :
    Always (step .sample) UidsExact (start [] : GameContext ℚ Nat) [enterA, leaveA, enterA] ∧
    (∀ as s, as <+: [enterA, leaveA, enterA] →
      exec (step .sample) (start [] : GameContext ℚ Nat) as = some s →
      count (step .sample) (Enters .sample) (start []) as ≠ 2 ^ 64 - 1 → s.UidsBelowCounter) ∧
    ∀ as bs cs s t u, as ++ bs ++ cs <+: [enterA, leaveA, enterA] →
      exec (step .sample) (start [] : GameContext ℚ Nat) as = some s →
      exec (step .sample) s bs = some t → exec (step .sample) t cs = some u →
      ∀ uid accId, s.uidToAccount uid = some accId → t.uidToAccount uid ≠ some accId →
        u.uidToAccount uid = none :=
  uids_exact .sample [] _ (by decide +kernel)

theorem enterA_step {s : GameContext ℚ Nat} (hs : s.playerMap "a" = none) :
    Enters .sample s enterA ∧ ∃ s', step .sample s enterA = some s' ∧
      s'.uidCounter = (s.uidCounter + 1) % 2 ^ 64 ∧
      ∃ p, s'.playerMap "a" = some p ∧ p.uid = s.uidCounter := by
  refine ⟨hs, _, rfl, ?_⟩
  simp [dispatch, handleGatewayGameMoveReq, GameEnv.sample, hs, movePlayer, enterPlayer,
    setPlayer, send]

theorem leaveA_step {s : GameContext ℚ Nat} {p : PlayerInfo ℚ} (hs : s.playerMap "a" = some p) :
    ¬ Enters .sample s leaveA ∧ ∃ s', step .sample s leaveA = some s' ∧
      s'.uidCounter = s.uidCounter ∧ s'.playerMap "a" = none := by
  refine ⟨id, _, rfl, ?_⟩
  simp [dispatch, handleGatewayGameLeaveReq, GameEnv.sample, hs, removePlayer,
    PacketId.gatewayGameMoveReq, PacketId.gatewayGameLeaveReq]

/-- The account enters and leaves `n` times. -/
def visits (n : Nat) : List (Label ℚ Nat) := (List.replicate n [enterA, leaveA]).flatten

theorem exec_visits {s : GameContext ℚ Nat} (hs : s.playerMap "a" = none) (n : Nat) :
    count (step .sample) (Enters .sample) s (visits n) = n ∧
      ∃ s', exec (step .sample) s (visits n) = some s' ∧ s'.playerMap "a" = none ∧
        s'.uidCounter % 2 ^ 64 = (s.uidCounter + n) % 2 ^ 64 := by
  induction n generalizing s with
  | zero => exact ⟨rfl, s, rfl, hs, rfl⟩
  | succ n ih =>
      obtain ⟨henters, s₁, hs₁, hcount₁, p, hp, -⟩ := enterA_step hs
      obtain ⟨hleaves, s₂, hs₂, hcount₂, hnone⟩ := leaveA_step hp
      obtain ⟨hcount, s', hs', hnone', hcounter⟩ := ih hnone
      have hvisits : visits (n + 1) = enterA :: leaveA :: visits n := by
        simp [visits, List.replicate_succ]
      rw [hvisits, count_cons_some _ hs₁, count_cons_some _ hs₂, if_pos henters,
        if_neg hleaves, hcount]
      refine ⟨by omega, s', exec_cons_some.mpr ⟨s₁, hs₁, exec_cons_some.mpr ⟨s₂, hs₂, hs'⟩⟩,
        hnone', ?_⟩
      omega

/-- The last of 2^64 - 1 entries draws the largest uid, and the counter has
    wrapped around to 0. -/
theorem uid_aboveCounter :
    count (step .sample) (Enters .sample) (start [] : GameContext ℚ Nat)
        (visits (2 ^ 64 - 2) ++ [enterA]) < 2 ^ 64 ∧
      ¬ Always (step .sample) UidsBelowCounter (start [] : GameContext ℚ Nat)
        (visits (2 ^ 64 - 2) ++ [enterA]) := by
  obtain ⟨hcount, s, hs, hnone, hcounter⟩ :=
    exec_visits (s := start []) rfl (2 ^ 64 - 2)
  obtain ⟨henters, s', hs', hcounter', p, hp, huid⟩ := enterA_step hnone
  have hstart : (start [] : GameContext ℚ Nat).uidCounter = 1 := rfl
  have hone : count (step .sample) (Enters .sample) s [enterA] = 1 := by
    rw [count_cons_some [] hs', if_pos henters]
    rfl
  refine ⟨?_, fun h => ?_⟩
  · rw [count_append _ hs, hcount, hone]
    omega
  · have hend : exec (step .sample) (start [] : GameContext ℚ Nat)
        (visits (2 ^ 64 - 2) ++ [enterA]) = some s' :=
      exec_append_some.mpr ⟨s, hs, exec_cons_some.mpr ⟨s', hs', rfl⟩⟩
    have hbelow := always_iff_exec.mp h _ (List.prefix_refl _) s' hend "a" p hp
    rw [hstart] at hcounter
    omega

end GameContext

end MMOServers.GameServer
