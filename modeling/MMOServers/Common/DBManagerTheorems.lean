/-
MMOServers.Common.DBManagerTheorems — one row for each account name.

`account_uid` is the primary key of Accounts; nothing in the schema makes
`account_name` unique, so the table relies on `ProcessLogin` to insert a name
only when no row has it. `ProcessLogin` inserts on the strength of a lookup it
made two calls earlier. The lookup is out of date when `SQLFetch` failed on an
existing row, which falls through to the registration like an empty result, or
when another login has inserted the name since. `stale` marks these calls, and
the mark is exact (`StaleExact`): a call that is past its lookup is stale
exactly when a row of its name is there.

From this, `namesDistinct_iff_noStaleInsert`: the names stay distinct as long
as no stale call gets its insert past the primary key.
-/
import MMOServers.Common.DBManager
import MMOServers.Lib.Run

namespace MMOServers.Common

open Transition

variable {env : LoginEnv}

/-! ## Names -/

/-- No two rows have the same account name. -/
def Database.NamesDistinct (env : LoginEnv) (db : Database) : Prop :=
  db.accounts.Pairwise fun a b => ¬ env.sameName a.accountName b.accountName

instance (db : Database) : Decidable (db.NamesDistinct env) :=
  inferInstanceAs (Decidable (List.Pairwise _ _))

/-- Some row has the account name. -/
def Database.HasName (env : LoginEnv) (db : Database) (name : String) : Prop :=
  ∃ row ∈ db.accounts, env.sameName row.accountName name

namespace Database

theorem accountsLoginGame_ne_nil {db : Database} {name : String} :
    db.accountsLoginGame env name ≠ [] ↔ db.HasName env name := by
  rw [Ne, accountsLoginGame, List.filter_eq_nil_iff]
  simp [HasName]

/-- A row that is inserted had a fresh uid and stands at the end. -/
theorem accountsRegisterGame_some {db db' : Database} {row : Account} :
    db.accountsRegisterGame row = some db' ↔
      ¬ db.HasUid row.accountUid ∧ db' = { db with accounts := db.accounts ++ [row] } := by
  unfold accountsRegisterGame
  split <;> simp_all [eq_comm]

theorem namesDistinct_append {db : Database} {row : Account} :
    NamesDistinct env { db with accounts := db.accounts ++ [row] } ↔
      db.NamesDistinct env ∧ ¬ db.HasName env row.accountName := by
  simp [NamesDistinct, HasName, List.pairwise_append]

end Database

namespace Logins

variable {ι : Type*} {args : ι → LoginArgs}

/-! ## The condition and the invariant -/

def NamesDistinct (env : LoginEnv) (s : Logins ι) : Prop := s.db.NamesDistinct env

instance (s : Logins ι) : Decidable (s.NamesDistinct env) :=
  inferInstanceAs (Decidable (s.db.NamesDistinct env))

/-- The call `i` is about to insert a row, and its uid is not taken. -/
def Inserts (s : Logins ι) (i : ι) : Prop :=
  match s.phase i with
  | .register uid => ¬ s.db.HasUid uid
  | _ => False

instance (s : Logins ι) (i : ι) : Decidable (s.Inserts i) := by
  unfold Inserts
  split <;> infer_instance

/-- The call is no insert of a stale login. -/
def NoStaleInsert (s : Logins ι) : SpCall ι → Prop
  | .register i (.executes _ _ _) => s.Inserts i → s.stale i = false
  | _ => True

instance (s : Logins ι) (call : SpCall ι) : Decidable (s.NoStaleInsert call) := by
  unfold NoStaleInsert
  split <;> infer_instance

/-- A call past its lookup is stale exactly when a row of its name exists. -/
def StaleExact (env : LoginEnv) (args : ι → LoginArgs) (s : Logins ι) : Prop :=
  ∀ j, (s.phase j).pastLookup = true →
    (s.stale j = true ↔ s.db.HasName env (args j).accountName)

theorem start_staleExact (db : Database) : (start db : Logins ι).StaleExact env args := by
  intro j hj
  simp [start, Phase.pastLookup] at hj

/-! ## What one stored procedure call does -/

variable [DecidableEq ι]

/-- A call leaves the rows and the marks alone, or it has looked its name up and
    goes on to register it, or it inserts a row. -/
inductive Effect (env : LoginEnv) (args : ι → LoginArgs) (s : Logins ι) :
    SpCall ι → Logins ι → Prop where
  | keeps {call : SpCall ι} {s' : Logins ι} (i : ι) (p : Phase)
      (accounts : s'.db.accounts = s.db.accounts) (stale : s'.stale = s.stale)
      (phase : s'.phase = Function.update s.phase i p)
      (past : p.pastLookup = true → (s.phase i).pastLookup = true)
      (quiet : s.NoStaleInsert call) : Effect env args s call s'
  | looksUp {s' : Logins ι} (i : ι) (outcome : LookupOutcome)
      (accounts : s'.db.accounts = s.db.accounts)
      (phase : s'.phase = Function.update s.phase i .nextUid)
      (stale : s'.stale = Function.update s.stale i
        (decide (s.db.accountsLoginGame env (args i).accountName ≠ []))) :
      Effect env args s (.lookup i outcome) s'
  | inserts {s' : Logins ι} (i : ι) (salt : String) (cryptoOk answered : Bool) (p : Phase)
      (row : Account) (name : row.accountName = (args i).accountName)
      (before : (s.phase i).pastLookup = true) (past : p.pastLookup = false)
      (fresh : s.Inserts i) (accounts : s'.db.accounts = s.db.accounts ++ [row])
      (phase : s'.phase = Function.update s.phase i p)
      (stale : s'.stale = fun j => s.stale j || (s.phase j).pastLookup &&
        decide (env.sameName (args i).accountName (args j).accountName)) :
      Effect env args s (.register i (.executes salt cryptoOk answered)) s'

theorem verify_past (pw : String) (row : Account) (read : ColumnsRead) (cryptoOk : Bool) :
    (verify env pw row read cryptoOk).pastLookup = false := by
  unfold verify
  dsimp only
  repeat' split
  all_goals rfl

theorem lookup_effect {s s' : Logins ι} {i : ι} {outcome : LookupOutcome}
    (h : s.lookup env args i outcome = some s') :
    Effect env args s (.lookup i outcome) s' := by
  have ends : ∀ p : Phase, p.pastLookup = false →
      Effect env args s (.lookup i outcome) (s.setPhase i p) := by
    intro p hp
    exact .keeps i p rfl rfl rfl (by simp [hp]) trivial
  unfold lookup at h
  dsimp only at h
  split at h
  · split at h
    · cases h
      exact ends _ rfl
    · split at h
      · cases h
        exact ends _ rfl
      · cases h
        exact ends _ rfl
      · cases h
        exact .looksUp i _ rfl rfl rfl
      · split at h
        · rename_i hrows
          cases h
          exact .looksUp i _ rfl rfl (by simp [hrows])
        · split at h
          · cases h
          · cases h
            exact ends _ (verify_past _ _ _ _)
  · cases h

theorem nextUid_effect {s s' : Logins ι} {i : ι} {outcome : NextUidOutcome}
    (h : s.nextUid i outcome = some s') : Effect env args s (.nextUid i outcome) s' := by
  unfold nextUid at h
  split at h
  · rename_i hphase
    have past : (s.phase i).pastLookup = true := by rw [hphase]; rfl
    dsimp only at h
    cases outcome with
    | allocFails =>
        cases h
        exact .keeps i (.finished .dbError 0) rfl rfl rfl (fun _ => past) trivial
    | executeFails advanced =>
        cases h
        refine .keeps i (.finished .dbError 0) ?_ rfl rfl (fun _ => past) trivial
        cases advanced <;> rfl
    | fetchFails =>
        cases h
        exact .keeps i (.register 1) rfl rfl rfl (fun _ => past) trivial
    | fetches read =>
        cases h
        exact .keeps i (.register _) rfl rfl rfl (fun _ => past) trivial
  · cases h

theorem register_effect {s s' : Logins ι} {i : ι} {outcome : RegisterOutcome}
    (h : s.register env args i outcome = some s') :
    Effect env args s (.register i outcome) s' := by
  unfold register at h
  split at h
  · rename_i uid hphase
    have past : (s.phase i).pastLookup = true := by rw [hphase]; rfl
    cases outcome with
    | allocFails =>
        cases h
        exact .keeps i (.finished .dbError 0) rfl rfl rfl (fun _ => past) trivial
    | executeFails =>
        cases h
        exact .keeps i (.finished .dbError 0) rfl rfl rfl (fun _ => past) trivial
    | executes salt cryptoOk answered =>
        dsimp only at h
        split at h
        · rename_i hrefused
          cases h
          refine .keeps i (.finished .dbError 0) rfl rfl rfl (fun _ => past) ?_
          intro hins
          simp only [Inserts, hphase] at hins
          simp [Database.accountsRegisterGame, newRow, hins] at hrefused
        · rename_i db hdb
          obtain ⟨hfresh, rfl⟩ := Database.accountsRegisterGame_some.mp hdb
          cases h
          refine .inserts i salt cryptoOk answered _ _ rfl past ?_ ?_ rfl rfl rfl
          · cases answered <;> rfl
          · simp only [Inserts, hphase]
            exact hfresh
  · cases h

theorem step_effect {s s' : Logins ι} {call : SpCall ι} (h : step env args s call = some s') :
    Effect env args s call s' := by
  cases call with
  | lookup i outcome => exact lookup_effect h
  | nextUid i outcome => exact nextUid_effect h
  | register i outcome => exact register_effect h

/-! ## The mark is exact -/

theorem step_staleExact {s s' : Logins ι} {call : SpCall ι} (hs : s.StaleExact env args)
    (h : step env args s call = some s') : s'.StaleExact env args := by
  intro j hj
  cases step_effect h with
  | keeps i p accounts stale phase past quiet =>
      rw [phase] at hj
      have hjs : (s.phase j).pastLookup = true := by
        by_cases hji : j = i
        · subst hji
          rw [Function.update_self] at hj
          exact past hj
        · rwa [Function.update_of_ne hji] at hj
      rw [stale, Database.HasName, accounts]
      exact hs j hjs
  | looksUp i outcome accounts phase stale =>
      rw [stale, Database.HasName, accounts]
      by_cases hji : j = i
      · subst hji
        rw [Function.update_self, decide_eq_true_iff]
        exact Database.accountsLoginGame_ne_nil
      · rw [phase, Function.update_of_ne hji] at hj
        rw [Function.update_of_ne hji]
        exact hs j hj
  | inserts i salt cryptoOk answered p row name before past fresh accounts phase stale =>
      have hji : j ≠ i := by
        rintro rfl
        rw [phase, Function.update_self, past] at hj
        cases hj
      rw [phase, Function.update_of_ne hji] at hj
      rw [stale, Database.HasName, accounts]
      simp only [hj, Bool.true_and, Bool.or_eq_true, decide_eq_true_eq]
      rw [hs j hj, ← name]
      simp [Database.HasName, or_and_right, exists_or]

/-! ## Accepted logins -/

/-- A login that was accepted has a row of its name. -/
def Backed (env : LoginEnv) (args : ι → LoginArgs) (s : Logins ι) : Prop :=
  ∀ j, (s.phase j).accepted = true → s.db.HasName env (args j).accountName

theorem step_hasName {s s' : Logins ι} {call : SpCall ι} (h : step env args s call = some s')
    {name : String} (hname : s.db.HasName env name) : s'.db.HasName env name := by
  obtain ⟨row, hrow, hsame⟩ := hname
  cases step_effect h with
  | keeps i p accounts stale phase past quiet => exact ⟨row, by rwa [accounts], hsame⟩
  | looksUp i outcome accounts phase stale => exact ⟨row, by rwa [accounts], hsame⟩
  | inserts i salt cryptoOk answered p new name before past fresh accounts phase stale =>
      refine ⟨row, ?_, hsame⟩
      rw [accounts]
      exact List.mem_append_left _ hrow

/-- A call changes the phase of its login, and accepts the login only on a row of its
    name. -/
structure Accepts (env : LoginEnv) (args : ι → LoginArgs) (s : Logins ι) (i : ι) (p : Phase)
    (s' : Logins ι) : Prop where
  phase : s'.phase = Function.update s.phase i p
  row : p.accepted = true → s'.db.HasName env (args i).accountName

theorem Accepts.refuses {s s' : Logins ι} {i : ι} {p : Phase}
    (phase : s'.phase = Function.update s.phase i p) (refused : p.accepted = false) :
    ∃ p, Accepts env args s i p s' := by
  refine ⟨p, phase, ?_⟩
  intro haccepted
  rw [refused] at haccepted
  cases haccepted

theorem lookup_accepts {s s' : Logins ι} {i : ι} {outcome : LookupOutcome}
    (h : s.lookup env args i outcome = some s') : ∃ p, Accepts env args s i p s' := by
  unfold lookup at h
  dsimp only at h
  split at h
  · split at h
    · cases h
      exact Accepts.refuses rfl rfl
    · split at h
      · cases h
        exact Accepts.refuses rfl rfl
      · cases h
        exact Accepts.refuses rfl rfl
      · cases h
        exact Accepts.refuses rfl rfl
      · split at h
        · cases h
          exact Accepts.refuses rfl rfl
        · split at h
          · cases h
          · rename_i row hrow
            cases h
            refine ⟨_, rfl, ?_⟩
            intro _
            have hmem := List.mem_of_getElem? hrow
            rw [Database.accountsLoginGame, List.mem_filter, decide_eq_true_iff] at hmem
            exact ⟨row, hmem⟩
  · cases h

theorem nextUid_accepts {s s' : Logins ι} {i : ι} {outcome : NextUidOutcome}
    (h : s.nextUid i outcome = some s') : ∃ p, Accepts env args s i p s' := by
  unfold nextUid at h
  split at h
  · dsimp only at h
    cases outcome with
    | allocFails =>
        cases h
        exact Accepts.refuses rfl rfl
    | executeFails advanced =>
        cases h
        exact Accepts.refuses rfl rfl
    | fetchFails =>
        cases h
        exact Accepts.refuses rfl rfl
    | fetches read =>
        cases h
        exact Accepts.refuses rfl rfl
  · cases h

theorem register_accepts {s s' : Logins ι} {i : ι} {outcome : RegisterOutcome}
    (h : s.register env args i outcome = some s') : ∃ p, Accepts env args s i p s' := by
  unfold register at h
  split at h
  · cases outcome with
    | allocFails =>
        cases h
        exact Accepts.refuses rfl rfl
    | executeFails =>
        cases h
        exact Accepts.refuses rfl rfl
    | executes salt cryptoOk answered =>
        dsimp only at h
        split at h
        · cases h
          exact Accepts.refuses rfl rfl
        · rename_i db hdb
          obtain ⟨-, rfl⟩ := Database.accountsRegisterGame_some.mp hdb
          cases h
          refine ⟨_, rfl, ?_⟩
          intro _
          exact ⟨newRow env (args i) _ salt cryptoOk,
            List.mem_append_right _ List.mem_cons_self, rfl⟩
  · cases h

theorem step_accepts {s s' : Logins ι} {call : SpCall ι} (h : step env args s call = some s') :
    ∃ p, Accepts env args s call.login p s' := by
  cases call with
  | lookup i outcome => exact lookup_accepts h
  | nextUid i outcome => exact nextUid_accepts h
  | register i outcome => exact register_accepts h

theorem step_backed {s s' : Logins ι} {call : SpCall ι} (hs : s.Backed env args)
    (h : step env args s call = some s') : s'.Backed env args := by
  intro j hj
  obtain ⟨p, hp⟩ := step_accepts h
  rw [hp.phase] at hj
  by_cases hji : j = call.login
  · subst hji
    rw [Function.update_self] at hj
    exact hp.row hj
  · rw [Function.update_of_ne hji] at hj
    exact step_hasName h (hs j hj)

/-! ## Names and runs -/

/-- A call keeps the names distinct exactly when it is no insert of a stale
    login. -/
theorem step_namesDistinct_iff {s s' : Logins ι} {call : SpCall ι}
    (hs : s.StaleExact env args) (hd : s.NamesDistinct env)
    (h : step env args s call = some s') : s'.NamesDistinct env ↔ s.NoStaleInsert call := by
  cases step_effect h with
  | keeps i p accounts stale phase past quiet =>
      rw [NamesDistinct, Database.NamesDistinct, accounts]
      exact ⟨fun _ => quiet, fun _ => hd⟩
  | looksUp i outcome accounts phase stale =>
      rw [NamesDistinct, Database.NamesDistinct, accounts]
      exact ⟨fun _ => trivial, fun _ => hd⟩
  | inserts i salt cryptoOk answered p row name before past fresh accounts phase stale =>
      have hd' : s'.NamesDistinct env ↔ ¬ s.db.HasName env (args i).accountName := by
        have happend : Database.NamesDistinct env { s.db with accounts := s.db.accounts ++ [row] }
            ↔ s.db.NamesDistinct env ∧ ¬ s.db.HasName env row.accountName :=
          Database.namesDistinct_append
        rw [NamesDistinct, Database.NamesDistinct, accounts, ← name]
        exact happend.trans (and_iff_right hd)
      rw [hd', ← hs i before, Bool.not_eq_true]
      exact ⟨fun hfalse _ => hfalse, fun hquiet => hquiet fresh⟩

/-- The account names of a run stay distinct exactly as long as no stale login
    inserts. -/
theorem namesDistinct_iff_noStaleInsert (env : LoginEnv) (args : ι → LoginArgs)
    (db : Database) (calls : List (SpCall ι)) (hdb : db.NamesDistinct env) :
    Always (step env args) (NamesDistinct env) (start db) calls
      ↔ Meets (step env args) NoStaleInsert (start db) calls :=
  always_iff_meets _ (fun hs _ _ h => step_staleExact hs h)
    (fun hs hd h => step_namesDistinct_iff hs hd h) (start_staleExact db) hdb

/-! ### Two first logins at once -/

/-- SQL comparison of plain names, and a digest that shows its input. -/
def plainEnv : LoginEnv := ⟨id, id⟩

/-- Every call logs in as `bot` with the same password. -/
def botArgs (_ : Nat) : LoginArgs := ⟨"bot", "pw", 0⟩

def allRead : ColumnsRead := ⟨true, true, true⟩

theorem namesDistinct_oneAfterOther :
    Always (step plainEnv botArgs) (NamesDistinct plainEnv) (start {})
      [.lookup 0 (.fetches 0 allRead true), .nextUid 0 (.fetches true),
        .register 0 (.executes "salt" true true), .lookup 1 (.fetches 0 allRead true)] :=
  (namesDistinct_iff_noStaleInsert plainEnv botArgs {} _ (by decide)).mpr (by decide)

/-- Two first logins under one name that both look it up before either inserts,
    and one login whose `SQLFetch` fails on the row of its account. -/
theorem twoRows_oneName :
    ¬ Always (step plainEnv botArgs) (NamesDistinct plainEnv) (start {})
      [.lookup 0 (.fetches 0 allRead true), .lookup 1 (.fetches 0 allRead true),
        .nextUid 0 (.fetches true), .nextUid 1 (.fetches true),
        .register 0 (.executes "salt" true true), .register 1 (.executes "pepper" true true)] ∧
    ¬ Always (step plainEnv botArgs) (NamesDistinct plainEnv)
      (start { accounts := [⟨1, "bot", "pwsalt", "salt", 0⟩], seqAccountUid := 2 })
      [.lookup 0 .fetchFails, .nextUid 0 (.fetches true),
        .register 0 (.executes "pepper" true true)] := by
  decide

end Logins

end MMOServers.Common
