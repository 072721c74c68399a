/-
MMOServers.Common.PasswordTheorems — a login needs the password of its account.

`HashPasswordSHA256` reports a failure of the CryptoAPI as an empty string, and
neither of its two callers looks at it. A registration during a failure stores
the empty hash, and a verification during a failure compares the stored hash
with the empty one. Either alone only locks the account out. Together they let
any password in.

`Registry` keeps beside the logins the password each row was registered with.
`Sha256` is what the digest is taken to be: never empty, and injective in the
password for a fixed salt. On runs whose database calls succeed every SUCCESS
gave the registered password exactly when no failed hash is compared with an
empty stored one (`ownPassword_iff_noEmptyMatch`).
-/
import MMOServers.Common.DBManager
import MMOServers.Lib.Run

namespace MMOServers.Common

open Transition

variable {env : LoginEnv}

/-- A digest that is never empty and that tells passwords with one salt apart. -/
structure LoginEnv.Sha256 (env : LoginEnv) : Prop where
  nonempty : ∀ data, env.sha256 data ≠ ""
  injective : ∀ salt, Function.Injective fun pw => env.sha256 (pw ++ salt)

/-- The call reaches the database, and every column it asks for is read. -/
def SpCall.DatabaseSucceeds {ι : Type*} : SpCall ι → Prop
  | .lookup _ (.fetches _ read _) => read = ⟨true, true, true⟩
  | .nextUid _ (.fetches read) => read = true
  | .register _ (.executes _ _ answered) => answered = true
  | _ => False

namespace Logins

variable {ι : Type*} [DecidableEq ι]

/-! ## The passwords of the rows -/

/-- The uid of the row that the call inserts. -/
def insertedUid (s : Logins ι) : SpCall ι → Option Int
  | .register i (.executes _ _ _) =>
      match s.phase i with
      | .register uid => if s.db.HasUid uid then none else some uid
      | _ => none
  | _ => none

/-- The row whose hash the call compares. -/
def verifiedRow (env : LoginEnv) (args : ι → LoginArgs) (s : Logins ι) (i : ι) (pick : Nat) :
    Option Account :=
  if s.phase i = .lookup ∧ (args i).wellSized then
    (s.db.accountsLoginGame env (args i).accountName)[pick]?
  else none

/-- The logins, and the password that each row was registered with. -/
structure Registry (ι : Type*) where
  logins : Logins ι
  password : Int → Option String

namespace Registry

/-- No row was registered yet; the sequence may stand anywhere. -/
def start (seqAccountUid : Int) : Registry ι :=
  ⟨Logins.start { seqAccountUid := seqAccountUid }, fun _ => none⟩

def step (env : LoginEnv) (args : ι → LoginArgs) (s : Registry ι) (call : SpCall ι) :
    Option (Registry ι) :=
  (s.logins.step env args call).map fun t =>
    ⟨t, match s.logins.insertedUid call with
      | none => s.password
      | some uid => Function.update s.password uid (some (args call.login).pw)⟩

/-- A login that is back with SUCCESS gave the password of its account. -/
def OwnPassword (args : ι → LoginArgs) (s : Registry ι) : Prop :=
  ∀ i uid, s.logins.phase i = .finished .success uid → s.password uid = some (args i).pw

/-- A hash that failed is compared with an empty stored hash only when the
    password is the right one anyway. -/
def NoEmptyMatch (env : LoginEnv) (args : ι → LoginArgs) (s : Registry ι) : SpCall ι → Prop
  | .lookup i (.fetches pick _ cryptoOk) =>
      ∀ row ∈ s.logins.verifiedRow env args i pick, cryptoOk = false → row.passwordHash = "" →
        s.password row.accountUid = some (args i).pw
  | _ => True

instance (args : ι → LoginArgs) (s : Registry ι) :
    (call : SpCall ι) → Decidable (s.NoEmptyMatch env args call)
  | .lookup i (.fetches pick _ cryptoOk) =>
      inferInstanceAs (Decidable (∀ row ∈ s.logins.verifiedRow env args i pick,
        cryptoOk = false → row.passwordHash = "" →
          s.password row.accountUid = some (args i).pw))
  | .lookup _ .allocFails | .lookup _ .executeFails | .lookup _ .fetchFails => .isTrue trivial
  | .nextUid _ _ | .register _ _ => .isTrue trivial

/-- The stored hash is that of the row's password, or the mark of a failure. -/
def Hashed (env : LoginEnv) (s : Registry ι) (row : Account) : Prop :=
  ∃ pw, s.password row.accountUid = some pw ∧
    (row.passwordHash = env.sha256 (pw ++ row.salt) ∨ row.passwordHash = "")

/-- Every row was hashed at its registration, and only rows have passwords. -/
structure Kept (env : LoginEnv) (s : Registry ι) : Prop where
  rows : ∀ row ∈ s.logins.db.accounts, s.Hashed env row
  registered : ∀ uid, s.password uid ≠ none → s.logins.db.HasUid uid

omit [DecidableEq ι] in
theorem start_kept (seqAccountUid : Int) : (start seqAccountUid : Registry ι).Kept env :=
  ⟨fun _ h => absurd h List.not_mem_nil, fun _ h => absurd rfl h⟩

omit [DecidableEq ι] in
theorem start_ownPassword (args : ι → LoginArgs) (seqAccountUid : Int) :
    (start seqAccountUid : Registry ι).OwnPassword args := by
  intro i uid h
  cases h

/-! ## What a call does -/

/-- A call gives its login a new phase that is no success, or verifies a fetched
    row, or inserts the row of its login. -/
inductive Effect (env : LoginEnv) (args : ι → LoginArgs) (s : Registry ι) :
    SpCall ι → Registry ι → Prop where
  | moves {call : SpCall ι} {s' : Registry ι} (i : ι) (p : Phase)
      (refused : ∀ uid, p ≠ .finished .success uid)
      (accounts : s'.logins.db.accounts = s.logins.db.accounts)
      (phase : s'.logins.phase = Function.update s.logins.phase i p)
      (password : s'.password = s.password) (quiet : s.NoEmptyMatch env args call) :
      Effect env args s call s'
  | verifies {s' : Registry ι} (i : ι) (pick : Nat) (cryptoOk : Bool) (row : Account)
      (fetched : s.logins.verifiedRow env args i pick = some row)
      (accounts : s'.logins.db.accounts = s.logins.db.accounts)
      (phase : s'.logins.phase = Function.update s.logins.phase i
        (verify env (args i).pw row ⟨true, true, true⟩ cryptoOk))
      (password : s'.password = s.password) :
      Effect env args s (.lookup i (.fetches pick ⟨true, true, true⟩ cryptoOk)) s'
  | inserts {s' : Registry ι} (i : ι) (salt : String) (cryptoOk answered : Bool) (uid : Int)
      (p : Phase) (refused : ∀ uid, p ≠ .finished .success uid)
      (fresh : ¬ s.logins.db.HasUid uid)
      (accounts : s'.logins.db.accounts =
        s.logins.db.accounts ++ [newRow env (args i) uid salt cryptoOk])
      (phase : s'.logins.phase = Function.update s.logins.phase i p)
      (password : s'.password = Function.update s.password uid (some (args i).pw)) :
      Effect env args s (.register i (.executes salt cryptoOk answered)) s'

theorem lookup_effect {args : ι → LoginArgs} {s : Registry ι} {t : Logins ι} {i : ι}
    {pick : Nat} {cryptoOk : Bool}
    (h : s.logins.lookup env args i (.fetches pick ⟨true, true, true⟩ cryptoOk) = some t) :
    Effect env args s (.lookup i (.fetches pick ⟨true, true, true⟩ cryptoOk)) ⟨t, s.password⟩ := by
  -- without a fetched row there is nothing to compare
  have quiet : s.logins.verifiedRow env args i pick = none →
      s.NoEmptyMatch env args (.lookup i (.fetches pick ⟨true, true, true⟩ cryptoOk)) := by
    intro hnone row hrow
    rw [hnone] at hrow
    cases hrow
  unfold lookup at h
  dsimp only at h
  split at h
  · rename_i hphase
    split at h
    · rename_i hsize
      cases h
      refine .moves i (.finished .dbError 0) (fun uid h => by cases h) rfl rfl rfl (quiet ?_)
      simp only [Bool.not_eq_eq_eq_not, Bool.not_true] at hsize
      simp [verifiedRow, hsize]
    · rename_i hsize
      simp only [Bool.not_eq_eq_eq_not, Bool.not_true, Bool.not_eq_false] at hsize
      split at h
      · rename_i hrows
        cases h
        refine .moves i .nextUid (fun uid h => by cases h) rfl rfl rfl (quiet ?_)
        simp [verifiedRow, hrows]
      · split at h
        · cases h
        · rename_i row hrow
          cases h
          exact .verifies i pick cryptoOk row (by simp [verifiedRow, hphase, hsize, hrow]) rfl rfl
            rfl
  · cases h

theorem nextUid_effect {args : ι → LoginArgs} {s : Registry ι} {t : Logins ι} {i : ι}
    (h : s.logins.nextUid i (.fetches true) = some t) :
    Effect env args s (.nextUid i (.fetches true)) ⟨t, s.password⟩ := by
  unfold nextUid at h
  split at h
  · cases h
    exact .moves i (.register _) (fun uid h => by cases h) rfl rfl rfl trivial
  · cases h

theorem register_effect {args : ι → LoginArgs} {s s' : Registry ι} {i : ι} {salt : String}
    {cryptoOk answered : Bool}
    (h : s.step env args (.register i (.executes salt cryptoOk answered)) = some s') :
    Effect env args s (.register i (.executes salt cryptoOk answered)) s' := by
  obtain ⟨t, ht, rfl⟩ := Option.map_eq_some_iff.mp h
  simp only [Logins.step, register] at ht
  split at ht
  · rename_i uid hphase
    by_cases huid : s.logins.db.HasUid uid
    · rw [Database.accountsRegisterGame, if_pos (by exact huid)] at ht
      cases ht
      refine .moves i (.finished .dbError 0) (fun uid h => by cases h) rfl rfl ?_ trivial
      simp [insertedUid, hphase, huid]
    · rw [Database.accountsRegisterGame, if_neg (by exact huid)] at ht
      cases ht
      refine .inserts i salt cryptoOk answered uid
        (if answered then .finished .newRegistered uid else .finished .dbError 0)
        (fun uid h => by cases answered <;> cases h) huid rfl rfl ?_
      simp [insertedUid, hphase, huid, SpCall.login]
  · cases ht

theorem step_effect {args : ι → LoginArgs} {s s' : Registry ι} {call : SpCall ι}
    (hcall : call.DatabaseSucceeds) (h : s.step env args call = some s') :
    Effect env args s call s' := by
  cases call with
  | lookup i outcome =>
      obtain ⟨t, ht, rfl⟩ := Option.map_eq_some_iff.mp h
      cases outcome with
      | fetches pick read cryptoOk =>
          obtain rfl : read = ⟨true, true, true⟩ := hcall
          exact lookup_effect ht
      | allocFails => exact hcall.elim
      | executeFails => exact hcall.elim
      | fetchFails => exact hcall.elim
  | nextUid i outcome =>
      obtain ⟨t, ht, rfl⟩ := Option.map_eq_some_iff.mp h
      cases outcome with
      | fetches read =>
          obtain rfl : read = true := hcall
          exact nextUid_effect ht
      | allocFails => exact hcall.elim
      | executeFails advanced => exact hcall.elim
      | fetchFails => exact hcall.elim
  | register i outcome =>
      cases outcome with
      | executes salt cryptoOk answered => exact register_effect h
      | allocFails => exact hcall.elim
      | executeFails => exact hcall.elim

/-! ## The passwords stay with the rows -/

omit [DecidableEq ι] in
/-- The passwords stay with the rows when neither changes. -/
theorem Kept.of_tables {s s' : Registry ι} (hs : s.Kept env)
    (accounts : s'.logins.db.accounts = s.logins.db.accounts)
    (password : s'.password = s.password) : s'.Kept env := by
  refine ⟨fun row hrow => ?_, fun uid huid => ?_⟩
  · rw [accounts] at hrow
    rw [Hashed, password]
    exact hs.rows row hrow
  · rw [password] at huid
    rw [Database.HasUid, accounts]
    exact hs.registered uid huid

theorem step_kept {args : ι → LoginArgs} {s s' : Registry ι} {call : SpCall ι}
    (hs : s.Kept env) (hcall : call.DatabaseSucceeds) (h : s.step env args call = some s') :
    s'.Kept env := by
  cases step_effect hcall h with
  | moves i p refused accounts phase password quiet => exact hs.of_tables accounts password
  | verifies i pick cryptoOk row fetched accounts phase password =>
      exact hs.of_tables accounts password
  | inserts i salt cryptoOk answered uid p refused fresh accounts phase password =>
      refine ⟨fun row hrow => ?_, fun uid' huid => ?_⟩
      · rw [accounts, List.mem_append, List.mem_singleton] at hrow
        rw [Hashed, password]
        rcases hrow with hold | rfl
        · have hne : row.accountUid ≠ uid := fun heq => fresh ⟨row, hold, heq⟩
          rw [Function.update_of_ne hne]
          exact hs.rows row hold
        · refine ⟨(args i).pw, Function.update_self .., ?_⟩
          cases cryptoOk with
          | true => exact Or.inl rfl
          | false => exact Or.inr rfl
      · rw [Database.HasUid, accounts]
        by_cases heq : uid' = uid
        · subst heq
          exact ⟨_, List.mem_append_right _ List.mem_cons_self, rfl⟩
        · rw [password, Function.update_of_ne heq] at huid
          obtain ⟨row, hrow, hrowuid⟩ := hs.registered uid' huid
          exact ⟨row, List.mem_append_left _ hrow, hrowuid⟩

/-! ## The comparison -/

omit [DecidableEq ι] in
/-- What a verification of a row with all its columns answers. -/
theorem verify_success_iff {pw : String} {row : Account} {cryptoOk : Bool} {uid : Int} :
    verify env pw row ⟨true, true, true⟩ cryptoOk = .finished .success uid
      ↔ row.passwordHash = env.hashPasswordSHA256 cryptoOk pw row.salt ∧
        row.accountUid = uid := by
  unfold verify
  simp only [if_true]
  split <;> simp_all

omit [DecidableEq ι] in
/-- A verification lets only the row's password in exactly when it is no
    comparison of two failed hashes. -/
theorem verify_own_iff (hsha : env.Sha256) {s : Registry ι} {row : Account}
    (hrow : s.Hashed env row) (pw : String) (cryptoOk : Bool) :
    (∀ uid, verify env pw row ⟨true, true, true⟩ cryptoOk = .finished .success uid →
        s.password uid = some pw)
      ↔ (cryptoOk = false → row.passwordHash = "" → s.password row.accountUid = some pw) := by
  have hall : (∀ uid, verify env pw row ⟨true, true, true⟩ cryptoOk = .finished .success uid →
        s.password uid = some pw)
      ↔ (row.passwordHash = env.hashPasswordSHA256 cryptoOk pw row.salt →
        s.password row.accountUid = some pw) := by
    simp only [verify_success_iff, and_imp]
    exact ⟨fun h hmatch => h _ hmatch rfl, fun h uid hmatch huid => huid ▸ h hmatch⟩
  rw [hall]
  obtain ⟨registered, hpassword, hhash⟩ := hrow
  cases cryptoOk with
  | false => simp [LoginEnv.hashPasswordSHA256]
  | true =>
      simp only [LoginEnv.hashPasswordSHA256, if_true, Bool.true_eq_false, false_imp_iff,
        iff_true]
      intro hmatch
      rcases hhash with hhash | hempty
      · have hsame : registered = pw := hsha.injective row.salt (hhash.symm.trans hmatch)
        rw [hpassword, hsame]
      · exact absurd (hmatch.symm.trans hempty) (hsha.nonempty _)

/-- A login whose new phase is no success leaves the others as they were. -/
theorem ownPassword_of_phase {args : ι → LoginArgs} {s s' : Registry ι}
    (hs : s.OwnPassword args) {i : ι} {p : Phase}
    (phase : s'.logins.phase = Function.update s.logins.phase i p)
    (password : ∀ uid pw, s.password uid = some pw → s'.password uid = some pw)
    (refused : ∀ uid, p ≠ .finished .success uid) : s'.OwnPassword args := by
  intro j uid hj
  rw [phase] at hj
  by_cases hji : j = i
  · subst hji
    rw [Function.update_self] at hj
    exact absurd hj (refused uid)
  · rw [Function.update_of_ne hji] at hj
    exact password uid _ (hs j uid hj)

theorem step_ownPassword_iff (hsha : env.Sha256) {args : ι → LoginArgs} {s s' : Registry ι}
    {call : SpCall ι} (hk : s.Kept env) (hs : s.OwnPassword args)
    (hcall : call.DatabaseSucceeds) (h : s.step env args call = some s') :
    s'.OwnPassword args ↔ s.NoEmptyMatch env args call := by
  cases step_effect hcall h with
  | moves i p refused accounts phase password quiet =>
      refine ⟨fun _ => quiet, fun _ => ?_⟩
      exact ownPassword_of_phase hs phase (fun uid pw hpw => password ▸ hpw) refused
  | verifies i pick cryptoOk row fetched accounts phase password =>
      have hmem : row ∈ s.logins.db.accounts := by
        unfold verifiedRow at fetched
        split at fetched
        · exact List.mem_of_mem_filter (List.mem_of_getElem? fetched)
        · cases fetched
      have hquiet : s.NoEmptyMatch env args (.lookup i (.fetches pick ⟨true, true, true⟩ cryptoOk))
          ↔ (cryptoOk = false → row.passwordHash = "" →
            s.password row.accountUid = some (args i).pw) := by
        simp [NoEmptyMatch, fetched]
      rw [hquiet, ← verify_own_iff hsha (hk.rows row hmem)]
      constructor
      · intro hown uid hverify
        rw [← password]
        refine hown i uid ?_
        rw [phase, Function.update_self, hverify]
      · intro hverify j uid hj
        rw [phase] at hj
        rw [password]
        by_cases hji : j = i
        · subst hji
          rw [Function.update_self] at hj
          exact hverify uid hj
        · rw [Function.update_of_ne hji] at hj
          exact hs j uid hj
  | inserts i salt cryptoOk answered uid p refused fresh accounts phase password =>
      refine ⟨fun _ => trivial, fun _ => ?_⟩
      refine ownPassword_of_phase hs phase (fun uid' pw hpw => ?_) refused
      have hne : uid' ≠ uid := by
        rintro rfl
        exact fresh (hk.registered uid' (by rw [hpw]; exact Option.some_ne_none pw))
      rw [password, Function.update_of_ne hne, hpw]

/-- On the runs whose database calls succeed, every SUCCESS gave the password its
    account was registered with exactly when no failed hash is compared with an
    empty stored one. -/
theorem ownPassword_iff_noEmptyMatch (hsha : env.Sha256) (args : ι → LoginArgs)
    (seqAccountUid : Int) (calls : List (SpCall ι))
    (hcalls : ∀ call ∈ calls, call.DatabaseSucceeds) :
    Always (step env args) (OwnPassword args) (start seqAccountUid) calls
      ↔ Meets (step env args) (NoEmptyMatch env args) (start seqAccountUid) calls := by
  have hmeets : Meets (step env args) (fun _ call => call.DatabaseSucceeds)
      (start seqAccountUid) calls :=
    meets_of_labels (fun _ => True) (fun _ _ _ => trivial) (fun _ hcall _ => hcall) trivial hcalls
  exact always_iff_meets_of_meets (fun hk _ hcall _ h => step_kept hk hcall h)
    (fun hk hs hcall h => step_ownPassword_iff hsha hk hs hcall h) (start_kept seqAccountUid)
    (start_ownPassword args seqAccountUid) hmeets

/-! ### One account and two passwords -/

/-- SQL comparison of plain names, and a digest that shows its input. -/
def shownEnv : LoginEnv := ⟨id, fun data => "h" ++ data⟩

theorem shownEnv_sha256 : shownEnv.Sha256 := by
  refine ⟨fun data h => ?_, fun salt pw pw' h => ?_⟩
  · have hlength := congrArg String.length h
    simp [shownEnv] at hlength
  · have hlist := congrArg String.toList h
    exact String.toList_inj.mp (by simpa [shownEnv] using hlist)

/-- The first call knows the password, the others do not. -/
def guessArgs (i : Nat) : LoginArgs := ⟨"bot", if i = 0 then "secret" else "guess", 0⟩

/-- A login registers the name, and another one logs in under it. -/
def registerThenLogin (registerOk loginOk : Bool) : List (SpCall Nat) :=
  [.lookup 0 (.fetches 0 ⟨true, true, true⟩ true), .nextUid 0 (.fetches true),
    .register 0 (.executes "salt" registerOk true),
    .lookup 1 (.fetches 0 ⟨true, true, true⟩ loginOk)]

/-- A failure on one of the two sides lets nobody in. -/
theorem ownPassword_oneFailure :
    Always (step shownEnv guessArgs) (OwnPassword guessArgs) (start 1)
      (registerThenLogin false true) :=
  (ownPassword_iff_noEmptyMatch shownEnv_sha256 guessArgs 1 (registerThenLogin false true)
    (by simp [registerThenLogin, SpCall.DatabaseSucceeds])).mpr (by decide)

/-- The CryptoAPI fails at the registration and again at the login. -/
theorem wrongPassword_succeeds :
    shownEnv.Sha256 ∧ (∀ call ∈ registerThenLogin false false, call.DatabaseSucceeds) ∧
      ¬ Always (step shownEnv guessArgs) (OwnPassword guessArgs) (start 1)
        (registerThenLogin false false) := by
  refine ⟨shownEnv_sha256, by simp [registerThenLogin, SpCall.DatabaseSucceeds], ?_⟩
  intro h
  have hown := always_iff_exec.mp h _ (List.prefix_refl _) _ rfl 1 1 rfl
  exact absurd hown (by decide)

end Registry

end Logins

end MMOServers.Common
