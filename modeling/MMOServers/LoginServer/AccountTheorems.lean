/-
MMOServers.LoginServer.AccountTheorems — one session for each account.

The duplicate check of `Handle_LoginReq` looks the id up among the ids that are
logged in, as a C++ string. The database gets the id as a C string, and so do
the rows it makes. Ids that agree up to their first NUL are one account for the
database and several for the check.

An id that is logged in has a row of its name (`Rooted`): its login was accepted
on a row that the lookup had found or the registration had made, and rows stay.
So two ids belong to one row exactly when they have one name, and the runs
without that are those in which no login is granted while another id of its name
is logged in (`onePerAccount_iff_newName`). Ids without a NUL are their own
names, and requests with such ids only are safe.
-/
import MMOServers.LoginServer.AccountSystem
import MMOServers.LoginServer.LoginSteps
import MMOServers.Common.DBManagerTheorems
import Mathlib.Data.List.TakeWhile

namespace MMOServers.LoginServer

open MMOServers.Common Transition

/-- An id without a NUL is its own name. -/
theorem nameOf_clean {id : String} (h : '\x00' ∉ id.toList) : nameOf id = id := by
  have hwhole : id.toList.takeWhile (· ≠ '\x00') = id.toList := by
    rw [List.takeWhile_eq_self_iff]
    intro c hc
    rw [decide_eq_true_iff]
    rintro rfl
    exact h hc
  rw [nameOf, LoginArgs.accountName, hwhole, String.ofList_toList]

namespace AccountSystem

variable {ι : Type}

/-! ## The property -/

/-- The row is one that the lookup of the id finds. -/
def Belongs (sha256 : String → String) (s : AccountSystem ι) (id : String) (row : Account) :
    Prop :=
  row ∈ s.logins.db.accountsLoginGame (exactNames sha256) (nameOf id)

/-- No two ids that are logged in belong to one row. -/
def OnePerAccount (sha256 : String → String) (s : AccountSystem ι) : Prop :=
  ∀ k k', s.server.sessionMap k ≠ none → s.server.sessionMap k' ≠ none → k ≠ k' →
    ∀ row, ¬ (s.Belongs sha256 k row ∧ s.Belongs sha256 k' row)

theorem belongs_iff {sha256 : String → String} {s : AccountSystem ι} {id : String}
    {row : Account} :
    s.Belongs sha256 id row ↔ row ∈ s.logins.db.accounts ∧ row.accountName = nameOf id := by
  rw [Belongs, Database.accountsLoginGame, List.mem_filter, decide_eq_true_iff]
  rfl

variable [DecidableEq ι]

/-- A task that ends with a granted login finds no other id of its name logged
    in. -/
def NewName (env : ServerEnv) (s : AccountSystem ι) : Label ι → Prop
  | .finish c => ∀ task result, s.returned c = some (task, result) →
      s.server.grants env task (.processed result) = true →
      ∀ k, s.server.sessionMap k ≠ none → k ≠ task.req.id → nameOf k ≠ nameOf task.req.id
  | _ => True

/-- The posted requests have ids without a NUL. -/
def CleanIds (s : AccountSystem ι) (_ : Label ι) : Prop :=
  ∀ task ∈ s.server.dbTasks, '\x00' ∉ task.req.id.toList

/-! ## Steps -/

/-- What a step can do. -/
inductive Stepped (env : ServerEnv) (sha256 : String → String) (s : AccountSystem ι) :
    Label ι → AccountSystem ι → Prop where
  | server {label : LoginContext.Label ι} {server : LoginContext ι}
      (unended : endsTask label = false) (step : s.server.step env label = some server) :
      Stepped env sha256 s (.server label) { s with server := server }
  | begin {n : Nat} {task : DbTask ι} (posted : s.server.dbTasks[n]? = some task) :
      Stepped env sha256 s (.begin n)
        { s with
            server := { s.server with dbTasks := s.server.dbTasks.eraseIdx n }
            begun := s.begun ++ [task] }
  | call {sp : SpCall Nat} {logins : Logins Nat} (running : sp.login < s.begun.length)
      (step : s.logins.step (exactNames sha256) s.args sp = some logins) :
      Stepped env sha256 s (.call sp) { s with logins := logins }
  | finish {c : Nat} {task : DbTask ι} {result : LoginResult}
      (returned : s.returned c = some (task, result)) :
      Stepped env sha256 s (.finish c)
        { s with
            server := s.server.runDbTask env task (.processed result)
            answered := c :: s.answered }

variable {env : ServerEnv} {sha256 : String → String}

theorem step_inv {s s' : AccountSystem ι} {label : Label ι}
    (h : step env sha256 s label = some s') : Stepped env sha256 s label s' := by
  cases label with
  | server label =>
      simp only [step] at h
      split at h
      · cases h
      · rename_i hopen
        obtain ⟨server, hserver, rfl⟩ := Option.map_eq_some_iff.mp h
        exact .server (Bool.eq_false_iff.mpr hopen) hserver
  | begin n =>
      simp only [step] at h
      split at h
      · cases h
      · rename_i task hposted
        exact Option.some.inj h ▸ .begin hposted
  | call sp =>
      simp only [step] at h
      split at h
      · rename_i hrunning
        obtain ⟨logins, hlogins, rfl⟩ := Option.map_eq_some_iff.mp h
        exact .call hrunning hlogins
      · cases h
  | finish c =>
      simp only [step] at h
      split at h
      · cases h
      · rename_i task result hreturned
        exact Option.some.inj h ▸ .finish hreturned

omit [DecidableEq ι] in
theorem returned_some {s : AccountSystem ι} {c : Nat} {task : DbTask ι} {result : LoginResult}
    (h : s.returned c = some (task, result)) :
    s.begun[c]? = some task ∧ ∃ uid, s.logins.phase c = .finished result uid := by
  unfold returned at h
  split at h
  · rename_i task' result' uid hbegun hphase
    split at h
    · cases h
    · obtain ⟨rfl, rfl⟩ := Prod.mk.inj (Option.some.inj h)
      exact ⟨hbegun, uid, hphase⟩
  · cases h

omit [DecidableEq ι] in
/-- With the database in use a login is granted on its result only. -/
theorem grants_accepted (huse : env.useDB = true) {s : LoginContext ι} {task : DbTask ι}
    {answer : DbAnswer} (h : s.grants env task answer = true) :
    ∃ result, answer = .processed result ∧ (result = .success ∨ result = .newRegistered) := by
  unfold LoginContext.grants at h
  have hauth := (Bool.and_eq_true _ _ ▸ h).1
  cases answer with
  | noConnection =>
      simp [LoginContext.isAuthSuccess, huse] at hauth
  | processed result =>
      refine ⟨result, rfl, ?_⟩
      simp only [LoginContext.isAuthSuccess, huse, LoginContext.processLogin] at hauth
      split at hauth
      · simpa using hauth
      · simp at hauth

/-- A login makes one entry, if it is granted. -/
theorem runDbTask_sessionMap (s : LoginContext ι) (task : DbTask ι) (answer : DbAnswer) :
    (s.runDbTask env task answer).sessionMap =
      if s.grants env task answer then
        Function.update s.sessionMap task.req.id (some task.session)
      else s.sessionMap := by
  unfold LoginContext.runDbTask
  dsimp only
  rw [(LoginContext.send_silent _ task.session _ _).sessionMap]
  split <;> rfl

theorem runDbTask_keys {s : LoginContext ι} {task : DbTask ι} {answer : DbAnswer} {k : String}
    (hk : (s.runDbTask env task answer).sessionMap k ≠ none) :
    s.sessionMap k ≠ none ∨ k = task.req.id ∧ s.grants env task answer = true := by
  rw [runDbTask_sessionMap] at hk
  split at hk
  · rename_i hgrants
    by_cases hid : k = task.req.id
    · exact .inr ⟨hid, hgrants⟩
    · rw [Function.update_of_ne hid] at hk
      exact .inl hk
  · exact .inl hk

/-- Other steps of the server make no entry. -/
theorem server_keys (huse : env.useDB = true) {s s' : LoginContext ι}
    {label : LoginContext.Label ι} (hended : endsTask label = false)
    (h : s.step env label = some s') {k : String} (hk : s'.sessionMap k ≠ none) :
    s.sessionMap k ≠ none := by
  cases LoginContext.step_effect h with
  | quiet ungranted hsilent => rwa [hsilent.sessionMap] at hk
  | forwards i req ungranted account hsilent =>
      rw [hsilent.sessionMap] at hk
      exact hk
  | disconnects i s₁ ungranted hsilent =>
      rw [LoginContext.onDisconnected_sessionMap, hsilent.sessionMap] at hk
      split at hk
      · exact hk
      · by_cases hki : k = (s₁.sessions i).loggedInId
        · subst hki
          simp at hk
        · rwa [Function.update_of_ne hki] at hk
  | grants i id granted unused hsilent =>
      cases label with
      | dbTask n answer =>
          simp only [LoginContext.grantOf] at granted
          split at granted
          · cases granted
          · split at granted
            · rename_i task htask hgrants
              obtain ⟨result, rfl, -⟩ := grants_accepted huse hgrants
              cases hended
            · cases granted
      | _ => cases granted

/-! ## The ids that are logged in have rows -/

/-- Every id that is logged in has a row of its name, and so has every login that
    was accepted. Only begun tasks have called the database. -/
structure Rooted (sha256 : String → String) (s : AccountSystem ι) : Prop where
  keys : ∀ k, s.server.sessionMap k ≠ none →
    s.logins.db.HasName (exactNames sha256) (nameOf k)
  backed : s.logins.Backed (exactNames sha256) s.args
  waiting : ∀ c, s.begun.length ≤ c → s.logins.phase c = .lookup

omit [DecidableEq ι] in
theorem start_rooted (db : Database) : (start db : AccountSystem ι).Rooted sha256 where
  keys k hk := absurd rfl hk
  backed c hc := by simp [start, Logins.start, Phase.accepted] at hc
  waiting c _ := rfl

omit [DecidableEq ι] in
/-- The login of a task that begins has not been accepted. -/
theorem begin_backed {s : AccountSystem ι} (hs : s.Rooted sha256) (task : DbTask ι)
    (server : LoginContext ι) :
    s.logins.Backed (exactNames sha256)
      ({ s with server := server, begun := s.begun ++ [task] } : AccountSystem ι).args := by
  intro c hc
  by_cases hbegun : c < s.begun.length
  · have hargs : ({ s with server := server, begun := s.begun ++ [task] } : AccountSystem ι).args c
        = s.args c := by
      simp only [args, List.getElem?_append_left hbegun]
    rw [hargs]
    exact hs.backed c hc
  · rw [hs.waiting c (Nat.not_lt.mp hbegun)] at hc
    cases hc

theorem step_rooted (huse : env.useDB = true) {s s' : AccountSystem ι} {label : Label ι}
    (hs : s.Rooted sha256) (h : step env sha256 s label = some s') : s'.Rooted sha256 := by
  cases step_inv h with
  | server unended hstep =>
      exact ⟨fun k hk => hs.keys k (server_keys huse unended hstep hk), hs.backed, hs.waiting⟩
  | begin posted =>
      refine ⟨hs.keys, begin_backed hs _ _, fun c hc => hs.waiting c ?_⟩
      rw [List.length_append] at hc
      exact Nat.le_trans (Nat.le_add_right _ _) hc
  | @call sp logins running hstep =>
      refine ⟨fun k hk => Logins.step_hasName hstep (hs.keys k hk),
        Logins.step_backed hs.backed hstep, fun c hc => ?_⟩
      obtain ⟨p, hp⟩ := Logins.step_accepts hstep
      show logins.phase c = .lookup
      rw [hp.phase, Function.update_of_ne (Nat.ne_of_gt (Nat.lt_of_lt_of_le running hc))]
      exact hs.waiting c hc
  | @finish c task result returned =>
      refine ⟨fun k hk => ?_, hs.backed, hs.waiting⟩
      rcases runDbTask_keys hk with hk | ⟨rfl, hgrants⟩
      · exact hs.keys k hk
      · -- the granted login has come back with a success
        obtain ⟨htask, uid, hphase⟩ := returned_some returned
        obtain ⟨result', hresult, hsuccess⟩ := grants_accepted huse hgrants
        cases hresult
        have haccepted : (s.logins.phase c).accepted = true := by
          rcases hsuccess with rfl | rfl <;> rw [hphase] <;> rfl
        have hrow := hs.backed c haccepted
        simp only [args, htask] at hrow
        exact hrow

/-! ## Rows and names -/

/-- The ids that are logged in have different names. -/
def NamesApart (s : AccountSystem ι) : Prop :=
  ∀ k k', s.server.sessionMap k ≠ none → s.server.sessionMap k' ≠ none → k ≠ k' →
    nameOf k ≠ nameOf k'

omit [DecidableEq ι] in
theorem onePerAccount_iff {s : AccountSystem ι} (hs : s.Rooted sha256) :
    s.OnePerAccount sha256 ↔ s.NamesApart := by
  constructor
  · intro hone k k' hk hk' hne hname
    obtain ⟨row, hmem, hsame⟩ := hs.keys k hk
    exact hone k k' hk hk' hne row
      ⟨belongs_iff.mpr ⟨hmem, hsame⟩, belongs_iff.mpr ⟨hmem, hname ▸ hsame⟩⟩
  · rintro hapart k k' hk hk' hne row ⟨hrow, hrow'⟩
    exact hapart k k' hk hk' hne
      ((belongs_iff.mp hrow).2.symm.trans (belongs_iff.mp hrow').2)

omit [DecidableEq ι] in
/-- A granted login keeps the names apart exactly when its name is new. -/
theorem update_namesApart_iff {s : AccountSystem ι} (hs : s.NamesApart) {id : String}
    {i : ι} {server : LoginContext ι}
    (hmap : server.sessionMap = Function.update s.server.sessionMap id (some i))
    (answered : List Nat) :
    ({ s with server := server, answered := answered } : AccountSystem ι).NamesApart ↔
      ∀ k, s.server.sessionMap k ≠ none → k ≠ id → nameOf k ≠ nameOf id := by
  have hkey : ∀ k, server.sessionMap k ≠ none ↔ k = id ∨ s.server.sessionMap k ≠ none := by
    intro k
    rw [hmap]
    by_cases hk : k = id
    · simp [hk]
    · simp [hk]
  constructor
  · intro hapart k hk hne
    exact hapart k id ((hkey k).mpr (.inr hk)) ((hkey id).mpr (.inl rfl)) hne
  · intro hnew k k' hk hk' hne
    rcases (hkey k).mp hk with rfl | hk
    · rcases (hkey k').mp hk' with rfl | hk'
      · exact absurd rfl hne
      · exact (hnew k' hk' hne.symm).symm
    · rcases (hkey k').mp hk' with rfl | hk'
      · exact hnew k hk hne
      · exact hs k k' hk hk' hne

theorem step_namesApart_iff (huse : env.useDB = true) {s s' : AccountSystem ι}
    {label : Label ι} (hs : s.NamesApart) (h : step env sha256 s label = some s') :
    s'.NamesApart ↔ NewName env s label := by
  cases step_inv h with
  | server unended hstep =>
      refine iff_of_true ?_ trivial
      intro k k' hk hk' hne
      exact hs k k' (server_keys huse unended hstep hk) (server_keys huse unended hstep hk') hne
  | begin posted => exact iff_of_true hs trivial
  | call running hstep => exact iff_of_true hs trivial
  | @finish c task result returned =>
      have hnew : NewName env s (.finish c) ↔
          (s.server.grants env task (.processed result) = true →
            ∀ k, s.server.sessionMap k ≠ none → k ≠ task.req.id →
              nameOf k ≠ nameOf task.req.id) := by
        constructor
        · intro hnew
          exact hnew task result returned
        · rintro hnew task' result' hreturned
          cases returned.symm.trans hreturned
          exact hnew
      rw [hnew]
      by_cases hgrants : s.server.grants env task (.processed result) = true
      · have hmap : (s.server.runDbTask env task (.processed result)).sessionMap =
            Function.update s.server.sessionMap task.req.id (some task.session) := by
          rw [runDbTask_sessionMap, if_pos hgrants]
        rw [update_namesApart_iff hs hmap]
        exact ⟨fun hnew _ => hnew, fun hnew => hnew hgrants⟩
      · have hkeys : ∀ k, (s.server.runDbTask env task (.processed result)).sessionMap k ≠ none →
            s.server.sessionMap k ≠ none := by
          intro k hk
          exact (runDbTask_keys hk).resolve_right fun hnew => hgrants hnew.2
        refine iff_of_true ?_ fun hg => absurd hg hgrants
        intro k k' hk hk' hne
        exact hs k k' (hkeys k hk) (hkeys k' hk') hne

/-! ## Runs -/

/-- A run has one session for each account exactly as long as no login is granted
    while another id of its name is logged in. -/
theorem onePerAccount_iff_newName (env : ServerEnv) (huse : env.useDB = true)
    (sha256 : String → String) (db : Database) (labels : List (Label ι)) :
    Always (step env sha256) (OnePerAccount sha256) (start db) labels
      ↔ Meets (step env sha256) (NewName env) (start db) labels := by
  refine always_iff_meets (Rooted sha256) (fun hs _ _ h => step_rooted huse hs h) ?_
    (start_rooted db) (fun k _ hk => absurd rfl hk)
  intro s label s' hs hone h
  rw [onePerAccount_iff hs] at hone
  rw [onePerAccount_iff (step_rooted huse hs h)]
  exact step_namesApart_iff huse hone h

/-- The ids of the begun tasks, and those that are logged in, have no NUL. -/
structure Clean (s : AccountSystem ι) : Prop where
  begun : ∀ task ∈ s.begun, '\x00' ∉ task.req.id.toList
  keys : ∀ k, s.server.sessionMap k ≠ none → '\x00' ∉ k.toList

theorem step_clean (huse : env.useDB = true) {s s' : AccountSystem ι} {label : Label ι}
    (hs : s.Clean) (hposted : CleanIds s label) (h : step env sha256 s label = some s') :
    s'.Clean := by
  cases step_inv h with
  | server unended hstep =>
      exact ⟨hs.begun, fun k hk => hs.keys k (server_keys huse unended hstep hk)⟩
  | @begin n task posted =>
      refine ⟨fun t ht => ?_, hs.keys⟩
      rcases List.mem_append.mp ht with ht | ht
      · exact hs.begun t ht
      · rw [List.mem_singleton.mp ht]
        exact hposted task (List.mem_of_getElem? posted)
  | call running hstep => exact ⟨hs.begun, hs.keys⟩
  | @finish c task result returned =>
      refine ⟨hs.begun, fun k hk => ?_⟩
      rcases runDbTask_keys hk with hk | ⟨rfl, -⟩
      · exact hs.keys k hk
      · exact hs.begun task (List.mem_of_getElem? (returned_some returned).1)

omit [DecidableEq ι] in
/-- Ids without a NUL that differ have different names. -/
theorem Clean.newName {s : AccountSystem ι} (hs : s.Clean) (label : Label ι) :
    NewName env s label := by
  cases label with
  | finish c =>
      intro task result hreturned _ k hk hne
      have htask := List.mem_of_getElem? (returned_some hreturned).1
      rw [nameOf_clean (hs.keys k hk), nameOf_clean (hs.begun task htask)]
      exact hne
  | server label => trivial
  | begin n => trivial
  | call sp => trivial

/-- Requests with ids that have no NUL are one session for each account. -/
theorem onePerAccount_of_cleanIds (env : ServerEnv) (huse : env.useDB = true)
    (sha256 : String → String) (db : Database) (labels : List (Label ι))
    (h : Meets (step env sha256) CleanIds (start db) labels) :
    Always (step env sha256) (OnePerAccount sha256) (start db) labels := by
  have hstart : (start db : AccountSystem ι).Rooted sha256 ∧ (start db : AccountSystem ι).Clean :=
    ⟨start_rooted db, fun _ ht => absurd ht List.not_mem_nil, fun _ hk => absurd rfl hk⟩
  have hone : (start db : AccountSystem ι).OnePerAccount sha256 := fun k _ hk => absurd rfl hk
  refine (always_of_meets (P := fun s => (s.Rooted sha256 ∧ s.Clean) ∧ s.OnePerAccount sha256)
    ?_ ⟨hstart, hone⟩ h).imp fun s hs => hs.2
  rintro s label s' ⟨⟨hrooted, hclean⟩, hapart⟩ hposted hstep
  have hrooted' := step_rooted huse hrooted hstep
  refine ⟨⟨hrooted', step_clean huse hclean hposted hstep⟩, ?_⟩
  rw [onePerAccount_iff hrooted] at hapart
  rw [onePerAccount_iff hrooted', step_namesApart_iff huse hapart hstep]
  exact hclean.newName label

/-! ### Two accounts, and two ids of one account -/

/-- A server with a database, and the encodings of three requests: the ids are "a",
    "a", a NUL, "b", and "c", and the password is "pw". -/
def dbEnv : ServerEnv :=
  { ServerEnv.sample with
      useDB := true
      parseLoginReq
        | [10, 1, 97, 18, 2, 112, 119] => some ⟨"a", "pw", 0⟩
        | [10, 3, 97, 0, 98, 18, 2, 112, 119] => some ⟨"a\x00b", "pw", 0⟩
        | [10, 1, 99, 18, 2, 112, 119] => some ⟨"c", "pw", 0⟩
        | _ => none }

/-- The session `i` connects, and the request it sends gets a connection to the
    database. -/
def requests (i : Nat) (payload : List UInt8) : List (Label Nat) :=
  [.server (.accept i 0),
    .server (.headerRead i ⟨UInt16.ofNat (4 + payload.length), PacketId.clientLoginLoginReq⟩ 0),
    .server (.payloadRead i payload 0), .begin 0]

/-- "a" and "c" log in on an empty table at once, which makes two rows. -/
def registersBoth : List (Label Nat) :=
  requests 0 [10, 1, 97, 18, 2, 112, 119] ++ requests 1 [10, 1, 99, 18, 2, 112, 119] ++
    [.call (.lookup 0 (.fetches 0 Logins.allRead true)),
      .call (.lookup 1 (.fetches 0 Logins.allRead true)),
      .call (.nextUid 0 (.fetches true)), .call (.register 0 (.executes "salt" true true)),
      .call (.nextUid 1 (.fetches true)), .call (.register 1 (.executes "salt" true true)),
      .finish 0, .finish 1]

/-- A login is granted while nobody is logged in. -/
theorem newName_first {s : AccountSystem Nat} (hmap : s.server.sessionMap = fun _ => none)
    (c : Nat) : NewName dbEnv s (.finish c) := by
  intro task result _ _ k hk
  exact absurd (congrFun hmap k) hk

/-- A login as "c" is granted while only "a" is logged in. -/
theorem newName_other {s : AccountSystem Nat} {c : Nat}
    (hmap : s.server.sessionMap = Function.update (fun _ => none) "a" (some 0))
    (hreturned : (s.returned c).map (fun r => r.1.req.id) = some "c") :
    NewName dbEnv s (.finish c) := by
  intro task result htask _ k hk _
  rw [hmap, Function.update_apply, ne_eq, ite_eq_right_iff, not_forall] at hk
  rw [htask, Option.map_some, Option.some.injEq] at hreturned
  obtain ⟨rfl, -⟩ := hk
  rw [hreturned]
  decide +kernel

theorem onePerAccount_registersBoth :
    Always (step dbEnv id) (OnePerAccount id) (start {}) registersBoth ∧
      (exec (step dbEnv id) (start {}) registersBoth).map
          (fun s => (s.server.sessionMap "a", s.server.sessionMap "c",
            s.logins.db.accounts.map Account.accountName))
        = some (some 0, some 1, ["a", "c"]) := by
  refine ⟨(onePerAccount_iff_newName dbEnv rfl id {} registersBoth).mpr ?_, by decide +kernel⟩
  -- the logins are granted in the last two steps
  iterate 14 refine And.intro trivial ?_
  exact And.intro (newName_first rfl 0) (And.intro (newName_other rfl rfl) trivial)

/-- "a" logs in on an empty table, which makes the row. -/
def registers : List (Label Nat) :=
  requests 0 [10, 1, 97, 18, 2, 112, 119] ++
    [.call (.lookup 0 (.fetches 0 Logins.allRead true)), .call (.nextUid 0 (.fetches true)),
      .call (.register 0 (.executes "salt" true true)), .finish 0]

/-- The same password under the other id. -/
def logsInAgain : List (Label Nat) :=
  requests 1 [10, 3, 97, 0, 98, 18, 2, 112, 119] ++
    [.call (.lookup 1 (.fetches 0 Logins.allRead true)), .finish 1]

/-- Both ids are logged in, on the row that the first has made. -/
theorem twoSessions_oneAccount :
    ¬ Always (step dbEnv id) (OnePerAccount id) (start {}) (registers ++ logsInAgain) := by
  intro h
  have hone := always_iff_exec.mp h _ (List.prefix_refl _) _ rfl
  exact hone "a" "a\x00b" (by decide +kernel) (by decide +kernel) (by decide)
    ⟨1, "a", "pwsalt", "salt", 0⟩
    ⟨belongs_iff.mpr (by decide +kernel), belongs_iff.mpr (by decide +kernel)⟩

end AccountSystem

end MMOServers.LoginServer
