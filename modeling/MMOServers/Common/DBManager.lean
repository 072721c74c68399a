/-
MMOServers.Common.DBManager — `DBManager::ProcessLogin` on the Accounts table.

The database is the Accounts table and the sequence `Seq_Account_Uid`. The three
stored procedures are functions on it, and each call of one is atomic. What
surrounds the procedures is not: `ProcessLogin` looks the account up, draws a
uid and inserts the new row in three separate calls, so a login is a small
machine (`Phase`) whose steps interleave with those of every other login.

The labels carry what the model does not decide. An ODBC call may return an
error, also after the procedure it executed has taken effect; `SQLGetData` may
fail and leave its variable as it was; the CryptoAPI may fail, which makes the
hash an empty string. Two parameters stand for the server's settings: `collate`
maps a name to what SQL compares (`account_name = @account_name`), and `sha256`
is the hex digest.

`stale` is a history variable and no field of the program. A call becomes stale
when the answer of its lookup is no longer, or never was, that of the table.
-/
import Mathlib.Logic.Function.Basic
import Mathlib.Data.List.Basic

namespace MMOServers.Common

/-! ## The database -/

/-- A row of Accounts. -/
structure Account where
  accountUid : Int
  accountName : String
  passwordHash : String
  salt : String
  input : Int
  deriving DecidableEq

structure Database where
  accounts : List Account := []
  /-- What `NEXT VALUE FOR dbo.Seq_Account_Uid` returns next. -/
  seqAccountUid : Int := 1

/-- What the program does not fix: SQL's comparison of names and the digest. -/
structure LoginEnv where
  collate : String → String
  sha256 : String → String

variable (env : LoginEnv)

namespace LoginEnv

/-- `account_name = @account_name`. -/
def sameName (m n : String) : Prop := env.collate m = env.collate n

instance (m n : String) : Decidable (env.sameName m n) :=
  inferInstanceAs (Decidable (env.collate m = env.collate n))

/-- `CryptoUtils::HashPasswordSHA256`, empty when a CryptoAPI call fails. -/
def hashPasswordSHA256 (cryptoOk : Bool) (password salt : String) : String :=
  if cryptoOk then env.sha256 (password ++ salt) else ""

end LoginEnv

namespace Database

/-- `Accounts_Login_Game`. -/
def accountsLoginGame (db : Database) (accountName : String) : List Account :=
  db.accounts.filter fun row => env.sameName row.accountName accountName

/-- `Accounts_NextUid_Game`. -/
def accountsNextUidGame (db : Database) : Int × Database :=
  (db.seqAccountUid, { db with seqAccountUid := db.seqAccountUid + 1 })

def HasUid (db : Database) (uid : Int) : Prop := ∃ row ∈ db.accounts, row.accountUid = uid

instance (db : Database) (uid : Int) : Decidable (db.HasUid uid) :=
  inferInstanceAs (Decidable (∃ row ∈ db.accounts, row.accountUid = uid))

/-- `Accounts_Register_Game`; the primary key is the only constraint that can
    refuse the row. -/
def accountsRegisterGame (db : Database) (row : Account) : Option Database :=
  if db.HasUid row.accountUid then none
  else some { db with accounts := db.accounts ++ [row] }

end Database

/-! ## ProcessLogin -/

inductive LoginResult where
  | success
  | newRegistered
  | wrongPassword
  | dbError
  deriving DecidableEq

/-- The arguments of `ProcessLogin`. -/
structure LoginArgs where
  id : String
  pw : String
  inputType : Int
  deriving DecidableEq

namespace LoginArgs

/-- The length test at the head of `ProcessLogin`. -/
def wellSized (args : LoginArgs) : Bool :=
  !(args.id.isEmpty || 50 < args.id.utf8ByteSize ||
    args.pw.isEmpty || 100 < args.pw.utf8ByteSize)

/-- The bytes `SQL_NTS` binds: those before the first NUL. -/
def accountName (args : LoginArgs) : String :=
  String.ofList (args.id.toList.takeWhile (· ≠ '\x00'))

end LoginArgs

/-- Where a call stands: before its lookup, before its uid, before its insert,
    or back with a result and `*out_account_uid`. -/
inductive Phase where
  | lookup
  | nextUid
  | register (uid : Int)
  | finished (result : LoginResult) (outAccountUid : Int)
  deriving DecidableEq

/-- The lookup found no row, and the insert is still to come. -/
def Phase.pastLookup : Phase → Bool
  | .nextUid => true
  | .register _ => true
  | _ => false

/-- The login is back with a success. -/
def Phase.accepted : Phase → Bool
  | .finished .success _ => true
  | .finished .newRegistered _ => true
  | _ => false

/-- Which of the three columns `SQLGetData` delivered. -/
structure ColumnsRead where
  accountUid : Bool
  passwordHash : Bool
  salt : Bool

inductive LookupOutcome where
  | allocFails
  | executeFails
  | fetchFails
  /-- `SQLFetch` delivers the row at `pick` of the result, or no row. -/
  | fetches (pick : Nat) (read : ColumnsRead) (cryptoOk : Bool)

inductive NextUidOutcome where
  | allocFails
  | executeFails (advanced : Bool)
  | fetchFails
  | fetches (read : Bool)

inductive RegisterOutcome where
  | allocFails
  | executeFails
  /-- The procedure runs; `answered` is whether ODBC reports its success. -/
  | executes (salt : String) (cryptoOk : Bool) (answered : Bool)

/-- A stored procedure call of the login `i`. -/
inductive SpCall (ι : Type*) where
  | lookup (i : ι) (outcome : LookupOutcome)
  | nextUid (i : ι) (outcome : NextUidOutcome)
  | register (i : ι) (outcome : RegisterOutcome)

/-- Whose call it is. -/
def SpCall.login {ι : Type*} : SpCall ι → ι
  | .lookup i _ => i
  | .nextUid i _ => i
  | .register i _ => i

/-- The logins `ι` in the middle of their work. -/
structure Logins (ι : Type*) where
  db : Database
  phase : ι → Phase
  stale : ι → Bool

namespace Logins

variable {ι : Type*} [DecidableEq ι] (args : ι → LoginArgs)

/-- All calls at their start, on a database as it was found. -/
def start (db : Database) : Logins ι := ⟨db, fun _ => .lookup, fun _ => false⟩

def setPhase (s : Logins ι) (i : ι) (p : Phase) : Logins ι :=
  { s with phase := Function.update s.phase i p }

/-- The password check of STEP 1 on the fetched row. -/
def verify (pw : String) (row : Account) (read : ColumnsRead) (cryptoOk : Bool) : Phase :=
  let storedHash := if read.passwordHash then row.passwordHash else ""
  let storedSalt := if read.salt then row.salt else ""
  if storedHash = env.hashPasswordSHA256 cryptoOk pw storedSalt then
    .finished .success (if read.accountUid then row.accountUid else 0)
  else .finished .wrongPassword 0

/-- STEP 1. Anything but a fetched row goes on to the registration. -/
def lookup (s : Logins ι) (i : ι) (outcome : LookupOutcome) : Option (Logins ι) :=
  let rows := s.db.accountsLoginGame env (args i).accountName
  match s.phase i with
  | .lookup =>
      if !(args i).wellSized then some (s.setPhase i (.finished .dbError 0))
      else
        match outcome with
        | .allocFails => some (s.setPhase i (.finished .dbError 0))
        | .executeFails => some (s.setPhase i (.finished .dbError 0))
        | .fetchFails =>
            some { s.setPhase i .nextUid with
                     stale := Function.update s.stale i (decide (rows ≠ [])) }
        | .fetches pick read cryptoOk =>
            if rows = [] then
              some { s.setPhase i .nextUid with stale := Function.update s.stale i false }
            else
              match rows[pick]? with
              | none => none
              | some row => some (s.setPhase i (verify env (args i).pw row read cryptoOk))
  | _ => none

/-- STEP 2-1. A uid that could not be read stays at its initial value 1. -/
def nextUid (s : Logins ι) (i : ι) (outcome : NextUidOutcome) : Option (Logins ι) :=
  match s.phase i with
  | .nextUid =>
      let (uid, db) := s.db.accountsNextUidGame
      match outcome with
      | .allocFails => some (s.setPhase i (.finished .dbError 0))
      | .executeFails advanced =>
          some { s.setPhase i (.finished .dbError 0) with db := if advanced then db else s.db }
      | .fetchFails => some { s.setPhase i (.register 1) with db := db }
      | .fetches read => some { s.setPhase i (.register (if read then uid else 1)) with db := db }
  | _ => none

/-- The row of STEP 2-3. -/
def newRow (a : LoginArgs) (uid : Int) (salt : String) (cryptoOk : Bool) : Account where
  accountUid := uid
  accountName := a.accountName
  passwordHash := env.hashPasswordSHA256 cryptoOk a.pw salt
  salt := salt
  input := a.inputType

/-- STEP 2-2 and 2-3. An inserted row makes every waiting call of that name
    stale. -/
def register (s : Logins ι) (i : ι) (outcome : RegisterOutcome) : Option (Logins ι) :=
  match s.phase i with
  | .register uid =>
      match outcome with
      | .allocFails => some (s.setPhase i (.finished .dbError 0))
      | .executeFails => some (s.setPhase i (.finished .dbError 0))
      | .executes salt cryptoOk answered =>
          match s.db.accountsRegisterGame (newRow env (args i) uid salt cryptoOk) with
          | none => some (s.setPhase i (.finished .dbError 0))
          | some db =>
              let result := if answered then .finished .newRegistered uid
                else .finished .dbError 0
              some { s.setPhase i result with
                       db := db
                       stale := fun j => s.stale j || (s.phase j).pastLookup &&
                         decide (env.sameName (args i).accountName (args j).accountName) }
  | _ => none

def step (s : Logins ι) : SpCall ι → Option (Logins ι)
  | .lookup i outcome => s.lookup env args i outcome
  | .nextUid i outcome => s.nextUid i outcome
  | .register i outcome => s.register env args i outcome

end Logins

end MMOServers.Common
