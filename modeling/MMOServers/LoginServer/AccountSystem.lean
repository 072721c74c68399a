/-
MMOServers.LoginServer.AccountSystem — a login server at work on its database.

`LoginContext` runs a database task in one step, with the answer of
`ProcessLogin` in the label. Here a task is begun, runs as one of the logins of
`MMOServers.Common.DBManager`, whose calls interleave with those of the other
tasks, and is finished with the result that its login came back with. A task
that gets no connection is answered at once, as before.

Of the server's settings one is fixed: the database compares names exactly.

`LoginReq.id` is a string of any bytes, and what the stored procedures get of it
is what stands before its first NUL (`nameOf`).
-/
import MMOServers.LoginServer.LoginContext

namespace MMOServers.LoginServer

open MMOServers.Common

/-- What the stored procedures get of an id. -/
def nameOf (id : String) : String := LoginArgs.accountName ⟨id, "", 0⟩

/-- A database that compares names exactly. -/
def exactNames (sha256 : String → String) : LoginEnv := ⟨id, sha256⟩

/-- What the handler hands to `ProcessLogin`. -/
def argsOf {ι : Type} (task : DbTask ι) : LoginArgs :=
  ⟨task.req.id, task.req.password, task.req.inputType.toInt⟩

structure AccountSystem (ι : Type) where
  server : LoginContext ι := {}
  logins : Logins Nat
  /-- The tasks that have begun; the login of a task has its index. -/
  begun : List (DbTask ι) := []
  /-- The indices of those that are finished. -/
  answered : List Nat := []

namespace AccountSystem

variable {ι : Type}

def args (s : AccountSystem ι) (c : Nat) : LoginArgs :=
  match s.begun[c]? with
  | none => ⟨"", "", 0⟩
  | some task => argsOf task

inductive Label (ι : Type) where
  /-- A step of the server that is no end of a task with a connection. -/
  | server (label : LoginContext.Label ι)
  /-- A posted task gets a connection. -/
  | begin (n : Nat)
  | call (sp : SpCall Nat)
  | finish (c : Nat)

/-- The end of a task that has had a connection. -/
def endsTask : LoginContext.Label ι → Bool
  | .dbTask _ (.processed _) => true
  | _ => false

variable [DecidableEq ι] (env : ServerEnv) (sha256 : String → String)

/-- The begun task whose login has come back, with the result. -/
def returned (s : AccountSystem ι) (c : Nat) : Option (DbTask ι × LoginResult) :=
  match s.begun[c]?, s.logins.phase c with
  | some task, .finished result _ => if c ∈ s.answered then none else some (task, result)
  | _, _ => none

def step (s : AccountSystem ι) : Label ι → Option (AccountSystem ι)
  | .server label =>
      if endsTask label then none
      else (s.server.step env label).map fun server => { s with server := server }
  | .begin n =>
      match s.server.dbTasks[n]? with
      | none => none
      | some task =>
          some { s with
                   server := { s.server with dbTasks := s.server.dbTasks.eraseIdx n }
                   begun := s.begun ++ [task] }
  | .call sp =>
      if sp.login < s.begun.length then
        (s.logins.step (exactNames sha256) s.args sp).map fun logins => { s with logins := logins }
      else none
  | .finish c =>
      match s.returned c with
      | none => none
      | some (task, result) =>
          some { s with
                   server := s.server.runDbTask env task (.processed result)
                   answered := c :: s.answered }

/-- A server that has just started, on a database as it was found. -/
def start (db : Database) : AccountSystem ι := { logins := Logins.start db }

end AccountSystem

end MMOServers.LoginServer
