/-
MMOServers.Common.DBConnectionPool — the connection pool and its handles.

`PoolSystem` is the pool with the `ScopedConnection` handles of the program and
the threads that work on them. Handles and threads are named by arbitrary types.
A locked section is one step, and so is what a thread does to its own handles
without the lock; in between any other thread may run. So `Initialize` takes two
steps, as its first test of `initialized_` is made before it locks, a waiting
`Acquire` gives the lock up until it is woken, and the move assignment returns
the old connection before it takes the new one.

A handle is used by one thread at a time: `user` names the thread in the middle
of an operation on it. A connection is named by the number of its `DBManager`,
in the order in which `Initialize` makes them; `created` is a history variable,
the connections that `Connect` opened.
-/
import Mathlib.Logic.Function.Basic
import Mathlib.Data.List.Basic

namespace MMOServers.Common

/-! ## Handles -/

/-- `pool` says whether `pool_` points to the pool or is null. -/
structure ScopedConnection where
  pool : Bool := false
  conn : Option Nat := none
  deriving DecidableEq

namespace ScopedConnection

/-- The connection that `if (conn_ && pool_)` lets go back to the pool. -/
def returned (x : ScopedConnection) : Option Nat := if x.pool then x.conn else none

/-- The handle when that connection has been moved out of it. -/
def afterReturn (x : ScopedConnection) : ScopedConnection :=
  if x.pool then { x with conn := none } else x

/-- What a move leaves behind in `other`. -/
def movedFrom : ScopedConnection := ⟨false, none⟩

end ScopedConnection

/-! ## The pool -/

structure DBConnectionPool where
  available : List Nat := []
  poolSize : Nat := 0
  totalCreated : Nat := 0
  initialized : Bool := false
  deriving DecidableEq

namespace DBConnectionPool

/-- The loop of `Initialize`: the managers are numbered from `next` on, and
    `connects` says which of the `Connect` calls succeed. -/
def connectAll (p : DBConnectionPool) (next : Nat) : List Bool → DBConnectionPool
  | [] => p
  | true :: connects =>
      { p with
        available := p.available ++ [next]
        totalCreated := p.totalCreated + 1 }.connectAll (next + 1) connects
  | false :: connects => p.connectAll (next + 1) connects

/-- The locked part of `Initialize`. -/
def initializePool (p : DBConnectionPool) (poolSize next : Nat) (connects : List Bool) :
    Bool × DBConnectionPool :=
  let p := { p with poolSize := poolSize }.connectAll next connects
  (decide (0 < p.totalCreated), { p with initialized := true })

/-- `ReturnConnection`. -/
def returnConnection (p : DBConnectionPool) : Option Nat → DBConnectionPool
  | none => p
  | some c => { p with available := p.available ++ [c] }

end DBConnectionPool

/-- The managers whose `Connect` succeeds. -/
def connected (next : Nat) : List Bool → List Nat
  | [] => []
  | true :: connects => next :: connected (next + 1) connects
  | false :: connects => connected (next + 1) connects

/-! ## Threads -/

inductive Activity (η : Type) where
  | idle
  /-- In `Initialize`, before the lock. -/
  | initializing (poolSize : Nat)
  /-- In `Acquire`, with the handle that it will return. -/
  | waiting (h : η)
  /-- In the move assignment, after the old connection has been returned. -/
  | assigning (dst src : η)
  deriving DecidableEq

structure PoolSystem (η τ : Type) where
  pool : DBConnectionPool := {}
  /-- The live handles. -/
  handles : η → Option ScopedConnection := fun _ => none
  user : η → Option τ := fun _ => none
  threads : τ → Activity η := fun _ => .idle
  made : Nat := 0
  created : List Nat := []

inductive PoolLabel (η τ : Type) where
  | initializeCall (t : τ) (poolSize : Nat)
  | initializeLocked (t : τ) (connects : List Bool)
  | acquire (t : τ) (h : η)
  | wake (t : τ) (timedOut : Bool)
  | construct (t : τ) (h : η)
  | moveConstruct (t : τ) (h other : η)
  | moveAssign (t : τ) (h other : η)
  | moveAssignEnds (t : τ)
  | destroy (t : τ) (h : η)

namespace PoolSystem

variable {η τ : Type} [DecidableEq η] [DecidableEq τ]

def setHandle (s : PoolSystem η τ) (h : η) (x : Option ScopedConnection) : PoolSystem η τ :=
  { s with handles := Function.update s.handles h x }

def setThread (s : PoolSystem η τ) (t : τ) (a : Activity η) : PoolSystem η τ :=
  { s with threads := Function.update s.threads t a }

def setUser (s : PoolSystem η τ) (h : η) (t : Option τ) : PoolSystem η τ :=
  { s with user := Function.update s.user h t }

/-- The end of `Acquire` with the first available connection. -/
def takeFront (s : PoolSystem η τ) (h : η) (c : Nat) (rest : List Nat) : PoolSystem η τ :=
  { s with pool := { s.pool with available := rest } }.setHandle h (some ⟨true, some c⟩)

/-- The locked part of `Initialize`, with its history. -/
def initializeLocked (s : PoolSystem η τ) (poolSize : Nat) (connects : List Bool) :
    PoolSystem η τ :=
  { s with
    pool := (s.pool.initializePool poolSize s.made connects).2
    made := s.made + connects.length
    created := s.created ++ connected s.made connects }

/-- `Acquire` up to its end or to the wait. -/
def acquire (s : PoolSystem η τ) (t : τ) (h : η) : PoolSystem η τ :=
  if !s.pool.initialized then s.setHandle h (some {})
  else
    match s.pool.available with
    | c :: rest => s.takeFront h c rest
    | [] => (s.setThread t (.waiting h)).setUser h (some t)

/-- The wait ends when the predicate holds, or at the timeout with an empty
    handle. -/
def wake (s : PoolSystem η τ) (t : τ) (h : η) (timedOut : Bool) : PoolSystem η τ :=
  match s.pool.available with
  | c :: rest => ((s.takeFront h c rest).setThread t .idle).setUser h none
  | [] =>
      if timedOut then ((s.setHandle h (some {})).setThread t .idle).setUser h none
      else s

/-- The move constructor. -/
def moveConstruct (s : PoolSystem η τ) (h other : η) (y : ScopedConnection) : PoolSystem η τ :=
  (s.setHandle h (some ⟨y.pool, y.conn⟩)).setHandle other (some .movedFrom)

/-- The move assignment up to the return of the old connection. -/
def moveAssign (s : PoolSystem η τ) (t : τ) (h other : η) (x : ScopedConnection) :
    PoolSystem η τ :=
  if h = other then s
  else
    ((({ s with pool := s.pool.returnConnection x.returned }.setHandle h
      (some x.afterReturn)).setThread t (.assigning h other)).setUser h (some t)).setUser other
        (some t)

/-- The rest of the move assignment. -/
def moveAssignEnds (s : PoolSystem η τ) (t : τ) (h other : η) (y : ScopedConnection) :
    PoolSystem η τ :=
  ((((s.setHandle h (some ⟨y.pool, y.conn⟩)).setHandle other (some .movedFrom)).setThread t
    .idle).setUser h none).setUser other none

/-- The destructor, and the end of the handle's life. -/
def destroy (s : PoolSystem η τ) (h : η) (x : ScopedConnection) : PoolSystem η τ :=
  { s with pool := s.pool.returnConnection x.returned }.setHandle h none

def step (s : PoolSystem η τ) : PoolLabel η τ → Option (PoolSystem η τ)
  | .initializeCall t poolSize =>
      if s.threads t = .idle then
        if s.pool.initialized then some s else some (s.setThread t (.initializing poolSize))
      else none
  | .initializeLocked t connects =>
      match s.threads t with
      | .initializing poolSize =>
          if connects.length = poolSize then
            some ((s.initializeLocked poolSize connects).setThread t .idle)
          else none
      | _ => none
  | .acquire t h =>
      if s.threads t = .idle ∧ s.handles h = none ∧ s.user h = none then some (s.acquire t h)
      else none
  | .wake t timedOut =>
      match s.threads t with
      | .waiting h => some (s.wake t h timedOut)
      | _ => none
  | .construct t h =>
      if s.threads t = .idle ∧ s.handles h = none ∧ s.user h = none then
        some (s.setHandle h (some {}))
      else none
  | .moveConstruct t h other =>
      match s.handles other with
      | some y =>
          if s.threads t = .idle ∧ s.handles h = none ∧ s.user h = none ∧ s.user other = none then
            some (s.moveConstruct h other y)
          else none
      | none => none
  | .moveAssign t h other =>
      match s.handles h, s.handles other with
      | some x, some _ =>
          if s.threads t = .idle ∧ s.user h = none ∧ s.user other = none then
            some (s.moveAssign t h other x)
          else none
      | _, _ => none
  | .moveAssignEnds t =>
      match s.threads t with
      | .assigning h other =>
          match s.handles other with
          | some y => some (s.moveAssignEnds t h other y)
          | none => none
      | _ => none
  | .destroy t h =>
      match s.handles h with
      | some x =>
          if s.threads t = .idle ∧ s.user h = none then some (s.destroy h x) else none
      | none => none

/-- Before the program has done anything with the pool. -/
def start : PoolSystem η τ := {}

end PoolSystem

end MMOServers.Common
