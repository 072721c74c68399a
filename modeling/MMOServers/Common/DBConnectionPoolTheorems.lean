/-
MMOServers.Common.DBConnectionPoolTheorems — no connection of the pool is lost.

`Lib.Custody` has the argument: the connections are in the stock `available_` or
in the hands of a handle, and the operations supply, withdraw, deposit and pass
them on. What the program adds is the null tests. A handle with a connection has
its pool (`Safe.pooled`), so that the destructor and the move assignment never
drop a connection they should return, and the target of a move assignment is
empty when it takes the new connection (`Busy`), so that nothing is overwritten.

`connections_conserved` is the run lemma, for all interleavings of any threads.
-/
import MMOServers.Common.DBConnectionPool
import MMOServers.Lib.Custody
import MMOServers.Lib.Run

namespace MMOServers.Common

/-! ## The loop of Initialize -/

theorem connected_range {next c : Nat} {connects : List Bool} (h : c ∈ connected next connects) :
    next ≤ c ∧ c < next + connects.length := by
  induction connects generalizing next with
  | nil => cases h
  | cons ok connects ih =>
      rw [List.length_cons]
      cases ok with
      | true =>
          rcases List.mem_cons.mp h with rfl | h
          · omega
          · have := ih h
            omega
      | false =>
          have := ih h
          omega

theorem connected_nodup (next : Nat) (connects : List Bool) :
    (connected next connects).Nodup := by
  induction connects generalizing next with
  | nil => exact List.nodup_nil
  | cons ok connects ih =>
      cases ok with
      | true =>
          refine List.nodup_cons.mpr ⟨?_, ih (next + 1)⟩
          intro h
          have := (connected_range h).1
          omega
      | false => exact ih (next + 1)

namespace DBConnectionPool

theorem connectAll_fields (p : DBConnectionPool) (next : Nat) (connects : List Bool) :
    (p.connectAll next connects).available = p.available ++ connected next connects ∧
      (p.connectAll next connects).totalCreated
        = p.totalCreated + (connected next connects).length := by
  induction connects generalizing p next with
  | nil => simp [connectAll, connected]
  | cons ok connects ih =>
      cases ok with
      | true =>
          obtain ⟨havailable, htotal⟩ := ih
            { p with available := p.available ++ [next], totalCreated := p.totalCreated + 1 }
            (next + 1)
          simp only [connectAll, connected]
          refine ⟨?_, ?_⟩
          · rw [havailable]
            simp
          · rw [htotal, List.length_cons, Nat.add_right_comm, Nat.add_assoc]
      | false => exact ih p (next + 1)

theorem returnConnection_available (p : DBConnectionPool) (conn : Option Nat) :
    (p.returnConnection conn).available = p.available ++ conn.toList := by
  cases conn <;> simp [returnConnection]

@[simp] theorem returnConnection_totalCreated (p : DBConnectionPool) (conn : Option Nat) :
    (p.returnConnection conn).totalCreated = p.totalCreated := by
  cases conn <;> rfl

end DBConnectionPool

namespace PoolSystem

variable {η τ : Type}

/-! ## The property -/

/-- The live handle `h` will give the connection `c` back to the pool. -/
def Owns (s : PoolSystem η τ) (h : η) (c : Nat) : Prop :=
  ∃ x, s.handles h = some x ∧ x.conn = some c ∧ x.returned = some c

/-- A live handle has the connection, whatever it will do with it. -/
def Has (s : PoolSystem η τ) (h : η) (c : Nat) : Prop :=
  ∃ x, s.handles h = some x ∧ x.conn = some c

/-- The created connections are counted, each one is either exactly once in
    `available_` or owned by exactly one live handle, and there are no others. -/
structure Conserved (s : PoolSystem η τ) : Prop where
  distinct : s.created.Nodup
  counted : s.created.length = s.pool.totalCreated
  available : ∀ c ∈ s.pool.available, c ∈ s.created
  had : ∀ h c, s.Has h c → c ∈ s.created
  once : ∀ c ∈ s.created,
    (s.pool.available.count c = 1 ∧ ∀ h, ¬ s.Has h c) ∨
      (s.pool.available.count c = 0 ∧ ∃ h, s.Owns h c ∧ ∀ h', s.Has h' c → h' = h)

/-! ## The invariant -/

/-- What the handles hold. -/
def holds (s : PoolSystem η τ) (h : η) : Option Nat := (s.handles h).bind (·.conn)

/-- The handles a thread is working on are its own, and they are as it left them. -/
def Busy (s : PoolSystem η τ) (t : τ) : Prop :=
  match s.threads t with
  | .waiting h => s.user h = some t ∧ s.handles h = none
  | .assigning h other =>
      h ≠ other ∧ s.user h = some t ∧ s.user other = some t ∧ s.holds h = none ∧
        ∃ x, s.handles h = some x
  | _ => True

/-- The part of the invariant that no thread's place in its operation enters. -/
structure Safe (s : PoolSystem η τ) : Prop where
  custody : Custody.Conserved s.created s.pool.available s.holds
  counted : s.created.length = s.pool.totalCreated
  named : ∀ c ∈ s.created, c < s.made
  pooled : ∀ h x, s.handles h = some x → x.conn ≠ none → x.pool = true

structure Inv (s : PoolSystem η τ) : Prop where
  safe : s.Safe
  busy : ∀ t, s.Busy t

theorem holds_eq_some {s : PoolSystem η τ} {h : η} {c : Nat} :
    s.holds h = some c ↔ s.Has h c := by
  simp [holds, Has, Option.bind_eq_some_iff]

theorem Safe.owns {s : PoolSystem η τ} (hi : s.Safe) {h : η} {c : Nat} (hc : s.Has h c) :
    s.Owns h c := by
  obtain ⟨x, hx, hconn⟩ := hc
  have hpool : x.pool = true := hi.pooled h x hx (by simp [hconn])
  exact ⟨x, hx, hconn, by simp [ScopedConnection.returned, hpool, hconn]⟩

theorem Safe.conserved {s : PoolSystem η τ} (hi : s.Safe) : s.Conserved := by
  constructor
  · exact hi.custody.nodup
  · exact hi.counted
  · exact hi.custody.stockAll
  · intro h c hc
    exact hi.custody.heldAll h c (holds_eq_some.mpr hc)
  · intro c hc
    rcases hi.custody.once hc with ⟨hone, hnobody⟩ | ⟨hzero, h, hh, hsole⟩
    · refine Or.inl ⟨hone, ?_⟩
      intro h hhas
      exact hnobody h (holds_eq_some.mpr hhas)
    · refine Or.inr ⟨hzero, h, hi.owns (holds_eq_some.mp hh), ?_⟩
      intro h' hhas
      exact hsole h' (holds_eq_some.mpr hhas)

theorem start_inv : (start : PoolSystem η τ).Inv := by
  refine ⟨?_, fun t => trivial⟩
  constructor
  · exact Custody.conserved_nil
  · rfl
  · intro c hc
    cases hc
  · intro h x hx
    cases hx

/-- A step of the thread `t` that keeps what the others are working on. -/
theorem busy_of {s s' : PoolSystem η τ} (hbusy : ∀ t, s.Busy t) (t : τ)
    (hthreads : ∀ u, u ≠ t → s'.threads u = s.threads u)
    (hkeeps : ∀ h u, u ≠ t → s.user h = some u →
      s'.user h = some u ∧ s'.handles h = s.handles h)
    (ht : s'.Busy t) (u : τ) : s'.Busy u := by
  by_cases hut : u = t
  · exact hut ▸ ht
  · have hu := hbusy u
    unfold Busy at hu ⊢
    rw [hthreads u hut]
    cases hactivity : s.threads u with
    | idle => trivial
    | initializing poolSize => trivial
    | waiting h =>
        rw [hactivity] at hu
        obtain ⟨huser, hhandle⟩ := hu
        obtain ⟨huser', hhandle'⟩ := hkeeps h u hut huser
        exact ⟨huser', hhandle'.trans hhandle⟩
    | assigning h other =>
        rw [hactivity] at hu
        obtain ⟨hne, hh, hother, hempty, hlive⟩ := hu
        obtain ⟨hh', hhandle⟩ := hkeeps h u hut hh
        refine ⟨hne, hh', (hkeeps other u hut hother).1, ?_, ?_⟩
        · rw [holds, hhandle]
          exact hempty
        · rw [hhandle]
          exact hlive

variable [DecidableEq η] [DecidableEq τ]

/-! ## Handles and what they hold -/

omit [DecidableEq τ] in
theorem holds_setHandle (s : PoolSystem η τ) (h : η) (x : Option ScopedConnection) :
    (s.setHandle h x).holds = Function.update s.holds h (x.bind (·.conn)) := by
  funext y
  by_cases hy : y = h
  · subst hy
    simp [holds, setHandle]
  · simp [holds, setHandle, hy]

omit [DecidableEq τ] in
theorem pooled_setHandle {s : PoolSystem η τ} {h : η} {x : Option ScopedConnection}
    (hpooled : ∀ h x, s.handles h = some x → x.conn ≠ none → x.pool = true)
    (hx : ∀ y, x = some y → y.conn ≠ none → y.pool = true) :
    ∀ k y, (s.setHandle h x).handles k = some y → y.conn ≠ none → y.pool = true := by
  intro k y hk
  by_cases hkh : k = h
  · subst hkh
    simp only [setHandle, Function.update_self] at hk
    exact hx y hk
  · simp only [setHandle, Function.update_of_ne hkh] at hk
    exact hpooled k y hk

/-! ## Operations -/

omit [DecidableEq η] [DecidableEq τ] in
theorem Safe.supplied {s : PoolSystem η τ} (hs : s.Safe) (poolSize : Nat) (connects : List Bool) :
    (s.initializeLocked poolSize connects).Safe := by
  obtain ⟨havailable, htotal⟩ := DBConnectionPool.connectAll_fields
    { s.pool with poolSize := poolSize } s.made connects
  constructor
  · show Custody.Conserved (s.created ++ connected s.made connects)
      ({ s.pool with poolSize := poolSize }.connectAll s.made connects).available s.holds
    rw [havailable]
    refine hs.custody.supply (connected_nodup s.made connects) ?_
    intro c hc hold
    have := hs.named c hold
    have := (connected_range hc).1
    omega
  · show (s.created ++ connected s.made connects).length
      = ({ s.pool with poolSize := poolSize }.connectAll s.made connects).totalCreated
    rw [htotal, List.length_append, hs.counted]
  · intro c hc
    show c < s.made + connects.length
    rcases List.mem_append.mp hc with hc | hc
    · have := hs.named c hc
      omega
    · exact (connected_range hc).2
  · exact hs.pooled

omit [DecidableEq τ] in
/-- A handle that holds nothing is replaced by an empty one. -/
theorem Safe.emptied {s : PoolSystem η τ} (hs : s.Safe) {h : η} (hempty : s.holds h = none)
    (b : Bool) : (s.setHandle h (some ⟨b, none⟩)).Safe := by
  constructor
  · rw [holds_setHandle]
    show Custody.Conserved s.created s.pool.available (Function.update s.holds h none)
    rw [← hempty, Function.update_eq_self]
    exact hs.custody
  · exact hs.counted
  · exact hs.named
  · refine pooled_setHandle hs.pooled ?_
    intro y hy hconn
    cases hy
    exact absurd rfl hconn

omit [DecidableEq τ] in
theorem Safe.taken {s : PoolSystem η τ} (hs : s.Safe) {h : η} (hempty : s.holds h = none)
    {c : Nat} {rest : List Nat} (havailable : s.pool.available = c :: rest) :
    (s.takeFront h c rest).Safe := by
  have hcustody := hs.custody
  rw [havailable] at hcustody
  constructor
  · unfold takeFront
    rw [holds_setHandle]
    exact hcustody.withdraw hempty
  · exact hs.counted
  · exact hs.named
  · refine pooled_setHandle hs.pooled ?_
    intro y hy hconn
    cases hy
    rfl

omit [DecidableEq η] [DecidableEq τ] in
/-- The null tests let every connection pass that a handle has. -/
theorem Safe.returned_eq {s : PoolSystem η τ} (hs : s.Safe) {h : η} {x : ScopedConnection}
    (hx : s.handles h = some x) : x.returned = x.conn ∧ x.afterReturn.conn = none := by
  cases hpool : x.pool with
  | true => simp [ScopedConnection.returned, ScopedConnection.afterReturn, hpool]
  | false =>
      have hconn : x.conn = none := by
        by_contra hconn
        simp [hs.pooled h x hx hconn] at hpool
      simp [ScopedConnection.returned, ScopedConnection.afterReturn, hpool, hconn]

omit [DecidableEq τ] in
/-- The connection of a handle goes back, and the handle is empty or no more. -/
theorem Safe.gaveBack {s : PoolSystem η τ} (hs : s.Safe) {h : η} {x : ScopedConnection}
    (hx : s.handles h = some x) {y : Option ScopedConnection}
    (hy : y.bind (·.conn) = none) :
    ({ s with pool := s.pool.returnConnection x.returned }.setHandle h y).Safe := by
  have hholds : s.holds h = x.conn := by simp [holds, hx]
  constructor
  · rw [holds_setHandle, hy]
    show Custody.Conserved s.created (s.pool.returnConnection x.returned).available
      (Function.update s.holds h none)
    rw [DBConnectionPool.returnConnection_available, (hs.returned_eq hx).1]
    cases hconn : x.conn with
    | none =>
        rw [hconn] at hholds
        rw [Option.toList_none, List.append_nil, ← hholds, Function.update_eq_self]
        exact hs.custody
    | some c => exact hs.custody.deposit (hholds.trans hconn)
  · exact hs.counted.trans (DBConnectionPool.returnConnection_totalCreated _ _).symm
  · exact hs.named
  · refine pooled_setHandle hs.pooled ?_
    rintro z rfl hconn
    exact absurd hy hconn

omit [DecidableEq τ] in
theorem Safe.moved {s : PoolSystem η τ} (hs : s.Safe) {h other : η} {y : ScopedConnection}
    (hempty : s.holds h = none) (hother : s.handles other = some y) (hne : h ≠ other) :
    (s.moveConstruct h other y).Safe := by
  have hholds : s.holds other = y.conn := by simp [holds, hother]
  constructor
  · unfold moveConstruct
    rw [holds_setHandle, holds_setHandle]
    show Custody.Conserved s.created s.pool.available
      (Function.update (Function.update s.holds h y.conn) other none)
    rw [← hholds]
    exact hs.custody.pass hempty hne
  · exact hs.counted
  · exact hs.named
  · refine pooled_setHandle (pooled_setHandle hs.pooled ?_) ?_
    · intro z hz hconn
      cases hz
      exact hs.pooled other y hother hconn
    · intro z hz hconn
      cases hz
      exact absurd rfl hconn

/-! ## Steps -/

omit [DecidableEq η] in
theorem Safe.setThread {s : PoolSystem η τ} (hs : s.Safe) (t : τ) (a : Activity η) :
    (s.setThread t a).Safe := ⟨hs.custody, hs.counted, hs.named, hs.pooled⟩

omit [DecidableEq τ] in
theorem Safe.setUser {s : PoolSystem η τ} (hs : s.Safe) (h : η) (t : Option τ) :
    (s.setUser h t).Safe := ⟨hs.custody, hs.counted, hs.named, hs.pooled⟩

omit [DecidableEq η] [DecidableEq τ] in
theorem busy_idle {s : PoolSystem η τ} {t : τ} (h : s.threads t = .idle) : s.Busy t := by
  simp [Busy, h]

omit [DecidableEq η] [DecidableEq τ] in
/-- An idle thread does something to handles that nobody is working on. -/
theorem busy_at_rest {s s' : PoolSystem η τ} (hbusy : ∀ t, s.Busy t) {t : τ}
    (ht : s.threads t = .idle) (hthreads : s'.threads = s.threads) (huser : s'.user = s.user)
    (hkeeps : ∀ h u, s.user h = some u → s'.handles h = s.handles h) (u : τ) : s'.Busy u := by
  refine busy_of hbusy t (fun v _ => by rw [hthreads]) (fun h v _ hv => ?_) (busy_idle ?_) u
  · exact ⟨by rw [huser, hv], hkeeps h v hv⟩
  · rw [hthreads, ht]

omit [DecidableEq τ] in
theorem setHandle_handles {s : PoolSystem η τ} {h k : η} (x : Option ScopedConnection)
    (hk : k ≠ h) : (s.setHandle h x).handles k = s.handles k := by
  simp [setHandle, hk]

omit [DecidableEq η] [DecidableEq τ] in
theorem ne_of_user {s : PoolSystem η τ} {h k : η} {u : τ} (hh : s.user h = none)
    (hk : s.user k = some u) : k ≠ h := by
  rintro rfl
  rw [hh] at hk
  cases hk

omit [DecidableEq τ] in
theorem Inv.constructs {s : PoolSystem η τ} (hi : s.Inv) {t : τ} {h : η}
    (ht : s.threads t = .idle) (hh : s.handles h = none) (hfree : s.user h = none) :
    (s.setHandle h (some {})).Inv := by
  refine ⟨hi.safe.emptied (by simp [holds, hh]) false, ?_⟩
  refine busy_at_rest hi.busy ht rfl rfl ?_
  intro k u hk
  exact setHandle_handles _ (ne_of_user hfree hk)

theorem acquire_inv {s : PoolSystem η τ} (hi : s.Inv) {t : τ} {h : η}
    (ht : s.threads t = .idle) (hh : s.handles h = none) (hfree : s.user h = none) :
    (s.acquire t h).Inv := by
  unfold acquire
  split
  · exact hi.constructs ht hh hfree
  · cases havailable : s.pool.available with
    | cons c rest =>
        refine ⟨hi.safe.taken (by simp [holds, hh]) havailable, ?_⟩
        refine busy_at_rest hi.busy ht rfl rfl ?_
        intro k u hk
        exact setHandle_handles _ (ne_of_user hfree hk)
    | nil =>
        refine ⟨(hi.safe.setThread t (.waiting h)).setUser h (some t), ?_⟩
        refine busy_of hi.busy t ?_ ?_ ?_
        · intro u hu
          exact Function.update_of_ne hu _ _
        · intro k u hu hk
          exact ⟨(Function.update_of_ne (ne_of_user hfree hk) _ _).trans hk, rfl⟩
        · simp [Busy, setThread, setUser, hh]

/-- The thread finishes its work on `h`. -/
theorem wake_inv {s : PoolSystem η τ} (hi : s.Inv) {t : τ} {h : η}
    (ht : s.threads t = .waiting h) (timedOut : Bool) : (s.wake t h timedOut).Inv := by
  have hbusy := hi.busy t
  rw [Busy, ht] at hbusy
  obtain ⟨huser, hh⟩ := hbusy
  have hempty : s.holds h = none := by simp [holds, hh]
  -- of the others' handles none is `h`
  have hother : ∀ k u, u ≠ t → s.user k = some u → k ≠ h := by
    rintro k u hu hk rfl
    exact hu (Option.some.inj (hk.symm.trans huser))
  have hends : ∀ x : Option ScopedConnection, ∀ s₁ : PoolSystem η τ, s₁.threads = s.threads →
      s₁.user = s.user → s₁.handles = Function.update s.handles h x →
      ∀ u, ((s₁.setThread t .idle).setUser h none).Busy u := by
    intro x s₁ hthreads hs₁ hhandles
    refine busy_of hi.busy t ?_ ?_ (busy_idle ?_)
    · intro u hu
      simp [setThread, setUser, hthreads, hu]
    · intro k u hu hk
      have hkh := hother k u hu hk
      simp [setThread, setUser, hs₁, hhandles, hkh, hk]
    · simp [setThread, setUser]
  unfold wake
  cases havailable : s.pool.available with
  | cons c rest =>
      have hsafe := hi.safe.taken hempty havailable
      refine ⟨(hsafe.setThread t .idle).setUser h none, ?_⟩
      exact hends _ (s.takeFront h c rest) rfl rfl rfl
  | nil =>
      dsimp only
      split
      · have hsafe := hi.safe.emptied hempty false
        refine ⟨(hsafe.setThread t .idle).setUser h none, ?_⟩
        exact hends _ (s.setHandle h (some {})) rfl rfl rfl
      · exact hi

omit [DecidableEq τ] in
theorem moveConstruct_inv {s : PoolSystem η τ} (hi : s.Inv) {t : τ} {h other : η}
    {y : ScopedConnection} (ht : s.threads t = .idle) (hh : s.handles h = none)
    (hfree : s.user h = none) (hother : s.handles other = some y)
    (hfreeOther : s.user other = none) : (s.moveConstruct h other y).Inv := by
  have hne : h ≠ other := by
    rintro rfl
    rw [hh] at hother
    cases hother
  refine ⟨hi.safe.moved (by simp [holds, hh]) hother hne, ?_⟩
  refine busy_at_rest hi.busy ht rfl rfl ?_
  intro k u hk
  unfold moveConstruct
  rw [setHandle_handles _ (ne_of_user hfreeOther hk), setHandle_handles _ (ne_of_user hfree hk)]

theorem moveAssign_inv {s : PoolSystem η τ} (hi : s.Inv) {t : τ} {h other : η}
    {x : ScopedConnection} (hh : s.handles h = some x) (hfree : s.user h = none)
    (hfreeOther : s.user other = none) : (s.moveAssign t h other x).Inv := by
  unfold moveAssign
  split
  · exact hi
  · rename_i hne
    have hafter : (some x.afterReturn).bind (·.conn) = none := (hi.safe.returned_eq hh).2
    have hsafe := (hi.safe.gaveBack hh hafter).setThread t (.assigning h other)
    refine ⟨(hsafe.setUser h (some t)).setUser other (some t), ?_⟩
    refine busy_of hi.busy t ?_ ?_ ?_
    · intro u hu
      simp [setThread, setUser, setHandle, hu]
    · intro k u hu hk
      have hkh := ne_of_user hfree hk
      have hko := ne_of_user hfreeOther hk
      simp [setThread, setUser, setHandle, hkh, hko, hk]
    · have hafter' : x.afterReturn.conn = none := hafter
      simp [Busy, setThread, setUser, setHandle, holds, hne, hafter']

theorem moveAssignEnds_inv {s : PoolSystem η τ} (hi : s.Inv) {t : τ} {h other : η}
    {y : ScopedConnection} (ht : s.threads t = .assigning h other)
    (hother : s.handles other = some y) : (s.moveAssignEnds t h other y).Inv := by
  have hbusy := hi.busy t
  rw [Busy, ht] at hbusy
  obtain ⟨hne, huser, huserOther, hempty, -⟩ := hbusy
  have hsafe := (hi.safe.moved hempty hother hne).setThread t .idle
  refine ⟨(hsafe.setUser h none).setUser other none, ?_⟩
  refine busy_of hi.busy t ?_ ?_ (busy_idle ?_)
  · intro u hu
    simp [moveAssignEnds, setThread, setUser, setHandle, hu]
  · intro k u hu hk
    have hkh : k ≠ h := by
      rintro rfl
      exact hu (Option.some.inj (hk.symm.trans huser))
    have hko : k ≠ other := by
      rintro rfl
      exact hu (Option.some.inj (hk.symm.trans huserOther))
    simp [moveAssignEnds, setThread, setUser, setHandle, hkh, hko, hk]
  · simp [moveAssignEnds, setThread, setUser]

omit [DecidableEq τ] in
theorem destroy_inv {s : PoolSystem η τ} (hi : s.Inv) {t : τ} {h : η} {x : ScopedConnection}
    (ht : s.threads t = .idle) (hh : s.handles h = some x) (hfree : s.user h = none) :
    (s.destroy h x).Inv := by
  refine ⟨hi.safe.gaveBack hh rfl, ?_⟩
  refine busy_at_rest hi.busy ht rfl rfl ?_
  intro k u hk
  exact setHandle_handles _ (ne_of_user hfree hk)

omit [DecidableEq η] in
/-- A thread begins `Initialize`. -/
theorem initializing_inv {s : PoolSystem η τ} (hi : s.Inv) (t : τ) (poolSize : Nat) :
    (s.setThread t (.initializing poolSize)).Inv := by
  refine ⟨hi.safe.setThread t _, ?_⟩
  refine busy_of hi.busy t ?_ ?_ ?_
  · intro u hu
    simp [setThread, hu]
  · intro k u hu hk
    exact ⟨hk, rfl⟩
  · simp [Busy, setThread]

theorem step_inv {s s' : PoolSystem η τ} {label : PoolLabel η τ} (hi : s.Inv)
    (hstep : step s label = some s') : s'.Inv := by
  cases label with
  | initializeCall t poolSize =>
      simp only [step] at hstep
      split at hstep
      · split at hstep
        · cases hstep
          exact hi
        · cases hstep
          exact initializing_inv hi t poolSize
      · cases hstep
  | initializeLocked t connects =>
      simp only [step] at hstep
      split at hstep
      · rename_i poolSize ht
        split at hstep
        · cases hstep
          refine ⟨(hi.safe.supplied poolSize connects).setThread t .idle, ?_⟩
          refine busy_of hi.busy t ?_ ?_ (busy_idle (by simp [setThread]))
          · intro u hu
            simp [setThread, initializeLocked, hu]
          · intro k u hu hk
            exact ⟨hk, rfl⟩
        · cases hstep
      · cases hstep
  | acquire t h =>
      simp only [step] at hstep
      split at hstep
      · rename_i hfree
        cases hstep
        exact acquire_inv hi hfree.1 hfree.2.1 hfree.2.2
      · cases hstep
  | wake t timedOut =>
      simp only [step] at hstep
      split at hstep
      · rename_i h ht
        cases hstep
        exact wake_inv hi ht timedOut
      · cases hstep
  | construct t h =>
      simp only [step] at hstep
      split at hstep
      · rename_i hfree
        cases hstep
        exact hi.constructs hfree.1 hfree.2.1 hfree.2.2
      · cases hstep
  | moveConstruct t h other =>
      simp only [step] at hstep
      split at hstep
      · rename_i y hother
        split at hstep
        · rename_i hfree
          obtain ⟨ht, hh, huser, hfreeOther⟩ := hfree
          cases hstep
          exact moveConstruct_inv hi ht hh huser hother hfreeOther
        · cases hstep
      · cases hstep
  | moveAssign t h other =>
      simp only [step] at hstep
      split at hstep
      · rename_i x y hh hother
        split at hstep
        · rename_i hfree
          cases hstep
          exact moveAssign_inv hi hh hfree.2.1 hfree.2.2
        · cases hstep
      · cases hstep
  | moveAssignEnds t =>
      simp only [step] at hstep
      split at hstep
      · rename_i h other ht
        split at hstep
        · rename_i y hother
          cases hstep
          exact moveAssignEnds_inv hi ht hother
        · cases hstep
      · cases hstep
  | destroy t h =>
      simp only [step] at hstep
      split at hstep
      · rename_i x hh
        split at hstep
        · rename_i hfree
          cases hstep
          exact destroy_inv hi hfree.1 hh hfree.2
        · cases hstep
      · cases hstep

/-- In every state of every run, whatever the threads do and in whatever order,
    each created connection is in the pool or with one handle that returns it. -/
theorem connections_conserved (labels : List (PoolLabel η τ)) :
    Transition.Always step Conserved start labels := by
  have hinv : Transition.Always step Inv (start : PoolSystem η τ) labels :=
    Transition.always_of_meets (fun hi _ hstep => step_inv hi hstep) start_inv
      Transition.meets_true
  exact hinv.imp fun s hs => hs.safe.conserved

-- two connections; the one of handle 0 is overwritten by a move and goes back first
example :
    (Transition.exec step (start : PoolSystem Nat Nat)
      [.initializeCall 0 2, .initializeLocked 0 [true, true], .acquire 0 0, .acquire 1 1,
        .moveAssign 0 0 1, .moveAssignEnds 0, .destroy 1 0]).map (·.pool.available)
      = some [0, 1] := by
  decide

end PoolSystem

end MMOServers.Common
