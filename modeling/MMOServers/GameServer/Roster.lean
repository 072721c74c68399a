/-
MMOServers.GameServer.Roster — who is online, and where.

The abstract model behind the player tables of the game server: every online
account has a uid and a position, and an index of the uids by sector is kept
beside it. A roster changes in three ways only. An account enters under the next
uid, moves, or leaves.

`Linked` says that the uid table is the inverse of the player table, and
`Agree` what the index is for: every online player is in the sector of the grid
that contains its position and in no other, and nobody else is in any sector.
All three changes keep `Linked`; leaving keeps `Agree`, and entering and moving
keep it exactly for positions on the map.
-/
import MMOServers.GameServer.ZoneTheorems

namespace MMOServers.GameServer

open MMOServers.Common Cells

structure Roster (K : Type) where
  size : ZoneSize
  /-- The uid for the next account that enters. -/
  next : Nat
  players : String → Option (Place K)
  accounts : Nat → Option String
  cells : SectorIndex → List Nat

namespace Roster

variable {K : Type}

/-! ## The uid table -/

/-- The uid table is the inverse of the player table. -/
def Linked (r : Roster K) : Prop :=
  ∀ uid accId, r.accounts uid = some accId ↔ ∃ p, r.players accId = some p ∧ p.uid = uid

theorem Linked.account {r : Roster K} (h : r.Linked) {accId : String} {p : Place K}
    (hp : r.players accId = some p) : r.accounts p.uid = some accId :=
  (h p.uid accId).mpr ⟨p, hp, rfl⟩

/-- A uid belongs to one account. -/
theorem Linked.unique {r : Roster K} (h : r.Linked) {a b : String} {p q : Place K}
    (hp : r.players a = some p) (hq : r.players b = some q) (huid : p.uid = q.uid) : a = b := by
  have ha := h.account hp
  rw [huid, h.account hq, Option.some.injEq] at ha
  exact ha.symm

theorem Linked.fresh {r : Roster K} (h : r.Linked) {uid : Nat} (hfresh : r.accounts uid = none)
    {a : String} {p : Place K} (hp : r.players a = some p) : p.uid ≠ uid := by
  rintro rfl
  rw [h.account hp] at hfresh
  cases hfresh

/-! ## Changes -/

variable [Field K] [LinearOrder K] [FloorRing K]

def sectorOf (r : Roster K) (x y : K) : Option SectorIndex := r.size.getSectorIndex x y

def enter (r : Roster K) (accId : String) (p : Place K) : Roster K :=
  { r with
      next := (r.next + 1) % 2 ^ 64
      players := Function.update r.players accId (some p)
      accounts := Function.update r.accounts p.uid (some accId)
      cells := Cells.enter r.cells (r.sectorOf p.x p.y) p.uid }

/-- The account moves from its place `p`. -/
def move (r : Roster K) (accId : String) (p : Place K) (x y : K) : Roster K :=
  { r with
      players := Function.update r.players accId (some ⟨p.uid, x, y⟩)
      cells := Cells.relocate r.cells (r.sectorOf p.x p.y) (r.sectorOf x y) p.uid }

def leave (r : Roster K) (accId : String) (p : Place K) : Roster K :=
  { r with
      players := Function.update r.players accId none
      accounts := Function.update r.accounts p.uid none
      cells := Cells.leave r.cells (r.sectorOf p.x p.y) p.uid }

theorem enter_linked {r : Roster K} (h : r.Linked) {accId : String} {p : Place K}
    (hnew : r.players accId = none) (hfresh : r.accounts p.uid = none) :
    (r.enter accId p).Linked := by
  intro uid a
  show Function.update r.accounts p.uid (some accId) uid = some a
    ↔ ∃ q, Function.update r.players accId (some p) a = some q ∧ q.uid = uid
  by_cases ha : a = accId
  · subst ha
    rw [Function.update_self]
    by_cases huid : uid = p.uid
    · simp [huid]
    · rw [Function.update_of_ne huid, h uid a, hnew]
      simp [Ne.symm huid]
  · rw [Function.update_of_ne ha]
    by_cases huid : uid = p.uid
    · rw [huid, Function.update_self, Option.some.injEq]
      refine ⟨fun h => absurd h.symm ha, ?_⟩
      rintro ⟨q, hq, hquid⟩
      exact absurd hquid (h.fresh hfresh hq)
    · rw [Function.update_of_ne huid, h uid a]

theorem move_linked {r : Roster K} (h : r.Linked) {accId : String} {p : Place K}
    (hp : r.players accId = some p) (x y : K) : (r.move accId p x y).Linked := by
  intro uid a
  show r.accounts uid = some a
    ↔ ∃ q, Function.update r.players accId (some ⟨p.uid, x, y⟩) a = some q ∧ q.uid = uid
  rw [h uid a]
  by_cases ha : a = accId
  · subst ha
    rw [Function.update_self, hp]
    simp
  · rw [Function.update_of_ne ha]

theorem leave_linked {r : Roster K} (h : r.Linked) {accId : String} {p : Place K}
    (hp : r.players accId = some p) : (r.leave accId p).Linked := by
  intro uid a
  show Function.update r.accounts p.uid none uid = some a
    ↔ ∃ q, Function.update r.players accId none a = some q ∧ q.uid = uid
  by_cases ha : a = accId
  · subst ha
    rw [Function.update_self]
    by_cases huid : uid = p.uid
    · simp [huid]
    · rw [Function.update_of_ne huid, h uid a, hp]
      simp [Ne.symm huid]
  · rw [Function.update_of_ne ha]
    by_cases huid : uid = p.uid
    · rw [huid, Function.update_self]
      refine ⟨fun h => (nomatch h), ?_⟩
      rintro ⟨q, hq, hquid⟩
      exact absurd (h.unique hq hp hquid) ha
    · rw [Function.update_of_ne huid, h uid a]

/-! ## The index -/

/-- The index has every online player where it is, and nobody else. -/
structure Agree (r : Roster K) : Prop where
  tracked : ∀ accId p, r.players accId = some p →
    ∃ k, r.size.Contains k p.x p.y ∧ At r.cells p.uid (some k)
  online : ∀ k uid, uid ∈ r.cells k → ∃ accId p, r.players accId = some p ∧ p.uid = uid

variable [IsStrictOrderedRing K]

theorem Agree.inside {r : Roster K} (h : r.Agree) (hs : 0 < r.size.sectorSize)
    {accId : String} {p : Place K} (hp : r.players accId = some p) :
    r.size.Inside p.x p.y := by
  obtain ⟨k, hk, -⟩ := h.tracked accId p hp
  exact (ZoneSize.inside_iff_contains hs).mpr ⟨k, hk⟩

/-- A player is where the index has it. -/
theorem Agree.at_sectorOf {r : Roster K} (h : r.Agree) (hs : 0 < r.size.sectorSize)
    {accId : String} {p : Place K} (hp : r.players accId = some p) :
    At r.cells p.uid (r.sectorOf p.x p.y) := by
  obtain ⟨k, hk, hat⟩ := h.tracked accId p hp
  rwa [sectorOf, (ZoneSize.getSectorIndex_eq_some_iff hs).mpr hk]

omit [IsStrictOrderedRing K] [FloorRing K] in
theorem Agree.at_none {r : Roster K} (h : r.Agree) (hl : r.Linked) {uid : Nat}
    (hfresh : r.accounts uid = none) : At r.cells uid none := by
  intro k
  refine ⟨fun hin => ?_, fun h => (nomatch h)⟩
  obtain ⟨accId, p, hp, rfl⟩ := h.online k uid hin
  exact absurd rfl (hl.fresh hfresh hp)

/-- A change that concerns one account keeps `Agree` when its own player ends up
    in the sector of its new position and all other uids stay where they are. -/
theorem agree_update {r : Roster K} (h : r.Agree) (hs : 0 < r.size.sectorSize)
    {accId : String} {p : Place K} {next : Nat} {accounts : Nat → Option String}
    {cells : SectorIndex → List Nat}
    (hother : ∀ b q, b ≠ accId → r.players b = some q → q.uid ≠ p.uid)
    (hold : ∀ q, r.players accId = some q → q.uid = p.uid)
    (hin : r.size.Inside p.x p.y) (hat : At cells p.uid (r.sectorOf p.x p.y))
    (hcells : ∀ uid k, uid ≠ p.uid → (uid ∈ cells k ↔ uid ∈ r.cells k)) :
    Agree { r with next := next, players := Function.update r.players accId (some p)
                   accounts := accounts, cells := cells } := by
  refine ⟨fun b q hq => ?_, fun k uid hmem => ?_⟩
  · replace hq : Function.update r.players accId (some p) b = some q := hq
    by_cases hb : b = accId
    · rw [hb, Function.update_self, Option.some.injEq] at hq
      subst hq
      obtain ⟨k, hk⟩ := Option.isSome_iff_exists.mp
        (ZoneSize.getSectorIndex_isSome_iff.mpr hin)
      refine ⟨k, (ZoneSize.getSectorIndex_eq_some_iff hs).mp hk, ?_⟩
      rwa [sectorOf, hk] at hat
    · rw [Function.update_of_ne hb] at hq
      obtain ⟨k, hk, hat'⟩ := h.tracked b q hq
      exact ⟨k, hk, (at_congr fun k => hcells q.uid k (hother b q hb hq)).mpr hat'⟩
  · show ∃ b q, Function.update r.players accId (some p) b = some q ∧ q.uid = uid
    by_cases huid : uid = p.uid
    · exact ⟨accId, p, Function.update_self _ _ _, huid.symm⟩
    · obtain ⟨b, q, hq, hquid⟩ := h.online k uid ((hcells uid k huid).mp hmem)
      have hb : b ≠ accId := by
        rintro rfl
        exact huid (hquid.symm.trans (hold q hq))
      exact ⟨b, q, by rw [Function.update_of_ne hb, hq], hquid⟩

theorem enter_agree {r : Roster K} (h : r.Agree) (hl : r.Linked) (hs : 0 < r.size.sectorSize)
    {accId : String} {p : Place K} (hnew : r.players accId = none)
    (hfresh : r.accounts p.uid = none) (hin : r.size.Inside p.x p.y) :
    (r.enter accId p).Agree := by
  refine agree_update h hs (fun b q _ hq => hl.fresh hfresh hq) (fun q hq => ?_) hin
    ((h.at_none hl hfresh).enter _) (fun uid k huid => mem_enter_other huid)
  rw [hnew] at hq
  cases hq

theorem move_agree {r : Roster K} (h : r.Agree) (hl : r.Linked) (hs : 0 < r.size.sectorSize)
    {accId : String} {p : Place K} (hp : r.players accId = some p) {x y : K}
    (hin : r.size.Inside x y) : (r.move accId p x y).Agree := by
  have hat : At (r.move accId p x y).cells p.uid (r.sectorOf x y) := by
    obtain ⟨k, hk⟩ := Option.isSome_iff_exists.mp (ZoneSize.getSectorIndex_isSome_iff.mpr hin)
    have hmoved := (h.at_sectorOf hs hp).relocate k
    rw [← hk] at hmoved
    exact hmoved
  refine agree_update (p := ⟨p.uid, x, y⟩) h hs (fun b q hb hq huid => ?_) (fun q hq => ?_)
    hin hat (fun uid k huid => mem_relocate_other huid)
  · exact hb (hl.unique hq hp huid)
  · rw [hp, Option.some.injEq] at hq
    rw [← hq]

/-- Off the map there is no sector to be in. -/
theorem move_not_agree {r : Roster K} (hs : 0 < r.size.sectorSize) {accId : String}
    {p : Place K} {x y : K} (hout : ¬ r.size.Inside x y) : ¬ (r.move accId p x y).Agree := by
  intro h
  have hmoved : (r.move accId p x y).players accId = some ⟨p.uid, x, y⟩ :=
    Function.update_self _ _ _
  exact hout (h.inside hs hmoved)

theorem leave_agree {r : Roster K} (h : r.Agree) (hl : r.Linked) (hs : 0 < r.size.sectorSize)
    {accId : String} {p : Place K} (hp : r.players accId = some p) :
    (r.leave accId p).Agree := by
  have hgone : At (r.leave accId p).cells p.uid none := (h.at_sectorOf hs hp).leave
  have hcells : ∀ uid k, uid ≠ p.uid →
      (uid ∈ (r.leave accId p).cells k ↔ uid ∈ r.cells k) :=
    fun uid k huid => mem_leave_other huid
  refine ⟨fun b q hq => ?_, fun k uid hmem => ?_⟩
  · replace hq : Function.update r.players accId none b = some q := hq
    by_cases hb : b = accId
    · rw [hb, Function.update_self] at hq
      cases hq
    · rw [Function.update_of_ne hb] at hq
      obtain ⟨k, hk, hat⟩ := h.tracked b q hq
      have huid : q.uid ≠ p.uid := fun huid => hb (hl.unique hq hp huid)
      exact ⟨k, hk, (at_congr fun k => hcells q.uid k huid).mpr hat⟩
  · have huid : uid ≠ p.uid := by
      rintro rfl
      exact absurd ((hgone k).mp hmem) nofun
    obtain ⟨b, q, hq, hquid⟩ := h.online k uid ((hcells uid k huid).mp hmem)
    have hb : b ≠ accId := by
      rintro rfl
      rw [hp, Option.some.injEq] at hq
      exact huid (hquid.symm.trans (congrArg Place.uid hq.symm))
    refine ⟨b, q, ?_, hquid⟩
    show Function.update r.players accId none b = some q
    rw [Function.update_of_ne hb, hq]

/-! ## Move requests -/

/-- What a move request does for an account: a new one enters first, under the
    next uid. -/
def moveTo (r : Roster K) (accId : String) (x y : K) : Roster K :=
  match r.players accId with
  | some p => r.move accId p x y
  | none => (r.enter accId ⟨r.next, x, y⟩).move accId ⟨r.next, x, y⟩ x y

omit [IsStrictOrderedRing K] in
theorem enter_self (r : Roster K) (accId : String) (p : Place K) :
    (r.enter accId p).players accId = some p := Function.update_self _ _ _

omit [IsStrictOrderedRing K] in
theorem moveTo_linked {r : Roster K} (hl : r.Linked) {accId : String}
    (hfresh : r.players accId = none → r.accounts r.next = none) (x y : K) :
    (r.moveTo accId x y).Linked := by
  unfold moveTo
  split
  · rename_i p hp
    exact move_linked hl hp x y
  · rename_i hnew
    exact move_linked (enter_linked hl hnew (hfresh hnew)) (enter_self r accId _) x y

omit [IsStrictOrderedRing K] in
theorem moveTo_size (r : Roster K) (accId : String) (x y : K) :
    (r.moveTo accId x y).size = r.size := by
  unfold moveTo
  split <;> rfl

/-- A move request keeps the index right exactly when it stays on the map. -/
theorem moveTo_agree_iff {r : Roster K} (h : r.Agree) (hl : r.Linked)
    (hs : 0 < r.size.sectorSize) {accId : String}
    (hfresh : r.players accId = none → r.accounts r.next = none) {x y : K} :
    (r.moveTo accId x y).Agree ↔ r.size.Inside x y := by
  unfold moveTo
  split
  · rename_i p hp
    refine ⟨fun hmoved => ?_, move_agree h hl hs hp⟩
    by_contra hout
    exact move_not_agree hs hout hmoved
  · rename_i hnew
    have hl' := enter_linked hl (p := ⟨r.next, x, y⟩) hnew (hfresh hnew)
    refine ⟨fun hmoved => ?_, fun hin => ?_⟩
    · by_contra hout
      exact move_not_agree (r := r.enter accId ⟨r.next, x, y⟩) hs hout hmoved
    · have hentered := enter_agree h hl hs (p := ⟨r.next, x, y⟩) hnew (hfresh hnew) hin
      exact move_agree hentered hl' hs (enter_self r accId _) hin

/-- No account has the next uid, or one after it. -/
def Unissued (r : Roster K) : Prop := ∀ uid, r.next ≤ uid → r.accounts uid = none

omit [IsStrictOrderedRing K] in
/-- While the counter does not wrap around, the uids it gives out are new. -/
theorem moveTo_unissued {r : Roster K} (h : r.Unissued) (hnext : r.next + 1 < 2 ^ 64)
    (accId : String) (x y : K) :
    (r.moveTo accId x y).next ≤ r.next + 1 ∧ (r.moveTo accId x y).Unissued := by
  unfold moveTo
  split
  · exact ⟨Nat.le_succ _, h⟩
  · have hcount : ((r.enter accId ⟨r.next, x, y⟩).move accId ⟨r.next, x, y⟩ x y).next
        = r.next + 1 := Nat.mod_eq_of_lt hnext
    refine ⟨hcount.le, fun uid huid => ?_⟩
    rw [hcount] at huid
    show Function.update r.accounts r.next (some accId) uid = none
    rw [Function.update_of_ne (by omega)]
    exact h uid (by omega)

/-! ## Changes that nobody asks for -/

/-- The roster after some accounts have left or were sent home. -/
inductive Drifts (homeX homeY : K) (r : Roster K) : Roster K → Prop where
  | refl : Drifts homeX homeY r r
  | leave {r' : Roster K} {accId : String} {p : Place K} (h : Drifts homeX homeY r r')
      (hp : r'.players accId = some p) : Drifts homeX homeY r (r'.leave accId p)
  | home {r' : Roster K} {accId : String} {p : Place K} (h : Drifts homeX homeY r r')
      (hp : r'.players accId = some p) :
      Drifts homeX homeY r (r'.move accId p homeX homeY)

omit [IsStrictOrderedRing K] in
theorem Drifts.trans {homeX homeY : K} {r₁ r₂ r₃ : Roster K} (h : Drifts homeX homeY r₁ r₂)
    (h' : Drifts homeX homeY r₂ r₃) : Drifts homeX homeY r₁ r₃ := by
  induction h' with
  | refl => exact h
  | leave _ hp ih => exact ih.leave hp
  | home _ hp ih => exact ih.home hp

omit [IsStrictOrderedRing K] in
theorem Drifts.size {homeX homeY : K} {r r' : Roster K} (h : Drifts homeX homeY r r') :
    r'.size = r.size := by
  induction h with
  | refl => rfl
  | leave _ _ ih => exact ih
  | home _ _ ih => exact ih

omit [IsStrictOrderedRing K] in
theorem Drifts.next {homeX homeY : K} {r r' : Roster K} (h : Drifts homeX homeY r r') :
    r'.next = r.next := by
  induction h with
  | refl => rfl
  | leave _ _ ih => exact ih
  | home _ _ ih => exact ih

omit [IsStrictOrderedRing K] in
theorem Drifts.unissued {homeX homeY : K} {r r' : Roster K} (h : Drifts homeX homeY r r')
    (hu : r.Unissued) : r'.Unissued := by
  induction h with
  | refl => exact hu
  | @leave r' _ p _ _ ih =>
      intro uid huid
      show Function.update r'.accounts p.uid none uid = none
      rw [Function.update_apply]
      split
      · rfl
      · exact ih uid huid
  | home _ _ ih => exact ih

omit [IsStrictOrderedRing K] in
theorem Drifts.linked {homeX homeY : K} {r r' : Roster K} (h : Drifts homeX homeY r r')
    (hl : r.Linked) : r'.Linked := by
  induction h with
  | refl => exact hl
  | leave _ hp ih => exact leave_linked ih hp
  | home _ hp ih => exact move_linked ih hp homeX homeY

theorem Drifts.agree {homeX homeY : K} {r r' : Roster K} (h : Drifts homeX homeY r r')
    (hl : r.Linked) (hs : 0 < r.size.sectorSize) (hhome : r.size.Inside homeX homeY)
    (ha : r.Agree) : r'.Agree := by
  induction h with
  | refl => exact ha
  | leave h hp ih => exact leave_agree ih (h.linked hl) (h.size ▸ hs) hp
  | home h hp ih => exact move_agree ih (h.linked hl) (h.size ▸ hs) hp (h.size ▸ hhome)

end Roster

end MMOServers.GameServer
