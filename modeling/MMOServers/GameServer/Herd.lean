/-
MMOServers.GameServer.Herd — monsters on the grid.

The abstract model behind the monster tables of the game server: a list of
monsters, each with an id and a position, and an index of the ids by sector. A
monster joins the herd once. From then on it either jumps, its position changing
and the index not, or walks, the index following from the sector of its old
position to that of the new one.

`PlacedAt` says of one monster that the index has its id in the sector that
contains its position and in no other. A jump keeps this exactly within a sector
and a walk exactly on the map, and neither is of any matter to other monsters.
-/
import MMOServers.GameServer.ZoneTheorems

namespace MMOServers.GameServer

open MMOServers.Common Cells

structure Herd (K : Type) where
  size : ZoneSize
  beasts : List (Place K)
  cells : SectorIndex → List Nat

namespace Herd

variable {K : Type}

theorem set_eq_self {α : Type} {l : List α} {i : Nat} {a : α} (h : l[i]? = some a) :
    l.set i a = l := by
  obtain ⟨hlt, rfl⟩ := List.getElem?_eq_some_iff.mp h
  exact List.set_getElem_self hlt

/-- The ids of the herd. -/
def ids (h : Herd K) : List Nat := h.beasts.map Place.uid

theorem mem_ids {h : Herd K} {i : Nat} {p : Place K} (hp : h.beasts[i]? = some p) :
    p.uid ∈ h.ids := List.mem_map_of_mem (List.mem_of_getElem? hp)

/-- Two places of a herd have different ids. -/
theorem uid_ne {h : Herd K} (hd : h.ids.Nodup) {i j : Nat} {p q : Place K}
    (hp : h.beasts[i]? = some p) (hq : h.beasts[j]? = some q) (hij : i ≠ j) :
    p.uid ≠ q.uid := by
  intro huid
  have hi : h.ids[i]? = some p.uid := by rw [ids, List.getElem?_map, hp]; rfl
  have hj : h.ids[j]? = some p.uid := by rw [ids, List.getElem?_map, hq, huid]; rfl
  obtain ⟨hlt, -⟩ := List.getElem?_eq_some_iff.mp hi
  exact hij ((List.getElem?_inj hlt hd).mp (hi.trans hj.symm))

/-! ## Changes -/

/-- The monster goes to a new position, and the index does not follow. -/
def jump (h : Herd K) (i : Nat) (p : Place K) (x y : K) : Herd K :=
  { h with beasts := h.beasts.set i ⟨p.uid, x, y⟩ }

theorem jump_ids {h : Herd K} {i : Nat} {p : Place K} (hp : h.beasts[i]? = some p) (x y : K) :
    (h.jump i p x y).ids = h.ids := by
  have hi : h.ids[i]? = some p.uid := by rw [ids, List.getElem?_map, hp]; rfl
  show (h.beasts.set i _).map Place.uid = h.ids
  rw [List.map_set]
  exact set_eq_self hi

theorem jump_stay {h : Herd K} {i : Nat} {p : Place K} (hp : h.beasts[i]? = some p) :
    h.jump i p p.x p.y = h := by
  unfold jump
  rw [set_eq_self hp]

theorem jump_self {h : Herd K} {i : Nat} {p : Place K} (hp : h.beasts[i]? = some p) (x y : K) :
    (h.jump i p x y).beasts[i]? = some ⟨p.uid, x, y⟩ := by
  obtain ⟨hlt, -⟩ := List.getElem?_eq_some_iff.mp hp
  exact List.getElem?_set_self hlt

theorem jump_other {h : Herd K} {i j : Nat} {p : Place K} (hij : i ≠ j) (x y : K) :
    (h.jump i p x y).beasts[j]? = h.beasts[j]? := List.getElem?_set_ne hij

variable [Field K] [LinearOrder K] [FloorRing K]

def sectorOf (h : Herd K) (x y : K) : Option SectorIndex := h.size.getSectorIndex x y

/-- A new monster. -/
def join (h : Herd K) (p : Place K) : Herd K :=
  { h with
      beasts := h.beasts ++ [p]
      cells := Cells.enter h.cells (h.sectorOf p.x p.y) p.uid }

/-- The monster goes to a new position, and the index follows. -/
def walk (h : Herd K) (i : Nat) (p : Place K) (x y : K) : Herd K :=
  { h.jump i p x y with
      cells := Cells.shift h.cells (h.sectorOf p.x p.y) (h.sectorOf x y) p.uid }

theorem walk_ids {h : Herd K} {i : Nat} {p : Place K}
    (hp : h.beasts[i]? = some p) (x y : K) : (h.walk i p x y).ids = h.ids := jump_ids hp x y

/-! ## The index -/

omit [FloorRing K] in
/-- The index has the monster where it is. -/
def PlacedAt (h : Herd K) (i : Nat) : Prop :=
  ∀ p, h.beasts[i]? = some p → ∃ k, h.size.Contains k p.x p.y ∧ At h.cells p.uid (some k)

omit [FloorRing K] in
theorem placedAt_jump_other {h : Herd K} {i j : Nat} {p : Place K} (hij : i ≠ j) (x y : K) :
    (h.jump i p x y).PlacedAt j ↔ h.PlacedAt j := by
  unfold PlacedAt
  rw [jump_other hij]
  rfl

theorem placedAt_walk_other {h : Herd K} (hd : h.ids.Nodup) {i j : Nat} {p : Place K}
    (hp : h.beasts[i]? = some p) (hij : i ≠ j) (x y : K) :
    (h.walk i p x y).PlacedAt j ↔ h.PlacedAt j := by
  show (∀ q, (h.jump i p x y).beasts[j]? = some q → _) ↔ _
  rw [jump_other hij]
  refine forall_congr' fun q => forall_congr' fun hq => exists_congr fun k => ?_
  have hcells : ∀ k, q.uid ∈ (h.walk i p x y).cells k ↔ q.uid ∈ h.cells k :=
    fun k => mem_shift_other (uid_ne hd hq hp hij.symm)
  exact and_congr_right fun _ => at_congr hcells

variable [IsStrictOrderedRing K]

/-- Without the index following, a monster must stay in its sector. -/
theorem placedAt_jump_iff {h : Herd K} (hs : 0 < h.size.sectorSize) {i : Nat} {p : Place K}
    (hp : h.beasts[i]? = some p) (hplaced : h.PlacedAt i) (x y : K) :
    (h.jump i p x y).PlacedAt i ↔ h.size.SameSector p.x p.y x y := by
  obtain ⟨k, hk, hat⟩ := hplaced p hp
  unfold PlacedAt
  rw [jump_self hp]
  constructor
  · intro hjumped
    obtain ⟨k', hk', hat'⟩ := hjumped _ rfl
    obtain rfl : k = k' := Option.some.inj (At.unique hat hat')
    exact ⟨k, hk, hk'⟩
  · rintro ⟨k', hold, hnew⟩ q hq
    obtain rfl := Option.some.inj hq
    obtain rfl : k = k' := ZoneSize.Contains.unique hs hk hold
    exact ⟨k, hnew, hat⟩

/-- With the index following, it must stay on the map. -/
theorem placedAt_walk_iff {h : Herd K} (hs : 0 < h.size.sectorSize) {i : Nat} {p : Place K}
    (hp : h.beasts[i]? = some p) (hplaced : h.PlacedAt i) (x y : K) :
    (h.walk i p x y).PlacedAt i ↔ h.size.Inside x y := by
  obtain ⟨k, hk, hat⟩ := hplaced p hp
  rw [ZoneSize.inside_iff_contains hs]
  constructor
  · intro hwalked
    obtain ⟨k', hk', -⟩ := hwalked _ (jump_self hp x y)
    exact ⟨k', hk'⟩
  · rintro ⟨k', hk'⟩ q hq
    obtain rfl := Option.some.inj ((jump_self hp x y).symm.trans hq)
    refine ⟨k', hk', ?_⟩
    have hold : h.sectorOf p.x p.y = some k := (ZoneSize.getSectorIndex_eq_some_iff hs).mpr hk
    have hnew : h.sectorOf x y = some k' := (ZoneSize.getSectorIndex_eq_some_iff hs).mpr hk'
    show At (Cells.shift h.cells (h.sectorOf p.x p.y) (h.sectorOf x y) p.uid) p.uid (some k')
    rw [hold, hnew]
    exact hat.shift

/-! ## A herd from nothing -/

omit [FloorRing K] [IsStrictOrderedRing K] in
/-- Every monster is in place, and the index has no others. -/
structure Settled (h : Herd K) : Prop where
  distinct : h.ids.Nodup
  placed : ∀ i, h.PlacedAt i
  known : ∀ k uid, uid ∈ h.cells k → uid ∈ h.ids

theorem Settled.join {h : Herd K} (hset : h.Settled) (hs : 0 < h.size.sectorSize)
    {p : Place K} (hnew : p.uid ∉ h.ids) (hin : h.size.Inside p.x p.y) : (h.join p).Settled := by
  have hids : (h.join p).ids = h.ids ++ [p.uid] := List.map_append
  have habsent : At h.cells p.uid none :=
    fun k => ⟨fun hmem => absurd (hset.known k p.uid hmem) hnew, fun h => (nomatch h)⟩
  refine ⟨?_, fun i q hq => ?_, fun k uid hmem => ?_⟩
  · rw [hids, List.nodup_append]
    refine ⟨hset.distinct, List.pairwise_singleton _ _, fun a ha b hb => ?_⟩
    rw [List.mem_singleton.mp hb]
    exact fun hab => hnew (hab ▸ ha)
  · show ∃ k, _ ∧ At (Cells.enter h.cells (h.sectorOf p.x p.y) p.uid) q.uid (some k)
    replace hq : (h.beasts ++ [p])[i]? = some q := hq
    rw [List.getElem?_append] at hq
    split at hq
    · have hother : q.uid ≠ p.uid := fun huid => hnew (huid ▸ mem_ids hq)
      obtain ⟨k, hk, hat⟩ := hset.placed i q hq
      exact ⟨k, hk, (at_congr fun k => mem_enter_other hother).mpr hat⟩
    · obtain rfl := List.mem_singleton.mp (List.mem_of_getElem? hq)
      obtain ⟨k, hk⟩ := (ZoneSize.inside_iff_contains hs).mp hin
      refine ⟨k, hk, ?_⟩
      have hentered := habsent.enter (h.sectorOf q.x q.y)
      rwa [show h.sectorOf q.x q.y = some k from
        (ZoneSize.getSectorIndex_eq_some_iff hs).mpr hk] at hentered ⊢
  · rw [hids, List.mem_append, List.mem_singleton]
    by_cases huid : uid = p.uid
    · exact Or.inr huid
    · exact Or.inl (hset.known k uid ((mem_enter_other huid).mp hmem))

end Herd

end MMOServers.GameServer
