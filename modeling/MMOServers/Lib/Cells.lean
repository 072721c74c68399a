/-
MMOServers.Lib.Cells — a family of sets that says where its items are.

An index over positions keeps, for every cell, the list of the items in it. The
lists stand for sets: an item is inserted once and removed everywhere in its
cell. `At cells i l` is what such an index is for: `l` is the one cell that has
the item `i`, or no cell has it when `l` is `none`.

`enter`, `leave` and `relocate` are what a program does when items come, go and
move; a position may be outside the index, so they take optional cells. `shift`
is the variant of `relocate` that does nothing unless it knows both cells. Every
operation is described on the item it is called for, by where that item was, and
on all other items, which stay where they are.
-/
import Mathlib.Logic.Function.Basic
import Mathlib.Data.List.Nodup

namespace Cells

variable {κ ι : Type*} [DecidableEq κ] [DecidableEq ι]

/-! ## Operations -/

/-- Put an item into a cell. -/
def add (cells : κ → List ι) (k : κ) (i : ι) : κ → List ι :=
  Function.update cells k ((cells k).insert i)

/-- Take an item out of a cell. -/
def remove (cells : κ → List ι) (k : κ) (i : ι) : κ → List ι :=
  Function.update cells k ((cells k).filter (· ≠ i))

theorem mem_add {cells : κ → List ι} {k k' : κ} {i j : ι} :
    j ∈ add cells k i k' ↔ (k' = k ∧ j = i) ∨ j ∈ cells k' := by
  unfold add
  by_cases hk : k' = k
  · subst hk
    simp
  · simp [hk]

theorem mem_remove {cells : κ → List ι} {k k' : κ} {i j : ι} :
    j ∈ remove cells k i k' ↔ j ∈ cells k' ∧ ¬ (k' = k ∧ j = i) := by
  unfold remove
  by_cases hk : k' = k
  · subst hk
    simp
  · simp [hk]

/-! ## Where an item is -/

omit [DecidableEq κ] [DecidableEq ι] in
/-- The item is in the cell `l`, and in no other. -/
def At (cells : κ → List ι) (i : ι) (l : Option κ) : Prop := ∀ k, i ∈ cells k ↔ l = some k

omit [DecidableEq κ] [DecidableEq ι] in
/-- An item is at one place only. -/
theorem At.unique {cells : κ → List ι} {i : ι} {l l' : Option κ} (h : At cells i l)
    (h' : At cells i l') : l = l' := by
  refine Option.ext fun k => ?_
  rw [← h k, h' k]

omit [DecidableEq κ] [DecidableEq ι] in
/-- An item is at a place exactly when the index has it as the place says. -/
theorem at_congr {cells cells' : κ → List ι} {i : ι} (h : ∀ k, i ∈ cells k ↔ i ∈ cells' k)
    {l : Option κ} : At cells i l ↔ At cells' i l :=
  forall_congr' fun k => by rw [h k]

theorem at_add {cells : κ → List ι} {i : ι} (h : At cells i none) (k : κ) :
    At (add cells k i) i (some k) := by
  intro k'
  rw [mem_add, h k', Option.some.injEq]
  simp [eq_comm]

theorem at_remove {cells : κ → List ι} {i : ι} {k : κ} (h : At cells i (some k)) :
    At (remove cells k i) i none := by
  intro k'
  rw [mem_remove, h k', Option.some.injEq]
  simp [eq_comm]

/-- Added to its new cell and then removed from the old one, an item has moved. -/
theorem at_remove_add {cells : κ → List ι} {i : ι} {k k' : κ} (h : At cells i (some k))
    (hne : k ≠ k') : At (remove (add cells k' i) k i) i (some k') := by
  intro k''
  rw [mem_remove, mem_add, h k'', Option.some.injEq, Option.some.injEq]
  constructor
  · rintro ⟨hin, hout⟩
    rcases hin with ⟨rfl, -⟩ | rfl
    · rfl
    · exact absurd ⟨rfl, rfl⟩ hout
  · rintro rfl
    exact ⟨Or.inl ⟨rfl, rfl⟩, fun h => hne h.1.symm⟩

/-! ## Cells without duplicates -/

omit [DecidableEq κ] [DecidableEq ι] in
/-- The items of different cells, when every item is at one place. -/
theorem nodup_flatMap {cells : κ → List ι} (hnodup : ∀ k, (cells k).Nodup)
    (hat : ∀ i, ∃ l, At cells i l) {list : κ → List ι} (hlist : ∀ k, (list k).Perm (cells k))
    {ks : List κ} (hks : ks.Nodup) : (ks.flatMap list).Nodup := by
  refine List.nodup_flatMap.mpr ⟨fun k _ => (hlist k).nodup_iff.mpr (hnodup k), ?_⟩
  refine hks.imp ?_
  intro k k' hne i hk hk'
  obtain ⟨l, hl⟩ := hat i
  have hik : l = some k := (hl k).mp ((hlist k).mem_iff.mp hk)
  have hik' : l = some k' := (hl k').mp ((hlist k').mem_iff.mp hk')
  exact hne (Option.some.inj (hik.symm.trans hik'))

theorem nodup_add {cells : κ → List ι} (h : ∀ k, (cells k).Nodup) (k : κ) (i : ι) (k' : κ) :
    (add cells k i k').Nodup := by
  unfold add
  by_cases hk : k' = k
  · subst hk
    simpa using (h k').insert
  · simpa [hk] using h k'

theorem nodup_remove {cells : κ → List ι} (h : ∀ k, (cells k).Nodup) (k : κ) (i : ι) (k' : κ) :
    (remove cells k i k').Nodup := by
  unfold remove
  by_cases hk : k' = k
  · subst hk
    simp only [Function.update_self]
    exact (h k').filter _
  · simpa [hk] using h k'

/-! ## Coming, going and moving -/

def enter (cells : κ → List ι) (l : Option κ) (i : ι) : κ → List ι :=
  match l with
  | none => cells
  | some k => add cells k i

def leave (cells : κ → List ι) (l : Option κ) (i : ι) : κ → List ι :=
  match l with
  | none => cells
  | some k => remove cells k i

/-- The move between two cells of the index. -/
def shift (cells : κ → List ι) (old new : Option κ) (i : ι) : κ → List ι :=
  match old, new with
  | some k, some k' => if k ≠ k' then remove (add cells k' i) k i else cells
  | _, _ => cells

/-- The move that also lets an item in from outside the index. -/
def relocate (cells : κ → List ι) (old new : Option κ) (i : ι) : κ → List ι :=
  match old with
  | none => enter cells new i
  | some k => shift cells (some k) new i

theorem At.enter {cells : κ → List ι} {i : ι} (h : At cells i none) (l : Option κ) :
    At (enter cells l i) i l := by
  cases l with
  | none => exact h
  | some k => exact at_add h k

theorem At.leave {cells : κ → List ι} {i : ι} {l : Option κ} (h : At cells i l) :
    At (leave cells l i) i none := by
  cases l with
  | none => exact h
  | some k => exact at_remove h

theorem At.shift {cells : κ → List ι} {i : ι} {k k' : κ} (h : At cells i (some k)) :
    At (shift cells (some k) (some k') i) i (some k') := by
  by_cases hne : k ≠ k'
  · rw [show Cells.shift cells (some k) (some k') i = _ from if_pos hne]
    exact at_remove_add h hne
  · rw [show Cells.shift cells (some k) (some k') i = _ from if_neg hne]
    rwa [← not_not.mp hne]

theorem At.relocate {cells : κ → List ι} {i : ι} {l : Option κ} (h : At cells i l) (k : κ) :
    At (relocate cells l (some k) i) i (some k) := by
  cases l with
  | none => exact h.enter (some k)
  | some k' => exact h.shift

theorem nodup_enter {cells : κ → List ι} (h : ∀ k, (cells k).Nodup) (l : Option κ) (i : ι)
    (k : κ) : (enter cells l i k).Nodup := by
  cases l with
  | none => exact h k
  | some k' => exact nodup_add h k' i k

theorem nodup_leave {cells : κ → List ι} (h : ∀ k, (cells k).Nodup) (l : Option κ) (i : ι)
    (k : κ) : (leave cells l i k).Nodup := by
  cases l with
  | none => exact h k
  | some k' => exact nodup_remove h k' i k

theorem nodup_relocate {cells : κ → List ι} (h : ∀ k, (cells k).Nodup) (old new : Option κ)
    (i : ι) (k : κ) : (relocate cells old new i k).Nodup := by
  unfold relocate
  cases old with
  | none => exact nodup_enter h new i k
  | some k' =>
      cases new with
      | none => exact h k
      | some k'' =>
          simp only [shift]
          split
          · exact nodup_remove (nodup_add h _ i) _ i k
          · exact h k

theorem mem_enter_other {cells : κ → List ι} {l : Option κ} {k : κ} {i j : ι} (hj : j ≠ i) :
    j ∈ enter cells l i k ↔ j ∈ cells k := by
  cases l with
  | none => rfl
  | some k' => simp [enter, mem_add, hj]

theorem mem_leave_other {cells : κ → List ι} {l : Option κ} {k : κ} {i j : ι} (hj : j ≠ i) :
    j ∈ leave cells l i k ↔ j ∈ cells k := by
  cases l with
  | none => rfl
  | some k' => simp [leave, mem_remove, hj]

theorem mem_shift_other {cells : κ → List ι} {old new : Option κ} {k : κ} {i j : ι}
    (hj : j ≠ i) : j ∈ shift cells old new i k ↔ j ∈ cells k := by
  unfold shift
  repeat' split
  · simp [mem_remove, mem_add, hj]
  · rfl
  · rfl

theorem mem_relocate_other {cells : κ → List ι} {old new : Option κ} {k : κ} {i j : ι}
    (hj : j ≠ i) : j ∈ relocate cells old new i k ↔ j ∈ cells k := by
  cases old with
  | none => exact mem_enter_other hj
  | some k' => exact mem_shift_other hj

/-- An item that is in its old cell is in the new one afterwards, wherever else it
    may be. -/
theorem mem_relocate_self {cells : κ → List ι} {old : Option κ} {i : ι}
    (h : ∀ l, old = some l → i ∈ cells l) (k : κ) : i ∈ relocate cells old (some k) i k := by
  cases old with
  | none => exact mem_add.mpr (Or.inl ⟨rfl, rfl⟩)
  | some l =>
      simp only [relocate, shift]
      split
      · rename_i hne
        exact mem_remove.mpr ⟨mem_add.mpr (Or.inl ⟨rfl, rfl⟩), fun h => hne h.1.symm⟩
      · rename_i heq
        rw [← not_not.mp heq]
        exact h l rfl

/-! ## The other items of a cell -/

theorem others_add (cells : κ → List ι) (k k' : κ) (i : ι) :
    (add cells k i k').filter (· ≠ i) = (cells k').filter (· ≠ i) := by
  unfold add
  by_cases hk : k' = k
  · subst hk
    rw [Function.update_self]
    by_cases hi : i ∈ cells k'
    · rw [List.insert_of_mem hi]
    · rw [List.insert_of_not_mem hi]
      simp
  · rw [Function.update_of_ne hk]

theorem others_remove (cells : κ → List ι) (k k' : κ) (i : ι) :
    (remove cells k i k').filter (· ≠ i) = (cells k').filter (· ≠ i) := by
  unfold remove
  by_cases hk : k' = k
  · subst hk
    rw [Function.update_self, List.filter_filter]
    simp
  · rw [Function.update_of_ne hk]

theorem others_relocate (cells : κ → List ι) (old new : Option κ) (i : ι) (k : κ) :
    (relocate cells old new i k).filter (· ≠ i) = (cells k).filter (· ≠ i) := by
  cases old with
  | none =>
      cases new with
      | none => rfl
      | some k' => exact others_add cells k' k i
  | some l =>
      cases new with
      | none => rfl
      | some k' =>
          simp only [relocate, shift]
          split
          · rw [others_remove, others_add]
          · rfl

end Cells
