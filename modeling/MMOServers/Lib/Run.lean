/-
MMOServers.Lib.Run — runs of a deterministic labelled step function.

A system is a function `step : σ → α → Option σ`: a label that is not enabled
in a state has no successor there. Interleavings of tasks, packet orders and
failure outcomes are all put into the label, so a run is a list of labels and
"for every run" is a quantifier over lists.

Two predicates on runs are what the rest of the development speaks about.
`Always P` says that `P` holds in every state the run goes through, its first
and its last included. `Meets C` says that every step the run takes satisfies
`C` in the state it is taken from; `C` is how a condition under which a
property survives is written down.

The rules are the usual ones. `always_of_meets` is the invariant rule relative
to a step condition, and `always_iff_meets` is its sharp form: when a step that
violates `C` is seen to break `P`, the runs on which `P` always holds are
exactly those that meet `C`; `always_iff_meets_of_meets` says this among the
runs that meet another condition. `always_iff_exec` reads `Always` back as a
statement about every reached state.

`count C` is the number of steps of a run that satisfy `C`, for properties that
hold as long as something has not happened too often; `exec_inv_count` is the
invariant rule that may mention that number.

`clocked` is the system beside a clock: labels may carry readings, and a run in
which a reading is earlier than the one before it does not exist.
-/
import Mathlib.Data.List.Basic

namespace Transition

variable {σ α : Type*} (step : σ → α → Option σ)

/-! ## Runs -/

/-- The state a run ends in, when all its labels are enabled one after another. -/
def exec : σ → List α → Option σ
  | s, [] => some s
  | s, a :: as => (step s a).bind fun s' => exec s' as

/-- `P` holds in every state the run goes through. -/
def Always (P : σ → Prop) : σ → List α → Prop
  | s, [] => P s
  | s, a :: as => P s ∧ match step s a with
      | none => True
      | some s' => Always P s' as

/-- Every step the run takes satisfies `C` in the state it is taken from. -/
def Meets (C : σ → α → Prop) : σ → List α → Prop
  | _, [] => True
  | s, a :: as => match step s a with
      | none => True
      | some s' => C s a ∧ Meets C s' as

instance decidableAlways (P : σ → Prop) [DecidablePred P] (s : σ) :
    (as : List α) → Decidable (Always step P s as)
  | [] => inferInstanceAs (Decidable (P s))
  | a :: as =>
      have : Decidable (match step s a with
          | none => True
          | some s' => Always step P s' as) :=
        match step s a with
        | none => isTrue trivial
        | some s' => decidableAlways P s' as
      inferInstanceAs (Decidable (P s ∧ _))

instance decidableMeets (C : σ → α → Prop) [∀ s a, Decidable (C s a)] (s : σ) :
    (as : List α) → Decidable (Meets step C s as)
  | [] => isTrue trivial
  | a :: as =>
      match h : step s a with
      | none => isTrue (by simp only [Meets, h])
      | some s' =>
          have := decidableMeets C s' as
          decidable_of_iff (C s a ∧ Meets step C s' as) (by simp only [Meets, h])

@[simp] theorem exec_nil (s : σ) : exec step s [] = some s := rfl

theorem exec_cons (s : σ) (a : α) (as : List α) :
    exec step s (a :: as) = (step s a).bind fun s' => exec step s' as := rfl

variable {step}

theorem always_cons {P : σ → Prop} {s : σ} {a : α} {as : List α} :
    Always step P s (a :: as) ↔ P s ∧ ∀ s', step s a = some s' → Always step P s' as := by
  cases h : step s a <;> simp [Always, h]

theorem meets_cons {C : σ → α → Prop} {s : σ} {a : α} {as : List α} :
    Meets step C s (a :: as)
      ↔ ∀ s', step s a = some s' → C s a ∧ Meets step C s' as := by
  cases h : step s a <;> simp [Meets, h]

theorem exec_cons_some {s t : σ} {a : α} {as : List α} :
    exec step s (a :: as) = some t ↔ ∃ s', step s a = some s' ∧ exec step s' as = some t := by
  simp [exec_cons, Option.bind_eq_some_iff]

theorem exec_append_some {s t : σ} {as bs : List α} :
    exec step s (as ++ bs) = some t ↔ ∃ u, exec step s as = some u ∧ exec step u bs = some t := by
  induction as generalizing s with
  | nil => simp
  | cons a as ih =>
      rw [List.cons_append, exec_cons_some]
      constructor
      · rintro ⟨s', hs', ht⟩
        obtain ⟨u, hu, hut⟩ := ih.mp ht
        exact ⟨u, exec_cons_some.mpr ⟨s', hs', hu⟩, hut⟩
      · rintro ⟨u, hu, hut⟩
        obtain ⟨s', hs', hu⟩ := exec_cons_some.mp hu
        exact ⟨s', hs', ih.mpr ⟨u, hu, hut⟩⟩

/-! ## Invariants of runs -/

theorem Always.head {P : σ → Prop} {s : σ} {as : List α} (h : Always step P s as) : P s := by
  cases as with
  | nil => exact h
  | cons a as => exact h.1

/-- `Always` is a statement about the end states of all prefixes. -/
theorem always_iff_exec {P : σ → Prop} {s : σ} {as : List α} :
    Always step P s as
      ↔ ∀ pre, pre <+: as → ∀ t, exec step s pre = some t → P t := by
  induction as generalizing s with
  | nil =>
      constructor
      · intro h pre hpre t ht
        rw [List.prefix_nil.mp hpre, exec_nil, Option.some.injEq] at ht
        exact ht ▸ h
      · intro h
        exact h [] (List.prefix_refl _) s rfl
  | cons a as ih =>
      constructor
      · intro h pre hpre t ht
        obtain ⟨hs, hstep⟩ := always_cons.mp h
        cases pre with
        | nil =>
            rw [exec_nil, Option.some.injEq] at ht
            exact ht ▸ hs
        | cons b pre =>
            obtain ⟨rfl, htail⟩ := List.cons_prefix_cons.mp hpre
            obtain ⟨s', hs', ht⟩ := exec_cons_some.mp ht
            exact ih.mp (hstep s' hs') pre htail t ht
      · intro h
        refine always_cons.mpr ⟨h [] List.nil_prefix s rfl, ?_⟩
        intro s' hs'
        refine ih.mpr ?_
        intro pre hpre t ht
        exact h (a :: pre) (List.cons_prefix_cons.mpr ⟨rfl, hpre⟩) t
          (exec_cons_some.mpr ⟨s', hs', ht⟩)

/-- An invariant of a single step is an invariant of every run. -/
theorem exec_inv {Inv : σ → Prop}
    (hstep : ∀ {s a s'}, Inv s → step s a = some s' → Inv s')
    {s t : σ} {as : List α} (hs : Inv s) (h : exec step s as = some t) : Inv t := by
  induction as generalizing s with
  | nil =>
      rw [exec_nil, Option.some.injEq] at h
      exact h ▸ hs
  | cons a as ih =>
      obtain ⟨s', hs', ht⟩ := exec_cons_some.mp h
      exact ih (hstep hs hs') ht

/-- The invariant rule relative to a step condition. -/
theorem always_of_meets {P : σ → Prop} {C : σ → α → Prop}
    (hstep : ∀ {s a s'}, P s → C s a → step s a = some s' → P s')
    {s : σ} {as : List α} (hs : P s) (h : Meets step C s as) : Always step P s as := by
  induction as generalizing s with
  | nil => exact hs
  | cons a as ih =>
      refine always_cons.mpr ⟨hs, ?_⟩
      intro s' hs'
      obtain ⟨hc, hrest⟩ := meets_cons.mp h s' hs'
      exact ih (hstep hs hc hs') hrest

theorem Always.imp {P Q : σ → Prop} (hPQ : ∀ s, P s → Q s) {s : σ} {as : List α}
    (h : Always step P s as) : Always step Q s as := by
  induction as generalizing s with
  | nil => exact hPQ s h
  | cons a as ih =>
      obtain ⟨hs, hrest⟩ := always_cons.mp h
      exact always_cons.mpr ⟨hPQ s hs, fun s' hs' => ih (hrest s' hs')⟩

theorem Always.and {P Q : σ → Prop} {s : σ} {as : List α} (hP : Always step P s as)
    (hQ : Always step Q s as) : Always step (fun t => P t ∧ Q t) s as := by
  induction as generalizing s with
  | nil => exact ⟨hP, hQ⟩
  | cons a as ih =>
      obtain ⟨hPs, hPrest⟩ := always_cons.mp hP
      obtain ⟨hQs, hQrest⟩ := always_cons.mp hQ
      exact always_cons.mpr ⟨⟨hPs, hQs⟩, fun s' hs' => ih (hPrest s' hs') (hQrest s' hs')⟩

theorem Meets.imp {C D : σ → α → Prop} (hCD : ∀ s a, C s a → D s a) {s : σ} {as : List α}
    (h : Meets step C s as) : Meets step D s as := by
  induction as generalizing s with
  | nil => trivial
  | cons a as ih =>
      refine meets_cons.mpr ?_
      intro s' hs'
      obtain ⟨hc, hrest⟩ := meets_cons.mp h s' hs'
      exact ⟨hCD s a hc, ih hrest⟩

/-- `Meets` is a statement about every step taken from a reached state. -/
theorem Meets.of_exec {C : σ → α → Prop} {s t t' : σ} {as : List α} (bs : List α) {a : α}
    (h : Meets step C s (as ++ a :: bs)) (ht : exec step s as = some t)
    (hstep : step t a = some t') : C t a := by
  induction as generalizing s with
  | nil =>
      rw [exec_nil, Option.some.injEq] at ht
      subst ht
      exact (meets_cons.mp h t' hstep).1
  | cons b as ih =>
      obtain ⟨s', hs', ht⟩ := exec_cons_some.mp ht
      exact ih (meets_cons.mp h s' hs').2 ht

/-- The steps of a run in two parts. -/
theorem meets_append {C : σ → α → Prop} {s t : σ} {as bs : List α} (h : exec step s as = some t) :
    Meets step C s (as ++ bs) ↔ Meets step C s as ∧ Meets step C t bs := by
  induction as generalizing s with
  | nil =>
      rw [exec_nil, Option.some.injEq] at h
      subst h
      simp [Meets]
  | cons a as ih =>
      obtain ⟨s', hs', ht⟩ := exec_cons_some.mp h
      simp only [List.cons_append, Meets, hs', ih ht, and_assoc]

/-- Two step conditions that agree under an invariant are met by the same runs;
    the steps that violate them need not keep the invariant. -/
theorem meets_congr {C D : σ → α → Prop} (Inv : σ → Prop)
    (hinv : ∀ {s a s'}, Inv s → C s a → step s a = some s' → Inv s')
    (hiff : ∀ {s a s'}, Inv s → step s a = some s' → (C s a ↔ D s a))
    {s : σ} {as : List α} (hi : Inv s) : Meets step C s as ↔ Meets step D s as := by
  induction as generalizing s with
  | nil => exact Iff.rfl
  | cons a as ih =>
      rw [meets_cons, meets_cons]
      refine forall_congr' fun s' => forall_congr' fun hs' => ?_
      rw [hiff hi hs']
      refine and_congr_right fun hd => ?_
      exact ih (hinv hi ((hiff hi hs').mpr hd) hs')

/-- Among the runs that meet `U`, which keeps the invariant. -/
theorem meets_congr_of_meets {C D U : σ → α → Prop} (Inv : σ → Prop)
    (hinv : ∀ {s a s'}, Inv s → U s a → step s a = some s' → Inv s')
    (hiff : ∀ {s a s'}, Inv s → U s a → step s a = some s' → (C s a ↔ D s a))
    {s : σ} {as : List α} (hi : Inv s) (hu : Meets step U s as) :
    Meets step C s as ↔ Meets step D s as := by
  induction as generalizing s with
  | nil => exact Iff.rfl
  | cons a as ih =>
      rw [meets_cons, meets_cons]
      refine forall_congr' fun s' => forall_congr' fun hs' => ?_
      obtain ⟨hua, hurest⟩ := meets_cons.mp hu s' hs'
      exact and_congr (hiff hi hua hs') (ih (hinv hi hua hs') hurest)

/-- The sharp form of `always_of_meets`: among the runs that meet `D`, a step keeps
    `P` exactly when it satisfies `C`. -/
theorem always_iff_meets_of_meets {P Inv : σ → Prop} {C D : σ → α → Prop}
    (hinv : ∀ {s a s'}, Inv s → P s → D s a → C s a → step s a = some s' → Inv s')
    (hiff : ∀ {s a s'}, Inv s → P s → D s a → step s a = some s' → (P s' ↔ C s a))
    {s : σ} {as : List α} (hi : Inv s) (hs : P s) (hd : Meets step D s as) :
    Always step P s as ↔ Meets step C s as := by
  induction as generalizing s with
  | nil => exact ⟨fun _ => trivial, fun _ => hs⟩
  | cons a as ih =>
      constructor
      · intro h
        refine meets_cons.mpr ?_
        intro s' hs'
        obtain ⟨hda, hdrest⟩ := meets_cons.mp hd s' hs'
        have hrest : Always step P s' as := (always_cons.mp h).2 s' hs'
        have hc : C s a := (hiff hi hs hda hs').mp hrest.head
        exact ⟨hc, (ih (hinv hi hs hda hc hs') hrest.head hdrest).mp hrest⟩
      · intro h
        refine always_cons.mpr ⟨hs, ?_⟩
        intro s' hs'
        obtain ⟨hda, hdrest⟩ := meets_cons.mp hd s' hs'
        obtain ⟨hc, hrest⟩ := meets_cons.mp h s' hs'
        exact (ih (hinv hi hs hda hc hs') ((hiff hi hs hda hs').mpr hc) hdrest).mpr hrest

/-- A condition on the labels alone that makes every step satisfy `C`. -/
theorem meets_of_labels (Inv : σ → Prop) {L : α → Prop} {C : σ → α → Prop}
    (hinv : ∀ {s a s'}, Inv s → L a → step s a = some s' → Inv s')
    (hC : ∀ {s a s'}, Inv s → L a → step s a = some s' → C s a)
    {s : σ} {as : List α} (hi : Inv s) (hL : ∀ a ∈ as, L a) : Meets step C s as := by
  induction as generalizing s with
  | nil => trivial
  | cons a as ih =>
      obtain ⟨ha, has⟩ := List.forall_mem_cons.mp hL
      refine meets_cons.mpr ?_
      intro s' hs'
      exact ⟨hC hi ha hs', ih (hinv hi ha hs') has⟩

/-- What holds in every state may be used at every step. -/
theorem Always.meets {P : σ → Prop} {L : α → Prop} {s : σ} {as : List α}
    (h : Always step P s as) (hL : ∀ a ∈ as, L a) : Meets step (fun s a => P s ∧ L a) s as := by
  induction as generalizing s with
  | nil => trivial
  | cons a as ih =>
      obtain ⟨ha, has⟩ := List.forall_mem_cons.mp hL
      obtain ⟨hs, hrest⟩ := always_cons.mp h
      exact meets_cons.mpr fun s' hs' => ⟨⟨hs, ha⟩, ih (hrest s' hs') has⟩

theorem meets_true {s : σ} {as : List α} : Meets step (fun _ _ => True) s as := by
  induction as generalizing s with
  | nil => trivial
  | cons a as ih => exact meets_cons.mpr fun _ _ => ⟨trivial, ih⟩

/-- Among all runs. -/
theorem always_iff_meets {P : σ → Prop} (Inv : σ → Prop) {C : σ → α → Prop}
    (hinv : ∀ {s a s'}, Inv s → P s → C s a → step s a = some s' → Inv s')
    (hiff : ∀ {s a s'}, Inv s → P s → step s a = some s' → (P s' ↔ C s a))
    {s : σ} {as : List α} (hi : Inv s) (hs : P s) :
    Always step P s as ↔ Meets step C s as :=
  always_iff_meets_of_meets (fun hi hs _ => hinv hi hs) (fun hi hs _ => hiff hi hs) hi hs
    meets_true

/-! ## Counting steps -/

section Count

variable (step) (C : σ → α → Prop) [∀ s a, Decidable (C s a)]

/-- How many of the steps the run takes satisfy `C`. -/
def count : σ → List α → Nat
  | _, [] => 0
  | s, a :: as => match step s a with
      | none => 0
      | some s' => (if C s a then 1 else 0) + count s' as

variable {step} {C}

theorem count_cons_some {s s' : σ} {a : α} (as : List α) (h : step s a = some s') :
    count step C s (a :: as) = (if C s a then 1 else 0) + count step C s' as := by
  simp only [count, h]

/-- The count of a run in two parts. -/
theorem count_append {s t : σ} {as : List α} (bs : List α) (h : exec step s as = some t) :
    count step C s (as ++ bs) = count step C s as + count step C t bs := by
  induction as generalizing s with
  | nil =>
      rw [exec_nil, Option.some.injEq] at h
      simp [count, h]
  | cons a as ih =>
      obtain ⟨s', hs', ht⟩ := exec_cons_some.mp h
      rw [List.cons_append, count_cons_some _ hs', count_cons_some _ hs', ih ht, Nat.add_assoc]

theorem count_prefix_le {s : σ} {as bs : List α} (h : as <+: bs) :
    count step C s as ≤ count step C s bs := by
  induction as generalizing s bs with
  | nil => exact Nat.zero_le _
  | cons a as ih =>
      obtain ⟨bs, rfl⟩ := h
      cases hs : step s a with
      | none => simp [count, hs]
      | some s' =>
          rw [List.cons_append, count_cons_some _ hs, count_cons_some _ hs]
          exact Nat.add_le_add_left (ih (List.prefix_append as bs)) _

/-- The invariant rule with a count: the invariant of the state after `n` steps
    of the kind `C` may speak about `n`, as long as `n` is below `N`. -/
theorem exec_inv_count {Inv : Nat → σ → Prop} {N : Nat}
    (hstep : ∀ {n s a s'}, Inv n s → n + (if C s a then 1 else 0) < N → step s a = some s' →
      Inv (n + if C s a then 1 else 0) s')
    {n : Nat} {s t : σ} {as : List α} (hs : Inv n s) (h : exec step s as = some t)
    (hN : n + count step C s as < N) : Inv (n + count step C s as) t := by
  induction as generalizing n s with
  | nil =>
      rw [exec_nil, Option.some.injEq] at h
      exact h ▸ hs
  | cons a as ih =>
      obtain ⟨s', hs', ht⟩ := exec_cons_some.mp h
      rw [count_cons_some _ hs', ← Nat.add_assoc] at hN ⊢
      exact ih (hstep hs (Nat.lt_of_le_of_lt (Nat.le_add_right _ _) hN) hs') ht hN

end Count

/-! ## A clock -/

section Clock

variable (step) (reading : α → Option Int)

/-- The system with a clock that some labels read and that does not go back. The
    second component is the last reading. -/
def clocked (s : σ × Int) (a : α) : Option (σ × Int) :=
  if (reading a).getD s.2 < s.2 then none
  else (step s.1 a).map fun s' => (s', (reading a).getD s.2)

variable {step} {reading}

theorem clocked_some {s s' : σ × Int} {a : α} (h : clocked step reading s a = some s') :
    s.2 ≤ s'.2 ∧ s'.2 = (reading a).getD s.2 ∧ step s.1 a = some s'.1 := by
  unfold clocked at h
  split at h
  · cases h
  · rename_i hnow
    obtain ⟨t, ht, rfl⟩ := Option.map_eq_some_iff.mp h
    exact ⟨Int.not_lt.mp hnow, rfl, ht⟩

end Clock

end Transition
