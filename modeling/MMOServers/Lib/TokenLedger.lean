/-
MMOServers.Lib.TokenLedger — tokens of which copies travel to several places.

Tokens are issued for accounts. A notice of a token may be on its way to any
number of places; a place keeps the token that arrived last for an account, and
gives it up when it accepts it. `coming w` lists the notices on their way to `w`,
the next first, wherever they are at the moment. Notices and kept tokens may get
lost, so a ledger is about what can be accepted and not about what will be.

* `Genuine` — everything a place has, or has accepted, was issued, and a token
  is issued for one account only.
* `Single` — a place gets a token once.
* `Spent` — of an accepted token no copy is left. Accepting gives up the copy of
  one place, so this needs that the others have none (`Sole`), and then no token
  is accepted twice (`step_acceptedOnce`).
-/
import Mathlib.Data.List.Nodup
import Mathlib.Logic.Function.Basic

namespace Tokens

structure Notice (α τ : Type*) where
  account : α
  token : τ
  deriving DecidableEq

structure TokenLedger (α τ ω : Type*) where
  /-- The newest first. -/
  issued : List (Notice α τ)
  coming : ω → List (Notice α τ)
  kept : ω → α → Option τ
  /-- The newest first. -/
  accepted : List (ω × Notice α τ)

namespace TokenLedger

variable {α τ ω : Type*}

/-- The place has the token, or a notice of it is on the way there. -/
def Copy (s : TokenLedger α τ ω) (w : ω) (t : τ) : Prop :=
  (∃ n ∈ s.coming w, n.token = t) ∨ ∃ a, s.kept w a = some t

/-- No other place has a copy. -/
def Sole (s : TokenLedger α τ ω) (w : ω) (t : τ) : Prop :=
  ∀ v, v ≠ w → ¬ s.Copy v t

variable [DecidableEq α]

/-! ## Steps -/

/-- A step, with the acceptance it is. -/
inductive Step (s s' : TokenLedger α τ ω) : Option (ω × Notice α τ) → Prop where
  | issue (n : Notice α τ) (fresh : ∀ m ∈ s.issued, m.token ≠ n.token)
      (issued : s'.issued = n :: s.issued)
      (coming : ∀ w, (s'.coming w).Sublist (s.coming w ++ [n]))
      (kept : s'.kept = s.kept) (accepted : s'.accepted = s.accepted) : Step s s' none
  | lose (issued : s'.issued = s.issued)
      (coming : ∀ w, (s'.coming w).Sublist (s.coming w))
      (kept : ∀ w a t, s'.kept w a = some t → s.kept w a = some t)
      (accepted : s'.accepted = s.accepted) : Step s s' none
  | keep (w : ω) (n : Notice α τ) (issued : s'.issued = s.issued)
      (arrives : s.coming w = n :: s'.coming w)
      (stores : s'.kept w = Function.update (s.kept w) n.account (some n.token))
      (others : ∀ v, v ≠ w → s'.coming v = s.coming v ∧ s'.kept v = s.kept v)
      (accepted : s'.accepted = s.accepted) : Step s s' none
  | accept (w : ω) (n : Notice α τ) (issued : s'.issued = s.issued)
      (coming : s'.coming = s.coming) (has : s.kept w n.account = some n.token)
      (consumes : s'.kept w = Function.update (s.kept w) n.account none)
      (others : ∀ v, v ≠ w → s'.kept v = s.kept v)
      (accepted : s'.accepted = (w, n) :: s.accepted) : Step s s' (some (w, n))

/-- What a place keeps after a step it kept before, or it has just arrived. -/
theorem step_kept {s s' : TokenLedger α τ ω} {e : Option (ω × Notice α τ)} (h : Step s s' e)
    {w : ω} {a : α} {t : τ} (ht : s'.kept w a = some t) :
    s.kept w a = some t ∨ s.coming w = ⟨a, t⟩ :: s'.coming w := by
  cases h with
  | issue n fresh issued coming kept accepted => exact Or.inl (by rwa [kept] at ht)
  | lose issued coming kept accepted => exact Or.inl (kept w a t ht)
  | keep v n issued arrives stores others accepted =>
      by_cases hw : w = v
      · subst hw
        rw [stores, Function.update_apply] at ht
        split at ht
        · rename_i ha
          obtain rfl := Option.some.inj ht
          exact Or.inr (ha ▸ arrives)
        · exact Or.inl ht
      · exact Or.inl (by rwa [(others w hw).2] at ht)
  | accept v n issued coming has consumes others accepted =>
      by_cases hw : w = v
      · subst hw
        rw [consumes, Function.update_apply] at ht
        split at ht
        · cases ht
        · exact Or.inl ht
      · exact Or.inl (by rwa [others w hw] at ht)

/-- Notices come from the issuing of a token. -/
theorem step_coming {s s' : TokenLedger α τ ω} {e : Option (ω × Notice α τ)}
    (h : Step s s' e) {w : ω} {n : Notice α τ} (hn : n ∈ s'.coming w) :
    n ∈ s.coming w ∨ (n ∈ s'.issued ∧ ∀ m ∈ s.issued, m.token ≠ n.token) := by
  cases h with
  | issue m fresh issued coming kept accepted =>
      rcases List.mem_append.mp ((coming w).subset hn) with hn | hn
      · exact Or.inl hn
      · obtain rfl := List.mem_singleton.mp hn
        exact Or.inr ⟨by simp [issued], fresh⟩
  | lose issued coming kept accepted => exact Or.inl ((coming w).subset hn)
  | keep v m issued arrives stores others accepted =>
      by_cases hw : w = v
      · subst hw
        exact Or.inl (by simp [arrives, hn])
      · exact Or.inl (by rwa [(others w hw).1] at hn)
  | accept v m issued coming has consumes others accepted => exact Or.inl (by rwa [coming] at hn)

/-- Only a token that is new has copies where it had none. -/
theorem step_copy {s s' : TokenLedger α τ ω} {e : Option (ω × Notice α τ)} (h : Step s s' e)
    {w : ω} {t : τ} (ht : s'.Copy w t) : s.Copy w t ∨ ∀ m ∈ s.issued, m.token ≠ t := by
  rcases ht with ⟨n, hn, rfl⟩ | ⟨a, ha⟩
  · rcases step_coming h hn with hn | ⟨-, hfresh⟩
    · exact Or.inl (Or.inl ⟨n, hn, rfl⟩)
    · exact Or.inr hfresh
  · rcases step_kept h ha with ha | hn
    · exact Or.inl (Or.inr ⟨a, ha⟩)
    · exact Or.inl (Or.inl ⟨⟨a, t⟩, by simp [hn], rfl⟩)

theorem step_issued {s s' : TokenLedger α τ ω} {e : Option (ω × Notice α τ)}
    (h : Step s s' e) : s.issued ⊆ s'.issued := by
  cases h with
  | issue n fresh issued coming kept accepted => simp [issued]
  | lose issued coming kept accepted => simp [issued]
  | keep w n issued arrives stores others accepted => simp [issued]
  | accept w n issued coming has consumes others accepted => simp [issued]

/-! ## Tokens are genuine -/

structure Genuine (s : TokenLedger α τ ω) : Prop where
  distinct : (s.issued.map Notice.token).Nodup
  coming : ∀ w, ∀ n ∈ s.coming w, n ∈ s.issued
  kept : ∀ w a t, s.kept w a = some t → ⟨a, t⟩ ∈ s.issued
  accepted : ∀ e ∈ s.accepted, e.2 ∈ s.issued

omit [DecidableEq α] in
/-- A token is issued for one account. -/
theorem Genuine.unique {s : TokenLedger α τ ω} (h : s.Genuine) {m n : Notice α τ}
    (hm : m ∈ s.issued) (hn : n ∈ s.issued) (htoken : m.token = n.token) : m = n :=
  List.inj_on_of_nodup_map h.distinct hm hn htoken

theorem step_genuine {s s' : TokenLedger α τ ω} {e : Option (ω × Notice α τ)}
    (hs : s.Genuine) (h : Step s s' e) : s'.Genuine := by
  have hissued := step_issued h
  refine ⟨?_, fun w n hn => ?_, fun w a t ht => ?_, ?_⟩
  · cases h with
    | issue n fresh issued coming kept accepted =>
        rw [issued, List.map_cons, List.nodup_cons]
        refine ⟨fun hmem => ?_, hs.distinct⟩
        obtain ⟨m, hm, htoken⟩ := List.mem_map.mp hmem
        exact fresh m hm htoken
    | lose issued coming kept accepted => exact issued ▸ hs.distinct
    | keep w n issued arrives stores others accepted => exact issued ▸ hs.distinct
    | accept w n issued coming has consumes others accepted => exact issued ▸ hs.distinct
  · rcases step_coming h hn with hn | ⟨hn, -⟩
    · exact hissued (hs.coming w n hn)
    · exact hn
  · rcases step_kept h ht with ht | hn
    · exact hissued (hs.kept w a t ht)
    · exact hissued (hs.coming w ⟨a, t⟩ (by simp [hn]))
  · cases h with
    | accept w n issued coming has consumes others accepted =>
        rw [accepted]
        refine List.forall_mem_cons.mpr ⟨hissued (hs.kept w _ _ has), fun e he => ?_⟩
        exact hissued (hs.accepted e he)
    | issue n fresh issued coming kept accepted =>
        exact accepted ▸ fun e he => hissued (hs.accepted e he)
    | lose issued coming kept accepted =>
        exact accepted ▸ fun e he => hissued (hs.accepted e he)
    | keep w n issued arrives stores others accepted =>
        exact accepted ▸ fun e he => hissued (hs.accepted e he)

/-! ## A place gets a token once -/

structure Single (s : TokenLedger α τ ω) : Prop where
  coming : ∀ w, ((s.coming w).map Notice.token).Nodup
  kept : ∀ w a t, s.kept w a = some t → ∀ n ∈ s.coming w, n.token ≠ t

theorem step_single {s s' : TokenLedger α τ ω} {e : Option (ω × Notice α τ)}
    (hg : s.Genuine) (hs : s.Single) (h : Step s s' e) : s'.Single := by
  have hnodup : ∀ w, ((s'.coming w).map Notice.token).Nodup := by
    intro w
    cases h with
    | issue n fresh issued coming kept accepted =>
        refine ((coming w).map Notice.token).nodup ?_
        rw [List.map_append, List.nodup_append]
        refine ⟨hs.coming w, by simp, fun t ht u hu => ?_⟩
        obtain ⟨m, hm, rfl⟩ := List.mem_map.mp ht
        rw [List.mem_singleton.mp hu]
        exact fresh m (hg.coming w m hm)
    | lose issued coming kept accepted => exact ((coming w).map Notice.token).nodup (hs.coming w)
    | keep v n issued arrives stores others accepted =>
        by_cases hw : w = v
        · subst hw
          have hcons := hs.coming w
          rw [arrives, List.map_cons, List.nodup_cons] at hcons
          exact hcons.2
        · exact (others w hw).1 ▸ hs.coming w
    | accept v n issued coming has consumes others accepted => exact coming ▸ hs.coming w
  refine ⟨hnodup, fun w a t ht n hn heq => ?_⟩
  rcases step_kept h ht with hkept | harrives
  · -- a kept token is an old one, so the notice was there before
    rcases step_coming h hn with hn | ⟨-, hfresh⟩
    · exact hs.kept w a t hkept n hn heq
    · exact hfresh _ (hg.kept w a t hkept) heq.symm
  · have hcons := hs.coming w
    rw [harrives, List.map_cons, List.nodup_cons] at hcons
    exact hcons.1 (List.mem_map.mpr ⟨n, hn, heq⟩)

/-! ## Tokens are accepted once -/

/-- Nobody has a copy of an accepted token. -/
def Spent (s : TokenLedger α τ ω) : Prop :=
  ∀ e ∈ s.accepted, ∀ w, ¬ s.Copy w e.2.token

/-- The place that accepts a token has no copy of it left. -/
theorem accept_gone {s s' : TokenLedger α τ ω} {w : ω} {n : Notice α τ} (hg : s.Genuine)
    (hs : s.Single) (h : Step s s' (some (w, n))) : ¬ s'.Copy w n.token := by
  cases h with
  | accept _ _ issued coming has consumes others accepted =>
      rintro (⟨m, hm, htoken⟩ | ⟨a, ha⟩)
      · rw [coming] at hm
        exact hs.kept w _ _ has m hm htoken
      · rw [consumes, Function.update_apply] at ha
        split at ha
        · cases ha
        · rename_i hne
          have heq := hg.unique (hg.kept w _ _ ha) (hg.kept w _ _ has) rfl
          exact hne (congrArg Notice.account heq)

theorem step_spent {s s' : TokenLedger α τ ω} {e : Option (ω × Notice α τ)}
    (hg : s.Genuine) (hs : s.Single) (hspent : s.Spent) (h : Step s s' e)
    (hsole : ∀ w n, e = some (w, n) → s.Sole w n.token) : s'.Spent := by
  have hold : ∀ d ∈ s.accepted, ∀ w, ¬ s'.Copy w d.2.token := by
    intro d hd w hcopy
    rcases step_copy h hcopy with hcopy | hfresh
    · exact hspent d hd w hcopy
    · exact hfresh d.2 (hg.accepted d hd) rfl
  cases e with
  | none =>
      have haccepted : s'.accepted = s.accepted := by cases h <;> assumption
      exact fun d hd => hold d (haccepted ▸ hd)
  | some e =>
      obtain ⟨w, n⟩ := e
      have haccepted : s'.accepted = (w, n) :: s.accepted := by cases h; assumption
      rw [Spent, haccepted]
      refine List.forall_mem_cons.mpr ⟨fun v hcopy => ?_, hold⟩
      by_cases hv : v = w
      · exact accept_gone hg hs h (hv ▸ hcopy)
      · rcases step_copy h hcopy with hcopy | hfresh
        · exact hsole w n rfl v hv hcopy
        · have hissued : n ∈ s.issued := by
            cases h with
            | accept _ _ issued coming has consumes others accepted => exact hg.kept w _ _ has
          exact hfresh n hissued rfl

/-- As long as accepted tokens are spent, each is accepted once. -/
theorem step_acceptedOnce {s s' : TokenLedger α τ ω} {e : Option (ω × Notice α τ)}
    (hspent : s.Spent) (hs : (s.accepted.map (·.2.token)).Nodup) (h : Step s s' e) :
    (s'.accepted.map (·.2.token)).Nodup := by
  cases h with
  | accept w n issued coming has consumes others accepted =>
      rw [accepted, List.map_cons, List.nodup_cons]
      refine ⟨fun hmem => ?_, hs⟩
      obtain ⟨d, hd, htoken⟩ := List.mem_map.mp hmem
      exact hspent d hd w (Or.inr ⟨n.account, htoken ▸ has⟩)
  | issue n fresh issued coming kept accepted => exact accepted ▸ hs
  | lose issued coming kept accepted => exact accepted ▸ hs
  | keep w n issued arrives stores others accepted => exact accepted ▸ hs

end TokenLedger

end Tokens
