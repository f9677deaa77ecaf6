import Mathlib.Tactic

/-!
# Outcomes

What is done in steps that may be refused succeeds exactly where each of the steps does.

* `Outcome.bind_eq_ok_iff`, `Outcome.map_eq_ok_iff`: one step after another;
* `Outcome.bind_eq_error_iff`, `Outcome.map_eq_error_iff`: which of two steps is refused;
* `Outcome.refuse_eq_ok_iff`, `Outcome.refuse_eq_error_iff`: a step that is refused under a
  condition;
* `Outcome.mapM_eq_ok_iff`, `Outcome.exists_of_mapM_eq_error`: the same step for each item of a
  list;
* `Outcome.foldlM_induct`: what each step keeps, all steps keep;
* `Outcome.foldlM_view`: a view that no step changes is not changed by all of them;
* `Outcome.foldlM_map`: the same steps on two sides;
* `Outcome.exists_of_foldlM_eq_error`: steps are refused by one of them.
-/

namespace EntityQuery.Outcome

variable {ε α β γ : Type}

theorem bind_eq_ok_iff {x : Except ε α} {f : α → Except ε β} {b : β} :
    (x >>= f) = .ok b ↔ ∃ a, x = .ok a ∧ f a = .ok b := by
  cases x <;> simp [bind, Except.bind]

theorem map_eq_ok_iff {x : Except ε α} {f : α → β} {b : β} :
    x.map f = .ok b ↔ ∃ a, x = .ok a ∧ f a = b := by
  cases x <;> simp [Except.map]

theorem bind_eq_error_iff {x : Except ε α} {f : α → Except ε β} {e : ε} :
    (x >>= f) = .error e ↔ x = .error e ∨ ∃ a, x = .ok a ∧ f a = .error e := by
  cases x <;> simp [bind, Except.bind]

theorem map_eq_error_iff {x : Except ε α} {f : α → β} {e : ε} :
    x.map f = .error e ↔ x = .error e := by
  cases x <;> simp [Except.map]

/-- What is refused under a condition succeeds only where the condition fails. -/
theorem refuse_eq_ok_iff {c : Prop} [Decidable c] {e : ε} {k : γ → Except ε α} {x : Except ε α}
    {a : α} : (if c then throw e >>= k else x) = .ok a ↔ ¬ c ∧ x = .ok a := by
  by_cases hc : c
  · simp [hc, throw, throwThe, MonadExceptOf.throw, bind, Except.bind]
  · simp [hc]

/-- What is refused under a condition is refused for it or, where it fails, for what comes after. -/
theorem refuse_eq_error_iff {c : Prop} [Decidable c] {e e' : ε} {k : γ → Except ε α}
    {x : Except ε α} :
    (if c then throw e >>= k else x) = .error e' ↔ c ∧ e' = e ∨ ¬ c ∧ x = .error e' := by
  by_cases hc : c
  · simp [hc, throw, throwThe, MonadExceptOf.throw, bind, Except.bind, eq_comm]
  · simp [hc]

theorem map_map (x : Except ε α) (f : α → β) (g : β → γ) : (x.map f).map g = x.map (g ∘ f) := by
  cases x <;> rfl

/-- A list of outcomes is one of the outcomes of its items, in order. -/
theorem mapM_eq_ok_iff {f : α → Except ε β} {as : List α} {bs : List β} :
    as.mapM f = .ok bs ↔ List.Forall₂ (fun a b => f a = .ok b) as bs := by
  induction as generalizing bs with
  | nil => simp [pure, Except.pure, eq_comm]
  | cons a as ih =>
    rw [List.mapM_cons, bind_eq_ok_iff, List.forall₂_cons_left_iff]
    constructor
    · rintro ⟨b, hb, h⟩
      obtain ⟨rest, hrest, hbs⟩ := bind_eq_ok_iff.1 h
      cases hbs
      exact ⟨b, rest, hb, ih.1 hrest, rfl⟩
    · rintro ⟨b, rest, hb, hrest, rfl⟩
      exact ⟨b, hb, bind_eq_ok_iff.2 ⟨rest, ih.2 hrest, rfl⟩⟩

/-- A list of outcomes is refused for one of its items. -/
theorem exists_of_mapM_eq_error {f : α → Except ε β} {as : List α} {e : ε}
    (h : as.mapM f = .error e) : ∃ a ∈ as, f a = .error e := by
  induction as with
  | nil => cases h
  | cons a as ih =>
    rw [List.mapM_cons] at h
    rcases bind_eq_error_iff.1 h with h | ⟨b, -, h⟩
    · exact ⟨a, List.mem_cons_self, h⟩
    · rcases bind_eq_error_iff.1 h with h | ⟨bs, -, h⟩
      · obtain ⟨a', ha', h⟩ := ih h
        exact ⟨a', List.mem_cons_of_mem _ ha', h⟩
      · cases h

theorem foldlM_induct {P : β → Prop} {f : β → α → Except ε β}
    (hstep : ∀ b a b', P b → f b a = .ok b' → P b') {as : List α} {b b' : β} (hb : P b)
    (h : as.foldlM f b = .ok b') : P b' := by
  induction as generalizing b with
  | nil =>
    cases h
    exact hb
  | cons a as ih =>
    rw [List.foldlM_cons] at h
    obtain ⟨c, hc, hrest⟩ := bind_eq_ok_iff.1 h
    exact ih (hstep b a c hb hc) hrest

theorem foldlM_view {g : β → γ} {f : β → α → Except ε β} {as : List α}
    (hstep : ∀ a ∈ as, ∀ b b', f b a = .ok b' → g b' = g b) {b b' : β}
    (h : as.foldlM f b = .ok b') : g b' = g b := by
  induction as generalizing b with
  | nil =>
    cases h
    rfl
  | cons a as ih =>
    rw [List.foldlM_cons] at h
    obtain ⟨c, hc, hrest⟩ := bind_eq_ok_iff.1 h
    calc g b'
        = g c := ih (fun a' ha' => hstep a' (List.mem_cons_of_mem _ ha')) hrest
      _ = g b := hstep a List.mem_cons_self b c hc

/-- Steps that go along with other steps under a view go along with all of them. -/
theorem foldlM_map {g : β → γ} {f : β → α → Except ε β} {f' : γ → α → Except ε γ}
    (hstep : ∀ b a, f' (g b) a = (f b a).map g) (as : List α) (b : β) :
    as.foldlM f' (g b) = (as.foldlM f b).map g := by
  induction as generalizing b with
  | nil => rfl
  | cons a as ih =>
    rw [List.foldlM_cons, List.foldlM_cons, hstep]
    cases f b a with
    | error e => rfl
    | ok b' => exact ih b'

theorem exists_of_foldlM_eq_error {f : β → α → Except ε β} {as : List α} {b : β} {e : ε}
    (h : as.foldlM f b = .error e) : ∃ a ∈ as, ∃ b', f b' a = .error e := by
  induction as generalizing b with
  | nil => cases h
  | cons a as ih =>
    rw [List.foldlM_cons] at h
    rcases bind_eq_error_iff.1 h with h | ⟨c, -, h⟩
    · exact ⟨a, List.mem_cons_self, b, h⟩
    · obtain ⟨a', ha', b', h⟩ := ih h
      exact ⟨a', List.mem_cons_of_mem _ ha', b', h⟩

end EntityQuery.Outcome
