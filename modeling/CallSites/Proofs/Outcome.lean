import Mathlib.Data.List.Forall2

/-! # Computations that succeed

A computation that may end in a fault succeeds exactly when all its parts do. For a run over a list
that means: every item has a result, and the results stand in the order of the items.
-/

namespace CallSites.Outcome

variable {ε α β γ : Type}

theorem bind_eq_ok {first : Except ε α} {next : α → Except ε β} {result : β} :
    first >>= next = .ok result ↔ ∃ value, first = .ok value ∧ next value = .ok result := by
  cases first with
  | error fault => simp [bind, Except.bind]
  | ok value => simp [bind, Except.bind]

theorem pure_eq_ok {value result : α} :
    (pure value : Except ε α) = .ok result ↔ value = result := by
  simp [pure, Except.pure]

theorem exists_eq_ok {outcome : Except ε α} (success : outcome.isOk = true) :
    ∃ value, outcome = .ok value := by
  cases outcome with
  | error fault => cases success
  | ok value => exact ⟨value, rfl⟩

theorem mapM_eq_ok {f : α → Except ε β} {items : List α} {results : List β} :
    items.mapM f = .ok results ↔
      List.Forall₂ (fun item result => f item = .ok result) items results := by
  induction items generalizing results with
  | nil =>
    rw [List.mapM_nil, pure_eq_ok, List.forall₂_nil_left_iff]
    exact eq_comm
  | cons item items ih =>
    simp only [List.mapM_cons, bind_eq_ok, pure_eq_ok, ih, List.forall₂_cons_left_iff]
    constructor
    · rintro ⟨head, first, tail, rest, rfl⟩
      exact ⟨head, tail, first, rest, rfl⟩
    · rintro ⟨head, tail, first, rest, rfl⟩
      exact ⟨head, first, tail, rest, rfl⟩

/-- A run over a list succeeds if it does for each item. -/
theorem exists_mapM_eq_ok {f : α → Except ε β} {items : List α}
    (each : ∀ item ∈ items, ∃ result, f item = .ok result) :
    ∃ results, items.mapM f = .ok results := by
  induction items with
  | nil => exact ⟨[], rfl⟩
  | cons item items ih =>
    rw [List.forall_mem_cons] at each
    obtain ⟨result, first⟩ := each.1
    obtain ⟨results, rest⟩ := ih each.2
    refine ⟨result :: results, ?_⟩
    rw [List.mapM_cons, first, rest]
    rfl

/-- Every result belongs to an item. -/
theorem exists_of_forall₂ {related : α → β → Prop} {items : List α} {results : List β}
    (pairs : List.Forall₂ related items results) {result : β} (member : result ∈ results) :
    ∃ item ∈ items, related item result := by
  induction pairs with
  | nil => simp at member
  | @cons item first items results head _ ih =>
    rcases List.mem_cons.mp member with rfl | member
    · exact ⟨item, List.mem_cons_self .., head⟩
    · obtain ⟨other, inside, both⟩ := ih member
      exact ⟨other, List.mem_cons_of_mem _ inside, both⟩

theorem map_eq_map_iff_forall₂ {f : α → γ} {g : β → γ} {xs : List α} {ys : List β} :
    xs.map f = ys.map g ↔ List.Forall₂ (fun x y => f x = g y) xs ys := by
  rw [← List.forall₂_eq_eq_eq, List.forall₂_map_left_iff, List.forall₂_map_right_iff]

theorem forall₂_zipIdx {related : α → β → Prop} {xs : List α} {ys : List β}
    (pairs : List.Forall₂ related xs ys) (start : Nat) :
    List.Forall₂ (fun x y => related x.1 y.1 ∧ x.2 = y.2) (xs.zipIdx start) (ys.zipIdx start) := by
  induction pairs generalizing start with
  | nil => exact .nil
  | cons head _ ih => exact .cons ⟨head, rfl⟩ (ih (start + 1))

/-- Results for other items, found one by one, that are related to the given results. -/
theorem exists_forall₂ {δ : Type} {P : α → γ → Prop} {Q : α → β → Prop} {S : β → δ → Prop}
    {T : γ → δ → Prop} (each : ∀ x y z, P x z → Q x y → ∃ z', S y z' ∧ T z z') {xs : List α}
    {ys : List β} {zs : List γ} (results : List.Forall₂ P xs zs) (pairs : List.Forall₂ Q xs ys) :
    ∃ zs', List.Forall₂ S ys zs' ∧ List.Forall₂ T zs zs' := by
  induction results generalizing ys with
  | nil =>
    cases pairs with
    | nil => exact ⟨[], .nil, .nil⟩
  | cons result _ ih =>
    cases pairs with
    | cons pair pairs =>
      obtain ⟨z', head, related⟩ := each _ _ _ result pair
      obtain ⟨zs', rest, relatedRest⟩ := ih pairs
      exact ⟨z' :: zs', .cons head rest, .cons related relatedRest⟩

/-- Running over the items of each part and joining the results is running over all items. -/
theorem mapM_flatMap (parts : List α) (items : α → List β) (f : β → Except ε γ) :
    (parts.flatMap items).mapM f =
      (parts.mapM fun part => (items part).mapM f) >>= fun groups => pure groups.flatten := by
  induction parts with
  | nil => rfl
  | cons part parts ih => simp [List.mapM_append, ih]

end CallSites.Outcome
