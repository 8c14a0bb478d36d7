import Mathlib.Data.List.Forall2
/-!
What it takes for checks in sequence to pass.
-/

namespace DataAccess.Check

variable {x : Except ε α}

theorem ok_bind {f : α → Except ε β} : (.ok a >>= f) = f a :=
  rfl

@[simp]
theorem bind_eq_ok_iff {f : α → Except ε β} :
    (x >>= f) = .ok b ↔ ∃ a, x = .ok a ∧ f a = .ok b := by
  cases x <;> simp [bind, Except.bind]

@[simp]
theorem pure_eq_ok_iff {a b : α} : (pure a : Except ε α) = .ok b ↔ a = b := by
  simp [pure, Except.pure]

@[simp]
theorem pure_ne_error {a : α} {e : ε} : (pure a : Except ε α) ≠ .error e :=
  nofun

@[simp]
theorem map_eq_ok_iff {f : α → β} : x.map f = .ok b ↔ ∃ a, x = .ok a ∧ f a = b := by
  cases x <;> simp [Except.map]

@[simp]
theorem bind_eq_error_iff {f : α → Except ε β} :
    (x >>= f) = .error e ↔ x = .error e ∨ ∃ a, x = .ok a ∧ f a = .error e := by
  cases x <;> simp [bind, Except.bind]

theorem isOk_iff : x.isOk ↔ ∃ a, x = .ok a := by
  cases x <;> simp [Except.isOk, Except.toBool]

-- A check without a result.
@[simp]
theorem exists_unit_eq_ok_iff {x : Except ε Unit} {p : Unit → Prop} :
    (∃ u, x = .ok u ∧ p u) ↔ x = .ok () ∧ p () :=
  ⟨fun ⟨_, h⟩ => h, fun h => ⟨_, h⟩⟩

theorem mapM_eq_ok_iff {f : α → Except ε β} {xs : List α} {ys : List β} :
    xs.mapM f = .ok ys ↔ List.Forall₂ (f · = .ok ·) xs ys := by
  induction xs generalizing ys
  case nil => rw [List.mapM_nil, pure_eq_ok_iff, List.forall₂_nil_left_iff, eq_comm]
  case cons x xs hi =>
    simp only [List.mapM_cons, bind_eq_ok_iff, pure_eq_ok_iff, hi, List.forall₂_cons_left_iff]
    constructor
    case mp  => exact fun ⟨y, hy, ys, hys, he⟩ => ⟨y, ys, hy, hys, he.symm⟩
    case mpr => exact fun ⟨y, ys, hy, hys, he⟩ => ⟨y, hy, ys, hys, he.symm⟩

theorem mapM_congr {f g : α → Except ε β} {xs : List α} (h : ∀ x ∈ xs, f x = g x) :
    xs.mapM f = xs.mapM g := by
  induction xs
  case nil => rfl
  case cons x xs hi =>
    have ⟨hx, h⟩ := List.forall_mem_cons.mp h
    rw [List.mapM_cons, List.mapM_cons, hx, hi h]

-- All items have results, and the list of them has no other items.
theorem mapM_eq_ok_iff_filterMap {f : α → Except ε β} {xs : List α} {ys : List β} :
    xs.mapM f = .ok ys ↔
      (∀ x ∈ xs, ∃ y, f x = .ok y) ∧ xs.filterMap (fun x => (f x).toOption) = ys := by
  rw [mapM_eq_ok_iff]
  constructor
  case mp =>
    intro h
    induction h
    case nil => simp
    case cons hx _ hi =>
      refine ⟨List.forall_mem_cons.mpr ⟨⟨_, hx⟩, hi.left⟩, ?_⟩
      rw [List.filterMap_cons_some (by rw [hx]; rfl), hi.right]
  case mpr =>
    intro ⟨h, hy⟩
    subst hy
    induction xs
    case nil => exact .nil
    case cons x xs hi =>
      have ⟨⟨y, hx⟩, h⟩ := List.forall_mem_cons.mp h
      rw [List.filterMap_cons_some (by rw [hx]; rfl)]
      exact .cons hx (hi h)

theorem exists_of_mem_mapM {f : α → Except ε β} {xs : List α} {ys : List β}
    (h : xs.mapM f = .ok ys) (hy : y ∈ ys) : ∃ x ∈ xs, f x = .ok y := by
  rw [mapM_eq_ok_iff] at h
  induction h
  case nil => contradiction
  case cons hx _ hi =>
    cases hy
    case head => exact ⟨_, .head _, hx⟩
    case tail hy =>
      have ⟨x, hm, hx⟩ := hi hy
      exact ⟨x, .tail _ hm, hx⟩

-- The error is that of the first item without a result.
theorem mapM_eq_error_iff {f : α → Except ε β} {xs : List α} :
    xs.mapM f = .error e ↔ ∃ before x after, xs = before ++ x :: after ∧
      (∀ x ∈ before, ∃ y, f x = .ok y) ∧ f x = .error e := by
  induction xs
  case nil => simp [pure, Except.pure]
  case cons x xs hi =>
    simp only [List.mapM_cons, bind_eq_error_iff, hi]
    constructor
    case mp =>
      intro h
      cases h
      case inl h => exact ⟨[], x, xs, rfl, by simp, h⟩
      case inr h =>
        obtain ⟨y, hy, ⟨before, x', after, hs, hb, he⟩ | ⟨_, _, he⟩⟩ := h
        · exact ⟨x :: before, x', after, by simp [hs], by simpa [hy] using hb, he⟩
        · contradiction
    case mpr =>
      intro ⟨before, x', after, hs, hb, he⟩
      cases before
      case nil =>
        injection hs with hx
        exact .inl (hx ▸ he)
      case cons x₀ before =>
        injection hs with hx hs
        have ⟨⟨y, hy⟩, hb⟩ := List.forall_mem_cons.mp hb
        exact .inr ⟨y, hx ▸ hy, .inl ⟨before, x', after, hs, hb, he⟩⟩

-- Two checks fail together or have the same result.
theorem toOption_eq_iff {x y : Except ε α} :
    x.toOption = y.toOption ↔ ∀ a, x = .ok a ↔ y = .ok a := by
  cases x <;> cases y <;> simp [Except.toOption, eq_comm]

end DataAccess.Check
