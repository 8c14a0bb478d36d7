import DataAccess.Naming.Allocator
import Mathlib.Data.List.Dedup
import Mathlib.Data.List.Nodup
/-!
Allocated names. Every key keeps the name that its first entry got, and no two keys share one.
-/

namespace DataAccess

-- The items with keys that no item before them has.
def firstsBy [DecidableEq κ] (key : α → κ) : List α → List α
  | [] => []
  | x :: xs => x :: (firstsBy key xs).filter (key · ≠ key x)

section

variable [DecidableEq κ] {key : α → κ} {xs : List α}

theorem mem_keys_firstsBy : k ∈ (firstsBy key xs).map key ↔ k ∈ xs.map key := by
  induction xs
  case nil => simp [firstsBy]
  case cons x xs hi =>
    simp only [List.mem_map] at hi
    by_cases h : k = key x
    case pos => simp [firstsBy, h]
    case neg =>
      simp only [firstsBy, List.map_cons, List.mem_cons, h, false_or, List.mem_map, ← hi]
      constructor
      case mp  => exact fun ⟨y, hy, hk⟩ => ⟨y, List.mem_of_mem_filter hy, hk⟩
      case mpr => exact fun ⟨y, hy, hk⟩ => ⟨y, List.mem_filter.mpr ⟨hy, by simp [hk, h]⟩, hk⟩

theorem firstsBy_keys_nodup : ((firstsBy key xs).map key).Nodup := by
  induction xs
  case nil => exact List.nodup_nil
  case cons hi =>
    simp only [firstsBy, List.map_cons, List.nodup_cons]
    exact ⟨by simp, hi.sublist <| List.filter_sublist.map _⟩

theorem firstsBy_map {f : β → α} {ys : List β} :
    firstsBy key (ys.map f) = (firstsBy (key ∘ f) ys).map f := by
  induction ys <;> simp [firstsBy, *, List.filter_map, Function.comp_def]

-- Nothing is left out if all keys are distinct.
theorem firstsBy_of_nodup (h : (xs.map key).Nodup) : firstsBy key xs = xs := by
  induction xs
  case nil => rfl
  case cons x xs hi =>
    have ⟨hx, h⟩ := List.nodup_cons.mp h
    rw [firstsBy, hi h, List.filter_eq_self.mpr]
    intro y hy
    have hk : key y ∈ xs.map key := List.mem_map_of_mem hy
    exact decide_eq_true fun he => hx (he ▸ hk)

end

namespace Naming

theorem numbered_injective {stem : String} {m n : Nat}
    (h : stem ++ toString m = stem ++ toString n) : m = n := by
  have h := congrArg String.toList h
  simp at h
  simpa using congrArg (Nat.ofDigitChars 10 · 0) h

-- The search passes over names that are taken only.
theorem mem_of_lt_firstFree (h₁ : n ≤ i) (h₂ : i < firstFree taken base more n) :
    suffixed base i ∈ taken := by
  induction more generalizing n <;> simp only [firstFree] at h₂
  case zero => omega
  case succ hi =>
    split at h₂
    case isFalse => omega
    case isTrue h =>
      by_cases he : i = n
      case pos => exact he ▸ h
      case neg => exact hi (by omega) h₂

theorem firstFree_not_mem_or_eq :
    suffixed base (firstFree taken base more n) ∉ taken ∨
      firstFree taken base more n = n + more := by
  induction more generalizing n <;> simp only [firstFree]
  case zero => exact .inr rfl
  case succ more hi =>
    split
    case isFalse h => exact .inl h
    case isTrue    => exact hi.imp_right (by omega)

-- Different numbers make different names, so no more of them in a row can be taken than names are.
theorem le_length_of_suffixes {taken : List String}
    (h : ∀ i, n ≤ i → i < n + count → suffixed base i ∈ taken) : count ≤ taken.length := by
  let names := (List.range' n count).map (suffixed base)
  have hn : names.Nodup :=
    List.Nodup.map (fun _ _ h => numbered_injective h) List.nodup_range'
  have hs : names ⊆ taken := by
    intro name hm
    have ⟨i, hi, hname⟩ := List.mem_map.mp hm
    have ⟨h₁, h₂⟩ := List.mem_range'_1.mp hi
    exact hname ▸ h i h₁ h₂
  simpa [names] using hn.length_le_of_subset hs

-- With as many candidates as names are taken, the search cannot fail: otherwise there were more
-- candidates among the names than names.
theorem firstFree_not_mem : suffixed base (firstFree taken base taken.length n) ∉ taken := by
  intro h
  have he := firstFree_not_mem_or_eq.resolve_left (not_not_intro h)
  have hl : taken.length + 1 ≤ taken.length := le_length_of_suffixes fun i h₁ h₂ => by
    by_cases hl : i < n + taken.length
    case pos => exact mem_of_lt_firstFree h₁ (he ▸ hl)
    case neg => exact (show i = n + taken.length by omega) ▸ he ▸ h
  omega

namespace Allocator

variable {a : Allocator} {es : List (Int32 × String × α)}

theorem unique_not_mem (a : Allocator) (base : String) : (a.unique base).1 ∉ a.taken := by
  rw [unique]
  split
  case isTrue    => exact firstFree_not_mem
  case isFalse h => exact h

@[simp]
theorem unique_taken (a : Allocator) (base : String) :
    (a.unique base).2.taken = (a.unique base).1 :: a.taken := by
  rw [unique]
  split <;> rfl

@[simp]
theorem unique_byKey (a : Allocator) (base : String) : (a.unique base).2.byKey = a.byKey := by
  rw [unique]
  split <;> rfl

theorem uniqueAll_length (a : Allocator) (bases : List String) :
    (a.uniqueAll bases).length = bases.length := by
  induction bases generalizing a
  case nil          => rfl
  case cons _ _ hi => simp [uniqueAll, hi]

-- The allocator after a key without a name has got one.
def assign (a : Allocator) (key : Int32) (base : String) : Allocator :=
  { (a.unique base).2 with byKey := (key, (a.unique base).1) :: a.byKey }

theorem allocate_of_none (h : a.byKey.lookup key = none) :
    a.allocate key base = ((a.unique base).1, true, a.assign key base) := by
  simp [allocate, h, assign]

theorem allocate_of_some (h : a.byKey.lookup key = some name) :
    a.allocate key base = (name, false, a) := by
  simp [allocate, h]

theorem lookup_assign : (a.assign key base).byKey.lookup k =
    if k = key then some (a.unique base).1 else a.byKey.lookup k := by
  rw [assign, List.lookup_cons]
  by_cases h : k = key
  case pos => simp [h]
  case neg => simp [h, beq_eq_false_iff_ne.mpr h]

-- The allocator once all entries have their names.
def after (a : Allocator) : List (Int32 × String × α) → Allocator
  | [] => a
  | (key, base, _) :: es => (a.allocate key base).2.2.after es

theorem lookup_after (h : a.byKey.lookup key = some name) :
    (a.after es).byKey.lookup key = some name := by
  induction es generalizing a
  case nil => exact h
  case cons e es hi =>
    have ⟨k, base, _⟩ := e
    apply hi
    cases hk : a.byKey.lookup k
    case some => simpa [allocate_of_some hk] using h
    case none =>
      have : key ≠ k := by intro he; simp [he, hk] at h
      simp [allocate_of_none hk, lookup_assign, this, h]

-- Entries whose key is new add their name, the name that the key has in the end.
theorem allocateAll_eq (a : Allocator) (es : List (Int32 × String × α)) :
    (a.allocateAll es).map (fun (name, x) => (some name, x)) =
      ((firstsBy (·.1) es).filter (a.byKey.lookup ·.1 = none)).map
        fun (key, _, x) => ((a.after es).byKey.lookup key, x) := by
  induction es generalizing a
  case nil => rfl
  case cons e es hi =>
    have ⟨key, base, x⟩ := e
    cases hk : a.byKey.lookup key
    case none =>
      simp only [allocateAll, after, firstsBy, allocate_of_none hk, List.map_cons, hi,
        List.filter_cons, hk, decide_true, ↓reduceIte, List.filter_filter]
      congr 2
      · exact lookup_after (by simp [lookup_assign]) |>.symm
      · apply List.filter_congr
        intro e _
        by_cases he : e.1 = key <;> simp [lookup_assign, he]
    case some name =>
      simp only [allocateAll, after, firstsBy, allocate_of_some hk, hi, List.filter_cons, hk,
        reduceCtorEq, decide_false, Bool.false_eq_true, ↓reduceIte, List.filter_filter]
      congr 1
      apply List.filter_congr
      intro e _
      by_cases he : e.1 = key <;> simp [he, hk]

theorem exists_mem_of_mem_allocateAll (h : e ∈ a.allocateAll es) : ∃ e' ∈ es, e'.2.2 = e.2 := by
  induction es generalizing a
  case nil => simp [allocateAll] at h
  case cons e' es hi =>
    have ⟨key, base, x⟩ := e'
    cases hk : a.byKey.lookup key
    case some =>
      simp only [allocateAll, allocate_of_some hk] at h
      exact hi h |>.imp fun _ h => h.imp_left <| .tail _
    case none =>
      simp only [allocateAll, allocate_of_none hk] at h
      cases h
      case head   => exact ⟨_, .head _, rfl⟩
      case tail h => exact hi h |>.imp fun _ h => h.imp_left <| .tail _

theorem not_taken_of_mem_allocateAll (h : name ∈ (a.allocateAll es).map (·.1)) :
    name ∉ a.taken := by
  induction es generalizing a
  case nil => simp [allocateAll] at h
  case cons e es hi =>
    have ⟨key, base, x⟩ := e
    cases hk : a.byKey.lookup key
    case some =>
      simp only [allocateAll, allocate_of_some hk] at h
      exact hi h
    case none =>
      simp only [allocateAll, allocate_of_none hk, List.map_cons, List.mem_cons] at h
      cases h
      case inl h => exact h ▸ a.unique_not_mem base
      case inr h =>
        have := hi h
        simp only [assign, unique_taken, List.mem_cons, not_or] at this
        exact this.right

theorem allocateAll_nodup (a : Allocator) (es : List (Int32 × String × α)) :
    ((a.allocateAll es).map (·.1)).Nodup := by
  induction es generalizing a
  case nil => exact List.nodup_nil
  case cons e es hi =>
    have ⟨key, base, x⟩ := e
    cases hk : a.byKey.lookup key
    case some => simpa only [allocateAll, allocate_of_some hk] using hi a
    case none =>
      simp only [allocateAll, allocate_of_none hk, List.map_cons, List.nodup_cons]
      refine ⟨fun h => not_taken_of_mem_allocateAll h ?_, hi _⟩
      simp [assign]

-- Names of keys are taken, and each by one key only.
structure Consistent (a : Allocator) : Prop where
  taken : ∀ e ∈ a.byKey, e.2 ∈ a.taken
  nodup : (a.byKey.map (·.2)).Nodup

namespace Consistent

theorem empty : Consistent {} where
  taken := by simp
  nodup := List.nodup_nil

theorem assign (h : Consistent a) : Consistent (a.assign key base) where
  taken e he := by
    simp only [Allocator.assign, List.mem_cons, unique_taken] at he ⊢
    exact he.imp (congrArg _) (h.taken e)
  nodup := by
    simp only [Allocator.assign, List.map_cons, List.nodup_cons]
    refine ⟨fun hm => ?_, h.nodup⟩
    have ⟨e, he, hn⟩ := List.mem_map.mp hm
    exact a.unique_not_mem base (hn ▸ h.taken e he)

theorem allocate (h : Consistent a) : Consistent (a.allocate key base).2.2 := by
  cases hk : a.byKey.lookup key
  case none => exact allocate_of_none hk ▸ h.assign
  case some => exact allocate_of_some hk ▸ h

theorem after (h : Consistent a) : Consistent (a.after es) := by
  induction es generalizing a
  case nil          => exact h
  case cons e _ hi  => exact hi h.allocate

theorem key_eq (h : Consistent a) (h₁ : a.byKey.lookup k₁ = some name)
    (h₂ : a.byKey.lookup k₂ = some name) : k₁ = k₂ := by
  have hm {k} (hk : a.byKey.lookup k = some name) : (k, name) ∈ a.byKey := by
    have ⟨_, _, he, _⟩ := List.lookup_eq_some_iff.mp hk
    simp [he]
  exact congrArg Prod.fst <| List.inj_on_of_nodup_map h.nodup (hm h₁) (hm h₂) rfl

end Consistent

-- Names and items for a list of entries, with all names new.
theorem allocateAll_empty (es : List (Int32 × String × α)) :
    (allocateAll {} es).map (fun (name, x) => (some name, x)) =
      (firstsBy (·.1) es).map fun (key, _, x) => ((after {} es).byKey.lookup key, x) := by
  simp [allocateAll_eq]

-- With distinct keys, every entry has a name of its own.
theorem allocateAll_of_nodup (h : (es.map (·.1)).Nodup) :
    (allocateAll {} es).map (·.2) = es.map (·.2.2) := by
  have he := congrArg (List.map Prod.snd) (allocateAll_empty es)
  rw [firstsBy_of_nodup h] at he
  simpa [Function.comp_def] using he

end Allocator
end Naming
end DataAccess
