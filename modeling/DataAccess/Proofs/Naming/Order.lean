import Mathlib.Data.List.Destutter
import Mathlib.Data.List.Nodup
import Mathlib.Data.List.Sort
import Mathlib.Data.String.Basic
/-!
Items in the order of their names. Sorting forgets the order from before, but for items of one name,
and these keep it.
-/

namespace DataAccess.Naming

section

variable {name : α → String} {le : α → α → Bool} {xs ys : List α}

theorem mem_iff_of_filter_eq (h : ∀ n, xs.filter (name · = n) = ys.filter (name · = n)) :
    x ∈ xs ↔ x ∈ ys := by
  simpa using congrArg (x ∈ ·) (h (name x))

-- Of sorted lists, the first items have the same name, so they are the first ones of this name.
theorem eq_of_filter_eq (hx : xs.Pairwise (name · ≤ name ·)) (hy : ys.Pairwise (name · ≤ name ·))
    (h : ∀ n, xs.filter (name · = n) = ys.filter (name · = n)) : xs = ys := by
  induction xs generalizing ys
  case nil =>
    symm
    rw [List.eq_nil_iff_forall_not_mem]
    exact fun y hm => by simpa using mem_iff_of_filter_eq h |>.mpr hm
  case cons x xs hi =>
    cases ys
    case nil => simpa using mem_iff_of_filter_eq (x := x) h
    case cons y ys =>
      have ⟨hx, hxs⟩ := List.pairwise_cons.mp hx
      have ⟨hy, hys⟩ := List.pairwise_cons.mp hy
      have hxy : name x ≤ name y := by
        cases mem_iff_of_filter_eq h |>.mpr (.head _)
        case head      => exact le_refl _
        case tail hm   => exact hx _ hm
      have hyx : name y ≤ name x := by
        cases mem_iff_of_filter_eq h |>.mp (.head _)
        case head      => exact le_refl _
        case tail hm   => exact hy _ hm
      have hn := le_antisymm hxy hyx
      have he : x = y := by simpa [hn] using congrArg List.head? (h (name y))
      subst he
      congr 1
      refine hi hxs hys fun n => ?_
      by_cases hx : name x = n <;> simpa [hx] using h n

variable (hle : ∀ x y, le x y = decide (name x ≤ name y))
include hle

theorem trans_of_le (x y z : α) : le x y → le y z → le x z := by
  simpa [hle] using le_trans

theorem total_of_le (x y : α) : le x y || le y x := by
  simpa [hle] using le_total _ _

theorem pairwise_mergeSort_le : (xs.mergeSort le).Pairwise (name · ≤ name ·) := by
  simpa [hle] using List.pairwise_mergeSort (trans_of_le hle) (total_of_le hle) xs

theorem pairwise_mergeSort_lt (h : (xs.map name).Nodup) :
    (xs.mergeSort le).Pairwise (name · < name ·) := by
  have hn : ((xs.mergeSort le).map name).Nodup := (xs.mergeSort_perm le).map name |>.nodup_iff.mpr h
  exact pairwise_mergeSort_le hle |>.imp₂ (fun _ _ => lt_of_le_of_ne) (List.pairwise_map.mp hn)

-- Sorting is stable: items of one name are sorted already, and there are as many of them after.
theorem filter_mergeSort (n : String) :
    (xs.mergeSort le).filter (name · = n) = xs.filter (name · = n) := by
  have hp : (xs.filter (name · = n)).Pairwise (le · ·) :=
    List.pairwise_of_forall_mem_list fun x hx y hy => by
      simp only [List.mem_filter, decide_eq_true_eq] at hx hy
      simp [hle, hx.right, hy.right]
  have hs := List.sublist_mergeSort (trans_of_le hle) (total_of_le hle) hp List.filter_sublist
  have hs := hs.filter (name · = n)
  simp only [List.filter_filter, Bool.and_self] at hs
  exact hs.eq_of_length (xs.mergeSort_perm le |>.filter _ |>.length_eq.symm) |>.symm

-- Items can be selected before sorting or after it.
theorem filter_mergeSort_eq (p : α → Bool) :
    (xs.mergeSort le).filter p = (xs.filter p).mergeSort le := by
  apply eq_of_filter_eq (pairwise_mergeSort_le hle |>.filter p) (pairwise_mergeSort_le hle)
  intro n
  rw [List.filter_comm, filter_mergeSort hle, filter_mergeSort hle, List.filter_comm]

variable (name)

theorem mergeSort_eq_of_filter_eq (h : ∀ n, xs.filter (name · = n) = ys.filter (name · = n)) :
    xs.mergeSort le = ys.mergeSort le := by
  apply eq_of_filter_eq (pairwise_mergeSort_le hle) (pairwise_mergeSort_le hle)
  simpa only [filter_mergeSort hle] using h

theorem mergeSort_eq_of_perm (h : xs.Perm ys) (hn : (xs.map name).Nodup) :
    xs.mergeSort le = ys.mergeSort le := by
  have hp := (xs.mergeSort_perm le).trans <| h.trans (ys.mergeSort_perm le).symm
  refine hp.eq_of_pairwise (fun x y hx hy hxy hyx => ?_)
    (pairwise_mergeSort_le hle) (pairwise_mergeSort_le hle)
  have hy := h.mem_iff.mpr (List.mem_mergeSort.mp hy)
  exact List.inj_on_of_nodup_map hn (List.mem_mergeSort.mp hx) hy (le_antisymm hxy hyx)

theorem sorts_iff_of_perm (h : xs.Perm ys) :
    (xs.map name).Nodup ∧ xs.mergeSort le = zs ↔ (ys.map name).Nodup ∧ ys.mergeSort le = zs := by
  rw [← (h.map name).nodup_iff]
  exact and_congr_right fun hn => by rw [mergeSort_eq_of_perm name hle h hn]

end

-- Where names are distinct, the first item of a name is the only one.
theorem filter_eq_find? {name : α → String} {xs : List α} (h : (xs.map name).Nodup) :
    xs.filter (name · = n) = (xs.find? (name · = n)).toList := by
  induction xs
  case nil => rfl
  case cons x xs hi =>
    have ⟨hx, h⟩ := List.nodup_cons.mp h
    by_cases hn : name x = n
    case neg => simpa [hn] using hi h
    case pos =>
      have hs : xs.filter (name · = n) = [] :=
        List.filter_eq_nil_iff.mpr fun y hy hyn => hx <| by
          rw [hn, ← of_decide_eq_true hyn]
          exact List.mem_map_of_mem hy
      simp [hn, hs]

-- Of equal neighbours, one is kept.
theorem eraseReps_eq_destutter (xs : List String) : xs.eraseReps = xs.destutter (· ≠ ·) := by
  have hl {x : String} {xs acc} : List.eraseRepsBy.loop (· == ·) x xs acc =
      acc.reverse ++ xs.destutter' (· ≠ ·) x := by
    induction xs generalizing x acc
    case nil => simp [List.eraseRepsBy.loop]
    case cons y ys hi =>
      by_cases h : x = y
      case pos => simp [List.eraseRepsBy.loop, List.destutter', hi, h]
      case neg => simp [List.eraseRepsBy.loop, List.destutter', hi, h, beq_eq_false_iff_ne.mpr h]
  cases xs
  case nil  => rfl
  case cons => simp [List.eraseReps, List.eraseRepsBy, hl, List.destutter]

-- In a sorted list, equal items are neighbours.
theorem eraseReps_eq_dedup {xs : List String} (h : xs.Pairwise (· ≤ ·)) : xs.eraseReps = xs.dedup :=
  (eraseReps_eq_destutter xs).trans h.destutter_eq_dedup

end DataAccess.Naming
