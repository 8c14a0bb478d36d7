import DataAccess.Proofs.Naming.Allocation
import Mathlib.Order.Bounds.Basic
/-!
Allocators over whole runs. Every call is answered by what has been handed out before it: a key that
has a name keeps it, and any other name is the requested one or has the least number that is free.
-/

namespace DataAccess.Naming

theorem suffixed_ne (base : String) (n : Nat) : suffixed base n ≠ base := by
  intro h
  have h := congrArg String.length h
  have : "_".length = 1 := rfl
  simp only [suffixed, String.length_append] at h
  omega

-- A name for a base where some names are taken. Numbers start with two, and no more of them are
-- tried than names are taken.
inductive Fresh (taken : List String) (base : String) : String → Prop
  | same : base ∉ taken → Fresh taken base base
  | numbered : base ∈ taken → IsLeast {n | 2 ≤ n ∧ suffixed base n ∉ taken} n →
    n ≤ taken.length + 1 → Fresh taken base (suffixed base n)

namespace Fresh

theorem not_mem (h : Fresh taken base name) : name ∉ taken := by
  cases h
  case same h         => exact h
  case numbered _ h _ => exact h.left.right

theorem of_perm (h : Fresh taken base name) (hp : taken.Perm taken') :
    Fresh taken' base name := by
  cases h
  case same h => exact .same (hp.mem_iff.not.mp h)
  case numbered hb h hl =>
    simp only [hp.mem_iff, hp.length_eq] at hb h hl
    exact .numbered hb h hl

end Fresh

-- Names for a list of bases, for each one where those before it are taken, too.
inductive FreshAll : List String → List String → List String → Prop
  | nil  : FreshAll taken [] []
  | cons : Fresh taken base name → FreshAll (name :: taken) bases names →
    FreshAll taken (base :: bases) (name :: names)

namespace FreshAll

theorem not_mem (h : FreshAll taken bases names) (hn : name ∈ names) : name ∉ taken := by
  induction h
  case nil          => contradiction
  case cons hf _ hi =>
    cases hn
    case head    => exact hf.not_mem
    case tail hn => exact fun hm => hi hn (.tail _ hm)

theorem nodup (h : FreshAll taken bases names) : names.Nodup := by
  induction h
  case nil         => exact List.nodup_nil
  case cons h hi => exact List.nodup_cons.mpr ⟨fun hm => h.not_mem hm (.head _), hi⟩

end FreshAll

-- The search does not go back.
theorem le_firstFree : n ≤ firstFree taken base more n := by
  induction more generalizing n <;> simp only [firstFree]
  case zero    => exact le_refl _
  case succ hi =>
    split
    case isTrue  => exact Nat.le_of_succ_le hi
    case isFalse => exact le_refl _

-- Besides the suffixes below the least free one, the base is taken itself.
theorem le_length_of_forall_mem {taken : List String} (hb : base ∈ taken)
    (h : ∀ i, 2 ≤ i → i < n → suffixed base i ∈ taken) : n ≤ taken.length + 1 := by
  have hl : n - 2 ≤ (taken.erase base).length := le_length_of_suffixes fun i h₁ h₂ =>
    List.mem_erase_of_ne (suffixed_ne base i) |>.mpr <| h i h₁ (by omega)
  rw [List.length_erase_of_mem hb] at hl
  have := List.length_pos_of_mem hb
  omega

inductive Call
  | unique (base : String)
  | allocate (key : Int32) (base : String)

-- A name, and whether it is handed out for the first time.
structure Answer where
  name : String
  isNew : Bool

-- The calls so far with their answers, the first one first.
abbrev History :=
  List (Call × Answer)

namespace History

def names (h : History) : List String :=
  (h.filter (·.2.isNew)).map (·.2.name)

-- The answer to the first call with a key.
def nameOf? (h : History) (key : Int32) : Option String :=
  h.findSome? fun
    | (.allocate k _, answer) => if k = key then some answer.name else none
    | (.unique _, _) => none

-- What a call is to be answered after a history.
inductive Grants (h : History) : Call → Answer → Prop
  | unique : Fresh h.names base name → h.Grants (.unique base) ⟨name, true⟩
  | new    : h.nameOf? key = none → Fresh h.names base name →
    h.Grants (.allocate key base) ⟨name, true⟩
  | known  : h.nameOf? key = some name → h.Grants (.allocate key base) ⟨name, false⟩

-- Every call is answered as it is to be, and no name is handed out as a new one twice.
structure Lawful (h : History) : Prop where
  grants : ∀ before c answer after, h = before ++ (c, answer) :: after →
    Grants before c answer
  nodup : h.names.Nodup

variable {h : History}

theorem names_concat (h : History) (c : Call) (answer : Answer) :
    names (h ++ [(c, answer)]) = h.names ++ if answer.isNew then [answer.name] else [] := by
  cases hn : answer.isNew <;> simp [names, hn]

@[simp]
theorem nameOf?_concat_unique (h : History) (base : String) (answer : Answer) (key : Int32) :
    nameOf? (h ++ [(.unique base, answer)]) key = h.nameOf? key := by
  simp [nameOf?, List.findSome?_append]

@[simp]
theorem nameOf?_concat_allocate (h : History) (k : Int32) (base : String) (answer : Answer)
    (key : Int32) : nameOf? (h ++ [(.allocate k base, answer)]) key =
      (h.nameOf? key).or (if k = key then some answer.name else none) := by
  simp [nameOf?, List.findSome?_append]

theorem Lawful.empty : Lawful [] where
  grants := by simp
  nodup := List.nodup_nil

theorem Grants.not_mem (hg : h.Grants c answer) (hn : answer.isNew) : answer.name ∉ h.names := by
  cases hg
  case unique hf => exact hf.not_mem
  case new hf    => exact hf.not_mem
  case known     => contradiction

theorem Lawful.concat (hl : h.Lawful) (hg : h.Grants c answer) :
    Lawful (h ++ [(c, answer)]) where
  grants before c' answer' after he := by
    obtain rfl | ⟨after, e, rfl⟩ := List.eq_nil_or_concat after
    case inl =>
      have ⟨hb, hc⟩ := List.append_inj' he rfl
      cases hc
      exact hb ▸ hg
    case inr =>
      rw [List.concat_eq_append, ← List.cons_append, ← List.append_assoc] at he
      exact hl.grants _ _ _ _ (List.append_inj' he rfl).left
  nodup := by
    rw [names_concat]
    split
    case isFalse   => simpa using hl.nodup
    case isTrue hn =>
      refine List.nodup_append.mpr ⟨hl.nodup, List.nodup_singleton _, fun name hm _ he => ?_⟩
      rw [List.mem_singleton.mp he]
      exact fun he => hg.not_mem hn (he ▸ hm)

end History

namespace Allocator

variable {a : Allocator} {h : History}

def call (a : Allocator) : Call → Answer × Allocator
  | .unique base => (⟨(a.unique base).1, true⟩, (a.unique base).2)
  | .allocate key base =>
    (⟨(a.allocate key base).1, (a.allocate key base).2.1⟩, (a.allocate key base).2.2)

theorem call_unique (a : Allocator) (base : String) :
    a.call (.unique base) = (⟨(a.unique base).1, true⟩, (a.unique base).2) :=
  rfl

theorem call_of_none (hk : a.byKey.lookup key = none) :
    a.call (.allocate key base) = (⟨(a.unique base).1, true⟩, a.assign key base) := by
  simp [call, allocate_of_none hk]

theorem call_of_some (hk : a.byKey.lookup key = some name) :
    a.call (.allocate key base) = (⟨name, false⟩, a) := by
  simp [call, allocate_of_some hk]

-- Calls with their answers, and the allocator in the end.
def run (a : Allocator) : List Call → History × Allocator
  | [] => ([], a)
  | c :: cs =>
    let (answer, a) := a.call c
    let (h, a) := a.run cs
    ((c, answer) :: h, a)

-- The search for a free suffix starts where all suffixes before are taken.
def Exhausts (a : Allocator) : Prop :=
  ∀ base, 2 ≤ a.start base ∧ ∀ i, 2 ≤ i → i < a.start base → suffixed base i ∈ a.taken

theorem Exhausts.empty : Exhausts {} :=
  fun _ => ⟨le_refl _, fun _ _ _ => by simp [start] at *; omega⟩

-- So nothing is passed over by starting there.
theorem Exhausts.mem_of_lt (ha : a.Exhausts) (h₁ : 2 ≤ i)
    (h₂ : i < firstFree a.taken base more (a.start base)) : suffixed base i ∈ a.taken := by
  by_cases hi : i < a.start base
  case pos => exact (ha base).right i h₁ hi
  case neg => exact mem_of_lt_firstFree (Nat.le_of_not_lt hi) h₂

theorem Exhausts.fresh (ha : a.Exhausts) (base : String) :
    Fresh a.taken base (a.unique base).1 := by
  rw [unique]
  split
  case isFalse hb => exact .same hb
  case isTrue hb =>
    let n := firstFree a.taken base a.taken.length (a.start base)
    have hm i (h₁ : 2 ≤ i) (h₂ : i < n) : suffixed base i ∈ a.taken := ha.mem_of_lt h₁ h₂
    refine .numbered hb ⟨⟨?_, firstFree_not_mem⟩, ?_⟩ (le_length_of_forall_mem hb hm)
    · exact (ha base).left.trans le_firstFree
    · exact fun i hi => Nat.le_of_not_lt fun h => hi.right (hm i hi.left h)

theorem start_unique (a : Allocator) (base b : String) : (a.unique base).2.start b =
    if b = base ∧ base ∈ a.taken then firstFree a.taken base a.taken.length (a.start base) + 1
    else a.start b := by
  rw [unique]
  by_cases hm : base ∈ a.taken
  case neg => simp [start, hm]
  case pos =>
    by_cases hb : b = base
    case pos => simp [start, hm, hb]
    case neg => simp [start, hm, hb, List.lookup_cons, beq_eq_false_iff_ne.mpr hb]

theorem Exhausts.unique (ha : a.Exhausts) (base : String) : (a.unique base).2.Exhausts := by
  intro b
  have ⟨hs, hm⟩ := ha b
  rw [start_unique, unique_taken]
  split
  case isFalse => exact ⟨hs, fun i h₁ h₂ => .tail _ (hm i h₁ h₂)⟩
  case isTrue hb =>
    obtain ⟨rfl, hb⟩ := hb
    let n := firstFree a.taken b a.taken.length (a.start b)
    have hn : (a.unique b).1 = suffixed b n := by rw [Allocator.unique, if_pos hb]
    have hl : 2 ≤ n := hs.trans le_firstFree
    refine ⟨Nat.le_succ_of_le hl, fun i h₁ h₂ => ?_⟩
    cases Nat.lt_succ_iff_lt_or_eq.mp h₂
    case inl hi => exact .tail _ (ha.mem_of_lt h₁ hi)
    case inr hi => exact hn ▸ hi ▸ .head _

theorem Exhausts.uniqueAll (ha : a.Exhausts) (bases : List String) :
    FreshAll a.taken bases (a.uniqueAll bases) := by
  induction bases generalizing a
  case nil             => exact .nil
  case cons base _ hi => exact .cons (ha.fresh base) (a.unique_taken base ▸ hi (ha.unique base))

-- What an allocator knows of a history.
structure Represents (a : Allocator) (h : History) : Prop where
  taken : a.taken.Perm h.names
  byKey : ∀ key, a.byKey.lookup key = h.nameOf? key
  exhausts : a.Exhausts

namespace Represents

theorem empty : Represents {} [] where
  taken := .refl _
  byKey _ := rfl
  exhausts := .empty

theorem grants (hr : a.Represents h) (c : Call) : h.Grants c (a.call c).1 := by
  have hf base : Fresh h.names base (a.unique base).1 := (hr.exhausts.fresh base).of_perm hr.taken
  cases c
  case unique base => exact .unique (hf base)
  case allocate key base =>
    cases hk : a.byKey.lookup key
    case none      => exact call_of_none hk ▸ .new (hr.byKey key ▸ hk) (hf base)
    case some name => exact call_of_some hk ▸ .known (hr.byKey key ▸ hk)

theorem call (hr : a.Represents h) (c : Call) :
    (a.call c).2.Represents (h ++ [(c, (a.call c).1)]) := by
  have hp base : (a.unique base).2.taken.Perm (h.names ++ [(a.unique base).1]) := by
    rw [unique_taken]
    exact (hr.taken.cons _).trans (List.perm_append_singleton _ _).symm
  cases c
  case unique base =>
    rw [call_unique]
    constructor
    case taken    => simpa [History.names_concat] using hp base
    case byKey    => simpa using hr.byKey
    case exhausts => exact hr.exhausts.unique base
  case allocate key base =>
    cases hk : a.byKey.lookup key
    case none =>
      rw [call_of_none hk]
      constructor
      case taken    => simpa [History.names_concat, assign] using hp base
      case exhausts => exact hr.exhausts.unique base
      case byKey =>
        intro k
        rw [lookup_assign, History.nameOf?_concat_allocate, ← hr.byKey]
        by_cases he : k = key
        case pos => simp [he, hk]
        case neg => simp [he, Ne.symm he]
    case some name =>
      rw [call_of_some hk]
      constructor
      case taken    => simpa [History.names_concat] using hr.taken
      case exhausts => exact hr.exhausts
      case byKey =>
        intro k
        rw [History.nameOf?_concat_allocate, ← hr.byKey]
        by_cases he : k = key
        case pos => simp [he, hk]
        case neg => simp [Ne.symm he]

theorem run (hr : a.Represents h) (hl : h.Lawful) (cs : List Call) :
    (a.run cs).2.Represents (h ++ (a.run cs).1) ∧ (h ++ (a.run cs).1).Lawful := by
  induction cs generalizing a h
  case nil => simpa [Allocator.run] using ⟨hr, hl⟩
  case cons c cs hi =>
    simpa [Allocator.run] using hi (hr.call c) (hl.concat (hr.grants c))

end Represents

theorem map_fst_run (a : Allocator) (cs : List Call) : (a.run cs).1.map (·.1) = cs := by
  induction cs generalizing a
  case nil          => rfl
  case cons c cs hi => simp [run, hi]

-- Any sequence of calls is answered to its end. A key that has got a name by then gets this name
-- again, and the allocator stays the same.
theorem run_lawful (cs : List Call) :
    (run {} cs).1.map (·.1) = cs ∧ (run {} cs).1.Lawful ∧
      ∀ key name, (run {} cs).1.nameOf? key = some name → ∀ base,
        (run {} cs).2.allocate key base = (name, false, (run {} cs).2) := by
  have ⟨hr, hl⟩ := Represents.empty.run .empty cs
  refine ⟨map_fst_run {} cs, hl, fun key name hk base => ?_⟩
  exact allocate_of_some <| (hr.byKey key).trans hk

example : (run {} [.unique "id_2", .allocate 7 "id", .unique "id", .allocate 7 "key"]).1.map
    (·.2.name) = ["id_2", "id", "id_3", "id"] := by
  decide +kernel

end Allocator
end DataAccess.Naming
