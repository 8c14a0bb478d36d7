import DataAccess.Naming.Singular
import Mathlib.Data.List.Basic
import Mathlib.Data.String.Basic
/-!
The rules on plurals, part by part. Whatever rule decides on a name, the name ends with a row of one
of the tables or with a single s, or it is kept.
-/

namespace DataAccess

namespace Naming

namespace Singular

variable {name : List Char}

theorem endsWith_iff : endsWith name e ↔ e.toList <:+ name :=
  List.isSuffixOf_iff_suffix

theorem endsWith_append (stem : List Char) (e : String) : endsWith (stem ++ e.toList) e :=
  endsWith_iff.mpr <| List.suffix_append _ _

theorem endsWithWord_iff :
    endsWithWord name w ↔ name = w.toList ∨ '_' :: w.toList <:+ name := by
  simp [endsWithWord, endsWith_iff]

theorem endsWith_of_endsWithWord (h : endsWithWord name w) : endsWith name w := by
  rw [endsWith_iff]
  cases endsWithWord_iff.mp h
  case inl h => exact h ▸ List.suffix_refl _
  case inr h => exact (List.suffix_cons _ _).trans h

theorem underscore_mem_of_suffix {v w : List Char} (h : '_' :: v <:+ w) : '_' ∈ w :=
  h.subset (.head _)

theorem eq_of_suffix {v w : List Char} (hw : '_' ∉ w) (h : '_' :: v <:+ '_' :: w) : v = w := by
  cases List.suffix_cons_iff.mp h
  case inl h => exact (List.cons.inj h).right
  case inr h => exact absurd (underscore_mem_of_suffix h) hw

theorem take_stem (stem : List Char) (e : String) :
    (stem ++ e.toList).take ((stem ++ e.toList).length - e.length) = stem := by
  rw [List.length_append, String.length_toList, Nat.add_sub_cancel]
  exact List.take_left

theorem before?_eq_some_iff {c : Char} : before? name e = some c ↔ c :: e.toList <:+ name := by
  rw [before?, Option.ite_none_right_eq_some, endsWith_iff]
  constructor
  case mp =>
    intro ⟨⟨stem, hs⟩, h⟩
    subst hs
    rw [take_stem, List.getLast?_eq_some_iff] at h
    have ⟨init, h⟩ := h
    exact ⟨init, by simp [h]⟩
  case mpr =>
    intro ⟨init, h⟩
    have hs : (init ++ [c]) ++ e.toList = name := by simpa using h
    subst hs
    exact ⟨List.suffix_append _ _, by rw [take_stem, List.getLast?_concat]⟩

theorem endsWith_of_before? {c : Char} (h : before? name e = some c) : endsWith name e :=
  endsWith_iff.mpr <| (List.suffix_cons _ _).trans (before?_eq_some_iff.mp h)

namespace Change

theorem apply_none (name : List Char) : Change.none.apply name = name := by
  simp [apply, none]

theorem apply_stem (stem : List Char) (e f : String) :
    (⟨e.length, f⟩ : Change).apply (stem ++ e.toList) = stem ++ f.toList := by
  rw [apply, take_stem]

-- What is in front of a name stays in front.
theorem apply_append {c : Change} (s : List Char) (h : c.cut ≤ name.length) :
    c.apply (s ++ name) = s ++ c.apply name := by
  rw [apply, apply, List.length_append, Nat.add_sub_assoc h, List.take_length_add_append,
    List.append_assoc]

end Change

-- The rules on endings, from which the fixed names are exempt.
def rules (name : List Char) : Change :=
  if uncountable.any (endsWithWord name) then .none
  else
    match irregular.find? fun (plural, _) => endsWithWord name plural with
    | some (plural, singular) => ⟨plural.length, singular⟩
    | none =>
      match endings.find? fun (plural, _) => endsWith name plural with
      | some (plural, singular) => ⟨plural.length, singular⟩
      | none => tailChange name

theorem change_of_fixed (h : fixed.any (name = ·.toList)) : change name = .none :=
  if_pos h

theorem change_of_not_fixed (h : ¬fixed.any (name = ·.toList)) : change name = rules name :=
  if_neg h

-- The part of the rules that decides on a name, and what it goes by.
inductive Ruled (name : List Char) : Change → Prop
  | uncountable : w ∈ uncountable → endsWithWord name w → Ruled name .none
  | irregular : e ∈ irregular → endsWithWord name e.1 → Ruled name ⟨e.1.length, e.2⟩
  | ending : (∀ e ∈ Singular.irregular, ¬endsWithWord name e.1) → e ∈ endings →
    endsWith name e.1 → Ruled name ⟨e.1.length, e.2⟩
  | tail : (∀ e ∈ Singular.irregular, ¬endsWithWord name e.1) →
    (∀ e ∈ endings, ¬endsWith name e.1) → Ruled name (tailChange name)

theorem ruled (name : List Char) : Ruled name (rules name) := by
  rw [rules]
  split
  case isTrue h =>
    have ⟨_, hm, hw⟩ := List.any_eq_true.mp h
    exact .uncountable hm hw
  case isFalse =>
    split
    case h_1 h => exact .irregular (List.mem_of_find?_eq_some h) (by simpa using List.find?_some h)
    case h_2 hi =>
      replace hi := List.find?_eq_none.mp hi
      split
      case h_1 h =>
        exact .ending hi (List.mem_of_find?_eq_some h) (by simpa using List.find?_some h)
      case h_2 h => exact .tail hi (List.find?_eq_none.mp h)

-- What comes of each of the endings whose singular depends on the letter before.
def ies? (name : List Char) : Option Change := do
  let c ← before? name "ies"
  if c ∉ ['a', 'e', 'i', 'o', 'u', 'y'] ∨ endsWith name "quies" then some ⟨3, "y"⟩ else none

def ves? (name : List Char) : Option Change := do
  let c ← before? name "ves"
  if c = 'l' ∨ c = 'r' then some ⟨3, "f"⟩
  else if c ≠ 'f' then some ⟨3, "fe"⟩
  else none

def a? (name : List Char) : Option Change := do
  let c ← before? name "a"
  if c = 't' ∨ c = 'i' then some ⟨1, "um"⟩ else none

def cutS (name : List Char) : Change :=
  if 1 < name.length ∧ endsWith name "s" then ⟨1, ""⟩ else .none

theorem tailChange_eq (name : List Char) :
    tailChange name = (ies? name <|> ves? name <|> a? name).getD (cutS name) :=
  rfl

-- The rows of these endings.
def tailEndings : List (String × String) :=
  [("ies", "y"), ("ves", "f"), ("ves", "fe"), ("a", "um")]

def rows : List (String × String) :=
  irregular ++ endings ++ tailEndings

-- A name gets another ending by a row of a table, or loses no more than a single s.
inductive Rewrites (name : List Char) : Change → Prop
  | kept : Rewrites name .none
  | row : e ∈ rows → endsWith name e.1 → Rewrites name ⟨e.1.length, e.2⟩
  | cut : endsWith name "s" → ¬endsWith name "ss" → 1 < name.length → Rewrites name ⟨1, ""⟩

theorem ies?_rewrites (h : ies? name = some c) : Rewrites name c := by
  have ⟨_, hb, h⟩ := Option.bind_eq_some_iff.mp h
  cases (Option.ite_none_right_eq_some.mp h).right
  exact .row (e := ("ies", "y")) (by decide) (endsWith_of_before? hb)

theorem ves?_rewrites (h : ves? name = some c) : Rewrites name c := by
  have ⟨_, hb, h⟩ := Option.bind_eq_some_iff.mp h
  have hb := endsWith_of_before? hb
  split at h
  case isTrue  =>
    cases h
    exact .row (e := ("ves", "f")) (by decide) hb
  case isFalse =>
    cases (Option.ite_none_right_eq_some.mp h).right
    exact .row (e := ("ves", "fe")) (by decide) hb

theorem a?_rewrites (h : a? name = some c) : Rewrites name c := by
  have ⟨_, hb, h⟩ := Option.bind_eq_some_iff.mp h
  cases (Option.ite_none_right_eq_some.mp h).right
  exact .row (e := ("a", "um")) (by decide) (endsWith_of_before? hb)

theorem cutS_rewrites (h : ¬endsWith name "ss") : Rewrites name (cutS name) := by
  rw [cutS]
  split
  case isTrue hs => exact .cut hs.right h hs.left
  case isFalse   => exact .kept

theorem tailChange_rewrites (h : ¬endsWith name "ss") : Rewrites name (tailChange name) := by
  rw [tailChange_eq]
  cases hi : ies? name
  case some => exact ies?_rewrites hi
  case none =>
    cases hv : ves? name
    case some => exact ves?_rewrites hv
    case none =>
      cases ha : a? name
      case some => exact a?_rewrites ha
      case none => exact cutS_rewrites h

theorem Ruled.rewrites (h : Ruled name c) : Rewrites name c := by
  cases h
  case uncountable      => exact .kept
  case irregular he hw  => exact .row (by simp [rows, he]) (endsWith_of_endsWithWord hw)
  case ending _ he hn   => exact .row (by simp [rows, he]) hn
  case tail h           => exact tailChange_rewrites <| h ("ss", "ss") (by decide)

theorem change_rewrites (name : List Char) : Rewrites name (change name) := by
  by_cases h : fixed.any (name = ·.toList)
  case pos => exact change_of_fixed h ▸ .kept
  case neg => exact change_of_not_fixed h ▸ (ruled name).rewrites

theorem length_le_of_endsWith (h : endsWith name e) : e.length ≤ name.length := by
  rw [← String.length_toList]
  exact (endsWith_iff.mp h).length_le

theorem Rewrites.cut_le (h : Rewrites name c) : c.cut ≤ name.length := by
  cases h
  case kept      => exact Nat.zero_le _
  case row he    => exact length_le_of_endsWith he
  case cut hl    => exact Nat.le_of_lt hl

end Singular
end Naming
end DataAccess
