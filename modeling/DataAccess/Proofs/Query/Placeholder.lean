import DataAccess.Query.Placeholder
import Mathlib.Data.List.TakeWhile
/-!
Placeholders in SQL text are named where they stand, and the text around them does not matter.
-/

namespace DataAccess.Sql

variable {s t digits rest before after : List Char} {positional : Bool} {prev : Option Char}

theorem takeWhile_isDigit_of_not_isWord (h : ¬s.head?.any Text.isWord) :
    s.takeWhile Char.isDigit = [] := by
  cases s
  case nil => rfl
  case cons c s =>
    have : ¬c.isDigit := fun hc => h (Text.isWord_of_isDigit hc)
    simp [this]

theorem placeholder?_eq_some_iff : placeholder? s = some (digits, rest) ↔
    s = digits ++ rest ∧ digits ≠ [] ∧ (∀ c ∈ digits, c.isDigit) ∧ ¬rest.head?.any Text.isWord := by
  simp only [placeholder?]
  constructor
  case mp =>
    intro h
    split at h
    · contradiction
    case isFalse hn =>
      rw [not_or] at hn
      injection h with h
      injection h with hd hr
      subst hd hr
      have hs := (List.takeWhile_append_dropWhile (p := Char.isDigit) (l := s)).symm
      exact ⟨hs, hn.left, fun _ => List.mem_takeWhile_imp, hn.right⟩
  case mpr =>
    rintro ⟨hs, hn, hd, hr⟩
    have ht : s.takeWhile Char.isDigit = digits := by
      rw [hs, List.takeWhile_append_of_pos hd, takeWhile_isDigit_of_not_isWord hr, List.append_nil]
    have hw : s.dropWhile Char.isDigit = rest := by
      apply (List.append_right_inj digits).mp
      rw [← hs, ← ht, List.takeWhile_append_dropWhile]
    simp [ht, hw, hn, hr]

-- What follows a word does not change where the word is a placeholder.
theorem placeholder?_append (ht : ¬t.head?.any Text.isWord) :
    placeholder? (s ++ t) = (placeholder? s).map fun (digits, rest) => (digits, rest ++ t) := by
  cases hp : placeholder? s
  case some r =>
    have ⟨digits, rest⟩ := r
    have ⟨hs, hn, hd, hr⟩ := placeholder?_eq_some_iff.mp hp
    refine placeholder?_eq_some_iff.mpr ⟨by simp [hs], hn, hd, ?_⟩
    cases rest
    case nil  => exact ht
    case cons => exact hr
  case none =>
    apply Option.eq_none_iff_forall_not_mem.mpr
    intro (digits, rest) h
    have ⟨hs, hn, hd, hr⟩ := placeholder?_eq_some_iff.mp h
    -- The digits end within `s`: otherwise what follows would start with one of them.
    have ⟨s', hs', hrest⟩ : ∃ s', s = digits ++ s' ∧ rest = s' ++ t := by
      cases List.append_eq_append_iff.mp hs
      case inr h => exact h
      case inl h =>
        have ⟨more, hdigits, ht'⟩ := h
        cases more
        case nil => exact ⟨[], by simpa using hdigits.symm, by simpa using ht'.symm⟩
        case cons c more =>
          have hc := hd c (by simp [hdigits])
          exact absurd (by simp [ht', Text.isWord_of_isDigit hc]) ht
    have hr' : ¬s'.head?.any Text.isWord := by
      cases s'
      case nil  => simp
      case cons => simpa [hrest] using hr
    exact absurd (placeholder?_eq_some_iff.mpr ⟨hs', hn, hd, hr'⟩) (by simp [hp])

theorem toNamedAfter_colon :
    toNamedAfter positional prev (':' :: s) =
      colonEscape ++ toNamedAfter positional (some ':') s := by
  simp [toNamedAfter]

theorem toNamedAfter_placeholder (hp : positional) (hb : ¬prev.any Text.isWord)
    (h : placeholder? s = some (digits, rest)) :
    toNamedAfter positional prev ('$' :: s) =
      [':', 'p'] ++ digits ++ toNamedAfter positional digits.getLast? rest := by
  rw [toNamedAfter, if_neg (by decide), if_pos ⟨rfl, hp, hb⟩]
  split
  case h_1 h' =>
    injection h ▸ h' with h
    injection h with hd hr
    simp [hd, hr]
  case h_2 h' => simp [h] at h'

theorem toNamedAfter_copy (hc : c ≠ ':')
    (h : c = '$' → positional → ¬prev.any Text.isWord → placeholder? s = none) :
    toNamedAfter positional prev (c :: s) = c :: toNamedAfter positional (some c) s := by
  rw [toNamedAfter, if_neg hc]
  split
  case isFalse => rfl
  case isTrue hd =>
    split
    case h_2    => rfl
    case h_1 h' => simp [h hd.left hd.right.left hd.right.right] at h'

theorem getLast?_cons_or : (c :: s).getLast?.or prev = s.getLast?.or (some c) := by
  simp [List.getLast?_cons]

-- The text before a boundary is rewritten without a look at the text after it, of which only the
-- first character matters: it is not one of a word.
theorem toNamedAfter_append (ht : ¬t.head?.any Text.isWord) :
    toNamedAfter positional prev (s ++ t) =
      toNamedAfter positional prev s ++ toNamedAfter positional (s.getLast?.or prev) t := by
  fun_induction toNamedAfter positional prev s
  case case1 => simp
  case case2 hi =>
    rw [List.cons_append, toNamedAfter_colon, getLast?_cons_or, hi, List.append_assoc]
  case case3 hd digits rest h hi =>
    have hr := (placeholder?_append ht).trans (congrArg _ h)
    have ⟨hs, hn, _, _⟩ := placeholder?_eq_some_iff.mp h
    have hl : digits.getLast?.isSome := by simpa using hn
    rw [hd.left, List.cons_append, toNamedAfter_placeholder hd.right.left hd.right.right hr, hi, hs,
      getLast?_cons_or, List.getLast?_append, Option.or_assoc, Option.or_of_isSome hl]
    simp only [List.append_assoc]
  case case4 hc hd h hi =>
    rw [List.cons_append, toNamedAfter_copy hc, getLast?_cons_or, hi, List.cons_append]
    exact fun _ _ _ => by rw [placeholder?_append ht, h, Option.map_none]
  case case5 hc hd hi =>
    rw [List.cons_append, toNamedAfter_copy hc, getLast?_cons_or, hi, List.cons_append]
    exact fun h hp hb => absurd ⟨h, hp, hb⟩ hd

-- The placeholder of an ordinal stands in a text: no word touches it on either side.
structure Occurs (ordinal : Nat) (sql before after : List Char) : Prop where
  split : sql = before ++ '$' :: ((toString ordinal).toList ++ after)
  before : ¬before.getLast?.any Text.isWord
  after : ¬after.head?.any Text.isWord

theorem placeholder?_toString {n : Nat} (h : ¬after.head?.any Text.isWord) :
    placeholder? ((toString n).toList ++ after) = some ((toString n).toList, after) := by
  refine placeholder?_eq_some_iff.mpr ⟨rfl, by simp, fun c hc => ?_, h⟩
  rw [Nat.toString_eq_repr, Nat.toList_repr] at hc
  exact Nat.isDigit_of_mem_toDigits (by decide) (by decide) hc

-- A placeholder keeps its ordinal: `$N` becomes `:pN`, whatever stands around it.
theorem toNamedChars_of_occurs (h : Occurs n sql before after) :
    toNamedChars true sql =
      toNamedAfter true none before ++ ([':', 'p'] ++ (toString n).toList ++
        toNamedAfter true (toString n).toList.getLast? after) := by
  have hw : ¬('$' :: ((toString n).toList ++ after)).head?.any Text.isWord := by
    rw [List.head?_cons]
    decide
  rw [toNamedChars, h.split, toNamedAfter_append hw, Option.or_none,
    toNamedAfter_placeholder rfl h.before (placeholder?_toString h.after)]

example : toNamed .postgresql "SELECT * FROM t WHERE a = $1 AND b::text = $2" =
    "SELECT * FROM t WHERE a = :p1 AND b\\\\:\\\\:text = :p2" := by
  decide +kernel

end DataAccess.Sql
