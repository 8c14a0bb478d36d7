import DataAccess.Proofs.Naming.SnakeCase
import Mathlib.Data.List.Forall2
import Mathlib.Data.List.TakeWhile
/-!
Where snake case puts underscores. The two passes over a name come to one rule about a capital and
the characters next to it: what the first pass does not look at again is left to the second one.
-/

namespace DataAccess

namespace Text

theorem not_isUpper_of_isLower {c : Char} (h : c.isLower) : ¬c.isUpper := by
  unfold Char.isLower at h
  unfold Char.isUpper
  grind

-- A character in small letters. A sigma that ends a word has a letter of its own.
def Lowers (c : Char) (piece : List Char) : Prop :=
  piece = lowerChar c ∨ c = capitalSigma ∧ piece = [finalSigma]

theorem exists_lowers (before : List Char) (c : Char) (s : List Char) : ∃ piece,
    Lowers c piece ∧ lowerAfter before (c :: s) = piece ++ lowerAfter (c :: before) s := by
  rw [lowerAfter]
  split
  case isTrue h => exact ⟨_, .inr ⟨h.left, rfl⟩, rfl⟩
  case isFalse  => exact ⟨_, .inl rfl, rfl⟩

theorem lowerAfter_underscore (before s : List Char) :
    lowerAfter before ('_' :: s) = '_' :: lowerAfter ('_' :: before) s := by
  have hs : '_' ≠ capitalSigma := by decide
  have hl : lowerChar '_' = ['_'] := by decide +kernel
  simp [lowerAfter, hs, hl]

end Text

namespace Naming

-- Words start at capitals: after a small letter or a digit, or else before a small letter. The
-- first character of a text starts none, nor does that of a line with a small letter after it.
def StartsWord (s : List Char) : Nat → Prop
  | 0 => False
  | i + 1 => s[i + 1]?.any Char.isUpper ∧
      (s[i]?.any (fun a => a.isLower || a.isDigit) ∨
        s[i + 2]?.any Char.isLower ∧ s[i]? ≠ some '\n')

instance : DecidablePred (StartsWord s)
  | 0     => inferInstanceAs (Decidable False)
  | _ + 1 => inferInstanceAs (Decidable (_ ∧ _))

-- Pieces of a text, the first one at place `i`, with an underscore before those at certain places.
def markFrom (p : Nat → Prop) [DecidablePred p] (i : Nat) : List (List Char) → List Char
  | [] => []
  | piece :: pieces => (if p i then '_' :: piece else piece) ++ markFrom p (i + 1) pieces

-- Every character is put in small letters in its place, with an underscore before it or without.
theorem lowerAfter_markFrom {p : Nat → Prop} [DecidablePred p] (before s : List Char) (i : Nat) :
    ∃ pieces, List.Forall₂ Text.Lowers s pieces ∧
      Text.lowerAfter before (markFrom p i (s.map ([·]))) = markFrom p i pieces := by
  induction s generalizing before i
  case nil => exact ⟨[], .nil, rfl⟩
  case cons c s hi =>
    let rest := markFrom p (i + 1) (s.map ([·]))
    by_cases hp : p i
    case pos =>
      have ⟨piece, hc, hl⟩ := Text.exists_lowers ('_' :: before) c rest
      have ⟨pieces, hs, hr⟩ := hi (c :: '_' :: before) (i + 1)
      refine ⟨piece :: pieces, .cons hc hs, ?_⟩
      simp [markFrom, hp, Text.lowerAfter_underscore, rest, hl, hr]
    case neg =>
      have ⟨piece, hc, hl⟩ := Text.exists_lowers before c rest
      have ⟨pieces, hs, hr⟩ := hi (c :: before) (i + 1)
      refine ⟨piece :: pieces, .cons hc hs, ?_⟩
      simp [markFrom, hp, rest, hl, hr]

-- Whether a word starts at a capital between a character and a text.
def Opens (a b : Char) (s : List Char) : Prop :=
  b.isUpper ∧ ((a.isLower ∨ a.isDigit) ∨ s.head?.any Char.isLower ∧ a ≠ '\n')

instance : Decidable (Opens a b s) :=
  inferInstanceAs (Decidable (_ ∧ _))

-- Underscores for a text that follows a character.
def splitAfter (a : Char) : List Char → List Char
  | [] => []
  | b :: s => (if Opens a b s then ['_', b] else [b]) ++ splitAfter b s

theorem splitAfter_cons (a b : Char) (s : List Char) :
    splitAfter a (b :: s) = (if Opens a b s then ['_', b] else [b]) ++ splitAfter b s :=
  rfl

theorem startsWord_iff {before : List Char} :
    StartsWord (before ++ a :: b :: s) (before.length + 1) ↔ Opens a b s := by
  simp [StartsWord, Opens, List.getElem?_append_right, List.head?_eq_getElem?]

theorem markFrom_eq_splitAfter (before : List Char) (a : Char) (s : List Char) :
    markFrom (StartsWord (before ++ a :: s)) (before.length + 1) (s.map ([·])) =
      splitAfter a s := by
  induction s generalizing before a
  case nil => rfl
  case cons b s hi =>
    have hs := hi (before ++ [a]) b
    simp only [List.append_assoc, List.cons_append, List.nil_append, List.length_append,
      List.length_cons, List.length_nil] at hs
    rw [List.map_cons, markFrom, splitAfter, hs]
    simp only [startsWord_iff]

-- The first character of a name stays where it is in both passes.
theorem head?_splitWords (s : List Char) : (splitWords s).head? = s.head? := by
  cases s using splitWords.fun_cases <;> simp [splitWords, *]

theorem splitCases_cons (a : Char) (s : List Char) : splitCases (a :: s) =
    a :: (if (a.isLower ∨ a.isDigit) ∧ s.head?.any Char.isUpper then ['_'] else []) ++
      splitCases s := by
  cases s
  case nil => simp [splitCases]
  case cons b s =>
    rw [splitCases]
    split <;> simp [*]

-- A text starts like a line.
theorem splitAfter_newline (a : Char) (s : List Char) :
    splitAfter '\n' (a :: s) = a :: splitAfter a s := by
  have h : ¬Opens '\n' a s := by simp [Opens]
  rw [splitAfter_cons, if_neg h, List.singleton_append]

-- What the first pass steps over are small letters, so the second pass still splits after them.
theorem splitCases_small {small rest : List Char} (ha : a.isLower) (hs : ∀ c ∈ small, c.isLower)
    (hr : splitCases (splitWords rest) = splitAfter '\n' rest) :
    splitCases (a :: (small ++ splitWords rest)) = a :: splitAfter a (small ++ rest) := by
  induction small generalizing a
  case nil =>
    rw [List.nil_append, List.nil_append, splitCases_cons, head?_splitWords, hr]
    cases rest
    case nil        => simp [splitAfter]
    case cons b rest =>
      have ho : Opens a b rest ↔ b.isUpper := by simp [Opens, ha]
      rw [splitAfter_newline, splitAfter]
      by_cases hb : b.isUpper <;> simp [ha, ho, hb]
  case cons c small hi =>
    have ⟨hc, hs⟩ := List.forall_mem_cons.mp hs
    have hu := Text.not_isUpper_of_isLower hc
    simp [splitCases_cons a, splitAfter, Opens, hu, hi hc hs]

-- Both passes together.
theorem splitCases_splitWords (s : List Char) :
    splitCases (splitWords s) = splitAfter '\n' s := by
  induction s using splitWords.induct
  case case1 a b c s h hi =>
    obtain ⟨ha, hb, hc⟩ := h
    let small := s.takeWhile Char.isLower
    let rest := s.dropWhile Char.isLower
    have hu := Text.not_isUpper_of_isLower hc
    have ht : (c :: s).takeWhile Char.isLower = c :: small := List.takeWhile_cons_of_pos hc
    have hd : (c :: s).dropWhile Char.isLower = rest := List.dropWhile_cons_of_pos hc
    have ho : Opens a b (c :: s) := ⟨hb, .inr ⟨hc, ha⟩⟩
    have hn : ¬Opens b c s := fun h => hu h.left
    calc
      _ = splitCases (a :: '_' :: b :: c :: (small ++ splitWords rest)) := by
        rw [splitWords, if_pos ⟨ha, hb, hc⟩, ht, hd]
        rfl
      _ = a :: '_' :: b :: splitCases (c :: (small ++ splitWords rest)) := by
        simp [splitCases_cons a, splitCases_cons '_', splitCases_cons b, hu]
      _ = a :: '_' :: b :: c :: splitAfter c (small ++ rest) := by
        rw [splitCases_small hc (fun _ => List.mem_takeWhile_imp) (hd ▸ hi)]
      _ = splitAfter '\n' (a :: b :: c :: s) := by
        rw [List.takeWhile_append_dropWhile, splitAfter_newline, splitAfter_cons, if_pos ho,
          splitAfter_cons, if_neg hn]
        rfl
  case case2 a b c s h hi =>
    have ho : Opens a b (c :: s) ↔ (a.isLower ∨ a.isDigit) ∧ b.isUpper := by
      simp only [Opens, List.head?_cons, Option.any_some]
      grind
    rw [splitWords, if_neg h, splitCases_cons, head?_splitWords, hi, splitAfter_newline,
      splitAfter_newline, splitAfter_cons a]
    by_cases hb : Opens a b (c :: s) <;> simp [hb, ← ho]
  case case3 s hs =>
    rcases s with _ | ⟨a, _ | ⟨b, _ | ⟨c, s⟩⟩⟩
    · simp [splitWords, splitCases, splitAfter]
    · rw [splitAfter_newline]
      simp [splitWords, splitCases, splitAfter]
    · have ho : Opens a b [] ↔ (a.isLower ∨ a.isDigit) ∧ b.isUpper := by
        simp [Opens, and_comm]
      rw [splitAfter_newline, splitAfter_cons]
      by_cases hb : Opens a b [] <;> simp [splitWords, splitCases, hb, ← ho, splitAfter]
    · exact absurd rfl (hs a b c s)

-- In snake case, a name has an underscore wherever a word starts in it and is put in small letters.
-- Character by character, nothing else is added, lost or moved.
theorem methodName_eq (name : String) :
    methodName name = Text.lower
        (.ofList (markFrom (StartsWord name.toList) 0 (name.toList.map ([·])))) ∧
      ∃ pieces, List.Forall₂ Text.Lowers name.toList pieces ∧
        (methodName name).toList = markFrom (StartsWord name.toList) 0 pieces := by
  have hs : splitCases (splitWords name.toList) =
      markFrom (StartsWord name.toList) 0 (name.toList.map ([·])) := by
    rw [splitCases_splitWords]
    cases name.toList
    case nil      => rfl
    case cons a s =>
      rw [splitAfter_newline, ← markFrom_eq_splitAfter [] a s]
      rfl
  have ⟨pieces, hp, hl⟩ := lowerAfter_markFrom (p := StartsWord name.toList) [] name.toList 0
  rw [methodName, Text.lower, String.toList_ofList, hs]
  exact ⟨rfl, pieces, hp, by rw [String.toList_ofList]; exact hl⟩

example : methodName "aBCdEFGh" = "a_b_cd_ef_gh" := by decide +kernel

end Naming
end DataAccess
