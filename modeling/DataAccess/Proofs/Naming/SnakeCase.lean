import DataAccess.Naming.Identifier
import Mathlib.Data.List.Basic
/-!
What is kept of a name in snake case: everything but its underscores and the case of its letters.
-/

namespace DataAccess

namespace Text

-- A character without regard to its case.
def foldChar (c : Char) : List Char :=
  (lowerChar c).flatMap upperChar

-- A final sigma is a sigma again in upper case.
theorem upperChars_lowerAfter (before s : List Char) :
    upperChars (lowerAfter before s) = s.flatMap foldChar := by
  induction s generalizing before
  case nil => rfl
  case cons c s hi =>
    have hs : upperChars [finalSigma] = foldChar capitalSigma := by decide +kernel
    rw [lowerAfter, upperChars, List.flatMap_append, List.flatMap_cons]
    refine congrArg₂ (· ++ ·) ?_ (hi _)
    split
    case isTrue h => exact h.left ▸ hs
    case isFalse  => rfl

theorem upperChars_lowerChars (s : List Char) : upperChars (lowerChars s) = s.flatMap foldChar :=
  upperChars_lowerAfter [] s

theorem ofNat_eq_underscore (h : Char.ofNat n = '_') : n = 0x5F := by
  by_cases hn : n.isValidChar
  case pos =>
    rw [Char.ofNat, dif_pos hn] at h
    exact congrArg Char.toNat h
  case neg =>
    rw [Char.ofNat, dif_neg hn] at h
    contradiction

namespace CaseRun

-- No character of a run is mapped to an underscore.
def AvoidsUnderscore (r : CaseRun) : Prop :=
  0x5F < r.target ∨ r.target + (r.last - r.first) < 0x5F

instance (r : CaseRun) : Decidable r.AvoidsUnderscore :=
  inferInstanceAs (Decidable (_ ∨ _))

theorem map?_ne_underscore {r : CaseRun} (h : r.AvoidsUnderscore) : r.map? c ≠ some '_' := by
  intro hm
  rw [map?] at hm
  split at hm
  case isTrue hc =>
    have hn := ofNat_eq_underscore <| Option.some.inj hm
    simp only [AvoidsUnderscore] at h
    omega
  case isFalse => contradiction

theorem eq_underscore_of_map? {runs : List CaseRun} (hr : ∀ r ∈ runs, r.AvoidsUnderscore)
    (h : (runs.findSome? (·.map? c)).getD c = '_') : c = '_' := by
  cases hf : runs.findSome? (·.map? c)
  case none   => simpa [hf] using h
  case some d =>
    have ⟨r, hm, hd⟩ := List.exists_of_findSome?_eq_some hf
    simp only [hf, Option.getD_some] at h
    exact absurd (h ▸ hd) (map?_ne_underscore <| hr r hm)

end CaseRun

theorem upper_avoidsUnderscore : ∀ r ∈ CaseTable.upper, r.AvoidsUnderscore := by
  decide +kernel

theorem lower_avoidsUnderscore : ∀ r ∈ CaseTable.lower, r.AvoidsUnderscore := by
  decide +kernel

theorem mem_upperChar (h : '_' ∈ upperChar c) : c = '_' := by
  rw [upperChar] at h
  split at h
  case h_1 cs hl =>
    have ⟨before, after, he, _⟩ := List.lookup_eq_some_iff.mp hl
    have hu : ∀ e ∈ CaseTable.upperExpansions, 0x5F ∉ e.2 := by decide +kernel
    have ⟨n, hn, hc⟩ := List.mem_map.mp h
    cases ofNat_eq_underscore hc
    exact absurd hn <| hu (c.toNat, cs) <| he ▸ List.mem_append_right _ (.head _)
  case h_2 =>
    exact CaseRun.eq_underscore_of_map? upper_avoidsUnderscore (List.mem_singleton.mp h).symm

theorem mem_lowerChar (h : '_' ∈ lowerChar c) : c = '_' := by
  rw [lowerChar] at h
  split at h
  case isTrue  => exact absurd h (by decide)
  case isFalse =>
    exact CaseRun.eq_underscore_of_map? lower_avoidsUnderscore (List.mem_singleton.mp h).symm

theorem foldChar_underscore : foldChar '_' = ['_'] := by
  decide +kernel

theorem not_mem_foldChar (h : c ≠ '_') : '_' ∉ foldChar c := by
  intro hm
  have ⟨d, hd, hm⟩ := List.mem_flatMap.mp hm
  exact h <| mem_lowerChar <| mem_upperChar hm ▸ hd

end Text

namespace Naming

def withoutUnderscores (s : List Char) : List Char :=
  s.filter (· ≠ '_')

theorem withoutUnderscores_append (s t : List Char) :
    withoutUnderscores (s ++ t) = withoutUnderscores s ++ withoutUnderscores t :=
  List.filter_append ..

-- One more underscore makes no difference.
theorem withoutUnderscores_insert (s t : List Char) :
    withoutUnderscores (s ++ '_' :: t) = withoutUnderscores (s ++ t) := by
  rw [withoutUnderscores_append, withoutUnderscores_append]
  rfl

theorem withoutUnderscores_append_congr (u : List Char)
    (h : withoutUnderscores s = withoutUnderscores t) :
    withoutUnderscores (u ++ s) = withoutUnderscores (u ++ t) := by
  rw [withoutUnderscores_append, withoutUnderscores_append, h]

theorem withoutUnderscores_splitWords (s : List Char) :
    withoutUnderscores (splitWords s) = withoutUnderscores s := by
  induction s using splitWords.induct
  case case1 a b c s h hi =>
    let small := (c :: s).takeWhile Char.isLower
    let rest := (c :: s).dropWhile Char.isLower
    calc
      _ = withoutUnderscores ([a] ++ '_' :: (b :: small ++ splitWords rest)) := by
        rw [splitWords, if_pos h]
        rfl
      _ = withoutUnderscores (a :: b :: small) ++ withoutUnderscores (splitWords rest) := by
        rw [withoutUnderscores_insert, ← withoutUnderscores_append]
        rfl
      _ = withoutUnderscores (a :: b :: (small ++ rest)) := by
        rw [hi, ← withoutUnderscores_append]
        rfl
      _ = _ := by rw [List.takeWhile_append_dropWhile]
  case case2 a b c s h hi =>
    rw [splitWords, if_neg h]
    exact withoutUnderscores_append_congr [a] hi
  case case3 s hs =>
    rw [splitWords]
    exact hs

theorem withoutUnderscores_splitCases (s : List Char) :
    withoutUnderscores (splitCases s) = withoutUnderscores s := by
  induction s using splitCases.induct
  case case1 a b s h hi =>
    rw [splitCases, if_pos h]
    exact (withoutUnderscores_insert [a] _).trans <| withoutUnderscores_append_congr [a] hi
  case case2 a b s h hi =>
    rw [splitCases, if_neg h]
    exact withoutUnderscores_append_congr [a] hi
  case case3 s hs =>
    rw [splitCases]
    exact hs

theorem withoutUnderscores_foldChars (s : List Char) :
    withoutUnderscores (s.flatMap Text.foldChar) =
      (withoutUnderscores s).flatMap Text.foldChar := by
  induction s
  case nil => rfl
  case cons c s hi =>
    rw [List.flatMap_cons, withoutUnderscores_append, hi]
    by_cases hc : c = '_'
    case pos =>
      rw [hc, Text.foldChar_underscore]
      rfl
    case neg =>
      have hf : withoutUnderscores (Text.foldChar c) = Text.foldChar c :=
        List.filter_eq_self.mpr fun d hd => decide_eq_true fun he =>
          Text.not_mem_foldChar hc <| he ▸ hd
      have hs : withoutUnderscores (c :: s) = c :: withoutUnderscores s :=
        List.filter_cons_of_pos (decide_eq_true hc)
      rw [hf, hs, List.flatMap_cons]

-- A name without regard to underscores and case.
def folded (name : String) : List Char :=
  (withoutUnderscores name.toList).flatMap Text.foldChar

-- So two names are the same in snake case only if they differ in underscores and case.
theorem withoutUnderscores_upper_methodName (name : String) :
    withoutUnderscores (Text.upper (methodName name)).toList = folded name := by
  simp only [Text.upper, methodName, String.toList_ofList, Text.upperChars_lowerChars,
    withoutUnderscores_foldChars, withoutUnderscores_splitCases, withoutUnderscores_splitWords,
    folded]

end Naming
end DataAccess
