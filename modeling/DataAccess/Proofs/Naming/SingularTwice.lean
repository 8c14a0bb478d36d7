import DataAccess.Proofs.Naming.TailEdits
/-!
The singular of a singular. A name is changed by the first rule that fits, and by no other one. So
the result may itself look like a plural. It does so only if it is one to the rules although it does
not end in s, as people is one when peoples has lost its s.
-/

namespace DataAccess.Naming

namespace Singular

variable {name : List Char}

-- Endings of one name: one of them ends with the other.
def Overlaps (e f : String) : Prop :=
  e.toList <:+ f.toList ∨ f.toList <:+ e.toList

instance : Decidable (Overlaps e f) :=
  inferInstanceAs (Decidable (_ ∨ _))

theorem overlaps_of_endsWith (he : endsWith name e) (hf : endsWith name f) : Overlaps e f :=
  List.suffix_or_suffix_of_suffix (endsWith_iff.mp he) (endsWith_iff.mp hf)

theorem endsWith_of_suffix (h : endsWith name f) (he : e.toList <:+ f.toList) : endsWith name e :=
  endsWith_iff.mpr <| he.trans (endsWith_iff.mp h)

-- A name has one last word.
theorem word_unique (hv : endsWithWord name v) (hw : endsWithWord name w)
    (hv' : '_' ∉ v.toList) (hw' : '_' ∉ w.toList) : v = w := by
  obtain rfl | hv := endsWithWord_iff.mp hv <;> obtain hw | hw := endsWithWord_iff.mp hw
  · exact String.toList_inj.mp hw
  · exact absurd (underscore_mem_of_suffix hw) hv'
  · exact absurd (underscore_mem_of_suffix (hw ▸ hv)) hw'
  · rw [← String.toList_inj]
    cases List.suffix_or_suffix_of_suffix hv hw
    case inl h => exact eq_of_suffix hw' h
    case inr h => exact (eq_of_suffix hv' h).symm

theorem Change.apply_self (h : endsWith name e) :
    (⟨e.length, e⟩ : Change).apply name = name := by
  obtain ⟨stem, rfl⟩ := endsWith_iff.mp h
  exact apply_stem stem e e

theorem Change.apply_ne (h : endsWith name e) (hn : e ≠ f) :
    (⟨e.length, f⟩ : Change).apply name ≠ name := by
  obtain ⟨stem, rfl⟩ := endsWith_iff.mp h
  rw [apply_stem]
  exact fun he => hn <| String.toList_inj.mp (List.append_cancel_left he).symm

-- An ending that is not taken away. A rule that fits it puts back what it takes.
def Settled (f : String) : Prop :=
  (∀ e ∈ irregular, ¬Overlaps e.1 f) ∧
  (∀ e ∈ endings, Overlaps e.1 f → e.1 = e.2 ∧ e.1.toList <:+ f.toList) ∧
  ((∃ e ∈ endings, e.1.toList <:+ f.toList) ∨ ∀ e ∈ ["ies", "ves", "a", "s"], ¬Overlaps e f)

instance : Decidable (Settled f) :=
  inferInstanceAs (Decidable (_ ∧ _ ∧ _))

-- Singular forms that end in s without being settled.
def formsInIs : List String :=
  ["axis", "testis", "crisis", "analysis", "thesis"]

theorem rows_settled : ∀ e ∈ rows, Settled e.2 ∨ e.2 ∈ formsInIs := by
  decide +kernel

theorem before?_eq_none (h : ¬endsWith name e) : before? name e = none :=
  if_neg h

theorem tailChange_eq_cutS (hi : ¬endsWith name "ies") (hv : ¬endsWith name "ves")
    (ha : a? name = none) : tailChange name = cutS name := by
  simp [tailChange_eq, ies?, ves?, before?_eq_none hi, before?_eq_none hv, ha]

theorem a?_eq_none (h : ¬endsWith name "a") : a? name = none := by
  simp [a?, before?_eq_none h]

theorem cutS_eq_none (h : ¬endsWith name "s") : cutS name = .none :=
  if_neg (h ·.right)

-- Either there is no change, or one to an ending that stands there already.
theorem Settled.change_eq (h : Settled f) (hf : endsWith name f) :
    change name = .none ∨ ∃ e, e.toList <:+ f.toList ∧ change name = ⟨e.length, e⟩ := by
  have ⟨hi, he, ht⟩ := h
  by_cases hn : fixed.any (name = ·.toList)
  case pos => exact .inl (change_of_fixed hn)
  case neg =>
    rw [change_of_not_fixed hn]
    have hr := ruled name
    generalize rules name = c at hr
    cases hr
    case uncountable        => exact .inl rfl
    case irregular e hm hw  =>
      exact absurd (overlaps_of_endsWith (endsWith_of_endsWithWord hw) hf) (hi e hm)
    case ending e _ hm hn   =>
      have ⟨hs, hsuf⟩ := he e hm (overlaps_of_endsWith hn hf)
      exact .inr ⟨e.1, hsuf, by rw [← hs]⟩
    case tail hn            =>
      cases ht
      case inl ht =>
        have ⟨e, hm, hs⟩ := ht
        exact absurd (endsWith_of_suffix hf hs) (hn e hm)
      case inr ht =>
        have hn : ∀ e ∈ ["ies", "ves", "a", "s"], ¬endsWith name e :=
          fun e he hc => ht e he (overlaps_of_endsWith hc hf)
        have ha : a? name = none := a?_eq_none (hn _ (by simp))
        left
        rw [tailChange_eq_cutS (hn _ (by simp)) (hn _ (by simp)) ha, cutS_eq_none (hn _ (by simp))]

-- Plurals that do not end in s.
def bareWords : List String :=
  ["people", "men", "children", "mice", "lice", "oxen"]

def bareEndings : List String :=
  ["octopi", "viri", "ta", "ia"]

-- A name that is a plural to the rules although it does not end in s.
inductive BarePlural (name : List Char) : Prop
  | word : w ∈ bareWords → endsWithWord name w → BarePlural name
  | ending : e ∈ bareEndings → endsWith name e → name ≠ "meta".toList → BarePlural name

theorem endsWith_ta_or_ia (h : a? name = some c) : endsWith name "ta" ∨ endsWith name "ia" := by
  have ⟨_, hb, h⟩ := Option.bind_eq_some_iff.mp h
  rw [before?_eq_some_iff] at hb
  obtain rfl | rfl := (Option.ite_none_right_eq_some.mp h).left
  · exact .inl <| endsWith_iff.mpr hb
  · exact .inr <| endsWith_iff.mpr hb

theorem tailChange_eq_um (h : endsWith name "ta" ∨ endsWith name "ia") :
    endsWith name "a" ∧ tailChange name = ⟨1, "um"⟩ := by
  have hb : before? name "a" = some 't' ∨ before? name "a" = some 'i' := by
    simpa [before?_eq_some_iff, endsWith_iff] using h
  have ha : a? name = some ⟨1, "um"⟩ := by
    cases hb
    case inl hb => simp [a?, hb]
    case inr hb => simp [a?, hb]
  have he : endsWith name "a" := hb.elim endsWith_of_before? endsWith_of_before?
  have hne {e : String} (hn : ¬Overlaps e "a") : before? name e = none :=
    before?_eq_none fun hs => hn <| overlaps_of_endsWith hs he
  have hi : ies? name = none := by simp [ies?, hne (by decide : ¬Overlaps "ies" "a")]
  have hv : ves? name = none := by simp [ves?, hne (by decide : ¬Overlaps "ves" "a")]
  exact ⟨he, by simp [tailChange_eq, hi, hv, ha]⟩

-- The rules have nothing to take from a name without an s but the endings of these plurals.
theorem change_eq_none (hs : ¬endsWith name "s") (hp : ¬BarePlural name) :
    change name = .none := by
  have hsuf {e : String} (he : endsWith e.toList "s") : ¬endsWith name e :=
    fun h => hs <| endsWith_of_suffix h (endsWith_iff.mp he)
  by_cases hn : fixed.any (name = ·.toList)
  case pos => exact change_of_fixed hn
  case neg =>
    have hm : name ≠ "meta".toList := fun hm => hn (by simp [hm, fixed])
    rw [change_of_not_fixed hn]
    have hr := ruled name
    generalize rules name = c at hr
    cases hr
    case uncountable        => rfl
    case irregular e he hw  =>
      have ht : ∀ e ∈ irregular, e.1 ∈ bareWords ∨ endsWith e.1.toList "s" := by decide +kernel
      cases ht e he
      case inl ht => exact absurd (.word ht hw) hp
      case inr ht => exact absurd (endsWith_of_endsWithWord hw) (hsuf ht)
    case ending e _ he hw   =>
      have ht : ∀ e ∈ endings, e.1 ∈ bareEndings ∨ endsWith e.1.toList "s" := by decide +kernel
      cases ht e he
      case inl ht => exact absurd (.ending ht hw hm) hp
      case inr ht => exact absurd hw (hsuf ht)
    case tail               =>
      have ha : a? name = none := by
        by_contra ha
        have ⟨_, ha⟩ := Option.ne_none_iff_exists'.mp ha
        cases endsWith_ta_or_ia ha
        case inl ha => exact hp <| .ending (by decide) ha hm
        case inr ha => exact hp <| .ending (by decide) ha hm
      rw [tailChange_eq_cutS (hsuf (by decide)) (hsuf (by decide)) ha, cutS_eq_none hs]

namespace BarePlural

theorem not_fixed (h : BarePlural name) : ¬fixed.any (name = ·.toList) := by
  simp only [List.any_eq_true, decide_eq_true_eq, not_exists, not_and]
  rintro f hf rfl
  cases h
  case word hw he      =>
    have ht : ∀ f ∈ fixed, ∀ w ∈ bareWords, ¬endsWithWord f.toList w := by decide +kernel
    exact ht f hf _ hw he
  case ending hm he hn =>
    have ht : ∀ f ∈ fixed, ∀ e ∈ bareEndings, endsWith f.toList e → f = "meta" := by
      decide +kernel
    exact hn (ht f hf _ hm he ▸ rfl)

theorem countable (h : BarePlural name) (hu : u ∈ uncountable) : ¬endsWithWord name u := by
  intro hw
  cases h
  case word w hm hv     =>
    have ht : ∀ w ∈ uncountable ++ bareWords, '_' ∉ w.toList := by decide +kernel
    have hd : ∀ w ∈ bareWords, w ∉ uncountable := by decide
    have := word_unique hv hw (ht _ (by simp [hm])) (ht _ (by simp [hu]))
    exact hd w hm (this ▸ hu)
  case ending e hm he _ =>
    have ht : ∀ u ∈ uncountable, ∀ e ∈ bareEndings, ¬Overlaps u e := by decide +kernel
    exact ht u hu e hm (overlaps_of_endsWith (endsWith_of_endsWithWord hw) he)

theorem exists_irregular (hm : w ∈ bareWords) (hw : endsWithWord name w) :
    ∃ e ∈ irregular, endsWithWord name e.1 := by
  have ht : ∀ w ∈ bareWords, ∃ e ∈ irregular, e.1 = w := by decide +kernel
  have ⟨e, he, hew⟩ := ht w hm
  exact ⟨e, he, hew ▸ hw⟩

theorem apply_ne (h : BarePlural name) : (change name).apply name ≠ name := by
  rw [change_of_not_fixed h.not_fixed]
  have hr := ruled name
  generalize rules name = c at hr
  cases hr
  case uncountable hm hw  => exact absurd hw (h.countable hm)
  case irregular e hm hw  =>
    have ht : ∀ e ∈ irregular, e.1 ≠ e.2 := by decide
    exact Change.apply_ne (endsWith_of_endsWithWord hw) (ht e hm)
  case ending r hi hr hn  =>
    cases h
    case word hm hw     =>
      have ⟨e, he, hw⟩ := exists_irregular hm hw
      exact absurd hw (hi e he)
    case ending e hm he _ =>
      have ht : ∀ r ∈ endings, ∀ e ∈ bareEndings, Overlaps r.1 e → r.1 ≠ r.2 := by decide +kernel
      exact Change.apply_ne hn (ht r hr e hm <| overlaps_of_endsWith hn he)
  case tail hi hn         =>
    cases h
    case word hm hw     =>
      have ⟨e, he, hw⟩ := exists_irregular hm hw
      exact absurd hw (hi e he)
    case ending e hm he _ =>
      have ht : ∀ e ∈ bareEndings, (∃ r ∈ endings, r.1 = e) ∨ e = "ta" ∨ e = "ia" := by
        decide +kernel
      obtain ⟨r, hr, hre⟩ | ht := ht e hm
      · exact absurd (hre ▸ he) (hn r hr)
      · have ⟨ha, hu⟩ := tailChange_eq_um (ht.imp (· ▸ he) (· ▸ he))
        exact hu ▸ Change.apply_ne (f := "um") ha (by decide)

end BarePlural

theorem endsWith_apply (c : Change) (name : List Char) : endsWith (c.apply name) c.add :=
  endsWith_append _ _

theorem not_endsWith_cut (h : endsWith name "s") (hs : ¬endsWith name "ss") :
    ¬endsWith ((⟨1, ""⟩ : Change).apply name) "s" := by
  obtain ⟨stem, rfl⟩ := endsWith_iff.mp h
  have hc : (⟨1, ""⟩ : Change).apply (stem ++ "s".toList) = stem :=
    (Change.apply_stem stem "s" "").trans (List.append_nil _)
  rw [hc, endsWith_iff]
  rintro ⟨init, rfl⟩
  have hss : endsWith (init ++ "ss".toList) "ss" := endsWith_append init "ss"
  exact hs (by rwa [List.append_assoc])

-- What the rules make of a result of theirs.
theorem Rewrites.change_apply (h : Rewrites name c)
    (hf : ∀ e ∈ formsInIs, ¬endsWith (c.apply name) e) (hp : ¬BarePlural (c.apply name)) :
    c = .none ∨ change (c.apply name) = .none ∨
      ∃ e, e.toList <:+ c.add.toList ∧ change (c.apply name) = ⟨e.length, e⟩ := by
  cases h
  case kept          => exact .inl rfl
  case row e he _    =>
    have ha := endsWith_apply ⟨e.1.length, e.2⟩ name
    cases rows_settled e he
    case inl hs => exact .inr (hs.change_eq ha)
    case inr hs => exact absurd ha (hf _ hs)
  case cut hs hss _  => exact .inr <| .inl <| change_eq_none (not_endsWith_cut hs hss) hp

end Singular

open Singular

variable {name : String}

theorem singular_eq (name : String) : singular name [] =
    .ofList ((change (Text.asciiLower name).toList).apply name.toList) :=
  singular_of_not_excluded (by simp [Excluded])

theorem toList_asciiLower_singular (name : String) : (Text.asciiLower (singular name [])).toList =
    (change (Text.asciiLower name).toList).apply (Text.asciiLower name).toList := by
  rw [asciiLower_singular, singular_eq, String.toList_ofList, Text.asciiLower_asciiLower]

theorem singular_ne_of_barePlural (h : BarePlural (Text.asciiLower name).toList) :
    singular name [] ≠ name := by
  intro hs
  apply h.apply_ne
  rw [← toList_asciiLower_singular, hs]

theorem singular_eq_self_of_endsWith (h : endsWith name.toList e)
    (hc : change (Text.asciiLower name).toList = ⟨e.length, e⟩) : singular name [] = name := by
  rw [singular_eq, hc, Change.apply_self h, String.ofList_toList]

theorem singular_eq_self_of_none (hc : change (Text.asciiLower name).toList = .none) :
    singular name [] = name := by
  rw [singular_eq, hc, Change.apply_none, String.ofList_toList]

-- One rule is applied and not what fits the result of it. This leaves no more for a second time
-- than the plurals that do not end in s.
theorem singular_singular_iff
    (h : ∀ e ∈ formsInIs, ¬endsWith (Text.asciiLower (singular name [])).toList e) :
    singular (singular name []) [] = singular name [] ↔
      ¬BarePlural (Text.asciiLower (singular name [])).toList := by
  refine ⟨fun hs hp => singular_ne_of_barePlural hp hs, fun hp => ?_⟩
  have hl := toList_asciiLower_singular name
  rw [hl] at h hp
  obtain hc | hc | ⟨e, he, hc⟩ := (change_rewrites _).change_apply h hp
  · rw [singular_eq_self_of_none hc, singular_eq_self_of_none hc]
  · exact singular_eq_self_of_none (hl ▸ hc)
  · refine singular_eq_self_of_endsWith ?_ (hl ▸ hc)
    rw [singular_eq, String.toList_ofList]
    exact endsWith_of_suffix (endsWith_apply _ _) he

-- The singular of the first name is one that a rule puts back as it is.
theorem singular_singular_statuses :
    (∀ e ∈ formsInIs, ¬endsWith (Text.asciiLower (singular "User_Statuses" [])).toList e) ∧
    (singular (singular "User_Statuses" []) [] = singular "User_Statuses" [] ↔
      ¬BarePlural (Text.asciiLower (singular "User_Statuses" [])).toList) := by
  have h : ∀ e ∈ formsInIs,
      ¬endsWith (Text.asciiLower (singular "User_Statuses" [])).toList e := by decide +kernel
  exact ⟨h, singular_singular_iff h⟩

-- Peoples are a people, and people are a person.
theorem singular_peoples_twice :
    singular (singular "peoples" []) [] ≠ singular "peoples" [] := by
  decide +kernel

end DataAccess.Naming
