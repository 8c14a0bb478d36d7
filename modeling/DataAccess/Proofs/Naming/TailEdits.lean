import DataAccess.Proofs.Naming.Endings
/-!
What the singular takes away from a name and what it adds. At most a known ending goes, and small
letters of ASCII come in its place. What is left of the name stays as it is spelled.
-/

namespace DataAccess

namespace Text

theorem toLower_toLower (c : Char) : c.toLower.toLower = c.toLower := by
  unfold Char.toLower
  grind

theorem toLower_of_isLower {c : Char} (h : c.isLower) : c.toLower = c := by
  unfold Char.isLower at h
  unfold Char.toLower
  grind

theorem isAlpha_of_toLower {c : Char} (h : c.toLower.isLower) : c.isAlpha := by
  unfold Char.toLower Char.isLower at h
  unfold Char.isAlpha Char.isUpper Char.isLower
  grind

theorem utf8Size_of_isAlpha {c : Char} (h : c.isAlpha) : c.utf8Size = 1 := by
  unfold Char.isAlpha Char.isUpper Char.isLower at h
  rw [Char.utf8Size_eq_one_iff]
  grind

theorem toList_asciiLower (s : String) : (asciiLower s).toList = s.toList.map Char.toLower :=
  String.toList_map

theorem asciiLower_asciiLower (s : String) : asciiLower (asciiLower s) = asciiLower s := by
  rw [← String.toList_inj, toList_asciiLower, toList_asciiLower, List.map_map]
  exact List.map_congr_left fun c _ => toLower_toLower c

theorem map_toLower_of_isLower {s : List Char} (h : ∀ c ∈ s, c.isLower) :
    s.map Char.toLower = s := by
  rw [List.map_congr_left fun c hc => toLower_of_isLower (h c hc), List.map_id']

theorem utf8ByteSize_of_isAlpha {s : List Char} (h : ∀ c ∈ s, c.isAlpha) :
    (String.ofList s).utf8ByteSize = s.length := by
  induction s
  case nil => rfl
  case cons c s hi =>
    have ⟨hc, h⟩ := List.forall_mem_cons.mp h
    rw [String.ofList_cons, String.utf8ByteSize_append, hi h, String.utf8ByteSize_singleton,
      utf8Size_of_isAlpha hc, List.length_cons, Nat.add_comm]

end Text

namespace Naming

namespace Singular

-- What a change does to a name that is spelled in some way.
structure Change.Edits (c : Change) (s kept tail : List Char) : Prop where
  whole : kept ++ tail = s
  cut : tail.length = c.cut
  letters : ∀ x ∈ tail, x.isAlpha
  small : ∀ x ∈ c.add.toList, x.isLower
  nil_iff : kept = [] ∧ c.add = "" ↔ s = []

namespace Change.Edits

variable {c : Change} {s kept tail : List Char}

theorem apply_eq (h : c.Edits s kept tail) : c.apply s = kept ++ c.add.toList := by
  rw [apply, ← h.whole, ← h.cut, List.length_append, Nat.add_sub_cancel, List.take_left]

theorem apply_eq_nil_iff (h : c.Edits s kept tail) : c.apply s = [] ↔ s = [] := by
  rw [h.apply_eq, List.append_eq_nil_iff, String.toList_eq_nil_iff, h.nil_iff]

-- Case is not looked at, and it is kept.
theorem map_apply (h : c.Edits s kept tail) :
    (c.apply s).map Char.toLower = c.apply (s.map Char.toLower) := by
  rw [apply, apply, List.map_append, List.map_take, List.length_map,
    Text.map_toLower_of_isLower h.small]

end Change.Edits

theorem rows_small : ∀ e ∈ rows, e.1.toList.all Char.isLower ∧ e.2.toList.all Char.isLower ∧
    e.1 ≠ "" ∧ e.2 ≠ "" := by
  decide +kernel

variable {s : List Char}

-- An ending of small letters stands for letters of either case.
theorem exists_tail (h : endsWith (s.map Char.toLower) e)
    (he : e.toList.all Char.isLower) :
    ∃ kept tail, kept ++ tail = s ∧ tail.length = e.length ∧ ∀ x ∈ tail, x.isAlpha := by
  have ⟨_, hs⟩ := endsWith_iff.mp h
  have ⟨kept, tail, hw, _, ht⟩ := List.map_eq_append_iff.mp hs.symm
  refine ⟨kept, tail, hw.symm, ?_, fun x hx => ?_⟩
  · rw [← List.length_map Char.toLower, ht, String.length_toList]
  · exact Text.isAlpha_of_toLower <| List.all_eq_true.mp he _ <| ht ▸ List.mem_map_of_mem hx

theorem exists_edits_row (he : e ∈ rows) (h : endsWith (s.map Char.toLower) e.1) :
    ∃ stem tail, Change.Edits ⟨e.1.length, e.2⟩ s stem tail := by
  have ⟨hl, hs, hn, ha⟩ := rows_small e he
  have ⟨stem, tail, hw, hc, ht⟩ := exists_tail h hl
  have hn : s ≠ [] := by
    rintro rfl
    rw [(List.append_eq_nil_iff.mp hw).right] at hc
    exact hn <| String.length_eq_zero_iff.mp hc.symm
  exact ⟨stem, tail, hw, hc, ht, List.all_eq_true.mp hs, by simp [ha, hn]⟩

theorem exists_edits_cut (h : endsWith (s.map Char.toLower) "s") (hl : 1 < s.length) :
    ∃ stem tail, Change.Edits ⟨1, ""⟩ s stem tail := by
  have ⟨stem, tail, hw, hc, ht⟩ := exists_tail h (by decide)
  have hs : stem ≠ [] := by
    rintro rfl
    rw [← hw, List.nil_append, hc] at hl
    exact absurd hl (by decide)
  exact ⟨stem, tail, hw, hc, ht, by simp, by simp [hs, ← hw]⟩

theorem Rewrites.exists_edits (h : Rewrites (s.map Char.toLower) c) :
    ∃ stem tail, c.Edits s stem tail := by
  cases h
  case kept      =>
    exact ⟨s, [], by simp, rfl, by simp, by simp [Change.none], by simp [Change.none]⟩
  case row he h  => exact exists_edits_row he h
  case cut h _ l => exact exists_edits_cut h (List.length_map Char.toLower ▸ l)

-- A change where the end of a name is counted in bytes. If this cuts a character in two, there is
-- no name.
def Change.applyBytes? (c : Change) (s : String) : Option String :=
  (String.fromUTF8? (s.toUTF8.extract 0 (s.utf8ByteSize - c.cut))).map (· ++ c.add)

theorem fromUTF8?_extract (s t : String) :
    String.fromUTF8? ((s ++ t).toUTF8.extract 0 s.utf8ByteSize) = some s := by
  have hs : (s ++ t).toUTF8.extract 0 s.utf8ByteSize = s.toByteArray := by
    rw [String.toUTF8, String.toByteArray_append, ← String.size_toByteArray,
      ByteArray.extract_append_size_left, ByteArray.extract_zero_size]
  rw [hs]
  exact dif_pos s.isValidUTF8

-- Letters of ASCII take a byte each.
theorem Change.Edits.applyBytes?_eq {s : String} (h : Change.Edits c s.toList stem tail) :
    c.applyBytes? s = some (.ofList (c.apply s.toList)) := by
  have hw : String.ofList stem ++ .ofList tail = s := by
    rw [← String.ofList_append, h.whole, String.ofList_toList]
  have hs : s.utf8ByteSize - c.cut = (String.ofList stem).utf8ByteSize := by
    rw [← hw, String.utf8ByteSize_append, Text.utf8ByteSize_of_isAlpha h.letters, h.cut,
      Nat.add_sub_cancel]
  rw [applyBytes?, hs, ← hw, fromUTF8?_extract, hw, Option.map_some, h.apply_eq,
    String.ofList_append, String.ofList_toList]

end Singular

-- A name that is listed, in whatever case.
def Excluded (name : String) (exclusions : List String) : Prop :=
  exclusions.any (Text.asciiLower · = Text.asciiLower name)

instance : Decidable (Excluded name exclusions) :=
  inferInstanceAs (Decidable (_ = true))

-- The singular with the ends of names counted in bytes.
def singularBytes? (name : String) (exclusions : List String) : Option String :=
  if Excluded name exclusions then some name
  else (Singular.change (Text.asciiLower name).toList).applyBytes? name

variable {name : String} {exclusions : List String}

theorem excluded_asciiLower :
    Excluded (Text.asciiLower name) exclusions ↔ Excluded name exclusions := by
  rw [Excluded, Excluded, Text.asciiLower_asciiLower]

theorem singular_of_excluded (h : Excluded name exclusions) : singular name exclusions = name :=
  if_pos h

theorem singular_of_not_excluded (h : ¬Excluded name exclusions) : singular name exclusions =
    .ofList ((Singular.change (Text.asciiLower name).toList).apply name.toList) :=
  if_neg h

theorem exists_edits (name : String) : ∃ stem tail,
    (Singular.change (Text.asciiLower name).toList).Edits name.toList stem tail := by
  rw [Text.toList_asciiLower]
  exact (Singular.change_rewrites _).exists_edits

theorem singularBytes?_eq (name : String) (exclusions : List String) :
    singularBytes? name exclusions = some (singular name exclusions) := by
  by_cases h : Excluded name exclusions
  case pos => rw [singular_of_excluded h, singularBytes?, if_pos h]
  case neg =>
    have ⟨_, _, he⟩ := exists_edits name
    rw [singular_of_not_excluded h, singularBytes?, if_neg h, he.applyBytes?_eq]

-- The start of a name, as it is spelled, with small letters in place of the letters that follow.
structure EditsTail (name result kept tail add : String) : Prop where
  whole : kept ++ tail = name
  edited : kept ++ add = result
  letters : ∀ c ∈ tail.toList, c.isAlpha
  small : ∀ c ∈ add.toList, c.isLower

theorem exists_editsTail (name : String) (exclusions : List String) :
    ∃ kept tail add, EditsTail name (singular name exclusions) kept tail add := by
  by_cases h : Excluded name exclusions
  case pos =>
    rw [singular_of_excluded h]
    exact ⟨name, "", "", by simp, by simp, by simp, by simp⟩
  case neg =>
    have ⟨stem, tail, he⟩ := exists_edits name
    refine ⟨.ofList stem, .ofList tail, _, ?whole, ?edited, ?letters, he.small⟩
    case whole   => rw [← String.ofList_append, he.whole, String.ofList_toList]
    case edited  =>
      rw [singular_of_not_excluded h, he.apply_eq, String.ofList_append, String.ofList_toList]
    case letters => simpa using he.letters

theorem singular_eq_empty_iff : singular name exclusions = "" ↔ name = "" := by
  by_cases h : Excluded name exclusions
  case pos => rw [singular_of_excluded h]
  case neg =>
    have ⟨_, _, he⟩ := exists_edits name
    rw [singular_of_not_excluded h, String.ofList_eq_empty_iff, he.apply_eq_nil_iff,
      String.toList_eq_nil_iff]

-- Case makes no difference but where it is kept.
theorem asciiLower_singular (name : String) (exclusions : List String) :
    Text.asciiLower (singular name exclusions) = singular (Text.asciiLower name) exclusions := by
  by_cases h : Excluded name exclusions
  case pos =>
    rw [singular_of_excluded h, singular_of_excluded (excluded_asciiLower.mpr h)]
  case neg =>
    have ⟨_, _, he⟩ := exists_edits name
    rw [singular_of_not_excluded h, singular_of_not_excluded (mt excluded_asciiLower.mp h),
      Text.asciiLower_asciiLower, ← String.toList_inj, Text.toList_asciiLower,
      String.toList_ofList, String.toList_ofList, he.map_apply, ← Text.toList_asciiLower]

-- The singular can be told from the bytes of a name, since no cut is inside of a character.
theorem singular_edits_tail (name : String) (exclusions : List String) :
    singularBytes? name exclusions = some (singular name exclusions) ∧
    (∃ kept tail add, EditsTail name (singular name exclusions) kept tail add) ∧
    (singular name exclusions = "" ↔ name = "") ∧
    Text.asciiLower (singular name exclusions) = singular (Text.asciiLower name) exclusions :=
  ⟨singularBytes?_eq name exclusions, exists_editsTail name exclusions, singular_eq_empty_iff,
    asciiLower_singular name exclusions⟩

end Naming
end DataAccess
