import DataAccess.Proofs.Declaration.Extraction
import DataAccess.Proofs.Naming.TailEdits
import Mathlib.Data.List.Find
/-!
Models of tables outside of the default schema. They are named after their schema and their table,
and the rules on endings make the same of the table as in the default schema. But the names that
these rules spare are looked up with the schema in front, so tables are not spared alike.
-/

namespace DataAccess

namespace Naming

theorem segments_ne_nil (s : List Char) : segments s ≠ [] := by
  induction s using segments.induct <;> simp [segments, *]

theorem segments_prefixed (s t : List Char) :
    segments (s ++ '_' :: t) = segments s ++ segments t := by
  induction s using segments.induct
  case case1 => rfl
  case case2 s hi => rw [List.cons_append, segments, segments, hi, List.cons_append]
  case case3 c s hc hs hi => exact absurd hs (segments_ne_nil s)
  case case4 c s hc w ws hs hi =>
    rw [List.cons_append, segments.eq_3 _ _ hc, hi, segments.eq_3 _ _ hc, hs]
    rfl

theorem toList_prefixed (s t : String) : (s ++ "_" ++ t).toList = s.toList ++ '_' :: t.toList := by
  simp

theorem typeName_prefixed (s t : String) : typeName (s ++ "_" ++ t) = typeName s ++ typeName t := by
  rw [typeName, toList_prefixed, segments_prefixed, List.flatMap_append, String.ofList_append]
  rfl

namespace Singular

variable {s t : List Char}

-- Endings without underscores do not reach into what is in front of one.
theorem endsWith_prefixed (he : '_' ∉ e.toList) :
    endsWith (s ++ '_' :: t) e = endsWith t e := by
  rw [Bool.eq_iff_iff, endsWith_iff, endsWith_iff]
  constructor
  case mp =>
    intro h
    obtain h | h := List.suffix_or_suffix_of_suffix h (List.suffix_append s ('_' :: t))
    · obtain h | h := List.suffix_cons_iff.mp h
      · exact absurd (h ▸ .head _) he
      · exact h
    · exact absurd (underscore_mem_of_suffix h) he
  case mpr => exact fun h => List.suffix_append_of_suffix <| h.trans (List.suffix_cons _ _)

theorem endsWithWord_prefixed (hw : '_' ∉ w.toList) :
    endsWithWord (s ++ '_' :: t) w = endsWithWord t w := by
  have hs : '_' :: t <:+ s ++ '_' :: t := List.suffix_append _ _
  rw [Bool.eq_iff_iff, endsWithWord_iff, endsWithWord_iff]
  constructor
  case mp =>
    intro h
    obtain h | h := h
    · exact absurd (underscore_mem_of_suffix (h ▸ hs)) hw
    · obtain h | h := List.suffix_or_suffix_of_suffix h hs
      · obtain h | h := List.suffix_cons_iff.mp h
        · exact .inl (List.cons.inj h).right.symm
        · exact .inr h
      · exact .inl (eq_of_suffix hw h)
  case mpr =>
    intro h
    obtain h | h := h
    · exact .inr (h ▸ hs)
    · exact .inr <| h.trans <| (List.suffix_cons _ _).trans hs

theorem before?_prefixed (h : e.length < t.length) :
    before? (s ++ '_' :: t) e = before? t e := by
  have ht : t <:+ s ++ '_' :: t := (List.suffix_cons _ _).trans (List.suffix_append _ _)
  ext c
  have hl : (c :: e.toList).length ≤ t.length := by
    rw [List.length_cons, String.length_toList]
    exact h
  rw [before?_eq_some_iff, before?_eq_some_iff]
  constructor
  case mp  => exact fun hc => List.suffix_of_suffix_length_le hc ht hl
  case mpr => exact fun hc => hc.trans ht

theorem tailChange_prefixed (h : 3 < t.length) :
    tailChange (s ++ '_' :: t) = tailChange t := by
  have hi : before? (s ++ '_' :: t) "ies" = before? t "ies" := before?_prefixed h
  have hv : before? (s ++ '_' :: t) "ves" = before? t "ves" := before?_prefixed h
  have ha : before? (s ++ '_' :: t) "a" = before? t "a" :=
    before?_prefixed (Nat.lt_of_succ_lt (Nat.lt_of_succ_lt h))
  have hq : endsWith (s ++ '_' :: t) "quies" = endsWith t "quies" := endsWith_prefixed (by decide)
  have hs : endsWith (s ++ '_' :: t) "s" = endsWith t "s" := endsWith_prefixed (by decide)
  have hl : 1 < (s ++ '_' :: t).length ↔ 1 < t.length := by simp; omega
  simp only [tailChange_eq, ies?, ves?, a?, cutS, hi, hv, ha, hq, hs, hl]

-- The rules see no more of a name than what follows an underscore, if this is long enough for the
-- letter before an ending.
theorem rules_prefixed (h : 3 < t.length) : rules (s ++ '_' :: t) = rules t := by
  have hu : ∀ w ∈ uncountable, '_' ∉ w.toList := by decide +kernel
  have hi : ∀ e ∈ irregular, '_' ∉ e.1.toList := by decide +kernel
  have he : ∀ e ∈ endings, '_' ∉ e.1.toList := by decide +kernel
  have hu : uncountable.any (endsWithWord (s ++ '_' :: t)) = uncountable.any (endsWithWord t) := by
    rw [Bool.eq_iff_iff, List.any_eq_true, List.any_eq_true]
    exact exists_congr fun w => and_congr_right fun hw => by rw [endsWithWord_prefixed (hu w hw)]
  have hi : irregular.find? (endsWithWord (s ++ '_' :: t) ·.1) =
      irregular.find? (endsWithWord t ·.1) :=
    List.find?_congr fun e hm => endsWithWord_prefixed (hi e hm)
  have he : endings.find? (endsWith (s ++ '_' :: t) ·.1) = endings.find? (endsWith t ·.1) :=
    List.find?_congr fun e hm => endsWith_prefixed (he e hm)
  rw [rules, rules, hu, hi, he, tailChange_prefixed h]

end Singular

theorem asciiLower_prefixed (s t : String) :
    Text.asciiLower (s ++ "_" ++ t) = Text.asciiLower s ++ "_" ++ Text.asciiLower t := by
  simp [← String.toList_inj, Text.toList_asciiLower]

-- A name as the rules on endings have it, even if it is spared.
def byRules (name : String) : String :=
  .ofList ((Singular.rules (Text.asciiLower name).toList).apply name.toList)

theorem byRules_prefixed (s : String) {t : String} (h : 3 < t.length) :
    byRules (s ++ "_" ++ t) = s ++ "_" ++ byRules t := by
  have hl : (Text.asciiLower t).toList.length = t.length := by
    rw [Text.toList_asciiLower, List.length_map, String.length_toList]
  have hc := (Singular.ruled (Text.asciiLower t).toList).rewrites.cut_le
  rw [hl, ← String.length_toList] at hc
  rw [byRules, asciiLower_prefixed, toList_prefixed, Singular.rules_prefixed (hl ▸ h),
    String.toList_append, Singular.Change.apply_append _ hc, String.ofList_append,
    String.ofList_toList, byRules]

theorem any_fixed_iff {name : String} :
    Singular.fixed.any (name.toList = ·.toList) ↔ name ∈ Singular.fixed := by
  simp [String.toList_inj]

theorem singular_eq_byRules (name : String) (exclusions : List String) :
    singular name exclusions =
      if Excluded name exclusions ∨ Text.asciiLower name ∈ Singular.fixed then name
      else byRules name := by
  split
  case isTrue h =>
    by_cases hx : Excluded name exclusions
    case pos => exact singular_of_excluded hx
    case neg =>
      have hf := any_fixed_iff.mpr <| h.resolve_left hx
      rw [singular_of_not_excluded hx, Singular.change_of_fixed hf, Singular.Change.apply_none,
        String.ofList_toList]
  case isFalse h =>
    have ⟨hx, hf⟩ := not_or.mp h
    rw [singular_of_not_excluded hx, Singular.change_of_not_fixed (mt any_fixed_iff.mp hf), byRules]

-- Names with an underscore are not fixed.
theorem prefixed_not_fixed (s t : String) :
    Text.asciiLower (s ++ "_" ++ t) ∉ Singular.fixed := by
  have hf : ∀ f ∈ Singular.fixed, '_' ∉ f.toList := by decide
  intro h
  apply hf _ h
  rw [asciiLower_prefixed, toList_prefixed]
  exact List.mem_append_right _ (.head _)

end Naming

-- The options spare a name from the rules on endings.
def Options.Spares (o : Options) (name : String) : Prop :=
  o.exactTableNames ∨ Naming.Excluded name o.inflectionExclusions

instance : Decidable (Options.Spares o name) :=
  inferInstanceAs (Decidable (_ ∨ _))

namespace Options

variable {o : Options} {c : Catalog} {s : Schema} {t : String}

open Naming

theorem modelName_eq : o.modelName c s t = typeName
    (if o.Spares (c.qualify s t) ∨ Text.asciiLower (c.qualify s t) ∈ Singular.fixed
      then c.qualify s t else byRules (c.qualify s t)) := by
  by_cases h : o.exactTableNames
  case pos => simp [modelName, Spares, h]
  case neg => simp [modelName, Spares, h, singular_eq_byRules]

theorem modelName_default (hs : s.name = c.defaultSchema) : o.modelName c s t =
    typeName (if o.Spares t ∨ Text.asciiLower t ∈ Singular.fixed then t else byRules t) := by
  rw [modelName_eq, Catalog.qualify, if_pos hs]

theorem modelName_prefixed (hs : s.name ≠ c.defaultSchema) (ht : 3 < t.length) : o.modelName c s t =
    typeName s.name ++ typeName (if o.Spares (s.name ++ "_" ++ t) then t else byRules t) := by
  rw [modelName_eq, Catalog.qualify, if_neg hs, byRules_prefixed _ ht]
  simp only [prefixed_not_fixed, or_false]
  split <;> exact typeName_prefixed _ _

end Options

theorem ite_eq_ite_iff [Decidable p] [Decidable q] {a b : α} :
    (if p then a else b) = (if q then a else b) ↔ (p ↔ q) ∨ a = b := by
  by_cases hp : p <;> by_cases hq : q <;> simp [hp, hq, eq_comm]

namespace Scope

open Naming

variable {sc sc' : Scope} {o : Options} {d d' : RecordDecl} {schema table : String}

theorem name_ofTable {s : Schema} {t : Table}
    (h : (RecordDecl.ofTable sc o s t).table = some { schema, name := table }) :
    s.name = schema ∧ (RecordDecl.ofTable sc o s t).name = o.modelName sc.catalog s table := by
  cases h
  exact ⟨rfl, rfl⟩

-- The rules make the same of a table behind any schema. What differs is which names they spare:
-- listed names are compared with the schema in front, and fixed ones never have one.
theorem models_name_prefixed_iff (hm : sc.models o = .ok ds) (hm' : sc'.models o = .ok ds')
    (hd : d ∈ ds) (ht : d.table = some { schema, name := table })
    (hd' : d' ∈ ds') (ht' : d'.table = some { schema := sc'.catalog.defaultSchema, name := table })
    (hs : schema ≠ sc.catalog.defaultSchema) (hl : 3 < table.length) :
    d.name = typeName schema ++ d'.name ↔
      (o.Spares (schema ++ "_" ++ table) ↔
        o.Spares table ∨ Text.asciiLower table ∈ Singular.fixed) ∨
      typeName (byRules table) = typeName table := by
  obtain ⟨_, _, _, rfl⟩ := (mem_models hm).mp hd
  obtain ⟨_, _, _, rfl⟩ := (mem_models hm').mp hd'
  have ⟨hp, hn⟩ := name_ofTable ht
  have ⟨hp', hn'⟩ := name_ofTable ht'
  subst hp
  rw [hn, hn', Options.modelName_prefixed hs hl, Options.modelName_default hp',
    String.append_right_inj, apply_ite typeName, apply_ite typeName, ite_eq_ite_iff]
  exact or_congr_right eq_comm

-- A table in two schemas, of which the latter is the default one.
def metrics : Scope where
  engine := .postgresql
  catalog := {
    defaultSchema := "public"
    schemas := [
      { name := "audit", tables := [{ rel := { name := "metrics" } }] },
      { name := "public", tables := [{ rel := { name := "metrics" } }] }] }

-- With both of its names listed, the table is spared in either schema.
theorem models_metrics_spared : ∃ ds d d',
    metrics.models { inflectionExclusions := ["metrics", "audit_metrics"] } = .ok ds ∧
      d ∈ ds ∧ d.table = some { schema := "audit", name := "metrics" } ∧
      d' ∈ ds ∧ d'.table = some { schema := "public", name := "metrics" } ∧
      d.name = typeName "audit" ++ d'.name := by
  have ⟨_, hm⟩ : ∃ ds,
      metrics.models { inflectionExclusions := ["metrics", "audit_metrics"] } = .ok ds :=
    ⟨_, models_eq_ok_iff.mpr ⟨by decide +kernel, rfl⟩⟩
  have hd  := mem_models hm |>.mpr ⟨_, _, .head _, rfl⟩
  have hd' := mem_models hm |>.mpr ⟨_, _, .tail _ (.head _), rfl⟩
  have hn := models_name_prefixed_iff hm hm hd rfl hd' rfl (by decide) (by decide)
  exact ⟨_, _, _, hm, hd, rfl, hd', rfl, hn.mpr (.inl (by decide +kernel))⟩

-- The listed name spares it only in the default one.
theorem models_metrics_singular : ∃ ds d d',
    metrics.models { inflectionExclusions := ["metrics"] } = .ok ds ∧
      d ∈ ds ∧ d.table = some { schema := "audit", name := "metrics" } ∧
      d' ∈ ds ∧ d'.table = some { schema := "public", name := "metrics" } ∧
      d.name = "AuditMetric" ∧ d'.name = "Metrics" := by
  have ⟨_, hm⟩ : ∃ ds, metrics.models { inflectionExclusions := ["metrics"] } = .ok ds :=
    ⟨_, models_eq_ok_iff.mpr ⟨by decide +kernel, rfl⟩⟩
  have hd  := mem_models hm |>.mpr ⟨_, _, .head _, rfl⟩
  have hd' := mem_models hm |>.mpr ⟨_, _, .tail _ (.head _), rfl⟩
  exact ⟨_, _, _, hm, hd, rfl, hd', rfl, by decide +kernel, by decide +kernel⟩

end Scope
end DataAccess
