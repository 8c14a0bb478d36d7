import DataAccess.Naming.Collision
import Mathlib.Data.List.Nodup
import Mathlib.Data.String.Basic
import Mathlib.Order.Bounds.Basic
/-!
The check for collisions passes exactly if all names are distinct. Otherwise it reports the first
entry whose name is not new, with the origin of the only entry before that has this name.
-/

namespace DataAccess.Naming

-- Names seen before count as names of the list.
theorem collision?_eq_none_iff {seen es : List (String × String)} :
    collision? seen es = none ↔ (es.map (·.1)).Nodup ∧ ∀ e ∈ es, seen.lookup e.1 = none := by
  induction es generalizing seen
  case nil => simp [collision?]
  case cons e es hi =>
    have ⟨name, origin⟩ := e
    simp only [collision?, List.map_cons, List.nodup_cons, List.mem_map, List.mem_cons,
      forall_eq_or_imp]
    cases hs : seen.lookup name
    case some => simp
    case none =>
      simp only [hi, List.lookup_cons, true_and]
      constructor
      case mp =>
        intro ⟨hn, h⟩
        refine ⟨⟨fun ⟨e, he, hname⟩ => ?_, hn⟩, fun e he => ?_⟩
        · simpa [hname] using h e he
        · have h := h e he
          split at h
          · contradiction
          · exact h
      case mpr =>
        intro ⟨⟨hname, hn⟩, h⟩
        refine ⟨hn, fun e he => ?_⟩
        have : (e.1 == name) = false := beq_eq_false_iff_ne.mpr fun hc => hname ⟨e, he, hc⟩
        simp [this, h e he]

theorem ensureUnique_eq_ok_iff {kind : NameKind} {es : List (String × String)} :
    ensureUnique kind es = .ok () ↔ (es.map (·.1)).Nodup := by
  rw [ensureUnique]
  cases h : collision? [] es
  case none => simpa using (collision?_eq_none_iff.mp h).left
  case some =>
    have := mt collision?_eq_none_iff.mpr (by simp [h] : collision? [] es ≠ none)
    simpa using this

-- An entry has the name of an earlier one, and it is the first that does so.
def Collides (es : List (String × String)) (name first second : String) : Prop :=
  ∃ before after, es = before ++ (name, second) :: after ∧
    (before.map (·.1)).Nodup ∧ (name, first) ∈ before

namespace Collides

variable {es before after before' after' : List (String × String)}

theorem not_nodup (h : Collides es name first second) : ¬(es.map (·.1)).Nodup := by
  have ⟨before, after, he, _, hf⟩ := h
  simp only [he, List.map_append, List.map_cons, List.nodup_append]
  intro ⟨_, _, hd⟩
  exact hd _ (List.mem_map_of_mem (f := (·.1)) hf) _ (.head _) rfl

-- What comes before a collision cannot be longer, for then the collision was within it.
theorem before_eq (he : before ++ (name, second) :: after = before' ++ after')
    (hn : (before'.map (·.1)).Nodup) (hf : (name, first) ∈ before) (hp : before <+: before') :
    before = before' := by
  obtain ⟨between, hb⟩ := hp
  cases between
  case nil => simpa using hb
  case cons e between =>
    subst hb
    simp only [List.append_assoc, List.append_cancel_left_eq, List.cons_append] at he
    cases he
    have hb := hn.sublist (List.sublist_append_left _ _ |>.map _)
    exact absurd hn (not_nodup ⟨before, between, rfl, hb, hf⟩)

theorem unique (h : Collides es name first second) (h' : Collides es name' first' second') :
    name = name' ∧ first = first' ∧ second = second' := by
  obtain ⟨before, after, he, hn, hf⟩ := h
  obtain ⟨before', after', he', hn', hf'⟩ := h'
  have hb : before = before' := by
    cases List.prefix_or_prefix_of_prefix ⟨_, he.symm⟩ ⟨_, he'.symm⟩
    case inl hp => exact before_eq (he.symm.trans he') hn' hf hp
    case inr hp => exact (before_eq (he'.symm.trans he) hn hf' hp).symm
  subst hb
  cases List.append_cancel_left (he.symm.trans he')
  have := List.inj_on_of_nodup_map hn hf hf' rfl
  simpa using this

-- Of two lists without collisions, the second one sorted, the least common name collides.
theorem of_isLeast {as bs : List String} (ha : as.Nodup) (hb : bs.Pairwise (· < ·))
    (h : IsLeast {n | n ∈ as ∧ n ∈ bs} name) :
    Collides (as.map (·, first) ++ bs.map (·, second)) name first second := by
  have ⟨⟨hna, hnb⟩, hl⟩ := h
  have ⟨bs₁, bs₂, hs⟩ := List.append_of_mem hnb
  have hlt : ∀ n ∈ bs₁, n < name := fun n hn =>
    (List.pairwise_append.mp (hs ▸ hb)).right.right n hn name (.head _)
  refine ⟨as.map (·, first) ++ bs₁.map (·, second), bs₂.map (·, second), by simp [hs], ?_, ?_⟩
  · have hb₁ : bs₁.Nodup := hb.imp ne_of_lt |>.sublist (hs ▸ List.sublist_append_left _ _)
    have hd : as.Disjoint bs₁ := fun n hna hn =>
      absurd (hl ⟨hna, hs ▸ List.mem_append_left _ hn⟩) (not_le_of_gt <| hlt n hn)
    simpa [Function.comp_def] using ha.append hb₁ hd
  · simp [hna]

end Collides

theorem exists_isLeast {as bs : List String} (hb : bs.Pairwise (· < ·)) (ha : n ∈ as)
    (hn : n ∈ bs) : ∃ name, IsLeast {n | n ∈ as ∧ n ∈ bs} name := by
  have hs := hb.sublist (List.filter_sublist (p := (· ∈ as)))
  have hn : n ∈ bs.filter (· ∈ as) := by simp [ha, hn]
  cases hc : bs.filter (· ∈ as)
  case nil => simp [hc] at hn
  case cons c cs =>
    have hm {n} : n ∈ c :: cs ↔ n ∈ as ∧ n ∈ bs := by simp [← hc, and_comm]
    refine ⟨c, hm.mp (.head _), fun n hn => ?_⟩
    cases hm.mpr hn
    case head    => exact le_refl _
    case tail hn => exact (List.pairwise_cons.mp (hc ▸ hs)).left n hn |>.le

-- The only collisions of two lists without collisions are between them.
theorem collides_append_iff {as bs : List String} (ha : as.Nodup) (hb : bs.Pairwise (· < ·)) :
    Collides (as.map (·, fst) ++ bs.map (·, snd)) name first second ↔
      IsLeast {n | n ∈ as ∧ n ∈ bs} name ∧ fst = first ∧ snd = second := by
  constructor
  case mp =>
    intro h
    have ⟨n, hna, hnb⟩ : ∃ n ∈ as, n ∈ bs := by
      by_contra! hd
      have := ha.append (hb.imp ne_of_lt) hd
      exact h.not_nodup (by simpa [Function.comp_def] using this)
    have ⟨n, hn⟩ := exists_isLeast hb hna hnb
    have ⟨h₁, h₂, h₃⟩ := Collides.of_isLeast ha hb hn |>.unique h
    exact ⟨h₁ ▸ hn, h₂, h₃⟩
  case mpr =>
    rintro ⟨h, rfl, rfl⟩
    exact .of_isLeast ha hb h

-- The names seen before come before those of the list.
theorem collides_of_collision? {seen es : List (String × String)} (h : (seen.map (·.1)).Nodup)
    (hc : collision? seen es = some (name, first, second)) :
    Collides (seen.reverse ++ es) name first second := by
  induction es generalizing seen
  case nil => simp [collision?] at hc
  case cons e es hi =>
    have ⟨n, o⟩ := e
    rw [collision?] at hc
    cases hs : seen.lookup n
    case some f =>
      simp only [hs, Option.some.injEq, Prod.mk.injEq] at hc
      obtain ⟨rfl, rfl, rfl⟩ := hc
      have ⟨_, _, he, _⟩ := List.lookup_eq_some_iff.mp hs
      exact ⟨seen.reverse, es, rfl, by simpa [List.map_reverse] using h, by simp [he]⟩
    case none =>
      simp only [hs] at hc
      have hn : n ∉ seen.map (·.1) := by
        simp only [List.lookup_eq_none_iff, bne_iff_ne] at hs
        exact fun hm => have ⟨e, he, hn⟩ := List.mem_map.mp hm; hs e he hn.symm
      have hn : (((n, o) :: seen).map (·.1)).Nodup := List.nodup_cons.mpr ⟨hn, h⟩
      simpa using hi hn hc

theorem ensureUnique_eq_error_iff {kind : NameKind} {es : List (String × String)} :
    ensureUnique kind es = .error p ↔
      ∃ name first second, Collides es name first second ∧
        .nameCollision kind name first second = p := by
  rw [ensureUnique]
  cases hc : collision? [] es
  case none =>
    have hn := collision?_eq_none_iff.mp hc |>.left
    simpa using fun name first second h => absurd hn h.not_nodup
  case some c =>
    have ⟨name, first, second⟩ := c
    have h : Collides es name first second := collides_of_collision? (by simp) hc
    constructor
    case mp  => exact fun he => ⟨name, first, second, h, Except.error.inj he⟩
    case mpr =>
      rintro ⟨name', first', second', h', rfl⟩
      obtain ⟨rfl, rfl, rfl⟩ := h.unique h'
      rfl

-- The name at an index also stands at an earlier one.
def Repeats (es : List (String × String)) (j : Nat) : Prop :=
  ∃ i < j, ∃ name first second, es[i]? = some (name, first) ∧ es[j]? = some (name, second)

-- The least index that repeats a name, and the only one before it with this name.
structure FirstRepeats (es : List (String × String)) (i j : Nat) (name first second : String) :
    Prop where
  least : IsLeast {j | Repeats es j} j
  repeated : es[j]? = some (name, second)
  lt : i < j
  original : es[i]? = some (name, first)
  only : ∀ k < j, ∀ origin, es[k]? = some (name, origin) → k = i

theorem nodup_take_iff {es : List (String × String)} :
    ((es.take n).map (·.1)).Nodup ↔ ∀ j < n, ¬Repeats es j := by
  rw [List.nodup_iff_pairwise_ne, List.pairwise_map, List.pairwise_iff_getElem]
  constructor
  case mp =>
    intro h j hj ⟨i, hi, name, first, second, hf, hs⟩
    have ⟨hli, hf⟩ := List.getElem?_eq_some_iff.mp hf
    have ⟨hlj, hs⟩ := List.getElem?_eq_some_iff.mp hs
    have := h i j (by simp; omega) (by simp; omega) hi
    simp [hf, hs] at this
  case mpr =>
    intro h i j hi hj hij he
    simp only [List.length_take, lt_inf_iff] at hi hj
    simp only [List.getElem_take] at he
    refine h j hj.left ⟨i, hij, es[j].1, es[i].2, es[j].2, ?_, List.getElem?_eq_getElem hj.right⟩
    rw [List.getElem?_eq_getElem hi.right, ← he]

theorem FirstRepeats.collides {es : List (String × String)}
    (h : FirstRepeats es i j name first second) : Collides es name first second := by
  have ⟨hj, hs⟩ := List.getElem?_eq_some_iff.mp h.repeated
  have ⟨hi, hf⟩ := List.getElem?_eq_some_iff.mp h.original
  refine ⟨es.take j, es.drop (j + 1), ?_, ?_, ?_⟩
  · rw [← hs, ← List.drop_eq_getElem_cons hj, List.take_append_drop]
  · exact nodup_take_iff.mpr fun k hk hr => absurd (h.least.right hr) (Nat.not_le.mpr hk)
  · exact hf ▸ List.mem_take_iff_getElem.mpr ⟨i, by simp [h.lt, hi], rfl⟩

theorem Collides.exists_firstRepeats {es : List (String × String)}
    (h : Collides es name first second) : ∃ i j, FirstRepeats es i j name first second := by
  obtain ⟨before, after, rfl, hn, hf⟩ := h
  have ⟨i, hi, hf⟩ := List.getElem_of_mem hf
  let j := before.length
  have hs : (before ++ (name, second) :: after)[j]? = some (name, second) := by simp [j]
  have ho : (before ++ (name, second) :: after)[i]? = some (name, first) := by
    rw [List.getElem?_append_left hi, List.getElem?_eq_getElem hi, hf]
  have hb : ∀ k < j, ¬Repeats (before ++ (name, second) :: after) k :=
    nodup_take_iff.mp (by simpa [j] using hn)
  refine ⟨i, j, ⟨⟨i, hi, name, first, second, ho, hs⟩, fun k hr => ?_⟩, hs, hi, ho, ?_⟩
  · exact Nat.not_lt.mp fun hk => hb k hk hr
  · intro k hk origin hk'
    by_contra hne
    cases Nat.lt_or_gt_of_ne hne
    case inl hlt => exact hb i hi ⟨k, hlt, _, _, _, hk', ho⟩
    case inr hlt => exact hb k hk ⟨i, hlt, _, _, _, ho, hk'⟩

-- Either all names are distinct, or the report is about the least index that repeats a name. It is
-- settled by the entries alone, and not by the order in which names are looked up.
theorem ensureUnique_reports (kind : NameKind) (es : List (String × String)) :
    (ensureUnique kind es = .ok () ↔ (es.map (·.1)).Nodup) ∧
    ∀ p, ensureUnique kind es = .error p ↔ ∃ i j name first second,
      FirstRepeats es i j name first second ∧ .nameCollision kind name first second = p := by
  refine ⟨ensureUnique_eq_ok_iff, fun p => ?_⟩
  rw [ensureUnique_eq_error_iff]
  constructor
  case mp =>
    intro ⟨name, first, second, h, hp⟩
    have ⟨i, j, h⟩ := h.exists_firstRepeats
    exact ⟨i, j, name, first, second, h, hp⟩
  case mpr =>
    intro ⟨_, _, name, first, second, h, hp⟩
    exact ⟨name, first, second, h.collides, hp⟩

end DataAccess.Naming
