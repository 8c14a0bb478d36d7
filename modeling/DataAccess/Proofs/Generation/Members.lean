import DataAccess.Proofs.Generation.Names
import DataAccess.Proofs.Naming.History
/-!
The members of generated enums. They stand for the values in their order, and each has an identifier
for a name that no other member of the enum has, whatever the values are.
-/

namespace DataAccess

namespace Naming

-- Capitals, digits and underscores, of which the first is no digit.
structure IsConstant (name : String) : Prop where
  ne_nil : name.toList ≠ []
  chars : ∀ c ∈ name.toList, c.isUpper ∨ c.isDigit ∨ c = '_'
  head : ∀ c ∈ name.toList.head?, ¬c.isDigit

theorem isConstant_suffixed (h : IsConstant base) (n : Nat) : IsConstant (suffixed base n) where
  ne_nil := by simp [suffixed]
  chars c hc := by
    simp only [suffixed, String.toList_append, List.append_assoc, List.mem_append] at hc
    obtain hc | hc | hc := hc
    · exact h.chars c hc
    · exact .inr <| .inr <| List.mem_singleton.mp hc
    · rw [Nat.toString_eq_repr, Nat.toList_repr] at hc
      exact .inr <| .inl <| Nat.isDigit_of_mem_toDigits (by decide) (by decide) hc
  head c hc := by
    rw [suffixed, String.toList_append, String.toList_append, List.append_assoc,
      List.head?_append_of_ne_nil _ h.ne_nil] at hc
    exact h.head c hc

theorem Fresh.isConstant (hf : Fresh taken base name) (h : IsConstant base) : IsConstant name := by
  cases hf
  case same     => exact h
  case numbered => exact isConstant_suffixed h _

theorem FreshAll.isConstant (h : FreshAll taken bases names)
    (hb : ∀ base ∈ bases, IsConstant base) : ∀ name ∈ names, IsConstant name := by
  induction h
  case nil => nofun
  case cons hf _ hi =>
    have ⟨hb, hbs⟩ := List.forall_mem_cons.mp hb
    exact List.forall_mem_cons.mpr ⟨hf.isConstant hb, hi hbs⟩

theorem toUpper_of_isWord (h : Text.isWord c) :
    c.toUpper.isUpper ∨ c.toUpper.isDigit ∨ c.toUpper = '_' := by
  rw [Text.isWord] at h
  unfold Char.isAlphanum Char.isAlpha Char.isUpper Char.isLower Char.isDigit at h
  unfold Char.toUpper Char.isUpper Char.isDigit
  grind

-- Nothing else is left of a value, and where that is too little, an underscore makes up for it.
theorem memberName_isConstant (value : String) : IsConstant (memberName value) := by
  rw [memberName]
  have hc : ∀ c ∈ ((value.toList.map joinMark).filter Text.isWord).map Char.toUpper,
      c.isUpper ∨ c.isDigit ∨ c = '_' := by
    intro c hc
    have ⟨_, hm, he⟩ := List.mem_map.mp hc
    exact he ▸ toUpper_of_isWord (List.mem_filter.mp hm).right
  split
  case h_1 =>
    exact ⟨by simp, by simp, by simp⟩
  case h_2 c s hs =>
    rw [hs] at hc
    split
    case isTrue hd =>
      constructor
      case ne_nil => simp
      case chars  => simpa using hc
      case head   => simp
    case isFalse hd =>
      constructor
      case ne_nil => simp
      case chars  => simpa using hc
      case head   => simpa using hd

end Naming

namespace EnumDecl

-- Every member has a name of its own: that of its value, or this with the least number that the
-- members before leave free.
structure NamesMembers (d : EnumDecl) : Prop where
  constants : ∀ m ∈ d.members, Naming.IsConstant m.name
  nodup : (d.members.map (·.name)).Nodup
  fresh : Naming.FreshAll [] (d.members.map fun m => Naming.memberName m.value)
    (d.members.map (·.name))

theorem ofValues_names (vals : List String) :
    (ofValues vals).map (·.name) =
      Naming.Allocator.uniqueAll {} (vals.map Naming.memberName) := by
  have hl := Naming.Allocator.uniqueAll_length {} (vals.map Naming.memberName)
  rw [List.length_map] at hl
  exact List.ext_getElem (by simp [ofValues, hl]) (by simp [ofValues])

theorem namesMembers_of_values {d : EnumDecl} (h : d.members = ofValues vals) : d.NamesMembers := by
  have hf := Naming.Allocator.Exhausts.empty.uniqueAll (vals.map Naming.memberName)
  rw [← ofValues_names] at hf
  constructor
  case nodup => exact h ▸ hf.nodup
  case fresh =>
    have hv := congrArg (List.map Naming.memberName) (ofValues_values vals)
    rw [List.map_map] at hv
    exact h ▸ hv ▸ hf
  case constants =>
    have hc : ∀ base ∈ vals.map Naming.memberName, Naming.IsConstant base := by
      simpa using fun value _ => Naming.memberName_isConstant value
    simpa [h] using hf.isConstant hc

end EnumDecl

-- Every enum that is declared is one of the catalog, with a member for each of its values.
theorem Catalog.enumDecls_members {c : Catalog} (h : c.enumDecls = .ok ds) (hd : d ∈ ds) :
    ∃ s e, (s, e) ∈ c.enums ∧ d.Declares c s e ∧ d.NamesMembers := by
  obtain ⟨s, e, hm, rfl⟩ := mem_enumDecls h |>.mp hd
  exact ⟨s, e, hm, ⟨rfl, rfl, EnumDecl.ofValues_values e.vals⟩,
    EnumDecl.namesMembers_of_values rfl⟩

-- Values that make no identifier, or one that stands already for another value with a number.
def moods : Catalog where
  defaultSchema := "public"
  schemas := [{
    name := "public"
    enums := [{ name := "mood", vals := ["so-so", "", "so_so", "SO_SO_2", "?", "so/so", "1st"] }] }]

theorem Catalog.enumDecls_members_moods : ∃ ds d, moods.enumDecls = .ok ds ∧ d ∈ ds ∧
    d.members.map (·.name) = ["SO_SO", "_", "SO_SO_2", "SO_SO_2_2", "__2", "SO_SO_3", "_1ST"] ∧
    ∃ s e, (s, e) ∈ moods.enums ∧ d.Declares moods s e ∧ d.NamesMembers := by
  have h : moods.enumDecls = .ok _ := enumDecls_eq_ok_iff.mpr ⟨by decide +kernel, rfl⟩
  have hd := mem_enumDecls h |>.mpr ⟨_, _, .head _, rfl⟩
  exact ⟨_, _, h, hd, by decide +kernel, enumDecls_members h hd⟩

end DataAccess
