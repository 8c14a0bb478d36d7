import DataAccess.Json.Decode
import DataAccess.Proofs.Check
import Mathlib.Data.String.Basic
/-!
A value that is read has its members in order. So it is read again as the same value.
-/

namespace DataAccess.Json

-- All numbers of a value have a property.
inductive Numbers (p : Number → Prop) : Json → Prop
  | null : Numbers p .null
  | bool : Numbers p (.bool b)
  | number : p n → Numbers p (.number n)
  | text : Numbers p (.text s)
  | list : (∀ v ∈ items, Numbers p v) → Numbers p (.list items)
  | record : (∀ m ∈ members, Numbers p m.snd) → Numbers p (.record members)

-- All numbers of a tree that are in range have a property.
inductive Node.Numbers (p : Number → Prop) : Node → Prop
  | null : Numbers p .null
  | bool : Numbers p (.bool b)
  | number : (∀ x, n = .ok x → p x) → Numbers p (.number n)
  | text : Numbers p (.text s)
  | list : (∀ v ∈ items, Numbers p v) → Numbers p (.list items stop)
  | record : (∀ m ∈ members, Numbers p m.snd) → Numbers p (.record members stop)
  | flawed : Numbers p (.flawed f)

-- The lists and records of a value are nested no deeper than allowed, and the members of its
-- records are in the order of their names.
inductive Kept : Nat → Json → Prop
  | null : Kept d .null
  | bool : Kept d (.bool b)
  | number : Kept d (.number n)
  | text : Kept d (.text s)
  | list : (∀ v ∈ items, Kept d v) → Kept (d + 1) (.list items)
  | record : members.Pairwise (·.fst < ·.fst) → (∀ m ∈ members, Kept d m.snd) →
    Kept (d + 1) (.record members)

variable {p q : Number → Prop} {v : Json} {before ms : List (String × Json)}

namespace Numbers

theorem and (h : v.Numbers p) (h' : v.Numbers q) : v.Numbers fun n => p n ∧ q n := by
  induction h
  case null => exact .null
  case bool => exact .bool
  case text => exact .text
  case number hp =>
    cases h'
    case number hq => exact .number ⟨hp, hq⟩
  case list hi =>
    cases h'
    case list h' => exact .list fun v hv => hi v hv (h' v hv)
  case record hi =>
    cases h'
    case record h' => exact .record fun m hm => hi m hm (h' m hm)

@[simp]
theorem bool_iff : (Json.bool b).Numbers p ↔ True :=
  ⟨fun _ => trivial, fun _ => .bool⟩

@[simp]
theorem text_iff : (Json.text s).Numbers p ↔ True :=
  ⟨fun _ => trivial, fun _ => .text⟩

@[simp]
theorem record_iff : (Json.record ms).Numbers p ↔ ∀ m ∈ ms, m.snd.Numbers p :=
  ⟨fun (.record h) => h, .record⟩

@[simp]
theorem list_iff : (Json.list vs).Numbers p ↔ ∀ v ∈ vs, v.Numbers p :=
  ⟨fun (.list h) => h, .list⟩

@[simp]
theorem ofList_iff {f : α → Json} {xs : List α} :
    (ofList f xs).Numbers p ↔ ∀ x ∈ xs, (f x).Numbers p :=
  list_iff.trans List.forall_mem_map

@[simp]
theorem ofOption_iff {f : α → Json} {o : Option α} :
    (ofOption f o).Numbers p ↔ ∀ a ∈ o, (f a).Numbers p := by
  cases o
  case none   => exact ⟨fun _ => nofun, fun _ => .null⟩
  case some a => simp [ofOption]

end Numbers

theorem itemsOfJson_eq : ∀ vs : List Json, itemsOfJson vs = vs.map Node.ofJson
  | [] => rfl
  | v :: vs => congrArg (Node.ofJson v :: ·) (itemsOfJson_eq vs)

def memberOfJson (m : String × Json) : Except Malformed String × Node :=
  (.ok m.fst, .ofJson m.snd)

theorem membersOfJson_eq : ∀ ms : List (String × Json), membersOfJson ms = ms.map memberOfJson
  | [] => rfl
  | m :: ms => congrArg (memberOfJson m :: ·) (membersOfJson_eq ms)

theorem itemsToJson_eq : ∀ vs : List Node, itemsToJson d vs = vs.mapM (·.toJson d)
  | [] => rfl
  | v :: vs => by rw [itemsToJson, itemsToJson_eq vs, List.mapM_cons]

theorem mem_of_mem_insertMember (h : m ∈ insertMember n v ms) : m = (n, v) ∨ m ∈ ms := by
  fun_induction insertMember n v ms
  case case1 => exact .inl <| List.mem_singleton.mp h
  case case2 => exact List.mem_cons.mp h
  case case3 => exact List.mem_cons.mp h |>.imp_right <| .tail _
  case case4 hi =>
    cases h
    case head => exact .inr <| .head _
    case tail h => exact (hi h).imp_right <| .tail _

theorem insertMember_pairwise (h : ms.Pairwise (·.fst < ·.fst)) :
    (insertMember n v ms).Pairwise (·.fst < ·.fst) := by
  fun_induction insertMember n v ms
  case case1 => exact List.pairwise_singleton _ _
  all_goals have ⟨hl, hp⟩ := List.pairwise_cons.mp h
  case case2 hn =>
    refine List.pairwise_cons.mpr ⟨?_, h⟩
    exact List.forall_mem_cons.mpr ⟨hn, fun m hm => lt_trans hn (hl m hm)⟩
  case case3 => exact List.pairwise_cons.mpr ⟨hl, hp⟩
  case case4 hn he hi =>
    refine List.pairwise_cons.mpr ⟨fun m hm => ?_, hi hp⟩
    cases mem_of_mem_insertMember hm
    case inl hm => exact hm ▸ lt_of_le_of_ne (not_lt.mp hn) (Ne.symm he)
    case inr hm => exact hl m hm

-- A name after all others is added at the end.
theorem insertMember_eq (h : ∀ m ∈ ms, m.fst < n) : insertMember n v ms = ms ++ [(n, v)] := by
  induction ms
  case nil => rfl
  case cons m ms hi =>
    have ⟨hm, h⟩ := List.forall_mem_cons.mp h
    rw [insertMember, if_neg hm.not_gt, if_neg hm.ne', hi h, List.cons_append]

theorem membersToJson_eq_ok (h : membersToJson d before ns = .ok ms)
    (hb : before.Pairwise (·.fst < ·.fst)) : ms.Pairwise (·.fst < ·.fst) ∧
      ∀ m ∈ ms, m ∈ before ∨ ∃ n ∈ ns, n.snd.toJson d = .ok m.snd := by
  induction ns generalizing before
  case nil =>
    cases h
    exact ⟨hb, fun m hm => .inl hm⟩
  case cons n ns hi =>
    simp only [membersToJson, Check.bind_eq_ok_iff] at h
    obtain ⟨name, _, v, hv, h⟩ := h
    obtain ⟨hp, hm⟩ := hi h <| insertMember_pairwise hb
    refine ⟨hp, fun m h => ?_⟩
    cases hm m h
    case inr h =>
      obtain ⟨n', hn, h⟩ := h
      exact .inr ⟨n', .tail _ hn, h⟩
    case inl h =>
      cases mem_of_mem_insertMember h
      case inl h => exact .inr ⟨n, .head _, h ▸ hv⟩
      case inr h => exact .inl h

theorem membersToJson_map (hp : (before ++ ms).Pairwise (·.fst < ·.fst))
    (h : ∀ m ∈ ms, (Node.ofJson m.snd).toJson d = .ok m.snd) :
    membersToJson d before (ms.map memberOfJson) = .ok (before ++ ms) := by
  induction ms generalizing before
  case nil => rw [List.append_nil, List.map_nil, membersToJson]
  case cons m ms hi =>
    have ⟨hm, h⟩ := List.forall_mem_cons.mp h
    have hn : ∀ m' ∈ before, m'.fst < m.fst :=
      fun m' hm' => (List.pairwise_append.mp hp).right.right m' hm' m (.head _)
    rw [List.append_cons] at hp
    rw [List.map_cons, memberOfJson, membersToJson, ofText, Check.ok_bind, hm, Check.ok_bind,
      insertMember_eq hn, hi hp h, List.append_assoc, List.singleton_append]

-- What is read as a value, if its numbers have a property.
theorem Node.Numbers.kept {n : Node} (h : n.Numbers p) (hv : n.toJson d = .ok v) :
    Kept d v ∧ v.Numbers p := by
  induction h generalizing d v
  case null =>
    cases hv
    exact ⟨.null, .null⟩
  case bool =>
    cases hv
    exact ⟨.bool, .bool⟩
  case flawed => cases hv
  case text s =>
    rw [toJson, Check.map_eq_ok_iff] at hv
    obtain ⟨_, _, hv⟩ := hv
    exact hv ▸ ⟨.text, .text⟩
  case number n h =>
    cases n
    case error => cases hv
    case ok x =>
      cases hv
      exact ⟨.number, .number (h x rfl)⟩
  case list items stop _ hi =>
    cases d
    case zero => cases hv
    case succ d =>
      simp only [toJson, itemsToJson_eq, Check.bind_eq_ok_iff] at hv
      obtain ⟨vs, hm, _, _, hv⟩ := hv
      cases hv
      have hs : ∀ v ∈ vs, Kept d v ∧ v.Numbers p := by
        intro v hv
        obtain ⟨n, hn, hv⟩ := Check.exists_of_mem_mapM hm hv
        exact hi n hn hv
      exact ⟨.list fun v hv => (hs v hv).left, .list fun v hv => (hs v hv).right⟩
  case record members stop _ hi =>
    cases d
    case zero => cases hv
    case succ d =>
      simp only [toJson, Check.bind_eq_ok_iff] at hv
      obtain ⟨ms, hm, _, _, hv⟩ := hv
      cases hv
      obtain ⟨hp, hm⟩ := membersToJson_eq_ok hm .nil
      have hs : ∀ m ∈ ms, Kept d m.snd ∧ m.snd.Numbers p := by
        intro m h
        obtain ⟨n, hn, hm⟩ := (hm m h).resolve_left List.not_mem_nil
        exact hi n hn hm
      exact ⟨.record hp fun m hm => (hs m hm).left, .record fun m hm => (hs m hm).right⟩

theorem Kept.toJson_ofJson (h : Kept d v) : (Node.ofJson v).toJson d = .ok v := by
  induction h
  case null => rfl
  case bool => rfl
  case number => rfl
  case text => rfl
  case list vs d _ hi =>
    have hm : (vs.map Node.ofJson).mapM (·.toJson d) = .ok vs := by
      rw [Check.mapM_eq_ok_iff, List.forall₂_map_left_iff, List.forall₂_same]
      exact hi
    rw [Node.ofJson, itemsOfJson_eq, Node.toJson, itemsToJson_eq, hm]
    rfl
  case record ms d hp _ hi =>
    have hm : membersToJson d [] (ms.map memberOfJson) = .ok ms := membersToJson_map hp hi
    rw [Node.ofJson, membersOfJson_eq, Node.toJson, hm]
    rfl

end DataAccess.Json
