import DataAccess.Proofs.Json.Values
import Mathlib.Data.List.Nodup
/-!
Decoders read what is written for a value as this value. A record is read back whatever the order of
its members.
-/

namespace DataAccess.Json

-- What is written for a value is read as this value.
def Decoder.Reads (d : Decoder α) (write : α → Json) : Prop :=
  ∀ a, d (.ofJson (write a)) = .ok a

namespace Decoder

variable {d : Decoder α} {write : α → Json}

theorem text_reads : text.Reads .text :=
  fun _ => rfl

theorem bool_reads : bool.Reads .bool :=
  fun _ => rfl

theorem int32_reads : int32.Reads ofInt32 := by
  intro n
  have hn : Int32.minValue.toInt ≤ n.toInt ∧ n.toInt ≤ Int32.maxValue.toInt :=
    ⟨n.minValue_le_toInt, n.toInt_le⟩
  calc int32 (.ofJson (ofInt32 n))
    _ = if Int32.minValue.toInt ≤ n.toInt ∧ n.toInt ≤ Int32.maxValue.toInt
          then .ok (.ofInt n.toInt) else .error (.outOfRange n.toInt "i32") := rfl
    _ = .ok n := by rw [if_pos hn, Int32.ofInt_toInt]

theorem list_reads (h : d.Reads write) : (list d).Reads (ofList write) := by
  intro xs
  have hx : (itemsOfJson (xs.map write)).mapM d = .ok xs := by
    rw [itemsOfJson_eq, Check.mapM_eq_ok_iff, List.map_map, List.forall₂_map_left_iff,
      List.forall₂_same]
    exact fun a _ => h a
  simp only [ofList, Node.ofJson, list, hx]
  rfl

theorem option_reads (h : d.Reads write) (hn : ∀ a, write a ≠ .null) :
    (option d).Reads (ofOption write) := by
  intro a
  cases a
  case none => rfl
  case some a =>
    have ha : d (.ofJson (write a)) = .ok a := h a
    rw [ofOption]
    cases hw : write a
    case null => exact absurd hw (hn a)
    all_goals
      rw [hw] at ha
      exact congrArg (Except.map some) ha

end Decoder

namespace Field

-- Members are put into a record one after the other, each by the field of its name.
inductive Puts : List (Field α) → List (String × Json) → α → α → Prop
  | nil : Puts [] [] a a
  | cons {f : Field α} : f.put (.ofJson v) a = .ok b → Puts fs ms b c →
    Puts (f :: fs) ((f.name, v) :: ms) a c

variable {fields fs : List (Field α)} {ms : List (String × Json)} {a b : α}

theorem find?_name {f : Field α} (hf : (fields.map (·.name)).Nodup) (h : f ∈ fields) :
    fields.find? (·.name = f.name) = some f := by
  have hs : (fields.find? (·.name = f.name)).isSome :=
    List.find?_isSome.mpr ⟨f, h, decide_eq_true rfl⟩
  have ⟨g, hg⟩ := Option.isSome_iff_exists.mp hs
  have hn : g.name = f.name := by simpa using List.find?_some hg
  rw [hg, List.inj_on_of_nodup_map hf (List.mem_of_find?_eq_some hg) h hn]

theorem putByName_cons {f : Field α} (hf : (fields.map (·.name)).Nodup) (h : f ∈ fields)
    (hs : f.name ∉ seen) :
    putByName fields a seen ((.ok f.name, v) :: vs) =
      (f.put v a >>= fun b => putByName fields b (f.name :: seen) vs) := by
  rw [putByName, ofText, Check.ok_bind, find?_name hf h]
  exact if_neg hs

-- It makes no difference which of two fields is put first.
def Commutes (f g : Field α) : Prop :=
  ∀ v w a c, (∃ b, f.put v a = .ok b ∧ g.put w b = .ok c) ↔
    ∃ b, g.put w a = .ok b ∧ f.put v b = .ok c

theorem Commutes.symm {f g : Field α} (h : f.Commutes g) : g.Commutes f :=
  fun v w a c => (h w v a c).symm

theorem optional_commutes {d : Decoder β} {d' : Decoder γ} {set : α → β → α} {set' : α → γ → α}
    (h : ∀ a x y, set' (set a x) y = set (set' a y) x) :
    (optional n d set).Commutes (optional n' d' set') := by
  intro v w a c
  simp only [optional, Check.map_eq_ok_iff, exists_exists_and_eq_and]
  constructor
  case mp =>
    rintro ⟨x, hx, y, hy, hc⟩
    exact ⟨y, hy, x, hx, h a x y ▸ hc⟩
  case mpr =>
    rintro ⟨y, hy, x, hx, hc⟩
    exact ⟨x, hx, y, hy, (h a x y).symm ▸ hc⟩

namespace Puts

variable {n : String} {d : Decoder β} {set : α → β → α}

theorem optional (hd : d (.ofJson v) = .ok x) (h : Puts fs ms (set a x) b) :
    Puts (Field.optional n d set :: fs) ((n, v) :: ms) a b :=
  .cons (congrArg (Except.map (set a)) hd) h

theorem mandatory (hd : d (.ofJson v) = .ok x) (h : Puts fs ms (set a x) b) :
    Puts (Field.mandatory n d set :: fs) ((n, v) :: ms) a b :=
  .cons (congrArg (Except.map (set a)) hd) h

-- Every name is new when its turn comes.
theorem putByName_eq (h : Puts fs ms a b) (hf : (fields.map (·.name)).Nodup) (hs : fs ⊆ fields)
    (hn : (fs.map (·.name)).Nodup) (hd : ∀ f ∈ fs, f.name ∉ seen) :
    putByName fields a seen (membersOfJson ms) = .ok (b, (fs.map (·.name)).reverse ++ seen) := by
  induction h generalizing seen
  case nil => rfl
  case cons v a b fs ms c f hp _ hi =>
    have ⟨hm, hs⟩ := List.cons_subset.mp hs
    have ⟨hnf, hn⟩ := List.nodup_cons.mp hn
    have ⟨hdf, hd⟩ := List.forall_mem_cons.mp hd
    have hd' : ∀ g ∈ fs, g.name ∉ f.name :: seen := by
      intro g hg
      refine List.not_mem_cons_of_ne_of_not_mem (fun he => hnf ?_) (hd g hg)
      exact List.mem_map.mpr ⟨g, hg, he⟩
    rw [membersOfJson, putByName_cons hf hm hdf, hp, Check.ok_bind, hi hs hn hd']
    simp

-- If all fields commute, members can be put in any order.
theorem exists_of_perm (h : Puts fs ms a b) (hc : fs.Pairwise Commutes) (hp : ms.Perm ms') :
    ∃ fs', fs'.Perm fs ∧ Puts fs' ms' a b := by
  induction hp generalizing fs a b
  case nil => exact ⟨fs, .refl _, h⟩
  case cons hi =>
    cases h
    case cons hf h =>
      have ⟨fs', hp, h⟩ := hi h (List.pairwise_cons.mp hc).right
      exact ⟨_, hp.cons _, .cons hf h⟩
  case swap =>
    cases h
    case cons hf h =>
      cases h
      case cons hg h =>
        have hfg := (List.pairwise_cons.mp hc).left _ (.head _)
        have ⟨_, hg, hf⟩ := hfg _ _ _ _ |>.mp ⟨_, hf, hg⟩
        exact ⟨_, .swap _ _ _, .cons hg <| .cons hf h⟩
  case trans hi hi' =>
    have ⟨fs', hp, h⟩ := hi h hc
    have ⟨fs'', hp', h⟩ := hi' h (hp.pairwise_iff Commutes.symm |>.mpr hc)
    exact ⟨fs'', hp'.trans hp, h⟩

end Puts
-- What holds of a record still holds when a field is put.
def Preserves (q : Number → Prop) (p : α → Prop) (f : Field α) : Prop :=
  ∀ ⦃v a b⦄, v.Numbers q → p a → f.put v a = .ok b → p b

variable {p : α → Prop} {q : Number → Prop}

theorem optional_preserves {n : String} {d : Decoder β} {set : α → β → α}
    (h : ∀ v a x, v.Numbers q → p a → d v = .ok x → p (set a x)) :
    (optional n d set).Preserves q p := by
  intro v a b hv ha hp
  have ⟨x, hx, hb⟩ := Check.map_eq_ok_iff.mp hp
  exact hb ▸ h v a x hv ha hx

theorem putInOrder_preserves (hf : ∀ f ∈ fields, f.Preserves q p) (hv : ∀ v ∈ vs, v.Numbers q)
    (ha : p a) (h : putInOrder e stop a i fields vs = .ok b) : p b := by
  fun_induction putInOrder e stop a i fields vs
  case case1 =>
    have ⟨_, _, hb⟩ := Check.bind_eq_ok_iff.mp h
    cases hb
    exact ha
  case case2 => contradiction
  case case3 i f fs hi =>
    have ⟨_, _, h⟩ := Check.bind_eq_ok_iff.mp h
    split at h
    case isTrue => contradiction
    case isFalse => exact hi (List.forall_mem_cons.mp hf).right hv ha h
  case case4 i f fs v vs hi =>
    have ⟨hf, hfs⟩ := List.forall_mem_cons.mp hf
    have ⟨hv, hvs⟩ := List.forall_mem_cons.mp hv
    have ⟨c, hc, h⟩ := Check.bind_eq_ok_iff.mp h
    exact hi c hfs hvs (hf hv ha hc) h

theorem putByName_preserves (hf : ∀ f ∈ fields, f.Preserves q p)
    (hv : ∀ m ∈ members, m.snd.Numbers q) (ha : p a)
    (h : putByName fields a seen members = .ok (b, names)) : p b := by
  induction members generalizing a seen
  case nil =>
    cases h
    exact ha
  case cons m ms hi =>
    have ⟨hv, hvs⟩ := List.forall_mem_cons.mp hv
    have ⟨name, _, h⟩ := Check.bind_eq_ok_iff.mp h
    split at h
    case h_1 =>
      have ⟨_, _, h⟩ := Check.bind_eq_ok_iff.mp h
      exact hi hvs ha h
    case h_2 f hn =>
      split at h
      case isTrue => contradiction
      case isFalse =>
        have ⟨c, hc, h⟩ := Check.bind_eq_ok_iff.mp h
        exact hi hvs (hf f (List.mem_of_find?_eq_some hn) hv ha hc) h

end Field

theorem Shape.decode_eq_ok {s : Shape α} (hf : (s.fields.map (·.name)).Nodup)
    (hs : fs.Perm s.fields) (h : Field.Puts fs ms s.blank a) :
    s.decode (.ofJson (.record ms)) = .ok a := by
  have hn := (hs.map (·.name)).nodup_iff.mpr hf
  have hp := h.putByName_eq hf hs.subset hn fun _ _ => List.not_mem_nil
  have hr : Field.requireAll ((fs.map (·.name)).reverse ++ []) s.fields = .ok () := by
    have hm : ∀ f ∈ s.fields, f.name ∈ (fs.map (·.name)).reverse ++ [] := by
      simpa using fun f hf => ⟨f, hs.mem_iff.mpr hf, rfl⟩
    have hf : s.fields.find? (fun f => f.required ∧
        f.name ∉ (fs.map (·.name)).reverse ++ []) = none :=
      List.find?_eq_none.mpr fun f hf => by simp only [hm f hf]; simp
    rw [Field.requireAll, hf]
  rw [Node.ofJson, decode, hp, Check.ok_bind]
  simp only [Stop.check, Stop.fault?, Check.ok_bind, hr]
  rfl

theorem Shape.decode_eq_ok_of_perm {s : Shape α} (hf : (s.fields.map (·.name)).Nodup)
    (hc : s.fields.Pairwise Field.Commutes) (h : Field.Puts s.fields ms s.blank a)
    (hp : ms.Perm ms') : s.decode (.ofJson (.record ms')) = .ok a := by
  have ⟨_, hs, h⟩ := h.exists_of_perm hc hp
  exact decode_eq_ok hf hs h

theorem Shape.decode_preserves {s : Shape α} {p : α → Prop} {q : Number → Prop}
    (hf : ∀ f ∈ s.fields, f.Preserves q p) (hb : p s.blank) (hv : v.Numbers q)
    (h : s.decode v = .ok a) : p a := by
  unfold decode at h
  split at h
  case h_1 =>
    cases hv
    case list hv => exact Field.putInOrder_preserves hf hv hb h
  case h_2 =>
    cases hv
    case record hv =>
      simp only [Check.bind_eq_ok_iff] at h
      obtain ⟨⟨b, names⟩, hp, _, _, _, _, h⟩ := h
      cases h
      exact Field.putByName_preserves hf hv hb hp
  case h_3 =>
    obtain ⟨_, _, h⟩ := Check.bind_eq_ok_iff.mp h
    contradiction

end DataAccess.Json
