import DataAccess.Proofs.Json.Numerals
import DataAccess.Proofs.Json.Values
/-!
All whole numbers of a document have 64 bits.
-/

namespace DataAccess.Json

def Token.Fits : Token → Prop
  | number (.ok n) => n.Fits
  | _ => True

namespace Token

theorem fits_of_mark? (h : mark? b = some t) : t.Fits := by
  have ⟨_, _, hm, _⟩ := List.lookup_eq_some_iff.mp h
  have hs : ∀ m ∈ [(0x2C, comma), (0x3A, colon), (0x7B, openRecord), (0x7D, closeRecord),
      (0x5B, openList), ((0x5D : UInt8), closeList)], m.snd.Fits := by simp [Fits]
  exact hs (b, t) (hm ▸ by simp)

theorem fits_of_word? (h : word? b = some (t, ws)) : t.Fits := by
  have ⟨_, _, hm, _⟩ := List.lookup_eq_some_iff.mp h
  have hs : ∀ m ∈ [(0x6E, null, [0x75, 0x6C, 0x6C]), (0x74, bool true, [0x72, 0x75, 0x65]),
      ((0x66 : UInt8), bool false, [(0x61 : UInt8), 0x6C, 0x73, 0x65])], m.snd.fst.Fits := by
    simp [Fits]
  exact hs (b, t, ws) (hm ▸ by simp)

theorem word_fits (h : t.Fits) : (word t ws s).fst.Fits := by
  fun_induction word t ws s
  case case1 => exact h
  case case2 => trivial
  case case3 hi => exact hi
  case case4 => trivial

theorem quoted_fits : (quoted s).fst.Fits := by
  unfold quoted
  split
  case h_1 => trivial
  case h_2 => split <;> trivial

theorem numeral_fits : (numeral negative s).fst.Fits := by
  unfold numeral
  split
  case h_1 => trivial
  split
  case h_1 => trivial
  split
  case h_1 => trivial
  split
  case h_1 h => exact Numeral.value_fits h
  case h_2 => trivial

theorem next_fits : (next b s).fst.Fits := by
  unfold next
  split
  case h_1 h => exact fits_of_mark? h
  case h_2 h => exact word_fits (fits_of_word? h)
  case h_3 =>
    split
    case isTrue => exact quoted_fits
    split
    case isTrue => exact numeral_fits
    split
    case isTrue => exact numeral_fits
    case isFalse => trivial

end Token

def Node.Fits (n : Node) : Prop :=
  n.Numbers Number.Fits

namespace Document

def Frame.Fits : Frame → Prop
  | item before => ∀ v ∈ before, v.Fits
  | member before _ => ∀ m ∈ before, m.snd.Fits

def State.Fits : State → Prop
  | value within | listStart within | recordStart within => ∀ f ∈ within, f.Fits
  | listRest within items => (∀ f ∈ within, f.Fits) ∧ ∀ v ∈ items, v.Fits
  | key within members | colon within members _ | recordRest within members =>
    (∀ f ∈ within, f.Fits) ∧ ∀ m ∈ members, m.snd.Fits
  | complete d => d.root.Fits

variable {within : List Frame} {v : Node} {st : State} {t : Token} {items : List Node}
  {members : List (Except Malformed String × Node)}

-- Parts are kept last first.
theorem list_fits (h : ∀ v ∈ items, v.Fits) : (Node.list items.reverse stop).Fits :=
  .list fun v hv => h v (List.mem_reverse.mp hv)

theorem record_fits (h : ∀ m ∈ members, m.snd.Fits) : (Node.record members.reverse stop).Fits :=
  .record fun m hm => h m (List.mem_reverse.mp hm)

theorem fill_fits (hw : ∀ f ∈ within, f.Fits) (hv : v.Fits) : (fill within v).Fits := by
  cases within
  case nil => exact hv
  case cons f within =>
    have ⟨hf, hw'⟩ := List.forall_mem_cons.mp hw
    cases f
    case item   => exact ⟨hw', List.forall_mem_cons.mpr ⟨hv, hf⟩⟩
    case member => exact ⟨hw', List.forall_mem_cons.mpr ⟨hv, hf⟩⟩

theorem cut_fits (hw : ∀ f ∈ within, f.Fits) (hv : v.Fits) : (cut within v).root.Fits := by
  induction within generalizing v
  case nil => exact hv
  case cons f within hi =>
    have ⟨hf, hw'⟩ := List.forall_mem_cons.mp hw
    cases f
    case item   => exact hi hw' <| list_fits <| List.forall_mem_cons.mpr ⟨hv, hf⟩
    case member => exact hi hw' <| record_fits <| List.forall_mem_cons.mpr ⟨hv, hf⟩

theorem start_fits (hw : ∀ f ∈ within, f.Fits) (ht : t.Fits) : (start within t).Fits := by
  cases t
  case null       => exact fill_fits hw .null
  case bool       => exact fill_fits hw .bool
  case text       => exact fill_fits hw .text
  case number n   => exact fill_fits hw <| .number fun x hx => by subst hx; exact ht
  case openList   => exact hw
  case openRecord => exact hw
  all_goals exact cut_fits hw .flawed

theorem name_fits (hw : ∀ f ∈ within, f.Fits) (hm : ∀ m ∈ members, m.snd.Fits) :
    (name within members t).Fits := by
  unfold name
  split
  case h_1 => exact ⟨hw, hm⟩
  case h_2 => exact cut_fits (List.forall_mem_cons.mpr ⟨hm, hw⟩) .flawed
  case h_3 => exact cut_fits hw <| record_fits hm

theorem step_fits (hs : st.Fits) (ht : t.Fits) : (step st t).Fits := by
  unfold step
  split
  case h_1 => exact start_fits hs ht
  case h_2 => exact fill_fits hs <| .list nofun
  case h_3 => exact start_fits (List.forall_mem_cons.mpr ⟨nofun, hs⟩) ht
  case h_4 => exact fill_fits hs.left <| list_fits hs.right
  case h_5 => exact List.forall_mem_cons.mpr ⟨hs.right, hs.left⟩
  case h_6 => exact cut_fits hs.left <| list_fits hs.right
  case h_7 => exact fill_fits hs <| .record nofun
  case h_8 => exact name_fits hs nofun
  case h_9 => exact name_fits hs.left hs.right
  case h_10 => exact List.forall_mem_cons.mpr ⟨hs.right, hs.left⟩
  case h_11 => exact cut_fits (List.forall_mem_cons.mpr ⟨hs.right, hs.left⟩) .flawed
  case h_12 => exact fill_fits hs.left <| record_fits hs.right
  case h_13 => exact hs
  case h_14 => exact cut_fits hs.left <| record_fits hs.right
  case h_15 => exact hs

theorem finish_fits (hs : st.Fits) : (finish st).root.Fits := by
  cases st
  case value       => exact cut_fits hs .flawed
  case listStart   => exact cut_fits hs <| .list nofun
  case listRest    => exact cut_fits hs.left <| list_fits hs.right
  case recordStart => exact cut_fits hs <| .record nofun
  case key         => exact cut_fits (List.forall_mem_cons.mpr ⟨hs.right, hs.left⟩) .flawed
  case colon       => exact cut_fits (List.forall_mem_cons.mpr ⟨hs.right, hs.left⟩) .flawed
  case recordRest  => exact cut_fits hs.left <| record_fits hs.right
  case complete    => exact hs

theorem readFrom_fits (hs : st.Fits) : (readFrom st s).root.Fits := by
  fun_induction readFrom st s
  case case1 => exact finish_fits hs
  case case2 hi => exact hi hs
  case case3 => exact hs
  case case4 hi => exact hi <| step_fits hs Token.next_fits

theorem ofBytes_fits (text : ByteArray) : (ofBytes text).root.Fits :=
  readFrom_fits <| show (State.value []).Fits from nofun

end Document
end DataAccess.Json
