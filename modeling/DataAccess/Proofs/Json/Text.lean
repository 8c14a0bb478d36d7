import DataAccess.Json.Print
import DataAccess.Json.Token
/-!
The token of a string is read from the text in quotes that is written for it.
-/

namespace DataAccess.Json

variable {c : Char} {cs : List Char} {s : List UInt8}

-- The bytes of a text.
def encode (cs : List Char) : List UInt8 :=
  cs.flatMap String.utf8EncodeChar

@[simp]
theorem encode_nil : encode [] = [] := rfl

theorem encode_cons : encode (c :: cs) = String.utf8EncodeChar c ++ encode cs := rfl

theorem encode_append : encode (cs ++ ds) = encode cs ++ encode ds :=
  List.flatMap_append

theorem toList_loop (b : ByteArray) (i : Nat) (r : List UInt8) :
    ByteArray.toList.loop b i r = r.reverse ++ b.data.toList.drop i := by
  fun_induction ByteArray.toList.loop b i r
  case case1 i r h hi =>
    have hl : i < b.data.toList.length := h
    rw [hi, List.drop_eq_getElem_cons hl]
    simp [ByteArray.get!, h]
  case case2 i r h =>
    have hl : b.data.toList.length ≤ i := Nat.le_of_not_lt h
    rw [List.drop_eq_nil_of_le hl, List.append_nil]

theorem toList_toUTF8 (s : String) : s.toUTF8.toList = encode s.toList := by
  rw [ByteArray.toList, toList_loop, String.toUTF8_eq_toByteArray, ← String.utf8Encode_toList]
  exact List.toList_data_toByteArray

namespace Token

theorem utf8_reverse_encode : utf8 (encode cs).reverse = .ok (.ofList cs) := by
  have hb : ⟨(encode cs).reverse.reverse.toArray⟩ = cs.utf8Encode :=
    ByteArray.ext <| by rw [List.reverse_reverse, List.utf8Encode, List.data_toByteArray, encode]
  have hv : cs.utf8Encode.IsValidUTF8 := (String.ofList cs).isValidUTF8
  have hs : String.fromUTF8? cs.utf8Encode = some (.ofList cs) := by
    rw [String.fromUTF8?, dif_pos hv]
    rfl
  rw [utf8, hb, hs]

-- A byte that stands for itself in a string.
def IsPlain (b : UInt8) : Prop :=
  b ≠ 0x22 ∧ b ≠ 0x5C ∧ ¬b < 0x20

theorem pieces_byte (h : IsPlain b) : pieces before (b :: s) = pieces (.byte b :: before) s := by
  have ⟨hq, hs, hc⟩ := h
  rw [pieces, if_neg hs, if_neg hc]
  · exact hq
  all_goals
    intros
    contradiction

theorem pieces_bytes (h : ∀ b ∈ bs, IsPlain b) :
    pieces before (bs ++ s) = pieces ((bs.map Piece.byte).reverse ++ before) s := by
  induction bs generalizing before
  case nil => rfl
  case cons b bs hi =>
    have ⟨hb, h⟩ := List.forall_mem_cons.mp h
    rw [List.cons_append, pieces_byte hb, hi h]
    simp

theorem isPlain_ofNat (hn : n < 256) (h : n ≠ 0x22 ∧ n ≠ 0x5C ∧ 0x20 ≤ n) :
    IsPlain (.ofNat n) := by
  simp only [IsPlain, ne_eq, ← UInt8.toNat_inj, UInt8.lt_iff_toNat_lt, UInt8.toNat_ofNat',
    UInt8.toNat_ofNat]
  omega

theorem isPlain_of_mem_utf8EncodeChar (hc : c.toNat ≠ 0x22 ∧ c.toNat ≠ 0x5C ∧ 0x20 ≤ c.toNat)
    (h : b ∈ String.utf8EncodeChar c) : IsPlain b := by
  have hv : c.val.toNat = c.toNat := rfl
  simp only [String.utf8EncodeChar, hv] at h
  split at h
  case isTrue hl =>
    rw [List.mem_singleton.mp h]
    exact isPlain_ofNat (by omega) hc
  split at h
  case isTrue =>
    simp only [List.mem_cons, List.not_mem_nil, or_false] at h
    rcases h with rfl | rfl <;> exact isPlain_ofNat (by omega) (by omega)
  split at h
  case isTrue =>
    simp only [List.mem_cons, List.not_mem_nil, or_false] at h
    rcases h with rfl | rfl | rfl <;> exact isPlain_ofNat (by omega) (by omega)
  case isFalse =>
    simp only [List.mem_cons, List.not_mem_nil, or_false] at h
    rcases h with rfl | rfl | rfl | rfl <;> exact isPlain_ofNat (by omega) (by omega)

theorem pieces_escaped (hb : b ≠ 0x75) (he : escaped? b = some e) :
    pieces before (0x5C :: b :: s) = pieces (.byte e :: before) s := by
  rw [pieces, he]
  exact fun _ _ _ _ _ h => absurd h hb

theorem pieces_unit (h : hexUnit? b₁ b₂ b₃ b₄ = some n) :
    pieces before (0x5C :: 0x75 :: b₁ :: b₂ :: b₃ :: b₄ :: s) = pieces (.unit n :: before) s := by
  rw [pieces, h]

theorem bytes_append (bs : List UInt8) :
    bytes cut before (bs.map Piece.byte ++ ps) = bytes cut (bs.reverse ++ before) ps := by
  induction bs generalizing before
  case nil => rfl
  case cons b bs hi =>
    rw [List.map_cons, List.cons_append, bytes, hi]
    simp

theorem encode_hexDigits : ∀ n < 0x20,
    encode ['\\', 'u', '0', '0', hexDigit (n / 16), hexDigit n] =
      [0x5C, 0x75, 0x30, 0x30, .ofNat (hexDigit (n / 16)).toNat, .ofNat (hexDigit n).toNat] ∧
    hexUnit? 0x30 0x30 (.ofNat (hexDigit (n / 16)).toNat) (.ofNat (hexDigit n).toNat) =
      some n := by
  decide +kernel

-- Pieces are read from what is written for a text, and they make up the bytes of this text.
structure Spells (written : List Char) (ps : List Piece) (cs : List Char) : Prop where
  pieces_eq : ∀ before s, pieces before (encode written ++ s) = pieces (ps.reverse ++ before) s
  bytes_eq : ∀ cut before qs,
    bytes cut before (ps ++ qs) = bytes cut ((encode cs).reverse ++ before) qs

namespace Spells

theorem append (h : Spells w ps cs) (h' : Spells w' ps' cs') :
    Spells (w ++ w') (ps ++ ps') (cs ++ cs') where
  pieces_eq before s := by
    rw [encode_append, List.append_assoc, h.pieces_eq, h'.pieces_eq]
    simp
  bytes_eq cut before qs := by
    rw [List.append_assoc, h.bytes_eq, h'.bytes_eq, encode_append]
    simp

theorem plain (h : ∀ b ∈ encode cs, IsPlain b) : Spells cs ((encode cs).map Piece.byte) cs where
  pieces_eq _ _ := pieces_bytes h
  bytes_eq _ _ _ := bytes_append _

theorem escaped (hw : encode w = [0x5C, b]) (hc : encode cs = [e]) (hb : b ≠ 0x75)
    (he : escaped? b = some e) : Spells w [.byte e] cs where
  pieces_eq before s := by
    rw [hw]
    exact pieces_escaped hb he
  bytes_eq _ _ _ := by
    rw [hc]
    exact bytes_append [e]

-- Units below the surrogates are characters.
theorem unit (hw : encode w = [0x5C, 0x75, b₁, b₂, b₃, b₄]) (hn : n < 0xD800)
    (h : hexUnit? b₁ b₂ b₃ b₄ = some n) : Spells w [.unit n] [.ofNat n] where
  pieces_eq before s := by
    rw [hw]
    exact pieces_unit h
  bytes_eq _ _ _ := by
    have hl : ¬isLow n := by simp [isLow]; omega
    have hh : ¬isHigh n := by simp [isHigh]; omega
    rw [List.singleton_append, bytes.eq_def]
    simp only [if_neg hl, if_neg hh, encode_cons, encode_nil, List.append_nil]

theorem exists_escapeChar (c : Char) : ∃ ps, Spells (escapeChar c) ps [c] := by
  have hc {n : Nat} (h : c.toNat = n) : c = .ofNat n := by rw [← h, Char.ofNat_toNat]
  rw [escapeChar]
  split
  case isTrue h =>
    rcases h with rfl | rfl <;> exact ⟨_, escaped rfl rfl (by decide) rfl⟩
  split
  case isTrue h => exact h ▸ ⟨_, escaped rfl rfl (by decide) rfl⟩
  split
  case isTrue h => exact h ▸ ⟨_, escaped rfl rfl (by decide) rfl⟩
  split
  case isTrue h => exact h ▸ ⟨_, escaped rfl rfl (by decide) rfl⟩
  split
  case isTrue h => exact hc h ▸ ⟨_, escaped rfl rfl (by decide) rfl⟩
  split
  case isTrue h => exact hc h ▸ ⟨_, escaped rfl rfl (by decide) rfl⟩
  split
  case isTrue h =>
    have ⟨hw, hu⟩ := encode_hexDigits c.toNat h
    have hs := unit hw (by omega) hu
    rw [Char.ofNat_toNat] at hs
    exact ⟨_, hs⟩
  case isFalse hq _ _ _ _ _ h =>
    have hp : c.toNat ≠ 0x22 ∧ c.toNat ≠ 0x5C ∧ 0x20 ≤ c.toNat :=
      ⟨fun h => hq <| .inl <| hc h, fun h => hq <| .inr <| hc h, Nat.le_of_not_lt h⟩
    exact ⟨_, plain fun b hb => isPlain_of_mem_utf8EncodeChar hp (by simpa [encode] using hb)⟩

theorem exists_escape (cs : List Char) : ∃ ps, Spells (cs.flatMap escapeChar) ps cs := by
  induction cs
  case nil => exact ⟨[], fun _ _ => rfl, fun _ _ _ => rfl⟩
  case cons c cs hi =>
    have ⟨_, hc⟩ := exists_escapeChar c
    have ⟨_, hs⟩ := hi
    exact ⟨_, hc.append hs⟩

end Spells

-- The quote in front has been read.
theorem quoted_eq (cs : List Char) :
    quoted (encode (cs.flatMap escapeChar) ++ 0x22 :: s) = (text (.ok (.ofList cs)), s) := by
  have ⟨ps, h⟩ := Spells.exists_escape cs
  have hp : pieces [] (encode (cs.flatMap escapeChar) ++ 0x22 :: s) = (ps, .ok s) := by
    rw [h.pieces_eq, pieces]
    simp
  have hb : bytes .unexpected [] ps = .ok (encode cs).reverse := by
    simpa [bytes] using h.bytes_eq .unexpected [] []
  simp only [quoted, hp, hb]
  rw [show (Except.ok (encode cs).reverse >>= utf8) = utf8 (encode cs).reverse from rfl,
    utf8_reverse_encode]

-- A token is read from what is written for it, in front of a text that follows.
def Reads (written : String) (t : Token) (s : List UInt8) : Prop :=
  ∃ b bs, encode written.toList = b :: bs ∧ ¬isSpace b ∧ next b (bs ++ s) = (t, s)

theorem renderText_reads (t : String) : Reads (renderText t) (text (.ok t)) s := by
  refine ⟨0x22, encode (t.toList.flatMap escapeChar) ++ [0x22], ?_, by decide, ?_⟩
  · rw [renderText, String.toList_ofList, encode_append, encode_cons]
    rfl
  · calc next 0x22 (encode (t.toList.flatMap escapeChar) ++ [0x22] ++ s)
      _ = quoted (encode (t.toList.flatMap escapeChar) ++ 0x22 :: s) := by
        rw [List.append_assoc]
        rfl
      _ = (text (.ok t), s) := by rw [quoted_eq, String.ofList_toList]

end Token
end DataAccess.Json
