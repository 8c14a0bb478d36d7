import DataAccess.Proofs.Json.Text
/-!
The token of a whole number is read from its decimal digits.
-/

namespace DataAccess.Json

-- A whole number has 64 bits, signed or unsigned.
def Number.Fits : Number → Prop
  | whole n => Int64.minValue.toInt ≤ n ∧ n < UInt64.size
  | real _ => True

def Number.IsWhole : Number → Prop
  | whole _ => True
  | real _ => False

-- What is printed for a number is read as this number.
def Number.Exact (n : Number) : Prop :=
  n.IsWhole ∧ n.Fits

namespace Numeral

theorem le_ofDigitChars : n ≤ Nat.ofDigitChars 10 cs n := by
  rw [Nat.ofDigitChars_eq_ofDigitChars_zero]
  have := Nat.le_mul_of_pos_left n (Nat.pow_pos (n := cs.length) (show 0 < 10 by decide))
  omega

theorem accumulate_eq (h : Nat.ofDigitChars 10 cs n ≤ b) :
    accumulate b n (cs.map (·.toNat - '0'.toNat)) = (Nat.ofDigitChars 10 cs n, []) := by
  induction cs generalizing n
  case nil => rfl
  case cons c cs hi =>
    rw [Nat.ofDigitChars_cons, Nat.mul_comm] at h ⊢
    have hb : n * 10 + (c.toNat - '0'.toNat) ≤ b := Nat.le_trans le_ofDigitChars h
    rw [List.map_cons, accumulate, if_pos hb, hi h]

-- The decimal digits of a number.
def decimal (n : Nat) : List Nat :=
  (Nat.toDigits 10 n).map (·.toNat - '0'.toNat)

theorem accumulate_decimal (h : n ≤ b) : accumulate b 0 (decimal n) = (n, []) := by
  rw [decimal, accumulate_eq, Nat.ofDigitChars_ten_toDigits]
  rwa [Nat.ofDigitChars_ten_toDigits]

theorem value_decimal (h : n < UInt64.size) :
    value ⟨false, decimal n, none, none⟩ = some (.whole n) := by
  simp [value, accumulate_decimal (show n ≤ maxWhole from Nat.le_pred_of_lt h)]

theorem value_decimal_neg (hp : 0 < n) (h : n ≤ Nat.pow 2 63) :
    value ⟨true, decimal n, none, none⟩ = some (.whole (-n)) := by
  have hm : n ≤ maxWhole := Nat.le_trans h (by decide)
  have hn : 0 < n ∧ n ≤ Nat.pow 2 63 := ⟨hp, h⟩
  simp [value, accumulate_decimal hm, hn]

-- What a numeral is read as fits in any case.
theorem value_fits {n : Numeral} (h : n.value = some x) : x.Fits := by
  have hr : n.magnitude.map (Number.real <| signed n.negative ·) = some x → x.Fits := by
    intro h
    have ⟨_, _, hx⟩ := Option.map_eq_some_iff.mp h
    exact hx ▸ trivial
  have hm : (accumulate maxWhole 0 n.whole).1 < UInt64.size :=
    Nat.lt_of_le_of_lt (accumulate_le (Nat.zero_le _)) (by decide)
  have hl : Int64.minValue.toInt = -(Nat.pow 2 63 : Nat) := rfl
  simp only [value] at h
  split at h
  case isTrue => exact hr h
  split at h
  case h_1 => exact hr h
  case h_2 m he =>
    rw [he] at hm
    split at h
    case isFalse =>
      cases h
      exact ⟨by omega, Int.ofNat_lt.mpr hm⟩
    split at h
    case isFalse => exact hr h
    case isTrue hp =>
      cases h
      have := hp.right
      exact ⟨by omega, by omega⟩

end Numeral

namespace Token

theorem digitChar_ne_zero : ∀ n < 10, 0 < n → n.digitChar ≠ '0' := by
  decide

-- The digits of a positive number do not start with a zero.
theorem exists_toDigits_eq_cons (hn : 0 < n) : ∃ c cs, Nat.toDigits 10 n = c :: cs ∧ c ≠ '0' := by
  induction n using Nat.strongRecOn
  case ind n hi =>
    by_cases hb : n < 10
    case pos => exact ⟨n.digitChar, [], Nat.toDigits_of_lt_base hb, digitChar_ne_zero n hb hn⟩
    case neg =>
      have ⟨c, cs, h, hc⟩ := hi (n / 10) (by omega) (by omega)
      refine ⟨c, cs ++ [(n % 10).digitChar], ?_, hc⟩
      rw [Nat.toDigits_of_base_le (by decide) (Nat.le_of_not_lt hb), h, List.cons_append]

-- Nothing that continues a numeral follows.
def Ends (s : List UInt8) : Prop :=
  ∀ b ∈ s.head?, ¬isDigit b ∧ b ≠ 0x2E ∧ b ≠ 0x65 ∧ b ≠ 0x45

-- A digit is a byte.
theorem exists_encode_cons (h : c.isDigit) : ∃ b, (∀ cs, encode (c :: cs) = b :: encode cs) ∧
    isDigit b ∧ digit b = c.toNat - '0'.toNat ∧ (b = 0x30 → c = '0') := by
  have hd : ∀ n < 58, 48 ≤ n → String.utf8EncodeChar (.ofNat n) = [.ofNat n] ∧
      isDigit (.ofNat n) ∧ digit (.ofNat n) = n - '0'.toNat ∧
      (UInt8.ofNat n = 0x30 → Char.ofNat n = '0') := by decide
  have hn : 48 ≤ c.toNat ∧ c.toNat < 58 := by
    simp only [Char.isDigit, Bool.and_eq_true, decide_eq_true_eq, ge_iff_le,
      UInt32.le_iff_toNat_le] at h
    exact ⟨h.left, Nat.lt_succ_of_le h.right⟩
  have ⟨he, hb⟩ := hd c.toNat hn.right hn.left
  rw [Char.ofNat_toNat] at he hb
  exact ⟨_, fun cs => by rw [encode_cons, he, List.singleton_append], hb⟩

theorem digits_encode (hc : ∀ c ∈ cs, c.isDigit) (hs : Ends s) :
    digits (encode cs ++ s) = (cs.map (·.toNat - '0'.toNat), s) := by
  induction cs
  case nil =>
    cases s
    case nil => rfl
    case cons b s =>
      have hb := (hs b rfl).left
      simp [digits, hb]
  case cons c cs hi =>
    obtain ⟨hc, hcs⟩ := List.forall_mem_cons.mp hc
    obtain ⟨b, he, hb, hd, _⟩ := exists_encode_cons hc
    have hi := hi hcs
    simp only [digits, Prod.mk.injEq] at hi
    simp [digits, he, hb, hd, hi]

theorem someDigits_encode (hn : cs ≠ []) (hc : ∀ c ∈ cs, c.isDigit) (hs : Ends s) :
    someDigits (encode cs ++ s) = .ok (cs.map (·.toNat - '0'.toNat), s) := by
  have hd := digits_encode hc hs
  cases cs
  case nil => contradiction
  case cons c cs =>
    have ⟨b, he, hb, _⟩ := exists_encode_cons (hc c (.head _))
    rw [he] at hd ⊢
    exact (if_pos hb).trans (congrArg _ hd)

theorem wholePart_encode (hs : Ends s) :
    wholePart (encode (Nat.toDigits 10 n) ++ s) = .ok (Numeral.decimal n, s) := by
  have hd : ∀ c ∈ Nat.toDigits 10 n, c.isDigit :=
    fun _ => Nat.isDigit_of_mem_toDigits (by decide) (by decide)
  have hp : someDigits (encode (Nat.toDigits 10 n) ++ s) = .ok (Numeral.decimal n, s) :=
    someDigits_encode Nat.toDigits_ne_nil hd hs
  cases n
  case zero =>
    cases s
    case nil => exact hp
    case cons b s => exact if_neg (hs b rfl).left
  case succ n =>
    have ⟨c, cs, h, hz⟩ := exists_toDigits_eq_cons n.succ_pos
    rw [h] at hp hd ⊢
    have ⟨b, he, _, _, hb⟩ := exists_encode_cons (hd c (.head _))
    rw [he] at hp ⊢
    rw [← hp, List.cons_append, wholePart]
    · exact nofun
    · rintro _ _ h
      injection h with h
      exact hz (hb h)

theorem fraction_eq (h : Ends s) : fraction s = .ok (none, s) := by
  rw [fraction]
  rintro s rfl
  exact (h _ rfl).right.left rfl

theorem exponent_eq (h : Ends s) : exponent s = .ok (none, s) := by
  cases s
  case nil => rfl
  case cons b s =>
    have ⟨_, _, he, hE⟩ := h b rfl
    exact if_neg (not_or.mpr ⟨he, hE⟩)

theorem numeral_encode (hs : Ends s)
    (hv : Numeral.value ⟨negative, Numeral.decimal n, none, none⟩ = some x) :
    numeral negative (encode (Nat.toDigits 10 n) ++ s) = (number (.ok x), s) := by
  simp only [numeral, wholePart_encode hs, fraction_eq hs, exponent_eq hs, hv]

theorem isDigit_ne (h : isDigit b) (hk : ¬isDigit k) : b ≠ k :=
  fun hb => hk (hb ▸ h)

theorem not_isSpace_of_isDigit (h : isDigit b) : ¬isSpace b := by
  simp (disch := decide) [isSpace, isDigit_ne h]

theorem next_digit (h : isDigit b) : next b s = numeral false (b :: s) := by
  have hb {k : UInt8} (hk : ¬isDigit k) : (b == k) = false :=
    beq_eq_false_iff_ne.mpr (isDigit_ne h hk)
  simp (disch := decide) only [next, mark?, word?, List.lookup_cons, List.lookup_nil, hb,
    if_neg (isDigit_ne h _), if_pos h]

theorem whole_reads {n : Int} (h : (Number.whole n).Fits) (hs : Ends s) :
    Reads (toString n) (number (.ok (.whole n))) s := by
  cases n
  case ofNat n =>
    have hu : n < UInt64.size := Int.ofNat_lt.mp h.right
    have hn := numeral_encode hs (Numeral.value_decimal hu)
    have ⟨c, cs, hd⟩ := List.exists_cons_of_ne_nil (Nat.toDigits_ne_nil (n := n) (b := 10))
    have hc : c.isDigit :=
      Nat.isDigit_of_mem_toDigits (n := n) (b := 10) (by decide) (by decide) (hd ▸ .head _)
    have ⟨b, he, hb, _⟩ := exists_encode_cons hc
    rw [hd, he] at hn
    refine ⟨b, encode cs, ?_, not_isSpace_of_isDigit hb, (next_digit hb).trans hn⟩
    rw [show toString (Int.ofNat n) = n.repr from rfl, Nat.toList_repr, hd, he]
  case negSucc n =>
    have hl : -(Nat.pow 2 63 : Nat) ≤ Int.negSucc n := h.left
    have hn := numeral_encode hs (Numeral.value_decimal_neg n.succ_pos (by omega))
    refine ⟨0x2D, encode (Nat.toDigits 10 n.succ), ?_, by decide, hn⟩
    rw [show toString (Int.negSucc n) = "-" ++ n.succ.repr from rfl, String.toList_append,
      encode_append, Nat.toList_repr]
    rfl

end Token
end DataAccess.Json
