import DataAccess.Proofs.Query.Placeholder
/-!
Naming of placeholders in two passes over a text: the first escapes colons, the second names the
placeholders of what the first has left. One pass over the text does the same.
-/

namespace DataAccess.Sql

variable {s t digits rest before after : List Char} {positional : Bool} {prev : Option Char}

-- After a dollar sign, digits make a placeholder between these parts of a text: no word touches it
-- on either side. So there are no more digits that could be part of it.
structure Placeholder (before digits after : List Char) : Prop where
  some : digits ≠ []
  digits : ∀ c ∈ digits, c.isDigit
  before : ¬before.getLast?.any Text.isWord
  after : ¬after.head?.any Text.isWord

-- A dollar sign between these parts of a text is that of a placeholder.
def Opens (before s : List Char) : Prop :=
  ∃ digits after, s = digits ++ after ∧ Placeholder before digits after

theorem placeholder_iff : s = digits ++ rest ∧ Placeholder before digits rest ↔
    ¬before.getLast?.any Text.isWord ∧ placeholder? s = some (digits, rest) := by
  rw [placeholder?_eq_some_iff]
  constructor
  case mp  => exact fun ⟨hs, h⟩ => ⟨h.before, hs, h.some, h.digits, h.after⟩
  case mpr => exact fun ⟨hb, hs, hn, hd, hr⟩ => ⟨hs, hn, hd, hb, hr⟩

theorem opens_iff :
    Opens before s ↔ ¬before.getLast?.any Text.isWord ∧ (placeholder? s).isSome := by
  simp only [Opens, placeholder_iff, Option.isSome_iff_exists, Prod.exists, exists_and_left]

theorem Placeholder.getLast?_eq (h : Placeholder before digits after) :
    (before ++ '$' :: digits).getLast? = digits.getLast? := by
  have ⟨d, hd⟩ := Option.ne_none_iff_exists'.mp (mt List.getLast?_eq_none_iff.mp h.some)
  simp [List.getLast?_append, List.getLast?_cons, hd]

instance : Decidable (Opens before s) :=
  decidable_of_iff _ opens_iff.symm

-- The first pass: two backslashes in front of every colon.
def escapeColons (s : List Char) : List Char :=
  s.flatMap fun c => if c = ':' then ['\\', '\\', ':'] else [c]

-- The second pass, from a place in a text: the dollar sign of every placeholder becomes `:p`. The
-- digits are kept, and so is everything else.
def nameFrom (before : List Char) : List Char → List Char
  | [] => []
  | c :: s =>
    (if c = '$' ∧ Opens before s then [':', 'p'] else [c]) ++ nameFrom (before ++ [c]) s

def namePlaceholders (s : List Char) : List Char :=
  nameFrom [] s

@[simp]
theorem escapeColons_nil : escapeColons [] = [] := rfl

theorem escapeColons_colon : escapeColons (':' :: s) = ['\\', '\\', ':'] ++ escapeColons s := rfl

theorem escapeColons_cons (h : c ≠ ':') : escapeColons (c :: s) = c :: escapeColons s := by
  simp [escapeColons, h]

theorem escapeColons_append : escapeColons (s ++ t) = escapeColons s ++ escapeColons t :=
  List.flatMap_append

theorem escapeColons_digits (h : ∀ c ∈ digits, c.isDigit) : escapeColons digits = digits := by
  induction digits
  case nil => rfl
  case cons c digits hi =>
    have ⟨hc, h⟩ := List.forall_mem_cons.mp h
    rw [escapeColons_cons (fun he => by simp [he] at hc), hi h]

-- What starts the text is a character of a word before the colons are escaped if it is one after.
theorem any_isWord_escapeColons :
    (escapeColons s).head?.any Text.isWord = s.head?.any Text.isWord := by
  cases s
  case nil => rfl
  case cons c s =>
    by_cases hc : c = ':'
    case pos => rw [hc]; rfl
    case neg => rw [escapeColons_cons hc]; rfl

theorem takeWhile_dropWhile_escapeColons :
    (escapeColons s).takeWhile Char.isDigit = s.takeWhile Char.isDigit ∧
      (escapeColons s).dropWhile Char.isDigit = escapeColons (s.dropWhile Char.isDigit) := by
  induction s
  case nil => exact ⟨rfl, rfl⟩
  case cons c s hi =>
    by_cases hd : c.isDigit
    case pos =>
      have hc : c ≠ ':' := fun hc => by simp [hc] at hd
      simp [escapeColons_cons hc, hd, hi]
    case neg =>
      by_cases hc : c = ':'
      case pos => rw [hc]; exact ⟨rfl, rfl⟩
      case neg => simp [escapeColons_cons hc, hd]

-- Neither digits nor what may follow them are escaped, so the same placeholders are found.
theorem placeholder?_escapeColons : placeholder? (escapeColons s) =
    (placeholder? s).map fun (digits, rest) => (digits, escapeColons rest) := by
  have ⟨ht, hd⟩ := takeWhile_dropWhile_escapeColons (s := s)
  simp only [placeholder?, ht, hd, any_isWord_escapeColons]
  split <;> rfl

theorem opens_escapeColons : Opens before (escapeColons s) ↔ Opens before s := by
  rw [opens_iff, opens_iff, placeholder?_escapeColons, Option.isSome_map]

theorem nameFrom_opens (h : Opens before s) :
    nameFrom before ('$' :: s) = [':', 'p'] ++ nameFrom (before ++ ['$']) s := by
  rw [nameFrom, if_pos ⟨rfl, h⟩]

theorem nameFrom_copy (h : ¬(c = '$' ∧ Opens before s)) :
    nameFrom before (c :: s) = c :: nameFrom (before ++ [c]) s := by
  rw [nameFrom, if_neg h]
  rfl

theorem nameFrom_append (h : '$' ∉ t) :
    nameFrom before (t ++ s) = t ++ nameFrom (before ++ t) s := by
  induction t generalizing before
  case nil => simp
  case cons c t hi =>
    rw [List.mem_cons, not_or] at h
    rw [List.cons_append, nameFrom_copy fun hc => h.left hc.left.symm, hi h.right, List.append_assoc]
    rfl

-- The digits of a placeholder are kept as they are.
theorem nameFrom_placeholder (h : Placeholder before digits after) :
    nameFrom before ('$' :: (digits ++ after)) =
      [':', 'p'] ++ digits ++ nameFrom (before ++ '$' :: digits) after := by
  have hd : '$' ∉ digits := fun hd => absurd (h.digits _ hd) (by decide)
  rw [nameFrom_opens ⟨digits, after, rfl, h⟩, nameFrom_append hd]
  simp

-- Of the text before, only the last character counts.
theorem toNamedAfter_eq_nameFrom (hp : positional) (hb : prev = before.getLast?) :
    toNamedAfter positional prev s = nameFrom before (escapeColons s) := by
  fun_induction toNamedAfter positional prev s generalizing before
  case case1 => rfl
  case case2 hi =>
    have hl : some ':' = (before ++ ['\\', '\\', ':']).getLast? := by simp
    rw [escapeColons_colon, nameFrom_append (by decide), hi hl, colonEscape]
  case case3 c s hc hd digits rest hs hi =>
    obtain ⟨rfl, _, hw⟩ := hd
    obtain ⟨hs, h⟩ := placeholder_iff.mpr ⟨hb ▸ hw, hs⟩
    have he : Placeholder before digits (escapeColons rest) :=
      ⟨h.some, h.digits, h.before, by rw [any_isWord_escapeColons]; exact h.after⟩
    rw [escapeColons_cons hc, hs, escapeColons_append, escapeColons_digits h.digits,
      nameFrom_placeholder he, hi h.getLast?_eq.symm]
  case case4 c s hc hd hs hi =>
    have ho : ¬Opens before (escapeColons s) := by
      rw [opens_escapeColons, opens_iff, hs]
      simp
    rw [escapeColons_cons hc, nameFrom_copy fun h => ho h.right, hi List.getLast?_concat.symm]
  case case5 c s hc hd hi =>
    have ho : ¬(c = '$' ∧ Opens before (escapeColons s)) := by
      rw [opens_escapeColons, opens_iff, ← hb]
      rintro ⟨hc, hw, _⟩
      exact hd ⟨hc, hp, hw⟩
    rw [escapeColons_cons hc, nameFrom_copy ho, hi List.getLast?_concat.symm]

theorem toNamedAfter_eq_escapeColons (hp : ¬positional) :
    toNamedAfter positional prev s = escapeColons s := by
  induction s generalizing prev
  case nil => rw [toNamedAfter, escapeColons_nil]
  case cons c s hi =>
    by_cases hc : c = ':'
    case pos => rw [hc, toNamedAfter_colon, hi]; rfl
    case neg => rw [toNamedAfter_copy hc fun _ h => absurd h hp, hi, escapeColons_cons hc]

theorem toNamed_eq_passes (e : Engine) (sql : String) : toNamed e sql =
    .ofList (if e = .postgresql then namePlaceholders (escapeColons sql.toList)
      else escapeColons sql.toList) := by
  rw [toNamed, toNamedChars]
  by_cases he : e = .postgresql
  case pos =>
    have hp : e.isPositional := by simpa [Engine.isPositional] using he
    rw [if_pos he, namePlaceholders, ← toNamedAfter_eq_nameFrom hp List.getLast?_nil.symm]
  case neg =>
    have hp : ¬e.isPositional := by simpa [Engine.isPositional] using he
    rw [if_neg he, toNamedAfter_eq_escapeColons hp]

end DataAccess.Sql
