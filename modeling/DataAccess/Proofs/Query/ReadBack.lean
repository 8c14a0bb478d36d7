import DataAccess.Proofs.Query.TwoPasses
/-!
Text with named placeholders can be read back: what is escaped in it are the colons of the original
text, and what is named are its placeholders.
-/

namespace DataAccess.Sql

-- What a text is made of: colons, placeholders with their digits, and all other characters.
inductive Piece
  | colon
  | placeholder (digits : List Char)
  | other (c : Char)

namespace Piece

def plain : Piece → List Char
  | colon => [':']
  | placeholder digits => '$' :: digits
  | other c => [c]

def named : Piece → List Char
  | colon => ['\\', '\\', ':']
  | placeholder digits => ':' :: 'p' :: digits
  | other c => [c]

end Piece

-- Reads a text with named placeholders from the left. A name without digits is none.
def readNamed : List Char → List Piece
  | [] => []
  | '\\' :: '\\' :: ':' :: s => .colon :: readNamed s
  | ':' :: 'p' :: s =>
    if s.takeWhile Char.isDigit = [] then .other ':' :: readNamed ('p' :: s)
    else .placeholder (s.takeWhile Char.isDigit) :: readNamed (s.dropWhile Char.isDigit)
  | c :: s => .other c :: readNamed s
termination_by s => s.length
decreasing_by
  · simp
    omega
  · simp
  · have := (List.dropWhile_sublist Char.isDigit (l := s)).length_le
    simp
    omega
  · simp

-- The text with positional placeholders for which a text with named ones stands.
def fromNamed (sql : String) : String :=
  .ofList ((readNamed sql.toList).flatMap Piece.plain)

-- A text, from a place in it, is cut into all of its colons, all placeholders that are to be named,
-- and the characters in between.
inductive Cuts (positional : Bool) : List Char → List Char → List Piece → Prop
  | nil : Cuts positional before [] []
  | colon : Cuts positional (before ++ [':']) s ps →
    Cuts positional before (':' :: s) (.colon :: ps)
  | placeholder : positional → Placeholder before digits s →
    Cuts positional (before ++ '$' :: digits) s ps →
    Cuts positional before ('$' :: (digits ++ s)) (.placeholder digits :: ps)
  | other : c ≠ ':' → ¬(c = '$' ∧ positional ∧ Opens before s) →
    Cuts positional (before ++ [c]) s ps →
    Cuts positional before (c :: s) (.other c :: ps)

variable {s t digits before : List Char} {positional : Bool} {ps : List Piece}

-- No placeholder of a text, from a place in it, follows two backslashes.
def Unslashed (before s : List Char) : Prop :=
  ∀ front digits after, s = front ++ '$' :: (digits ++ after) →
    Placeholder (before ++ front) digits after → ¬['\\', '\\'] <:+ before ++ front

theorem Unslashed.append (h : Unslashed before (t ++ s)) : Unslashed (before ++ t) s := by
  intro front digits after hs hp
  rw [List.append_assoc] at hp ⊢
  exact h (t ++ front) digits after (by rw [hs, List.append_assoc]) hp

theorem unslashed_of_not_infix (h : ¬['\\', '\\', '$'] <:+: before ++ s) : Unslashed before s := by
  intro front digits after hs _ ⟨start, hb⟩
  refine h ⟨start, digits ++ after, ?_⟩
  rw [hs, ← List.append_assoc before, ← hb]
  simp

theorem readNamed_colon : readNamed ('\\' :: '\\' :: ':' :: s) = .colon :: readNamed s := by
  rw [readNamed]

theorem readNamed_placeholder (hn : digits ≠ []) (hd : ∀ c ∈ digits, c.isDigit)
    (hs : ¬s.head?.any Char.isDigit) :
    readNamed (':' :: 'p' :: (digits ++ s)) = .placeholder digits :: readNamed s := by
  have ht : s.takeWhile Char.isDigit = [] := by cases s <;> simp_all
  have hw : s.dropWhile Char.isDigit = s := by cases s <;> simp_all
  rw [readNamed, List.takeWhile_append_of_pos hd, List.dropWhile_append_of_pos hd, ht, hw,
    List.append_nil, if_neg hn]

theorem readNamed_other (hc : c ≠ ':') (hs : c = '\\' → ∀ t, s ≠ '\\' :: ':' :: t) :
    readNamed (c :: s) = .other c :: readNamed s := by
  rw [readNamed]
  · exact fun t he ht => hs he t ht
  · exact fun t he => absurd he hc

namespace Cuts

-- The next piece is decided by the text before it and after it.
theorem exists_cuts (positional : Bool) (before s : List Char) :
    ∃ ps, Cuts positional before s ps := by
  cases s
  case nil => exact ⟨_, .nil⟩
  case cons c s =>
    by_cases hc : c = ':'
    case pos =>
      have ⟨_, h⟩ := exists_cuts positional (before ++ [':']) s
      exact ⟨_, hc ▸ h.colon⟩
    case neg =>
      by_cases ho : c = '$' ∧ positional ∧ Opens before s
      case pos =>
        obtain ⟨rfl, hp, digits, after, rfl, hw⟩ := ho
        have ⟨_, h⟩ := exists_cuts positional (before ++ '$' :: digits) after
        exact ⟨_, h.placeholder hp hw⟩
      case neg =>
        have ⟨_, h⟩ := exists_cuts positional (before ++ [c]) s
        exact ⟨_, h.other hc ho⟩
termination_by s.length

theorem plain_eq (h : Cuts positional before s ps) : ps.flatMap Piece.plain = s := by
  induction h
  case nil => rfl
  all_goals
    rw [List.flatMap_cons, ‹List.flatMap _ _ = _›]
    rfl

theorem named_eq (h : Cuts positional before s ps) :
    ps.flatMap Piece.named = toNamedAfter positional before.getLast? s := by
  induction h
  case nil => rw [toNamedAfter]; rfl
  case colon hi =>
    rw [List.flatMap_cons, hi, List.getLast?_concat, toNamedAfter_colon]
    rfl
  case placeholder hp hw _ hi =>
    obtain ⟨hb, hs⟩ := placeholder_iff.mp ⟨rfl, hw⟩
    rw [List.flatMap_cons, hi, toNamedAfter_placeholder hp hb hs, hw.getLast?_eq]
    rfl
  case other hc ho _ hi =>
    have hs := fun hd hp hb => by
      simpa using mt (fun hs => ⟨hd, hp, opens_iff.mpr ⟨hb, hs⟩⟩) ho
    rw [List.flatMap_cons, hi, List.getLast?_concat, toNamedAfter_copy hc hs]
    rfl

-- After digits comes what is no digit.
theorem head?_named (h : Cuts positional before s ps) (hs : ¬s.head?.any Text.isWord) :
    ¬(ps.flatMap Piece.named).head?.any Char.isDigit := by
  cases h
  case nil => simp
  case colon => simp [Piece.named]
  case placeholder => simp [Piece.named]
  case other c _ s _ _ _ =>
    exact fun hd => hs (Text.isWord_of_isDigit hd)

-- After a backslash comes no backslash and a colon that is not escaped.
theorem named_ne (h : Cuts positional (before ++ ['\\']) s ps)
    (hu : positional → Unslashed (before ++ ['\\']) s) :
    ps.flatMap Piece.named ≠ '\\' :: ':' :: t := by
  intro ht
  cases h
  case nil => contradiction
  case colon => simp [Piece.named] at ht
  case placeholder => simp [Piece.named] at ht
  case other ho h =>
    injection ht with hc ht
    subst hc
    clear ho
    cases h
    case nil => contradiction
    case colon => simp [Piece.named] at ht
    case placeholder hp hw _ => exact hu hp ['\\'] _ _ rfl hw ⟨before, by simp⟩
    case other hc _ _ =>
      injection ht with ht
      exact hc ht

theorem readNamed_eq (h : Cuts positional before s ps) (hu : positional → Unslashed before s) :
    readNamed (ps.flatMap Piece.named) = ps := by
  induction h
  case nil => rw [List.flatMap_nil, readNamed]
  case colon hi =>
    rw [List.flatMap_cons]
    simp only [Piece.named, List.cons_append, List.nil_append]
    rw [readNamed_colon, hi fun hp => (hu hp).append]
  case placeholder before digits s _ hp hw h hi =>
    have hu' : Unslashed (before ++ '$' :: digits) s := (hu hp).append
    rw [List.flatMap_cons]
    simp only [Piece.named, List.cons_append]
    rw [readNamed_placeholder hw.some hw.digits (h.head?_named hw.after), hi fun _ => hu']
  case other c before s _ hc ho h hi =>
    have hu' hp : Unslashed (before ++ [c]) s := (hu hp).append
    rw [List.flatMap_cons]
    simp only [Piece.named, List.cons_append, List.nil_append]
    rw [readNamed_other hc, hi hu']
    intro hb _
    subst hb
    exact h.named_ne hu'

end Cuts

-- What is read off the text with names are the pieces of the original text, so that nothing else
-- makes a difference.
theorem fromNamed_toNamed (e : Engine) (sql : String)
    (h : e = .postgresql → Unslashed [] sql.toList) :
    fromNamed (toNamed e sql) = sql ∧
      Cuts e.isPositional [] sql.toList (readNamed (toNamed e sql).toList) := by
  have ⟨ps, hc⟩ := Cuts.exists_cuts e.isPositional [] sql.toList
  have hn : (toNamed e sql).toList = ps.flatMap Piece.named := by
    rw [toNamed, String.toList_ofList, toNamedChars, hc.named_eq, List.getLast?_nil]
  have hu : e.isPositional → Unslashed [] sql.toList := by
    simpa [Engine.isPositional] using h
  have hr : readNamed (toNamed e sql).toList = ps := by rw [hn, hc.readNamed_eq hu]
  refine ⟨?_, hr ▸ hc⟩
  rw [fromNamed, hr, hc.plain_eq, String.ofList_toList]

-- The text has an escape and a name of its own, and a placeholder after a backslash.
theorem fromNamed_toNamed_escaped :
    Unslashed [] "SELECT '\\\\:p1', \\$1::int, $2".toList ∧
      fromNamed (toNamed .postgresql "SELECT '\\\\:p1', \\$1::int, $2") =
        "SELECT '\\\\:p1', \\$1::int, $2" := by
  have hu : Unslashed [] "SELECT '\\\\:p1', \\$1::int, $2".toList :=
    unslashed_of_not_infix (by decide +kernel)
  exact ⟨hu, fromNamed_toNamed .postgresql _ (fun _ => hu) |>.left⟩

-- After two backslashes, a name looks like a colon that is escaped.
example : fromNamed (toNamed .postgresql "\\\\$1") = ":p1" := by
  cbv

end DataAccess.Sql
