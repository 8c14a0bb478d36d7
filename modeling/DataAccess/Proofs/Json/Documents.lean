import DataAccess.Proofs.Json.Numerals
import DataAccess.Proofs.Json.Values
/-!
The tree of a value's compact text is the value's own, if its numbers are whole.
-/

namespace DataAccess.Json

theorem compactItems_eq : ∀ vs : List Json, compactItems vs = vs.map compact
  | [] => rfl
  | v :: vs => congrArg (compact v :: ·) (compactItems_eq vs)

def compactMember (m : String × Json) : String :=
  renderText m.fst ++ ":" ++ compact m.snd

theorem compactMembers_eq : ∀ ms : List (String × Json), compactMembers ms = ms.map compactMember
  | [] => rfl
  | (n, v) :: ms => congrArg (compactMember (n, v) :: ·) (compactMembers_eq ms)

theorem encode_string_append {w w' : String} :
    encode (w ++ w').toList = encode w.toList ++ encode w'.toList := by
  rw [String.toList_append, encode_append]

namespace Token

theorem null_reads : Reads "null" .null s :=
  ⟨0x6E, [0x75, 0x6C, 0x6C], rfl, by decide, rfl⟩

theorem bool_reads (b : Bool) : Reads (if b then "true" else "false") (.bool b) s :=
  match b with
  | true => ⟨0x74, [0x72, 0x75, 0x65], rfl, by decide, rfl⟩
  | false => ⟨0x66, [0x61, 0x6C, 0x73, 0x65], rfl, by decide, rfl⟩

end Token

namespace Document

-- A value has to come next.
inductive Awaits : State → List Frame → Prop
  | value : Awaits (.value within) within
  | listStart : Awaits (.listStart within) (.item [] :: within)

-- A name has to come next.
inductive AwaitsName : State → List Frame → List (Except Malformed String × Node) → Prop
  | recordStart : AwaitsName (.recordStart within) within []
  | key : AwaitsName (.key within members) within members

variable {within : List Frame} {st : State} {s : List UInt8} {w : String}

def State.IsOpen : State → Prop
  | complete _ => False
  | _ => True

theorem readFrom_token (hs : st.IsOpen) (h : Token.Reads w t s) :
    readFrom st (encode w.toList ++ s) = readFrom (step st t) s := by
  have ⟨b, bs, he, hb, hn⟩ := h
  rw [he, List.cons_append, readFrom, if_neg hb]
  · simp only [hn]
  · rintro d rfl
    exact hs

theorem readFrom_mark (hs : st.IsOpen) (hw : encode w.toList = [b]) (hb : ¬Token.isSpace b)
    (ht : Token.mark? b = some t) (hn : step st t = st') :
    readFrom st (encode w.toList ++ s) = readFrom st' s :=
  hn ▸ readFrom_token hs ⟨b, [], hw, hb, by rw [Token.next, ht]; rfl⟩

theorem Awaits.isOpen (h : Awaits st within) : st.IsOpen := by
  cases h <;> trivial

theorem Awaits.step_eq (h : Awaits st within) (ht : t ≠ .closeList) :
    step st t = start within t := by
  cases h
  case value => rfl
  case listStart =>
    cases t
    case closeList => contradiction
    all_goals rfl

theorem Awaits.readFrom_token (h : Awaits st within) (hr : Token.Reads w t s)
    (ht : t ≠ .closeList) :
    readFrom st (encode w.toList ++ s) = readFrom (start within t) s := by
  rw [Document.readFrom_token h.isOpen hr, h.step_eq ht]

theorem AwaitsName.readFrom_name (h : AwaitsName st within members) (n : String) :
    readFrom st (encode (renderText n).toList ++ s) =
      readFrom (.colon within members (.ok n)) s := by
  have hs : st.IsOpen := by cases h <;> trivial
  rw [readFrom_token hs (Token.renderText_reads n)]
  cases h <;> rfl

-- A value is read as a whole from what is written for it.
def IsRead (v : Json) : Prop :=
  ∀ ⦃st within s⦄, Awaits st within → Token.Ends s →
    readFrom st (encode v.compact.toList ++ s) = readFrom (fill within (.ofJson v)) s

theorem ends_cons (h : ¬Token.isDigit b ∧ b ≠ 0x2E ∧ b ≠ 0x65 ∧ b ≠ 0x45) :
    Token.Ends (b :: s) := by
  intro b' hb
  cases hb
  exact h

-- Parts are read one after the other, with commas between them. What has to come next is a part,
-- before the first one as well as after each comma.
theorem readFrom_parts (AwaitsPart : State → List β → Prop) {part : α → String} {tree : α → β}
    {rest : List β → State} {x : α} {xs : List α}
    (hp : ∀ y ∈ x :: xs, ∀ ⦃st before s⦄, AwaitsPart st before → Token.Ends s →
      readFrom st (encode (part y).toList ++ s) = readFrom (rest (tree y :: before)) s)
    (hc : ∀ before, (rest before).IsOpen ∧ AwaitsPart (step (rest before) .comma) before)
    (h : AwaitsPart st before) (hs : Token.Ends s) :
    readFrom st (encode (",".intercalate ((x :: xs).map part)).toList ++ s) =
      readFrom (rest (((x :: xs).map tree).reverse ++ before)) s := by
  induction xs generalizing x st before
  case nil =>
    rw [List.map_singleton, String.intercalate_singleton, hp x (.head _) h hs]
    rfl
  case cons y xs hi =>
    have ⟨hx, hxs⟩ := List.forall_mem_cons.mp hp
    have ⟨ho, hn⟩ := hc (tree x :: before)
    let s' := encode (",".intercalate ((y :: xs).map part)).toList ++ s
    calc readFrom st (encode (",".intercalate ((x :: y :: xs).map part)).toList ++ s)
      _ = readFrom st (encode (part x).toList ++ (encode ",".toList ++ s')) := by
        simp only [List.map_cons, String.intercalate_cons_cons, encode_string_append,
          List.append_assoc, s']
      _ = readFrom (rest (tree x :: before)) (encode ",".toList ++ s') :=
        hx h <| ends_cons (by decide)
      _ = readFrom (step (rest (tree x :: before)) .comma) s' :=
        readFrom_mark ho rfl (by decide) rfl rfl
      _ = _ := by
        rw [hi hxs hn]
        simp

-- What stands between the brackets, and the closing one.
theorem readFrom_list {vs : List Json} (hv : ∀ x ∈ vs, IsRead x) :
    readFrom (.listStart within)
        (encode (",".intercalate (vs.map compact)).toList ++ (encode "]".toList ++ s)) =
      readFrom (fill within (.list (vs.map .ofJson) .closed)) s := by
  cases vs
  case nil =>
    show readFrom (.listStart within) (encode "]".toList ++ s) = _
    exact readFrom_mark (by trivial) rfl (by decide) rfl rfl
  case cons v vs =>
    let items := ((v :: vs).map Node.ofJson).reverse ++ []
    calc _
      _ = readFrom (.listRest within items) (encode "]".toList ++ s) :=
        readFrom_parts (fun st items => Awaits st (.item items :: within))
          (fun x hx _ _ _ h hs => hv x hx h hs) (fun _ => ⟨trivial, .value⟩) .listStart
          (ends_cons (by decide))
      _ = readFrom (fill within (.list items.reverse .closed)) s :=
        readFrom_mark (by trivial) rfl (by decide) rfl rfl
      _ = _ := by simp only [items, List.append_nil, List.reverse_reverse]

theorem readFrom_member {m : String × Json} (hv : IsRead m.snd)
    (h : AwaitsName st within before) (hs : Token.Ends s) :
    readFrom st (encode (compactMember m).toList ++ s) =
      readFrom (.recordRest within (memberOfJson m :: before)) s := by
  let s' := encode m.snd.compact.toList ++ s
  calc readFrom st (encode (compactMember m).toList ++ s)
    _ = readFrom st (encode (renderText m.fst).toList ++ (encode ":".toList ++ s')) := by
      simp only [compactMember, encode_string_append, List.append_assoc, s']
    _ = readFrom (.colon within before (.ok m.fst)) (encode ":".toList ++ s') := h.readFrom_name _
    _ = readFrom (.value (.member before (.ok m.fst) :: within)) s' :=
      readFrom_mark (by trivial) rfl (by decide) rfl rfl
    _ = readFrom (.recordRest within (memberOfJson m :: before)) s := hv .value hs

theorem readFrom_record {ms : List (String × Json)} (hv : ∀ x ∈ ms, IsRead x.snd) :
    readFrom (.recordStart within)
        (encode (",".intercalate (ms.map compactMember)).toList ++ (encode "\x7d".toList ++ s)) =
      readFrom (fill within (.record (ms.map memberOfJson) .closed)) s := by
  cases ms
  case nil =>
    show readFrom (.recordStart within) (encode "\x7d".toList ++ s) = _
    exact readFrom_mark (by trivial) rfl (by decide) rfl rfl
  case cons m ms =>
    let members := ((m :: ms).map memberOfJson).reverse ++ []
    calc _
      _ = readFrom (.recordRest within members) (encode "\x7d".toList ++ s) :=
        readFrom_parts (AwaitsName · within)
          (fun x hx _ _ _ h hs => readFrom_member (hv x hx) h hs) (fun _ => ⟨trivial, .key⟩)
          .recordStart (ends_cons (by decide))
      _ = readFrom (fill within (.record members.reverse .closed)) s :=
        readFrom_mark (by trivial) rfl (by decide) rfl rfl
      _ = _ := by simp only [members, List.append_nil, List.reverse_reverse]

theorem isRead_of_numbers {v : Json} (h : v.Numbers Number.Exact) : IsRead v := by
  induction h
  case null => exact fun _ _ _ ha _ => ha.readFrom_token Token.null_reads (by simp)
  case bool b => exact fun _ _ _ ha _ => ha.readFrom_token (Token.bool_reads b) (by simp)
  case text t => exact fun _ _ _ ha _ => ha.readFrom_token (Token.renderText_reads t) (by simp)
  case number n h =>
    cases n
    case whole n =>
      exact fun _ _ _ ha hs => ha.readFrom_token (Token.whole_reads h.right hs) (by simp)
    case real => exact h.left.elim
  case list vs _ hi =>
    intro st within s ha _
    rw [compact, compactItems_eq, Node.ofJson, itemsOfJson_eq, ← readFrom_list hi,
      encode_string_append, encode_string_append, List.append_assoc, List.append_assoc]
    exact readFrom_mark ha.isOpen rfl (by decide) rfl (ha.step_eq (by simp))
  case record ms _ hi =>
    intro st within s ha _
    rw [compact, compactMembers_eq, Node.ofJson, membersOfJson_eq, ← readFrom_record hi,
      encode_string_append, encode_string_append, List.append_assoc, List.append_assoc]
    exact readFrom_mark ha.isOpen rfl (by decide) rfl (ha.step_eq (by simp))

-- Printing and reading are inverse to each other.
theorem ofString_compact {v : Json} (h : v.Numbers Number.Exact) :
    ofString v.compact = ⟨.ofJson v, false⟩ := by
  have hr : readFrom (.value []) (encode v.compact.toList ++ []) =
      readFrom (fill [] (.ofJson v)) [] := isRead_of_numbers h .value nofun
  rw [List.append_nil] at hr
  rw [ofString, ofBytes, toList_toUTF8, read, hr, fill, readFrom, finish]

end Document
end DataAccess.Json
