import Listing.Proofs.Token.Spans

/-!
# Names and keywords

A name and a keyword have no character in common: a name stops where a keyword starts, and where a
keyword starts no name is read. Apart from that a name goes on as long as its characters do.

The argument is about ends of the text. What follows a place inside of a name is an end of the text
that the characters of the name are taken from, and it is longer than what follows the name. So its
first character was taken, which is done only where no keyword starts.

Main statement: `tokenizeSpanned_name`.
-/

namespace Listing

namespace Text

/-! ## Ends of a text -/

theorem byteLength_le_of_isSuffix {s t : Text} (suffix : s <:+ t) :
    byteLength s ≤ byteLength t := by
  obtain ⟨front, rfl⟩ := suffix
  rw [byteLength_append]
  exact Nat.le_add_left _ _

/-- Of two ends of a text, the one with fewer bytes is an end of the other. -/
theorem isSuffix_of_byteLength_le {s t u : Text} (first : s <:+ u) (second : t <:+ u)
    (shorter : byteLength s ≤ byteLength t) : s <:+ t := by
  rcases List.suffix_or_suffix_of_suffix first second with inside | ⟨front, rfl⟩
  · exact inside
  · have nothing : front = [] := by
      by_contra something
      have positive := byteLength_pos something
      rw [byteLength_append] at shorter
      omega
    rw [nothing]
    exact List.suffix_rfl

/-- What follows a place that is not inside the front of a text is an end of what follows the
    front. -/
theorem isSuffix_of_dropBytes? {front tail behind : Text} {i : Nat} (past : byteLength front ≤ i)
    (dropped : dropBytes? (front ++ tail) i = some behind) :
    behind <:+ tail ∧ byteLength front + byteLength tail = i + byteLength behind := by
  obtain ⟨skipped, same, length⟩ := dropBytes?_eq_some_iff.1 dropped
  have total := congrArg byteLength same
  rw [byteLength_append, byteLength_append, length] at total
  refine ⟨isSuffix_of_byteLength_le (u := front ++ tail) ?_ ?_ ?_, total⟩
  · exact ⟨skipped, same.symm⟩
  · exact ⟨front, rfl⟩
  · omega

end Text

namespace Lexeme

/-! ## The characters of a name -/

theorem continuesName_iff {c : Char} :
    continuesName c = true ↔ Text.isAlphanumeric c = true ∨ c = '$' ∨ c = '%' := by
  simp [continuesName, or_assoc]

/-- No keyword starts in front of the place where the characters of a name end. -/
theorem at?_eq_none_of_isSuffix {cs behind : Text} (inside : behind <:+ cs)
    (ahead : Text.byteLength (cs.drop (nameTail cs).length) < behind.byteLength) :
    Keyword.at? behind = none := by
  have within := Text.byteLength_le_of_isSuffix inside
  fun_induction nameTail cs with
  | case1 => exact absurd ahead (Nat.not_lt.2 within)
  | case2 c cs continued ih =>
    rw [Bool.and_eq_true, Option.isNone_iff_eq_none] at continued
    rw [List.length_cons, List.drop_succ_cons] at ahead
    rcases List.suffix_cons_iff.1 inside with rfl | inside
    · exact continued.2
    · exact ih inside ahead (Text.byteLength_le_of_isSuffix inside)
  | case3 c cs _ => exact absurd ahead (Nat.not_lt.2 within)

/-- The characters of a name end with the text, in front of a character that stands in no name, or
    in front of a keyword. -/
theorem nameTail_stops (cs : Text) : cs.drop (nameTail cs).length = [] ∨
    ∃ c rest, cs.drop (nameTail cs).length = c :: rest ∧
      (continuesName c = false ∨ (Keyword.at? (c :: rest)).isSome = true) := by
  fun_induction nameTail cs with
  | case1 => exact Or.inl rfl
  | case2 c cs _ ih => simpa using ih
  | case3 c cs stops =>
    refine Or.inr ⟨c, cs, rfl, ?_⟩
    cases continued : continuesName c with
    | false => exact Or.inl rfl
    | true =>
      rw [continued, Bool.true_and, Option.isNone_iff_eq_none] at stops
      exact Or.inr (Option.isSome_iff_ne_none.2 stops)

/-- A name is read where a letter stands and no keyword starts. -/
theorem read_eq_name {c : Char} {cs : Text} (kind : (read c cs).token.kind = .name) :
    read c cs = name c cs ∧ Text.isLetter c = true ∧ Keyword.at? (c :: cs) = none := by
  have recognised := recognised_read c cs
  generalize read c cs = l at recognised kind ⊢
  cases recognised with
  | name _ _ noKeyword letter => exact ⟨rfl, letter, noKeyword⟩
  | string _ => unfold string at kind; split at kind <;> cases kind
  | number _ => unfold number at kind; split at kind <;> cases kind
  | keyword k _ _ _ => unfold keyword at kind; split at kind <;> cases kind
  | newline _ | colon _ | operator _ _ _ | other _ _ _ _ => cases kind

end Lexeme

/-! ## Names in a text -/

/-- A cursor reads every token but the end from a place in its text. -/
theorem Cursor.exists_read_of_mem_spans {before : Text} (c : Cursor)
    (position : c.position = before.byteLength) {s : Spanned} (member : s ∈ c.spans)
    (inner : s.token.kind ≠ .endOfText) :
    ∃ (front : Text) (x : Char) (xs : Text), before ++ c.rest = front ++ x :: xs ∧
      s = ⟨(Lexeme.read x xs).token, front.byteLength,
        front.byteLength + (Lexeme.read x xs).text.byteLength⟩ := by
  induction c using advance_induction generalizing before with
  | spaces c n blank =>
    rw [(spans_of_spaces blank).1, advance_of_spaces blank, List.mem_singleton] at member
    rw [member] at inner
    exact absurd rfl inner
  | lexeme c n x xs behind space ih =>
    have read := advance_of_cons behind space
    have start : (before ++ Text.spaces n).byteLength = c.position + n := by
      rw [Text.byteLength_append, Text.byteLength_spaces, position]
    rw [spans_of_cons behind space, List.mem_cons] at member
    rcases member with here | later
    · refine ⟨before ++ Text.spaces n, x, xs, ?_, ?_⟩
      · rw [behind, List.append_assoc]
      · rw [here, read, start]
    · have moved : c.advance.2.position =
          (before ++ Text.spaces n ++ (Lexeme.read x xs).text).byteLength := by
        rw [read, Text.byteLength_append, start]
      obtain ⟨front, y, ys, whole, same⟩ := ih moved later
      refine ⟨front, y, ys, ?_, same⟩
      rw [← whole, behind, read, ← Lexeme.read_text_append_rest x xs]
      simp only [List.append_assoc]

/-- A name opens with a letter and goes on with letters, digits, dollar and percent signs. No keyword
    starts inside of it. It ends with the text, in front of another character, or in front of a
    keyword. -/
theorem tokenizeSpanned_name {source : Text} {s : Spanned} (member : s ∈ tokenizeSpanned source)
    (kind : s.token.kind = .name) :
    let text := Text.unifyLineEndings source
    (∃ c cs, text.slice? s.start s.stop = some (c :: cs) ∧ Text.isLetter c = true ∧
      ∀ d ∈ cs, Text.isAlphanumeric d = true ∨ d = '$' ∨ d = '%') ∧
    (∀ i behind, s.start ≤ i → i < s.stop → text.dropBytes? i = some behind →
      Keyword.at? behind = none) ∧
    (s.stop = text.byteLength ∨ ∃ c cs, text.dropBytes? s.stop = some (c :: cs) ∧
      (¬ (Text.isAlphanumeric c = true ∨ c = '$' ∨ c = '%') ∨
        (Keyword.at? (c :: cs)).isSome = true)) := by
  intro text
  have start : (Cursor.start source).position = Text.byteLength [] := rfl
  have inner : s.token.kind ≠ .endOfText := by
    rw [kind]
    decide
  obtain ⟨front, x, xs, whole, rfl⟩ := Cursor.exists_read_of_mem_spans _ start member inner
  have whole : text = front ++ x :: xs := whole
  obtain ⟨reads, letter, noKeyword⟩ := Lexeme.read_eq_name kind
  have parts : x :: xs = (x :: Lexeme.nameTail xs) ++ xs.drop (Lexeme.nameTail xs).length := by
    rw [List.cons_append, Lexeme.nameTail_append_drop]
  rw [reads, whole]
  dsimp only [Lexeme.name, Lexeme.plain]
  refine ⟨⟨x, Lexeme.nameTail xs, ?_, letter, ?_⟩, ?_, ?_⟩
  · rw [parts]
    exact Text.slice?_append front _ _
  · intro d member
    exact Lexeme.continuesName_iff.1 (Lexeme.continuesName_of_mem_nameTail member)
  · intro i behind first last dropped
    obtain ⟨inside, bytes⟩ := Text.isSuffix_of_dropBytes? first dropped
    rcases List.suffix_cons_iff.1 inside with rfl | later
    · exact noKeyword
    · rw [parts, Text.byteLength_append] at bytes
      exact Lexeme.at?_eq_none_of_isSuffix later (by omega)
  · have dropped := Text.dropBytes?_append (front ++ x :: Lexeme.nameTail xs)
      (xs.drop (Lexeme.nameTail xs).length)
    rw [List.append_assoc, ← parts, Text.byteLength_append] at dropped
    rcases Lexeme.nameTail_stops xs with ended | ⟨c, cs, goes, stops⟩
    · left
      rw [parts, ended, List.append_nil, Text.byteLength_append]
    · right
      refine ⟨c, cs, ?_, ?_⟩
      · rw [dropped, goes]
      · rwa [← Lexeme.continuesName_iff, Bool.not_eq_true]

/-- The name ends in front of `to`, though the dollar sign and the letters could all stand in one. -/
theorem tokenizeSpanned_name_keyword :
    let source := "1éA$toX".toList
    let name : Spanned := ⟨⟨.name, "éA$".toList⟩, 1, 5⟩
    name ∈ tokenizeSpanned source ∧
    (∃ c cs, Text.slice? source 1 5 = some (c :: cs) ∧ Text.isLetter c = true ∧
      ∀ d ∈ cs, Text.isAlphanumeric d = true ∨ d = '$' ∨ d = '%') ∧
    (∀ i behind, 1 ≤ i → i < 5 → Text.dropBytes? source i = some behind →
      Keyword.at? behind = none) ∧
    (5 = Text.byteLength source ∨ ∃ c cs, Text.dropBytes? source 5 = some (c :: cs) ∧
      (¬ (Text.isAlphanumeric c = true ∨ c = '$' ∨ c = '%') ∨
        (Keyword.at? (c :: cs)).isSome = true)) := by
  intro source name
  have member : name ∈ tokenizeSpanned source := by decide +kernel
  exact ⟨member, tokenizeSpanned_name member rfl⟩

end Listing
