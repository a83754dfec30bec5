import Listing.Proofs.Text.Trimming
import Listing.Proofs.Token.Recognition

/-!
# How text spells tokens

The value of a token is determined by the characters it was read from. They are its value, except
for keywords: a keyword is spelled in any case, and a remark keeps of what follows its three letters
what is left when the blanks at either end are trimmed.

Main statement: `spelledBy_read`.
-/

namespace Listing

/-- A token is spelled by a piece of text if the piece determines its value. -/
structure Token.SpelledBy (t : Token) (piece : Text) : Prop where
  literal : t.kind ≠ .keyword → t.value = piece
  keyword : t.kind = .keyword → t.isRemark = false → t.value = Text.toLower piece
  remark : t.isRemark = true → Text.toLower (piece.take 3) = "rem".toList ∧
    t.value = if Text.trimBlanks (piece.drop 3) = [] then "rem".toList
      else "rem ".toList ++ Text.trimBlanks (piece.drop 3)

/-- A character that is missing from a piece of text, and is neither a letter in lower case nor a
    space, is missing from the value of the token it spells. -/
theorem Token.SpelledBy.not_mem_value {t : Token} {piece : Text} (spelled : t.SpelledBy piece)
    {c : Char} (letter : c.isLower = false) (space : c ≠ ' ') (outside : c ∉ piece) :
    c ∉ t.value := by
  by_cases kind : t.kind = .keyword
  · cases remark : t.isRemark with
    | false =>
      rw [spelled.keyword kind remark, Text.toLower, List.mem_map]
      rintro ⟨d, inside, lower⟩
      rw [eq_of_toLower_eq lower letter] at inside
      exact outside inside
    | true =>
      have letters : "rem ".toList.all (fun d => d.isLower || d == ' ') = true := rfl
      have word : c ∉ "rem ".toList := by
        intro inside
        have sort := List.all_eq_true.1 letters c inside
        simp [letter, space] at sort
      have behind : c ∉ Text.trimBlanks (piece.drop 3) := by
        intro inside
        exact outside (List.mem_of_mem_drop (Text.trim_subset _ _ inside))
      rw [(spelled.remark remark).2]
      split_ifs
      · intro inside
        exact word (List.mem_append_left [' '] inside)
      · rw [List.mem_append, not_or]
        exact ⟨word, behind⟩
  · rw [spelled.literal kind]
    exact outside

namespace Lexeme

theorem remarkValue_eq (comment : Text) : remarkValue comment =
    if Text.trimBlanks comment = [] then "rem".toList
    else "rem ".toList ++ Text.trimBlanks comment := by
  unfold remarkValue
  split
  · next nothing => rw [if_pos nothing]; rfl
  · next something => rw [if_neg something]; rfl

theorem plain_spelledBy {kind : TokenKind} (other : kind ≠ .keyword) (text rest : Text) :
    (plain kind text rest).token.SpelledBy (plain kind text rest).text := by
  refine ⟨fun _ => rfl, fun keyword => absurd keyword other, ?_⟩
  intro remark
  rw [Token.isRemark, Bool.and_eq_true, beq_iff_eq] at remark
  exact absurd remark.1 other

/-- Where a keyword stands its letters spell it. -/
theorem keyword_spelledBy {k : Keyword} {t : Text} (found : Keyword.at? t = some k) :
    (keyword k t).token.SpelledBy (keyword k t).text := by
  have spelled := Vocabulary.beginsWith_iff.1 (Keyword.beginsWith_of_at? found)
  unfold keyword
  split
  · next rem =>
    subst rem
    have long := Vocabulary.length_le_of_beginsWith (Keyword.beginsWith_of_at? found)
    have letters : (t.take Keyword.REM.word.length).length = 3 := by
      rw [List.length_take, Nat.min_eq_left long]
      rfl
    refine ⟨fun kind => absurd rfl kind, fun _ noRemark => ?_, fun _ => ⟨?_, ?_⟩⟩
    · rw [show (remark t).token.isRemark = true from isRemark_remarkValue _] at noRemark
      cases noRemark
    · rw [remark, List.take_left' letters]
      exact spelled.symm
    · rw [remark, List.drop_left' letters]
      exact remarkValue_eq _
  · next other =>
    have noRemark := isRemark_eq_false other
    refine ⟨fun kind => absurd rfl kind, fun _ _ => spelled, ?_⟩
    intro remark
    rw [noRemark] at remark
    cases remark

/-- The characters that a lexeme covers spell its token. -/
theorem spelledBy_read (c : Char) (cs : Text) : (read c cs).token.SpelledBy (read c cs).text := by
  have recognised := recognised_read c cs
  generalize read c cs = l at recognised ⊢
  cases recognised with
  | newline line =>
    subst line
    exact plain_spelledBy (by decide : TokenKind.newline ≠ .keyword) ['\n'] cs
  | string _ => unfold string; split <;> exact plain_spelledBy (by decide) _ _
  | number _ => unfold number; split <;> exact plain_spelledBy (by decide) _ _
  | colon _ => exact plain_spelledBy (by decide) _ _
  | operator _ _ _ => exact plain_spelledBy (by decide) _ _
  | keyword k _ _ found => exact keyword_spelledBy found
  | name _ _ _ _ => exact plain_spelledBy (by decide) _ _
  | other _ _ _ _ => exact plain_spelledBy (by decide) _ _

end Lexeme

end Listing
