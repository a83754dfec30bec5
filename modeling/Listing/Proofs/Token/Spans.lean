import Listing.Proofs.Token.Scan

/-!
# The spans of tokens

The bytes that the tokens of a text span follow each other in the text, with nothing but spaces
between them, and what a token spans spells it. `Covers` is the derivation of such a list of spans,
one step for each token.

Main statement: `tokenizeSpanned_covers`.
-/

namespace Listing

namespace Text

/-- What follows the first bytes of a text is what follows a part with so many bytes. -/
theorem dropBytes?_eq_some_iff {t rest : Text} {n : Nat} :
    dropBytes? t n = some rest ↔ ∃ front, t = front ++ rest ∧ byteLength front = n := by
  constructor
  · intro dropped
    fun_induction dropBytes? t n with
    | case1 t =>
      cases dropped
      exact ⟨[], rfl, rfl⟩
    | case2 n => cases dropped
    | case3 c t n fits ih =>
      obtain ⟨front, rfl, length⟩ := ih dropped
      refine ⟨c :: front, rfl, ?_⟩
      rw [byteLength_cons, length]
      omega
    | case4 c t n splits => cases dropped
  · rintro ⟨front, rfl, rfl⟩
    exact dropBytes?_append front rest

/-- The text from one byte offset up to another. There is none if an offset exceeds the length of
    the text or falls inside a character, or if the second stands in front of the first. -/
def slice? (t : Text) (start stop : Nat) : Option Text :=
  (t.dropBytes? start).bind fun behind =>
    (t.dropBytes? stop).bind fun rest =>
      if rest.length ≤ behind.length then some (behind.take (behind.length - rest.length)) else none

theorem slice?_append (before piece after : Text) :
    slice? (before ++ (piece ++ after)) (byteLength before)
      (byteLength before + byteLength piece) = some piece := by
  have behind := dropBytes?_append before (piece ++ after)
  have rest := dropBytes?_append (before ++ piece) after
  rw [List.append_assoc, byteLength_append] at rest
  unfold slice?
  rw [behind, rest]
  simp

/-- The first bytes of what follows an offset are a part that it begins with. -/
theorem slice?_eq_some_iff {before behind piece : Text} {n : Nat} :
    slice? (before ++ behind) (byteLength before) (byteLength before + n) = some piece ↔
      (∃ after, behind = piece ++ after) ∧ byteLength piece = n := by
  constructor
  · intro sliced
    unfold slice? at sliced
    rw [dropBytes?_append, Option.bind_some] at sliced
    obtain ⟨rest, dropped, cut⟩ := Option.bind_eq_some_iff.1 sliced
    obtain ⟨front, same, length⟩ := dropBytes?_eq_some_iff.1 dropped
    split_ifs at cut with shorter
    cases cut
    -- the part in front of the second offset goes on beyond the first
    obtain ⟨middle, rfl⟩ : ∃ middle, front = before ++ middle := by
      have lengths := congrArg List.length same
      rw [List.length_append, List.length_append] at lengths
      have fits : before.length ≤ front.length := by omega
      exact (List.prefix_of_prefix_length_le ⟨behind, rfl⟩ ⟨rest, same.symm⟩ fits).imp
        fun _ => Eq.symm
    rw [List.append_assoc, List.append_cancel_left_eq] at same
    rw [byteLength_append, Nat.add_left_cancel_iff] at length
    subst same
    have taken : (middle ++ rest).take ((middle ++ rest).length - rest.length) = middle := by
      simp
    rw [taken]
    exact ⟨⟨rest, rfl⟩, length⟩
  · rintro ⟨⟨after, rfl⟩, rfl⟩
    exact slice?_append before piece after

example : slice? ['a', 'é', 'b'] 1 3 = some ['é'] ∧ slice? ['a', 'é', 'b'] 1 2 = none := by decide

theorem byteLength_spaces (n : Nat) : byteLength (spaces n) = n := by
  induction n with
  | zero => rfl
  | succ n ih =>
    have space : ' '.utf8Size = 1 := rfl
    rw [spaces, List.replicate_succ, byteLength_cons, space]
    rw [spaces] at ih
    omega

theorem byteLength_pos {t : Text} (nonempty : t ≠ []) : 0 < byteLength t := by
  obtain ⟨c, cs, rfl⟩ := List.exists_cons_of_ne_nil nonempty
  have positive := Char.utf8Size_pos c
  rw [byteLength_cons]
  omega

end Text

/-- The spans of the tokens that are read from `rest`, which stands behind `before`. -/
inductive Covers : Text → Text → List Spanned → Prop
  | atEnd (before : Text) (n : Nat) :
      Covers before (Text.spaces n)
        [⟨Token.endOfText, before.byteLength + n, before.byteLength + n⟩]
  | token (before : Text) (n : Nat) {t : Token} {piece rest : Text} {spans : List Spanned}
      (kind : t.kind ≠ .endOfText) (nonempty : piece ≠ []) (spelled : t.SpelledBy piece)
      (later : Covers (before ++ Text.spaces n ++ piece) rest spans) :
      Covers before (Text.spaces n ++ (piece ++ rest))
        (⟨t, before.byteLength + n, before.byteLength + n + piece.byteLength⟩ :: spans)

/-- What a cursor reads covers the text behind it. -/
theorem Cursor.covers_spans {before : Text} (c : Cursor)
    (position : c.position = before.byteLength) : Covers before c.rest c.spans := by
  induction c using advance_induction generalizing before with
  | spaces c n blank =>
    rw [(spans_of_spaces blank).1, advance_of_spaces blank, blank, position]
    exact .atEnd before n
  | lexeme c n x xs behind space ih =>
    have going := (Lexeme.read_lexical space xs).kind_ne_endOfText
    have read := advance_of_cons behind space
    have later : Covers (before ++ Text.spaces n ++ (Lexeme.read x xs).text)
        c.advance.2.rest c.advance.2.spans := by
      apply ih
      rw [read, position, Text.byteLength_append, Text.byteLength_append, Text.byteLength_spaces]
    rw [spans_of_cons behind space, behind, ← Lexeme.read_text_append_rest x xs]
    rw [read, position] at later ⊢
    exact .token before n going (Lexeme.read_text_ne_nil x xs) (Lexeme.spelledBy_read x xs) later

namespace Covers

variable {before rest : Text} {spans : List Spanned}

theorem append_assoc_piece (before piece rest : Text) (n : Nat) :
    before ++ Text.spaces n ++ piece ++ rest = before ++ (Text.spaces n ++ (piece ++ rest)) := by
  simp only [List.append_assoc]

/-- The end stands at the end of the text, once, and is all that spans nothing. -/
theorem exists_concat (covers : Covers before rest spans) :
    ∃ init, spans = init ++ [⟨Token.endOfText, (before ++ rest).byteLength,
        (before ++ rest).byteLength⟩] ∧
      ∀ s ∈ init, s.token.kind ≠ .endOfText ∧ s.start < s.stop := by
  induction covers with
  | atEnd before n =>
    refine ⟨[], ?_, by simp⟩
    rw [Text.byteLength_append, Text.byteLength_spaces]
    rfl
  | @token before n t piece rest spans kind nonempty spelled later ih =>
    obtain ⟨init, same, inner⟩ := ih
    have positive := Text.byteLength_pos nonempty
    refine ⟨⟨t, before.byteLength + n, before.byteLength + n + piece.byteLength⟩ :: init, ?_, ?_⟩
    · rw [same, append_assoc_piece]
      rfl
    · rw [List.forall_mem_cons]
      exact ⟨⟨kind, Nat.lt_add_of_pos_right positive⟩, inner⟩

/-- The spans follow each other. -/
theorem pairwise (covers : Covers before rest spans) :
    (∀ s ∈ spans, before.byteLength ≤ s.start) ∧
      spans.Pairwise (fun a b => a.stop ≤ b.start) := by
  induction covers with
  | atEnd before n =>
    refine ⟨?_, List.pairwise_singleton _ _⟩
    rw [List.forall_mem_singleton]
    exact Nat.le_add_right _ _
  | @token before n t piece rest spans kind nonempty spelled later ih =>
    obtain ⟨behind, order⟩ := ih
    simp only [Text.byteLength_append, Text.byteLength_spaces] at behind
    rw [List.forall_mem_cons, List.pairwise_cons]
    refine ⟨⟨Nat.le_add_right _ _, ?_⟩, behind, order⟩
    intro s member
    have bound := behind s member
    omega

/-- A span is that of a piece of the text that spells its token. -/
theorem exists_slice? (covers : Covers before rest spans) :
    ∀ s ∈ spans, ∃ piece, (before ++ rest).slice? s.start s.stop = some piece ∧
      s.token.SpelledBy piece := by
  induction covers with
  | atEnd before n =>
    have here := Text.slice?_append (before ++ Text.spaces n) [] []
    rw [Text.byteLength_append, Text.byteLength_spaces, List.append_nil, List.append_nil] at here
    rw [List.forall_mem_singleton]
    refine ⟨[], here, fun _ => rfl, ?_, ?_⟩
    · intro keyword
      cases keyword
    · intro remark
      cases remark
  | @token before n t piece rest spans kind nonempty spelled later ih =>
    have here := Text.slice?_append (before ++ Text.spaces n) piece rest
    rw [Text.byteLength_append, Text.byteLength_spaces, List.append_assoc] at here
    rw [append_assoc_piece] at ih
    rw [List.forall_mem_cons]
    exact ⟨⟨piece, here, spelled⟩, ih⟩

/-- Nothing but spaces stands between the spans. -/
theorem exists_gap (covers : Covers before rest spans) :
    ∀ gap ∈ (before.byteLength :: spans.map (·.stop)).zip (spans.map (·.start)),
      ∃ n, (before ++ rest).slice? gap.1 gap.2 = some (Text.spaces n) := by
  induction covers with
  | atEnd before n =>
    have here := Text.slice?_append before (Text.spaces n) []
    rw [List.append_nil, Text.byteLength_spaces] at here
    simpa using ⟨n, here⟩
  | @token before n t piece rest spans kind nonempty spelled later ih =>
    have here := Text.slice?_append before (Text.spaces n) (piece ++ rest)
    rw [Text.byteLength_spaces] at here
    rw [append_assoc_piece, Text.byteLength_append, Text.byteLength_append,
      Text.byteLength_spaces] at ih
    rw [List.map_cons, List.map_cons, List.zip_cons_cons, List.forall_mem_cons]
    exact ⟨⟨n, here⟩, ih⟩

end Covers

/-- The spans of a text: the end comes last, once, and spans nothing at the end of the text; every
    other token spans something; the spans follow each other in the text; what a token spans spells
    it; and nothing but spaces stands in front of the first span and between one and the next. -/
theorem tokenizeSpanned_covers (source : Text) :
    let text := Text.unifyLineEndings source
    let spans := tokenizeSpanned source
    (∃ init, spans = init ++ [⟨Token.endOfText, text.byteLength, text.byteLength⟩] ∧
      ∀ s ∈ init, s.token.kind ≠ .endOfText ∧ s.start < s.stop) ∧
    spans.Pairwise (fun a b => a.stop ≤ b.start) ∧
    (∀ s ∈ spans, ∃ piece, text.slice? s.start s.stop = some piece ∧ s.token.SpelledBy piece) ∧
    ∀ gap ∈ (0 :: spans.map (·.stop)).zip (spans.map (·.start)),
      ∃ n, text.slice? gap.1 gap.2 = some (Text.spaces n) := by
  intro text spans
  have covers : Covers [] text spans := Cursor.covers_spans (Cursor.start source) rfl
  exact ⟨covers.exists_concat, covers.pairwise.2, covers.exists_slice?, covers.exists_gap⟩

end Listing
