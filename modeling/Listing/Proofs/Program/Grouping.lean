import Mathlib
import Listing.Program.Reading

/-!
# Tokens and the lines they make up

Tokens become a program by two cuts, of the whole list at its newlines and of each line at its
colons. `CutAt` says what a cut is without saying how it is made: the pieces hold no token of the
kind that is cut at, and the list is the pieces with one such token between two of them. There is
exactly one such cut (`cutAt_iff`). All that is left out of the lines are the tokens cut at, empty
lines, the line numbers, and what stands from the end token on.

Main statement: `ofTokens_isReadFrom`.
-/

namespace Listing

/-! ## Cuts -/

/-- The pieces of a list of tokens that is cut at the tokens of one kind. -/
inductive CutAt (kind : TokenKind) : List (List Token) → List Token → Prop
  | last {piece : List Token} (inner : ∀ t ∈ piece, t.kind ≠ kind) : CutAt kind [piece] piece
  | cut {piece : List Token} {separator : Token} {pieces : List (List Token)} {tokens : List Token}
      (inner : ∀ t ∈ piece, t.kind ≠ kind) (separates : separator.kind = kind)
      (later : CutAt kind pieces tokens) :
      CutAt kind (piece :: pieces) (piece ++ separator :: tokens)

namespace CutAt

variable {kind : TokenKind} {pieces : List (List Token)} {tokens : List Token}

/-- A token of another kind goes to the first piece. -/
theorem cons_of_ne {t : Token} (other : t.kind ≠ kind) (cut : CutAt kind pieces tokens) :
    CutAt kind (pieces.modifyHead (t :: ·)) (t :: tokens) := by
  cases cut with
  | last inner => exact .last (List.forall_mem_cons.2 ⟨other, inner⟩)
  | cut inner separates later => exact .cut (List.forall_mem_cons.2 ⟨other, inner⟩) separates later

theorem ne_nil (cut : CutAt kind pieces tokens) : pieces ≠ [] := by
  cases cut with
  | last _ => exact List.cons_ne_nil _ _
  | cut _ _ _ => exact List.cons_ne_nil _ _

/-- The pieces hold no token of the kind that is cut at. -/
theorem kind_ne (cut : CutAt kind pieces tokens) : ∀ piece ∈ pieces, ∀ t ∈ piece, t.kind ≠ kind := by
  induction cut with
  | last inner => exact List.forall_mem_singleton.2 inner
  | cut inner _ _ ih => exact List.forall_mem_cons.2 ⟨inner, ih⟩

/-- There is one piece more than there are tokens to cut at. -/
theorem length_eq (cut : CutAt kind pieces tokens) :
    pieces.length = tokens.countP (·.kind == kind) + 1 := by
  have none : ∀ {piece : List Token}, (∀ t ∈ piece, t.kind ≠ kind) →
      piece.countP (·.kind == kind) = 0 := by
    intro piece inner
    rw [List.countP_eq_zero]
    intro t member
    simpa using inner t member
  induction cut with
  | last inner => rw [none inner, List.length_singleton]
  | cut inner separates _ ih =>
    rw [List.countP_append, none inner, List.countP_cons_of_pos (by simp [separates]),
      List.length_cons, ih, Nat.zero_add]

/-- The pieces with a token between two of them are the list, but for the tokens cut at. -/
theorem intercalate_eq (cut : CutAt kind pieces tokens) (separator : Token) :
    [separator].intercalate pieces = tokens.map fun t => if t.kind = kind then separator else t := by
  have same : ∀ {piece : List Token}, (∀ t ∈ piece, t.kind ≠ kind) →
      piece.map (fun t => if t.kind = kind then separator else t) = piece := by
    intro piece inner
    conv_rhs => rw [← List.map_id piece]
    apply List.map_congr_left
    intro t member
    exact if_neg (inner t member)
  induction cut with
  | last inner => rw [List.intercalate_singleton, same inner]
  | cut inner separates later ih =>
    obtain ⟨next, more, rfl⟩ := List.exists_cons_of_ne_nil later.ne_nil
    rw [List.intercalate_cons_cons, ih, List.map_append, List.map_cons, same inner,
      if_pos separates, List.append_assoc]
    rfl

end CutAt

/-- Every list of tokens can be cut in exactly one way. -/
theorem cutAt_iff {kind : TokenKind} {pieces : List (List Token)} {tokens : List Token} :
    CutAt kind pieces tokens ↔ pieces = tokens.splitOnP (·.kind == kind) := by
  have apart : ∀ {piece : List Token}, (∀ t ∈ piece, t.kind ≠ kind) →
      ∀ t ∈ piece, (t.kind == kind) = false := by
    intro piece inner t member
    simpa using inner t member
  constructor
  · intro cut
    induction cut with
    | last inner => rw [List.splitOnP_eq_singleton (apart inner)]
    | cut inner separates _ ih =>
      rw [List.splitOnP_append_cons_of_forall_mem (apart inner) _ (by simp [separates]), ih]
  · rintro rfl
    induction tokens with
    | nil => exact .last (by simp)
    | cons t tokens ih =>
      rw [List.splitOnP_cons_eq_if_modifyHead]
      split_ifs with separates
      · exact .cut (by simp) (by simpa using separates) ih
      · exact ih.cons_of_ne (by simpa using separates)

/-! ## Line numbers -/

/-- A text spells a line number: in ASCII digits, behind a plus sign or not. -/
def Text.Numeral (t : Text) (n : UInt32) : Prop :=
  ∃ digits, (t = digits ∨ t = '+' :: digits) ∧ digits ≠ [] ∧ (∀ c ∈ digits, c.isDigit = true) ∧
    Nat.ofDigitChars 10 digits 0 = n.toNat

theorem lineNumber?_plus_cons {digits : Text} {n : UInt32} : lineNumber? ('+' :: digits) = some n ↔
    digits ≠ [] ∧ (∀ c ∈ digits, c.isDigit = true) ∧ Nat.ofDigitChars 10 digits 0 = n.toNat := by
  unfold lineNumber?
  simp only [List.all_eq_true]
  split_ifs with spelled
  · obtain ⟨nonempty, digital, small⟩ := spelled
    rw [Option.some.injEq, ← UInt32.toNat_inj, UInt32.toNat_ofNat_of_lt' small]
    exact ⟨fun value => ⟨nonempty, digital, value⟩, fun ⟨_, _, value⟩ => value⟩
  · constructor
    · intro found
      cases found
    · rintro ⟨nonempty, digital, value⟩
      have small : Nat.ofDigitChars 10 digits 0 < UInt32.size := by
        rw [value]
        exact n.toNat_lt
      exact absurd ⟨nonempty, digital, small⟩ spelled

/-- A plus sign in front makes no difference, unless there is one. -/
theorem lineNumber?_of_head?_ne {t : Text} (unsigned : t.head? ≠ some '+') :
    lineNumber? t = lineNumber? ('+' :: t) := by
  unfold lineNumber?
  dsimp only
  split
  · exact absurd rfl unsigned
  · rfl

theorem lineNumber?_eq_some_iff {t : Text} {n : UInt32} :
    lineNumber? t = some n ↔ t.Numeral n := by
  constructor
  · intro found
    by_cases sign : t.head? = some '+'
    · obtain ⟨digits, rfl⟩ := List.head?_eq_some_iff.1 sign
      exact ⟨digits, Or.inr rfl, lineNumber?_plus_cons.1 found⟩
    · rw [lineNumber?_of_head?_ne sign] at found
      exact ⟨t, Or.inl rfl, lineNumber?_plus_cons.1 found⟩
  · rintro ⟨digits, rfl | rfl, spelled⟩
    · have unsigned : t.head? ≠ some '+' := by
        intro sign
        have digit := spelled.2.1 '+' (List.mem_of_head? sign)
        cases digit
      rw [lineNumber?_of_head?_ne unsigned]
      exact lineNumber?_plus_cons.2 spelled
    · exact lineNumber?_plus_cons.2 spelled

/-! ## Lines -/

/-- Statements make up a list of tokens: joined by one token between two of them they are the list,
    with that token in the place of each colon; they hold no colon; and there is one more of them
    than there are colons. -/
structure Statement.MakeUp (statements : List Statement) (tokens : List Token) : Prop where
  joined : ∀ colon : Token, [colon].intercalate (statements.map (·.content)) =
    tokens.map fun t => if t.kind = .colon then colon else t
  inner : ∀ s ∈ statements, ∀ t ∈ s.content, t.kind ≠ .colon
  length : statements.length = tokens.countP (·.kind == .colon) + 1

/-- The statements between the colons of a line make up its tokens. -/
theorem Statement.makeUp_ofTokens (tokens : List Token) : MakeUp (ofTokens tokens) tokens := by
  have contents : (ofTokens tokens).map (·.content) = tokens.splitOnP (·.kind == .colon) := by
    unfold ofTokens
    rw [List.map_map]
    exact List.map_id _
  have cut : CutAt .colon ((ofTokens tokens).map (·.content)) tokens := cutAt_iff.2 contents
  refine ⟨cut.intercalate_eq, ?_, ?_⟩
  · intro s member
    exact cut.kind_ne s.content (List.mem_map_of_mem member)
  · rw [← cut.length_eq, List.length_map]

/-- A line as it is read from its tokens. Digits in front that spell a line number are the number, and
    the other tokens make up the statements. Else the number is 0, and all tokens do. -/
inductive Line.IsReadFrom : Line → List Token → Prop
  | numbered {n : UInt32} {statements : List Statement} {first : Token} {rest : List Token}
      (digits : first.kind = .digit) (number : first.value.Numeral n)
      (whole : Statement.MakeUp statements rest) : IsReadFrom ⟨n, statements⟩ (first :: rest)
  | unnumbered {statements : List Statement} {first : Token} {rest : List Token}
      (other : first.kind = .digit → ∀ n, ¬ first.value.Numeral n)
      (whole : Statement.MakeUp statements (first :: rest)) :
      IsReadFrom ⟨0, statements⟩ (first :: rest)

theorem Line.isReadFrom_ofTokens (first : Token) (rest : List Token) :
    (ofTokens first rest).IsReadFrom (first :: rest) := by
  unfold ofTokens Opening.of
  by_cases digits : first.kind = .digit
  · rw [if_pos digits]
    cases number : lineNumber? first.value with
    | some n =>
      exact .numbered digits (lineNumber?_eq_some_iff.1 number) (Statement.makeUp_ofTokens rest)
    | none =>
      refine .unnumbered ?_ (Statement.makeUp_ofTokens (first :: rest))
      intro _ n spelled
      rw [lineNumber?_eq_some_iff.2 spelled] at number
      cases number
  · rw [if_neg digits]
    refine .unnumbered ?_ (Statement.makeUp_ofTokens (first :: rest))
    intro kind
    exact absurd kind digits

namespace Program

/-- The tokens in front of the end, cut at the newlines, are those of the lines, one piece after the
    other, empty pieces left out. -/
theorem ofTokens_isReadFrom (tokens : List Token) :
    ∃ pieces, CutAt .newline pieces (tokens.takeWhile (·.kind != .endOfText)) ∧
      List.Forall₂ Line.IsReadFrom (ofTokens tokens).lines (pieces.filter (· ≠ [])) := by
  refine ⟨_, cutAt_iff.2 rfl, ?_⟩
  unfold ofTokens lineTokens
  dsimp only
  generalize List.splitOnP _ _ = pieces
  induction pieces with
  | nil => exact .nil
  | cons piece pieces ih =>
    cases piece with
    | nil => exact ih
    | cons first rest => exact .cons (Line.isReadFrom_ofTokens first rest) ih

end Program

end Listing
