import Listing.Text.LineEnding
import Listing.Token.Lexeme

/-!
# Cursors

A cursor stands at a place in a text and reads one token after the other, each with the bytes it
spans. Spaces in front of a token are passed over; behind the last character there is an end token
that can be read any number of times. As a sequence of tokens a cursor gives the end token once and
is then finished.
-/

namespace Listing

/-- A token and the bytes it spans, from `start` up to `stop`. -/
structure Spanned where
  token : Token
  start : Nat
  stop : Nat
  deriving DecidableEq, Repr

/-- A place in a text. -/
structure Cursor where
  /-- The whole text, its line endings unified. -/
  text : Text
  /-- The bytes in front of the cursor. -/
  position : Nat
  /-- The text behind the cursor. -/
  rest : Text
  /-- Whether the sequence of tokens has given its end token. -/
  finished : Bool
  deriving DecidableEq, Repr

namespace Cursor

/-- The cursor at the start of a source text. -/
def start (source : Text) : Cursor :=
  let text := Text.unifyLineEndings source
  ⟨text, 0, text, false⟩

/-- Reads the next token. -/
def advance (c : Cursor) : Spanned × Cursor :=
  let start := c.position + (c.rest.takeWhile (· == ' ')).length
  match c.rest.dropWhile (· == ' ') with
  | [] => (⟨Token.endOfText, start, start⟩, { c with position := start, rest := [] })
  | x :: xs =>
    let lexeme := Lexeme.read x xs
    let stop := start + Text.byteLength lexeme.text
    (⟨lexeme.token, start, stop⟩, { c with position := stop, rest := lexeme.rest })

/-- Reads the next token of the sequence, which ends with the first end token. -/
def next? (c : Cursor) : Option (Token × Cursor) :=
  if c.finished then none
  else
    let (spanned, c) := c.advance
    some (spanned.token, { c with finished := spanned.token.kind == .endOfText })

/-- A cursor that has read anything but the end has less text behind it. -/
theorem advance_rest_length_lt {c : Cursor} (h : c.advance.1.token.kind ≠ .endOfText) :
    c.advance.2.rest.length < c.rest.length := by
  have hdrop := (List.dropWhile_sublist (fun x : Char => x == ' ') (l := c.rest)).length_le
  revert h
  unfold advance
  split
  · simp [Token.endOfText]
  · next x xs hx =>
    intro _
    rw [hx] at hdrop
    exact Nat.lt_of_lt_of_le (Lexeme.rest_length_lt x xs) hdrop

/-- The steps that the sequence of tokens has left at most. -/
def remaining (c : Cursor) : Nat := if c.finished then 0 else c.rest.length + 1

theorem next?_remaining_lt {c d : Cursor} {t : Token} (h : c.next? = some (t, d)) :
    d.remaining < c.remaining := by
  unfold next? at h
  split at h
  · cases h
  · next hc =>
    simp only [Option.some.injEq, Prod.mk.injEq] at h
    obtain ⟨-, rfl⟩ := h
    by_cases hend : c.advance.1.token.kind = .endOfText
    · simp [remaining, hc, hend]
    · simpa [remaining, hc, hend] using advance_rest_length_lt hend

/-- The tokens that are still to come, the end token included. -/
def tokens (c : Cursor) : List Token :=
  match _h : c.next? with
  | none => []
  | some (t, d) => t :: d.tokens
termination_by c.remaining
decreasing_by exact next?_remaining_lt _h

/-- The tokens up to the first end token, each with its bytes. -/
def spans (c : Cursor) : List Spanned :=
  if _h : c.advance.1.token.kind = .endOfText then [c.advance.1]
  else c.advance.1 :: c.advance.2.spans
termination_by c.rest.length
decreasing_by exact advance_rest_length_lt _h

end Cursor

/-- The tokens of a source text. The end token is the last of them. -/
def tokenize (source : Text) : List Token := (Cursor.start source).tokens

/-- The tokens of a source text with the bytes they span in the text with unified line endings. -/
def tokenizeSpanned (source : Text) : List Spanned := (Cursor.start source).spans

end Listing
