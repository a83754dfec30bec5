import Listing.Proofs.Token.Scan

/-!
# Calls on a cursor

A cursor can be asked for the next token, with or without its span, for the next token of the
sequence, for its position, and for the sequence that a copy of it would give, in any order and any
number of times. There is one stream of tokens behind all the answers: an answer depends on how many
tokens were read before and on whether the sequence has given its end, and on nothing else.

Main statements: `IsAt.advance`, reading a token moves one place on along the stream;
`IsBehind.answer`, one call; and `answers_of_stream`, any sequence of calls.
-/

namespace Listing

/-- What a cursor can be asked for. -/
inductive Call where
  /-- The next token. -/
  | token
  /-- The next token with the bytes it spans. -/
  | spanned
  /-- The next token of the sequence, if it goes on. -/
  | next
  /-- The bytes in front of the cursor. -/
  | position
  /-- The sequence of tokens that a copy of the cursor gives. -/
  | copy
  deriving DecidableEq, Repr

/-- What a cursor gives back. -/
inductive Answer where
  | token (t : Token)
  | spanned (s : Spanned)
  | next (t : Option Token)
  | position (n : Nat)
  | copy (tokens : List Token)
  deriving DecidableEq, Repr

namespace Answer

/-- Whether a token was read for an answer. -/
def advances : Answer → Bool
  | .token _ | .spanned _ | .next (some _) => true
  | _ => false

/-- Whether an answer was the end of the sequence of tokens. -/
def ends : Answer → Bool
  | .next (some t) => t.kind == .endOfText
  | _ => false

end Answer

namespace Cursor

/-- The answer to a call, and the cursor behind it. -/
def answer (c : Cursor) : Call → Answer × Cursor
  | .token => (.token c.advance.1.token, c.advance.2)
  | .spanned => (.spanned c.advance.1, c.advance.2)
  | .next =>
    match c.next? with
    | some (t, d) => (.next (some t), d)
    | none => (.next none, c)
  | .position => (.position c.position, c)
  | .copy => (.copy c.tokens, c)

/-- The answers to calls that are made one after the other. -/
def answers (c : Cursor) : List Call → List Answer
  | [] => []
  | call :: calls => (c.answer call).1 :: (c.answer call).2.answers calls

end Cursor

/-! ## Answers from a stream -/

namespace Stream

/-- What stands in a stream behind `count` tokens. Its last token stands behind any number of them
    from there on. -/
def token? (stream : List Spanned) (count : Nat) : Option Spanned :=
  stream[min count (stream.length - 1)]?

/-- Where the last of `count` tokens ends. -/
def position? (stream : List Spanned) : Nat → Option Nat
  | 0 => some 0
  | count + 1 => (token? stream count).map (·.stop)

/-- The answer that a stream of tokens gives to a call, the answers to earlier calls being given. -/
def answer? (stream : List Spanned) (earlier : List Answer) (call : Call) : Option Answer :=
  let count := earlier.countP Answer.advances
  let ended := earlier.any Answer.ends
  match call with
  | .token => (token? stream count).map fun s => .token s.token
  | .spanned => (token? stream count).map .spanned
  | .next =>
    if ended then some (.next none) else (token? stream count).map fun s => .next (some s.token)
  | .position => (position? stream count).map .position
  | .copy =>
    let left := if ended then [] else stream.drop (min count (stream.length - 1))
    some (.copy (left.map (·.token)))

end Stream

namespace Cursor

/-! ## Reading on -/

theorem position_advance (c : Cursor) : c.advance.2.position = c.advance.1.stop := by
  unfold advance
  split <;> rfl

theorem finished_advance (c : Cursor) : c.advance.2.finished = c.finished := by
  unfold advance
  split <;> rfl

theorem position_le_advance (c : Cursor) : c.position ≤ c.advance.2.position := by
  unfold advance
  split
  · exact Nat.le_add_right _ _
  · dsimp only
    omega

/-- Whether the sequence has ended does not matter for reading a token. -/
theorem advance_finish (c : Cursor) (b : Bool) :
    ({ c with finished := b } : Cursor).advance =
      (c.advance.1, { c.advance.2 with finished := b }) := by
  unfold advance
  dsimp only
  split <;> rfl

/-- What a cursor reads is the first of the spans in front of it. The others are left, unless it was
    the end, which stays. -/
theorem spans_advance (c : Cursor) :
    c.spans = c.advance.1 :: c.advance.2.spans ∨
      c.spans = [c.advance.1] ∧ c.advance.2.spans = [c.advance.1] := by
  induction c using advance_induction with
  | spaces c n blank => exact Or.inr (spans_of_spaces blank)
  | lexeme c n x xs behind space _ => exact Or.inl (spans_of_cons behind space)

theorem spans_finish (c : Cursor) (b : Bool) :
    ({ c with finished := b } : Cursor).spans = c.spans := by
  induction c using advance_induction with
  | spaces c n blank =>
    rw [(spans_of_spaces blank).1, (spans_of_spaces (c := { c with finished := b }) blank).1,
      advance_finish]
  | lexeme c n x xs behind space ih =>
    rw [spans_of_cons behind space, spans_of_cons (c := { c with finished := b }) behind space,
      advance_finish]
    exact congrArg _ ih

theorem head?_spans (c : Cursor) : c.spans.head? = some c.advance.1 := by
  rw [spans]
  split <;> rfl

theorem spans_ne_nil (c : Cursor) : c.spans ≠ [] := by
  intro nothing
  have first := c.head?_spans
  rw [nothing] at first
  cases first

/-- The tokens of the spans in front of a cursor are those of the text behind it, and the end. -/
theorem map_token_spans (c : Cursor) :
    c.spans.map (·.token) = Text.tokens c.rest ++ [Token.endOfText] := by
  induction c using advance_induction with
  | spaces c n blank =>
    rw [(spans_of_spaces blank).1, advance_of_spaces blank, blank, Text.tokens_spaces]
    rfl
  | lexeme c n x xs behind space ih =>
    rw [spans_of_cons behind space, List.map_cons, ih, advance_of_cons behind space, behind,
      Text.tokens_spaces_append_cons n space]
    rfl

/-- The sequence gives the tokens of the spans in front of the cursor, or nothing any more. -/
theorem tokens_eq_map_spans (c : Cursor) :
    c.tokens = (if c.finished then [] else c.spans).map (·.token) := by
  cases running : c.finished with
  | true => exact tokens_of_finished running
  | false => exact (c.tokens_eq running).trans c.map_token_spans.symm

/-! ## A place in a stream -/

/-- A cursor that has read `count` tokens of a stream. -/
structure IsAt (stream : List Spanned) (count : Nat) (c : Cursor) : Prop where
  ahead : c.spans = stream.drop (min count (stream.length - 1))
  position : Stream.position? stream count = some c.position

variable {stream : List Spanned} {c : Cursor}

theorem IsAt.start (source : Text) : IsAt (tokenizeSpanned source) 0 (Cursor.start source) := by
  refine ⟨?_, rfl⟩
  rw [Nat.zero_min, List.drop_zero]
  rfl

theorem IsAt.finish {count : Nat} (place : IsAt stream count c) (b : Bool) :
    IsAt stream count { c with finished := b } :=
  ⟨(c.spans_finish b).trans place.ahead, place.position⟩

/-- A cursor reads what stands at its place in the stream, and moves on to the next. -/
theorem IsAt.advance {count : Nat} (place : IsAt stream count c) :
    Stream.token? stream count = some c.advance.1 ∧ IsAt stream (count + 1) c.advance.2 := by
  have found : Stream.token? stream count = some c.advance.1 := by
    rw [← c.head?_spans, place.ahead, List.head?_drop]
    rfl
  refine ⟨found, ?_, ?_⟩
  · have left := congrArg List.length place.ahead
    rw [List.length_drop] at left
    rcases c.spans_advance with going | ⟨ending, again⟩
    · -- something is left, so that the place was not the last
      have more := List.length_pos_iff.2 c.advance.2.spans_ne_nil
      rw [going, List.length_cons] at left
      have next : min (count + 1) (stream.length - 1) = min count (stream.length - 1) + 1 := by
        omega
      rw [next, ← List.tail_drop, ← place.ahead, going]
      rfl
    · rw [ending, List.length_singleton] at left
      have last : min (count + 1) (stream.length - 1) = min count (stream.length - 1) := by
        omega
      rw [last, ← place.ahead, again, ending]
  · rw [Stream.position?, found, position_advance]
    rfl

/-! ## One call -/

/-- A cursor that has given answers as the stream does. -/
structure IsBehind (stream : List Spanned) (earlier : List Answer) (c : Cursor) : Prop where
  place : IsAt stream (earlier.countP Answer.advances) c
  finished : c.finished = earlier.any Answer.ends

variable {earlier : List Answer}

/-- An answer that nothing is read for leaves the cursor where it is. -/
theorem IsBehind.stay (state : IsBehind stream earlier c) {a : Answer}
    (still : a.advances = false) (going : a.ends = false) : IsBehind stream (earlier ++ [a]) c := by
  refine ⟨?_, ?_⟩
  · rw [List.countP_append, List.countP_singleton, still]
    exact state.place
  · rw [List.any_append, state.finished]
    simp [going]

/-- An answer that a token is read for takes the cursor on. -/
theorem IsBehind.move {d : Cursor} {a : Answer}
    (place : IsAt stream (earlier.countP Answer.advances + 1) d) (reads : a.advances = true)
    (finished : d.finished = (earlier.any Answer.ends || a.ends)) :
    IsBehind stream (earlier ++ [a]) d := by
  refine ⟨?_, ?_⟩
  · rw [List.countP_append, List.countP_singleton, reads]
    exact place
  · rw [finished, List.any_append]
    simp

/-- A call is answered as the stream says, and the cursor behind it goes on to answer so. -/
theorem IsBehind.answer (state : IsBehind stream earlier c) (call : Call) :
    Stream.answer? stream earlier call = some (c.answer call).1 ∧
      IsBehind stream (earlier ++ [(c.answer call).1]) (c.answer call).2 := by
  obtain ⟨found, moved⟩ := state.place.advance
  have finished : c.advance.2.finished = (earlier.any Answer.ends || false) := by
    rw [finished_advance, state.finished, Bool.or_false]
  cases call with
  | token =>
    refine ⟨?_, .move moved rfl finished⟩
    rw [Stream.answer?, found]
    rfl
  | spanned =>
    refine ⟨?_, .move moved rfl finished⟩
    rw [Stream.answer?, found]
    rfl
  | next =>
    cases running : c.finished with
    | true =>
      have ended := state.finished.symm.trans running
      have stops : c.answer .next = (.next none, c) := by
        simp [Cursor.answer, next?, running]
      rw [stops]
      refine ⟨?_, state.stay rfl rfl⟩
      rw [Stream.answer?, ended]
      rfl
    | false =>
      have going := state.finished.symm.trans running
      have reads : c.answer .next = (.next (some c.advance.1.token),
          { c.advance.2 with finished := c.advance.1.token.kind == .endOfText }) := by
        rw [Cursor.answer, next?_of_running running]
      rw [reads]
      refine ⟨?_, .move (moved.finish _) rfl ?_⟩
      · rw [Stream.answer?, going, found]
        rfl
      · rw [going]
        rfl
  | position =>
    refine ⟨?_, state.stay rfl rfl⟩
    rw [Stream.answer?, state.place.position]
    rfl
  | copy =>
    refine ⟨?_, state.stay rfl rfl⟩
    rw [Stream.answer?, Cursor.answer, tokens_eq_map_spans, state.finished, state.place.ahead]

/-! ## Any sequence of calls -/

theorem length_answers (c : Cursor) (calls : List Call) :
    (c.answers calls).length = calls.length := by
  induction calls generalizing c with
  | nil => rfl
  | cons call calls ih => rw [answers, List.length_cons, ih, List.length_cons]

theorem IsBehind.answers (state : IsBehind stream earlier c) (calls : List Call) (i : Nat) :
    (c.answers calls)[i]? =
      calls[i]?.bind (Stream.answer? stream (earlier ++ (c.answers calls).take i)) := by
  induction calls generalizing earlier c i with
  | nil => rfl
  | cons call calls ih =>
    obtain ⟨same, later⟩ := state.answer call
    rw [Cursor.answers]
    cases i with
    | zero =>
      rw [List.take_zero, List.append_nil, List.getElem?_cons_zero, List.getElem?_cons_zero,
        Option.bind_some, same]
    | succ i =>
      rw [List.getElem?_cons_succ, List.getElem?_cons_succ, List.take_succ_cons,
        List.append_cons, ih later i]

theorem position_le_answer (c : Cursor) (call : Call) :
    c.position ≤ (c.answer call).2.position := by
  cases call with
  | token => exact c.position_le_advance
  | spanned => exact c.position_le_advance
  | next =>
    cases running : c.finished with
    | true => simp [answer, next?, running]
    | false =>
      rw [answer, next?_of_running running]
      exact c.position_le_advance
  | position => exact Nat.le_refl _
  | copy => exact Nat.le_refl _

theorem eq_position_of_answer {call : Call} {n : Nat} (given : (c.answer call).1 = .position n) :
    n = c.position := by
  cases call with
  | position =>
    cases given
    rfl
  | next =>
    rw [answer] at given
    split at given <;> cases given
  | token | spanned | copy => cases given

theorem position_le_of_mem_answers {calls : List Call} {n : Nat}
    (member : Answer.position n ∈ c.answers calls) : c.position ≤ n := by
  induction calls generalizing c with
  | nil => cases member
  | cons call calls ih =>
    rw [answers, List.mem_cons] at member
    rcases member with first | later
    · exact Nat.le_of_eq (eq_position_of_answer first.symm).symm
    · exact Nat.le_trans (c.position_le_answer call) (ih later)

/-- A cursor never moves back. -/
theorem pairwise_answers (c : Cursor) (calls : List Call) :
    (c.answers calls).Pairwise fun a b =>
      ∀ m n, a = .position m → b = .position n → m ≤ n := by
  induction calls generalizing c with
  | nil => exact List.Pairwise.nil
  | cons call calls ih =>
    rw [answers, List.pairwise_cons]
    refine ⟨?_, ih _⟩
    rintro b member m n here rfl
    rw [eq_position_of_answer here]
    exact Nat.le_trans (c.position_le_answer call) (position_le_of_mem_answers member)

/-- Whatever calls are made on a cursor, it reads one stream of tokens, the spans of the text: each
    call has its answer, which the stream gives for the number of tokens read before and for whether
    the sequence has ended; the position never decreases; and the sequence from the start gives the
    tokens of the whole stream. -/
theorem answers_of_stream (source : Text) (calls : List Call) :
    let stream := tokenizeSpanned source
    let answers := (Cursor.start source).answers calls
    answers.length = calls.length ∧
    (∀ i, answers[i]? = calls[i]?.bind (Stream.answer? stream (answers.take i))) ∧
    (answers.Pairwise fun a b => ∀ m n, a = .position m → b = .position n → m ≤ n) ∧
    tokenize source = stream.map (·.token) := by
  intro stream answers
  have start : IsBehind stream [] (Cursor.start source) := ⟨.start source, rfl⟩
  refine ⟨length_answers _ calls, ?_, pairwise_answers _ calls, ?_⟩
  · exact start.answers calls
  · exact tokens_eq_map_spans (Cursor.start source)

end Cursor

end Listing
