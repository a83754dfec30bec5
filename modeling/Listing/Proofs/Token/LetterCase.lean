import Listing.Proofs.Text.LineEnding
import Listing.Proofs.Token.Spans

/-!
# The case of letters

A text is read alike whatever the case of its letters. Each recogniser gives on a text in lower case
what it gives on the text itself, in lower case, and so does a cursor. Two texts that differ in the
case of ASCII letters alone are the same in lower case.

Main statements: `Lexeme.read_toLower`, one lexeme; `tokenizeSpanned_toLower`, all tokens of a text;
and `tokenizeSpanned_sameLetters`, the tokens of two texts.
-/

namespace Listing

namespace Text

/-! ## Characters -/

/-- What is alike at a letter of ASCII in either case. -/
def Caseless {α : Type} (f : Char → α) : Prop := ∀ c : Char, f c.toLower = f c

/-- Only the capital letters of ASCII have to be looked at. -/
theorem caseless_of_capitals {α : Type} {f : Char → α}
    (capitals : ∀ n ∈ List.range' 65 26, f (Char.ofNat n).toLower = f (Char.ofNat n)) :
    Caseless f := by
  intro c
  by_cases upper : c.isUpper = true
  · have bounds : 65 ≤ c.toNat ∧ c.toNat ≤ 90 := by
      simpa [Char.isUpper, UInt32.le_iff_toNat_le] using upper
    have same := capitals c.toNat (List.mem_range'_1.2 ⟨bounds.1, by omega⟩)
    rwa [Char.ofNat_toNat] at same
  · rw [Char.toLower_eq_of_not_isUpper upper]

theorem caseless_isDigit : Caseless Char.isDigit := caseless_of_capitals (by decide +kernel)

theorem caseless_isLetter : Caseless isLetter := caseless_of_capitals (by decide +kernel)

theorem caseless_isBlank : Caseless isBlank := caseless_of_capitals (by decide +kernel)

theorem caseless_utf8Size : Caseless Char.utf8Size := caseless_of_capitals (by decide +kernel)

/-! ## Texts -/

theorem toLower_cons (c : Char) (t : Text) : toLower (c :: t) = c.toLower :: toLower t := rfl

theorem toLower_append (s t : Text) : toLower (s ++ t) = toLower s ++ toLower t :=
  List.map_append

theorem toLower_spaces (n : Nat) : toLower (spaces n) = spaces n := List.map_replicate

theorem take_toLower (n : Nat) (t : Text) : (toLower t).take n = toLower (t.take n) :=
  List.map_take.symm

theorem drop_toLower (n : Nat) (t : Text) : (toLower t).drop n = toLower (t.drop n) :=
  List.map_drop.symm

theorem toLower_toLower (t : Text) : toLower (toLower t) = toLower t := by
  simp [toLower]

theorem byteLength_toLower (t : Text) : (toLower t).byteLength = t.byteLength := by
  induction t with
  | nil => rfl
  | cons c t ih => rw [toLower_cons, byteLength_cons, byteLength_cons, caseless_utf8Size, ih]

section Runs

variable {p : Char → Bool} (caseless : Caseless p)
include caseless

theorem takeWhile_toLower (t : Text) : (toLower t).takeWhile p = toLower (t.takeWhile p) := by
  have same : p ∘ Char.toLower = p := funext caseless
  rw [toLower, List.takeWhile_map, same]
  rfl

theorem dropWhile_toLower (t : Text) : (toLower t).dropWhile p = toLower (t.dropWhile p) := by
  have same : p ∘ Char.toLower = p := funext caseless
  rw [toLower, List.dropWhile_map, same]
  rfl

theorem trimEnd_toLower (t : Text) : trimEnd p (toLower t) = toLower (trimEnd p t) := by
  have back : (toLower t).reverse = toLower t.reverse := List.map_reverse.symm
  rw [trimEnd, back, dropWhile_toLower caseless]
  exact List.map_reverse.symm

end Runs

theorem trimBlanks_toLower (t : Text) : trimBlanks (toLower t) = toLower (trimBlanks t) := by
  unfold trimBlanks trim
  rw [dropWhile_toLower caseless_isBlank, trimEnd_toLower caseless_isBlank]

theorem unifyLineEndings_toLower (t : Text) :
    unifyLineEndings (toLower t) = toLower (unifyLineEndings t) := by
  fun_induction unifyLineEndings t with
  | case1 => rfl
  | case2 t ih =>
    have start : toLower ('\r' :: '\n' :: t) = '\r' :: '\n' :: toLower t := rfl
    rw [start, unifyLineEndings, ih]
    rfl
  | case3 c t other ih =>
    have apart : c.toLower = '\r' → (toLower t).head? ≠ some '\n' := by
      intro carriage feed
      cases t with
      | nil => cases feed
      | cons d t =>
        rw [toLower_cons, List.head?_cons, Option.some.injEq] at feed
        exact other t (eq_of_toLower_eq carriage rfl) (by rw [eq_of_toLower_eq feed rfl])
    rw [toLower_cons, unifyLineEndings_cons apart, ih, toLower_cons]
    by_cases carriage : c = '\r'
    · subst carriage
      rfl
    · have lower : c.toLower ≠ '\r' := fun same => carriage (eq_of_toLower_eq same rfl)
      rw [if_neg carriage, if_neg lower]

end Text

/-- A token with its value in lower case. -/
def Token.toLower (t : Token) : Token := { t with value := Text.toLower t.value }

namespace Lexeme

/-- A lexeme with all its text in lower case. -/
def toLower (l : Lexeme) : Lexeme := ⟨l.token.toLower, Text.toLower l.text, Text.toLower l.rest⟩

theorem plain_toLower (kind : TokenKind) (text rest : Text) :
    (plain kind text rest).toLower = plain kind (Text.toLower text) (Text.toLower rest) := rfl

/-! ## One recogniser after the other -/

theorem string_toLower (cs : Text) : string (Text.toLower cs) = (string cs).toLower := by
  have caseless : Text.Caseless fun c => c != '"' && c != '\n' :=
    Text.caseless_of_capitals (by decide +kernel)
  unfold string
  rw [Text.takeWhile_toLower caseless, Text.dropWhile_toLower caseless]
  cases cs.dropWhile (fun c => c != '"' && c != '\n') with
  | nil => rfl
  | cons x rest =>
    by_cases quote : x = '"'
    · subst quote
      change plain .string ('"' :: Text.toLower _ ++ ['"']) (Text.toLower rest) =
        (plain .string ('"' :: _ ++ ['"']) rest).toLower
      rw [plain_toLower, Text.toLower_append]
      rfl
    · have lower : x.toLower ≠ '"' := fun same => quote (eq_of_toLower_eq same rfl)
      simp [plain_toLower, Text.toLower_cons, quote, lower]

theorem number_toLower (cs : Text) : number (Text.toLower cs) = (number cs).toLower := by
  have digits := Text.takeWhile_toLower Text.caseless_isDigit
  have behind := Text.dropWhile_toLower Text.caseless_isDigit
  unfold number
  rw [digits, behind]
  cases cs.dropWhile Char.isDigit with
  | nil => rfl
  | cons x rest =>
    by_cases point : x = '.'
    · subst point
      change plain .digit (Text.toLower _ ++ '.' :: (Text.toLower rest).takeWhile Char.isDigit)
          ((Text.toLower rest).dropWhile Char.isDigit) =
        (plain .digit (_ ++ '.' :: rest.takeWhile Char.isDigit) (rest.dropWhile Char.isDigit)).toLower
      rw [digits, behind, plain_toLower, Text.toLower_append]
      rfl
    · have lower : x.toLower ≠ '.' := fun same => point (eq_of_toLower_eq same rfl)
      simp [plain_toLower, Text.toLower_cons, point, lower]

theorem remarkValue_toLower (comment : Text) :
    remarkValue (Text.toLower comment) = Text.toLower (remarkValue comment) := by
  rw [remarkValue_eq, remarkValue_eq, Text.trimBlanks_toLower]
  by_cases nothing : Text.trimBlanks comment = []
  · rw [nothing]
    rfl
  · have something : Text.toLower (Text.trimBlanks comment) ≠ [] := by
      simpa [Text.toLower] using nothing
    rw [if_neg nothing, if_neg something, Text.toLower_append]
    rfl

theorem remark_toLower (cs : Text) : remark (Text.toLower cs) = (remark cs).toLower := by
  have caseless : Text.Caseless (· != '\n') := Text.caseless_of_capitals (by decide +kernel)
  unfold remark toLower
  dsimp only
  rw [Text.take_toLower, Text.drop_toLower, Text.takeWhile_toLower caseless,
    Text.dropWhile_toLower caseless, remarkValue_toLower, Text.toLower_append]
  rfl

theorem keyword_toLower (k : Keyword) (cs : Text) :
    keyword k (Text.toLower cs) = (keyword k cs).toLower := by
  unfold keyword
  split_ifs
  · exact remark_toLower cs
  · unfold toLower Token.toLower
    dsimp only
    rw [k.toLower_word, Text.take_toLower, Text.drop_toLower]

theorem caseless_continuesName : Text.Caseless continuesName :=
  Text.caseless_of_capitals (by decide +kernel)

theorem nameTail_toLower (cs : Text) : nameTail (Text.toLower cs) = Text.toLower (nameTail cs) := by
  induction cs with
  | nil => rfl
  | cons c cs ih =>
    have word := Keyword.at?_toLower (c :: cs)
    rw [Text.toLower_cons] at word ⊢
    rw [nameTail, nameTail, caseless_continuesName, word, ih]
    split_ifs <;> rfl

theorem name_toLower (c : Char) (cs : Text) :
    name c.toLower (Text.toLower cs) = (name c cs).toLower := by
  have length : (Text.toLower (nameTail cs)).length = (nameTail cs).length := List.length_map _
  unfold name
  rw [nameTail_toLower, length, Text.drop_toLower]
  rfl

/-! ## Every lexeme -/

theorem OpensWord.toLower {c : Char} (opens : OpensWord c) : OpensWord c.toLower := by
  obtain ⟨line, quote, digit, colon⟩ := opens
  refine ⟨?_, ?_, ?_, ?_⟩
  · exact fun same => line (eq_of_toLower_eq same rfl)
  · exact fun same => quote (eq_of_toLower_eq same rfl)
  · rw [Text.caseless_isDigit, digit]
  · exact fun same => colon (eq_of_toLower_eq same rfl)

/-- In lower case a lexeme is recognised in the same way. -/
theorem Recognised.toLower {c : Char} {cs : Text} {l : Lexeme} (recognised : Recognised c cs l) :
    Recognised c.toLower (Text.toLower cs) l.toLower := by
  have operator := Operator.at?_toLower (c :: cs)
  have word := Keyword.at?_toLower (c :: cs)
  rw [Text.toLower_cons] at operator word
  cases recognised with
  | newline line =>
    subst line
    exact .newline rfl
  | string quote =>
    subst quote
    rw [← string_toLower]
    exact .string rfl
  | number digit =>
    rw [← number_toLower]
    exact .number (by rw [Text.caseless_isDigit, digit])
  | colon colon =>
    subst colon
    exact .colon rfl
  | operator o opens found =>
    have same := Recognised.operator o opens.toLower (operator.trans found)
    rwa [← Text.toLower_cons, Text.take_toLower, Text.drop_toLower, ← plain_toLower] at same
  | keyword k opens noOperator found =>
    rw [← keyword_toLower]
    exact .keyword k opens.toLower (operator.trans noOperator) (word.trans found)
  | name opens noOperator noKeyword letter =>
    rw [← name_toLower]
    exact .name opens.toLower (operator.trans noOperator) (word.trans noKeyword)
      (by rw [Text.caseless_isLetter, letter])
  | other opens noOperator noKeyword noLetter =>
    exact .other opens.toLower (operator.trans noOperator) (word.trans noKeyword)
      (by rw [Text.caseless_isLetter, noLetter])

/-- A lexeme is read alike in lower case. -/
theorem read_toLower (c : Char) (cs : Text) :
    read c.toLower (Text.toLower cs) = (read c cs).toLower :=
  (recognised_read c cs).toLower.read_eq

end Lexeme

/-! ## Cursors -/

/-- A spanned token with its value in lower case. -/
def Spanned.toLower (s : Spanned) : Spanned := { s with token := s.token.toLower }

namespace Cursor

/-- A cursor at the same place of its text in lower case. -/
def toLower (c : Cursor) : Cursor :=
  { c with text := Text.toLower c.text, rest := Text.toLower c.rest }

theorem start_toLower (source : Text) : start (Text.toLower source) = (start source).toLower := by
  unfold start
  rw [Text.unifyLineEndings_toLower]
  rfl

theorem advance_toLower (c : Cursor) :
    c.toLower.advance = (c.advance.1.toLower, c.advance.2.toLower) := by
  have caseless : Text.Caseless (· == ' ') := Text.caseless_of_capitals (by decide +kernel)
  unfold advance
  dsimp only [toLower]
  rw [Text.takeWhile_toLower caseless, Text.dropWhile_toLower caseless]
  have length : (Text.toLower (c.rest.takeWhile (· == ' '))).length =
      (c.rest.takeWhile (· == ' ')).length := List.length_map _
  rw [length]
  cases c.rest.dropWhile (· == ' ') with
  | nil => rfl
  | cons x xs =>
    rw [Text.toLower_cons]
    dsimp only
    rw [Lexeme.read_toLower]
    unfold Lexeme.toLower
    dsimp only
    rw [Text.byteLength_toLower]
    rfl

theorem spans_toLower (c : Cursor) : c.toLower.spans = c.spans.map Spanned.toLower := by
  have read := advance_toLower
  induction c using advance_induction with
  | spaces c n blank =>
    have lower : c.toLower.rest = Text.spaces n := by
      rw [toLower, blank, Text.toLower_spaces]
    rw [(spans_of_spaces blank).1, (spans_of_spaces lower).1, read]
    rfl
  | lexeme c n x xs behind space ih =>
    have lower : c.toLower.rest = Text.spaces n ++ x.toLower :: Text.toLower xs := by
      rw [toLower, behind, Text.toLower_append, Text.toLower_spaces, Text.toLower_cons]
    have stops : x.toLower ≠ ' ' := fun same => space (eq_of_toLower_eq same rfl)
    rw [spans_of_cons behind space, spans_of_cons lower stops, read, List.map_cons, ← ih]

end Cursor

theorem tokenizeSpanned_toLower (source : Text) :
    tokenizeSpanned (Text.toLower source) = (tokenizeSpanned source).map Spanned.toLower := by
  unfold tokenizeSpanned
  rw [Cursor.start_toLower, Cursor.spans_toLower]

/-! ## Two texts -/

/-- A remark stays one in lower case. -/
theorem Token.isRemark_toLower {t : Token} (remark : t.isRemark = true) :
    t.toLower.isRemark = true := by
  rw [isRemark, Bool.and_eq_true, List.isPrefixOf_iff_prefix] at remark ⊢
  exact ⟨remark.1, remark.2.map Char.toLower⟩

/-- The keywords that are read from a text are in lower case, the comments of remarks excepted. -/
theorem toLower_eq_of_mem_tokenizeSpanned {source : Text} {s : Spanned}
    (member : s ∈ tokenizeSpanned source) (keyword : s.token.kind = .keyword)
    (remark : s.token.isRemark = false) : s.token.toLower = s.token := by
  have covers : Covers [] _ (tokenizeSpanned source) := Cursor.covers_spans (Cursor.start source) rfl
  obtain ⟨piece, -, spelled⟩ := covers.exists_slice? s member
  have value := spelled.keyword keyword remark
  unfold Token.toLower
  rw [value, Text.toLower_toLower, ← value]

/-- Two tokens that differ in the case of letters alone. They are of the same kind and span the same
    bytes, and a keyword that is no remark is the same in both. -/
structure Spanned.SameLetters (a b : Spanned) : Prop where
  kind : a.token.kind = b.token.kind
  start : a.start = b.start
  stop : a.stop = b.stop
  keyword : a.token.kind = .keyword → a.token.isRemark = false → a.token.value = b.token.value
  value : Text.toLower a.token.value = Text.toLower b.token.value

theorem Spanned.toLower_eq_iff {a b : Spanned} : a.toLower = b.toLower ↔
    a.token.toLower = b.token.toLower ∧ a.start = b.start ∧ a.stop = b.stop := by
  simp [Spanned.toLower]

theorem Token.toLower_eq_iff {t u : Token} : t.toLower = u.toLower ↔
    t.kind = u.kind ∧ Text.toLower t.value = Text.toLower u.value := by
  simp [Token.toLower]

theorem Spanned.sameLetters_of_toLower_eq {a b : Spanned} (same : a.toLower = b.toLower)
    (first : a.token.kind = .keyword → a.token.isRemark = false → a.token.toLower = a.token)
    (second : b.token.kind = .keyword → b.token.isRemark = false → b.token.toLower = b.token) :
    a.SameLetters b := by
  obtain ⟨tokens, start, stop⟩ := toLower_eq_iff.1 same
  obtain ⟨kind, value⟩ := Token.toLower_eq_iff.1 tokens
  refine ⟨kind, start, stop, ?_, value⟩
  intro keyword remark
  have lower := first keyword remark
  -- a remark on one side only would show in lower case
  have noRemark : b.token.isRemark = false := by
    rw [Bool.eq_false_iff]
    intro marked
    have stays := Token.isRemark_toLower marked
    rw [← tokens, lower, remark] at stays
    cases stays
  rw [← lower, tokens, second (kind ▸ keyword) noRemark]

/-- Texts that differ in the case of ASCII letters alone have the same tokens at the same places, but
    for the case of letters in names, strings and comments. -/
theorem tokenizeSpanned_sameLetters {s t : Text} (same : Text.toLower s = Text.toLower t) :
    List.Forall₂ Spanned.SameLetters (tokenizeSpanned s) (tokenizeSpanned t) := by
  have lower : (tokenizeSpanned s).map Spanned.toLower =
      (tokenizeSpanned t).map Spanned.toLower := by
    rw [← tokenizeSpanned_toLower, ← tokenizeSpanned_toLower, same]
  rw [← List.forall₂_eq_eq_eq, List.forall₂_map_left_iff, List.forall₂_map_right_iff,
    List.forall₂_iff_zip] at lower
  rw [List.forall₂_iff_zip]
  refine ⟨lower.1, ?_⟩
  intro a b pair
  obtain ⟨left, right⟩ := List.of_mem_zip pair
  exact Spanned.sameLetters_of_toLower_eq (lower.2 pair) (toLower_eq_of_mem_tokenizeSpanned left)
    (toLower_eq_of_mem_tokenizeSpanned right)

theorem tokenizeSpanned_sameLetters_mixed :
    let s := "10 PrintÉ\"Hi\":Rem So".toList
    let t := "10 pRINTÉ\"hI\":rEM sO".toList
    Text.toLower s = Text.toLower t ∧
      List.Forall₂ Spanned.SameLetters (tokenizeSpanned s) (tokenizeSpanned t) := by
  intro s t
  have same : Text.toLower s = Text.toLower t := by decide
  exact ⟨same, tokenizeSpanned_sameLetters same⟩

end Listing
