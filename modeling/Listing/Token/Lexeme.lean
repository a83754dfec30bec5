import Listing.Text.Blank
import Listing.Text.Number
import Listing.Token.Basic
import Listing.Vocabulary.Keyword
import Listing.Vocabulary.Operator

/-!
# Lexemes

A lexeme is a token together with the characters it was read from and the text that follows them.
`Lexeme.read` reads the lexeme at the start of a text that is not empty. It never fails: a character
that starts nothing known is a symbol of its own.

Main statements: `read_text_append_rest`, a lexeme and what follows it make up the text; and
`rest_length_lt`, the text that follows is shorter.
-/

namespace Listing

/-- A token, the characters it covers, and the text behind them. -/
structure Lexeme where
  token : Token
  text : Text
  rest : Text
  deriving DecidableEq, Repr

namespace Lexeme

/-- The lexeme of the given kind whose value is the characters it covers. -/
def plain (kind : TokenKind) (text rest : Text) : Lexeme := ⟨⟨kind, text⟩, text, rest⟩

/-- A string, read behind its opening quote. It ends with the next quote on the line; without one
    it takes the rest of the line. -/
def string (cs : Text) : Lexeme :=
  let inside := cs.takeWhile (fun c => c != '"' && c != '\n')
  match cs.dropWhile (fun c => c != '"' && c != '\n') with
  | '"' :: rest => plain .string ('"' :: inside ++ ['"']) rest
  | rest => plain .string ('"' :: inside) rest

/-- A number: ASCII digits with at most one point among or behind them. -/
def number (cs : Text) : Lexeme :=
  let whole := cs.takeWhile Char.isDigit
  match cs.dropWhile Char.isDigit with
  | '.' :: rest =>
    plain .digit (whole ++ '.' :: rest.takeWhile Char.isDigit) (rest.dropWhile Char.isDigit)
  | rest => plain .digit whole rest

/-- The value of a remark with the given comment, which loses the blanks around it. -/
def remarkValue (comment : Text) : Text :=
  match Text.trimBlanks comment with
  | [] => Keyword.REM.word
  | comment => Keyword.REM.word ++ ' ' :: comment

/-- A remark. It takes the rest of its line. -/
def remark (cs : Text) : Lexeme :=
  let behind := cs.drop Keyword.REM.word.length
  let comment := behind.takeWhile (· != '\n')
  ⟨⟨.keyword, remarkValue comment⟩, cs.take Keyword.REM.word.length ++ comment,
    behind.dropWhile (· != '\n')⟩

/-- The keyword `k`, read where a text starts with it. Its value is the word in lower case. -/
def keyword (k : Keyword) (cs : Text) : Lexeme :=
  if k = .REM then remark cs
  else ⟨⟨.keyword, k.word⟩, cs.take k.word.length, cs.drop k.word.length⟩

/-- Whether a character may stand in a name behind its first letter. -/
def continuesName (c : Char) : Bool := Text.isAlphanumeric c || c == '$' || c == '%'

/-- The characters of a name behind its first letter. A name stops where a keyword starts. -/
def nameTail : Text → Text
  | [] => []
  | c :: cs =>
    if continuesName c && (Keyword.at? (c :: cs)).isNone then c :: nameTail cs else []

/-- A name with first letter `c`. -/
def name (c : Char) (cs : Text) : Lexeme :=
  plain .name (c :: nameTail cs) (cs.drop (nameTail cs).length)

/-- The lexeme at the start of the text `c :: cs`. -/
def read (c : Char) (cs : Text) : Lexeme :=
  if c = '\n' then ⟨Token.newline, [c], cs⟩
  else if c = '"' then string cs
  else if c.isDigit then number (c :: cs)
  else if c = ':' then plain .colon [c] cs
  else
    match Operator.at? (c :: cs) with
    | some o => plain .symbol ((c :: cs).take o.word.length) ((c :: cs).drop o.word.length)
    | none =>
      match Keyword.at? (c :: cs) with
      | some k => keyword k (c :: cs)
      | none => if Text.isLetter c then name c cs else plain .symbol [c] cs

/-! ## A lexeme and what follows it -/

theorem string_text_append_rest (cs : Text) :
    (string cs).text ++ (string cs).rest = '"' :: cs := by
  have h := List.takeWhile_append_dropWhile (p := fun c : Char => c != '"' && c != '\n') (l := cs)
  unfold string
  split
  · next hr =>
    rw [hr] at h
    simpa [plain] using h
  · simp [plain]

theorem number_text_append_rest (cs : Text) : (number cs).text ++ (number cs).rest = cs := by
  have h := List.takeWhile_append_dropWhile (p := Char.isDigit) (l := cs)
  unfold number
  split
  · next rest hr =>
    rw [hr] at h
    simpa [plain] using h
  · simp [plain]

theorem remark_text_append_rest (cs : Text) : (remark cs).text ++ (remark cs).rest = cs := by
  simp [remark, List.append_assoc]

theorem keyword_text_append_rest (k : Keyword) (cs : Text) :
    (keyword k cs).text ++ (keyword k cs).rest = cs := by
  unfold keyword
  split
  · exact remark_text_append_rest cs
  · simp

theorem nameTail_append_drop (cs : Text) : nameTail cs ++ cs.drop (nameTail cs).length = cs := by
  fun_induction nameTail cs with
  | case1 => rfl
  | case2 c cs h ih => simpa using ih
  | case3 c cs h => rfl

theorem name_text_append_rest (c : Char) (cs : Text) :
    (name c cs).text ++ (name c cs).rest = c :: cs := by
  simp [name, plain, nameTail_append_drop]

/-- A lexeme and the text behind it make up the text it was read from. -/
theorem read_text_append_rest (c : Char) (cs : Text) :
    (read c cs).text ++ (read c cs).rest = c :: cs := by
  unfold read
  split
  · simp
  split
  · next h => rw [string_text_append_rest, h]
  split
  · exact number_text_append_rest _
  split
  · simp [plain]
  split
  · exact List.take_append_drop _ _
  split
  · exact keyword_text_append_rest _ _
  split
  · exact name_text_append_rest c cs
  · simp [plain]

theorem number_text_ne_nil {c : Char} (hc : c.isDigit = true) (cs : Text) :
    (number (c :: cs)).text ≠ [] := by
  unfold number
  split <;> simp [plain, hc]

theorem string_text_ne_nil (cs : Text) : (string cs).text ≠ [] := by
  unfold string
  split <;> simp [plain]

theorem keyword_text_ne_nil (k : Keyword) (c : Char) (cs : Text) :
    (keyword k (c :: cs)).text ≠ [] := by
  have hk : k.word.length ≠ 0 := by simp [k.word_ne_nil]
  have hrem : Keyword.REM.word.length ≠ 0 := by decide
  unfold keyword
  split
  · simp [remark, hrem]
  · simp [hk]

/-- A lexeme covers at least one character. -/
theorem read_text_ne_nil (c : Char) (cs : Text) : (read c cs).text ≠ [] := by
  unfold read
  split
  · simp
  split
  · exact string_text_ne_nil cs
  split
  · next hc => exact number_text_ne_nil hc cs
  split
  · simp [plain]
  split
  · next o _ =>
    have ho : o.word.length ≠ 0 := by simp [o.word_ne_nil]
    simp [plain, ho]
  split
  · exact keyword_text_ne_nil _ c cs
  split
  · simp [name, plain]
  · simp [plain]

/-- The text behind a lexeme is shorter than the text it was read from. -/
theorem rest_length_lt (c : Char) (cs : Text) : (read c cs).rest.length < (c :: cs).length := by
  have h := congrArg List.length (read_text_append_rest c cs)
  have hpos := List.length_pos_iff.2 (read_text_ne_nil c cs)
  rw [List.length_append] at h
  omega

end Lexeme

end Listing
