import Mathlib
import Listing.Format.Registry
import Listing.Text.Digits
import Listing.Token.Dump

/-!
# Documents that determine what they show

A way of writing values is delimited if the text written for a value shows where it ends: whatever
follows two such texts, they can be the same only for the same value. A string ends with the first
quote that is not escaped. The members of an array stand in front of a comma each, but for the last
one. So from the characters of a string to the lines of a program everything in a JSON document is
delimited by the way its parts are.

Main statements: `delimited_string`, `delimited_array`; and `serialize_json_eq_iff`, by which the JSON
documents of programs and of token lists determine them.
-/

namespace Listing

/-- Values are written so that what is written for one shows where it ends. -/
def Delimited {α : Type} (write : α → Text) : Prop :=
  ∀ ⦃a b : α⦄ ⦃rest other : Text⦄, write a ++ rest = write b ++ other → a = b ∧ rest = other

namespace Delimited

variable {α β : Type} {f : α → Text} {g : β → Text}

theorem injective (delimited : Delimited f) : Function.Injective f := by
  intro a b same
  exact (delimited (congrArg (· ++ []) same)).1

/-- What can be read back in front of any text is delimited. -/
theorem of_read {read : Text → Option (α × Text)}
    (reads : ∀ a rest, read (f a ++ rest) = some (a, rest)) : Delimited f := by
  intro a b rest other same
  have equal := congrArg read same
  rw [reads, reads, Option.some.injEq, Prod.mk.injEq] at equal
  exact equal

/-- A fixed text may stand in front. -/
theorem prepend (delimited : Delimited f) (front : Text) : Delimited fun a => front ++ f a := by
  intro a b rest other same
  simp only [List.append_assoc, List.append_cancel_left_eq] at same
  exact delimited same

/-- A fixed text may stand behind. -/
theorem concat (delimited : Delimited f) (back : Text) : Delimited fun a => f a ++ back := by
  intro a b rest other same
  simp only [List.append_assoc] at same
  obtain ⟨equal, same⟩ := delimited same
  exact ⟨equal, List.append_cancel_left same⟩

/-- One value may be written behind the other. -/
theorem append (first : Delimited f) (second : Delimited g) :
    Delimited fun p : α × β => f p.1 ++ g p.2 := by
  intro a b rest other same
  simp only [List.append_assoc] at same
  obtain ⟨left, same⟩ := first same
  obtain ⟨right, same⟩ := second same
  exact ⟨Prod.ext left right, same⟩

/-- A value may be written by way of what determines it. -/
theorem comp (delimited : Delimited f) {view : β → α} (injective : Function.Injective view) :
    Delimited fun b => f (view b) := by
  intro a b rest other same
  obtain ⟨equal, same⟩ := delimited same
  exact ⟨injective equal, same⟩

/-- A list is delimited by a character that nothing written for its members starts with. -/
theorem flatMap_concat (delimited : Delimited f) {closing : Char}
    (starts : ∀ a, (f a).head?.any (· != closing) = true) :
    Delimited fun as : List α => as.flatMap f ++ [closing] := by
  have differs : ∀ {a : α} {rest other : Text}, f a ++ rest ≠ closing :: other := by
    intro a rest other same
    have start := starts a
    cases written : f a with
    | nil => simp [written] at start
    | cons c cs => simp_all
  intro as
  induction as with
  | nil =>
    intro bs rest other same
    cases bs with
    | nil => simpa using same
    | cons b bs =>
      simp only [List.flatMap_nil, List.flatMap_cons, List.append_assoc] at same
      exact absurd same.symm differs
  | cons a as ih =>
    intro bs rest other same
    simp only [List.flatMap_cons, List.append_assoc] at same
    cases bs with
    | nil => exact absurd same differs
    | cons b bs =>
      simp only [List.flatMap_cons, List.append_assoc] at same
      obtain ⟨first, same⟩ := delimited same
      obtain ⟨later, same⟩ := @ih bs rest other (by simpa using same)
      exact ⟨by rw [first, later], same⟩

end Delimited

/-- A number is delimited by a character that is no digit. -/
theorem Text.delimited_ofNat {stop : Char} (digit : stop.isDigit = false) :
    Delimited fun n : Nat => ofNat n ++ [stop] := by
  have taken : ∀ (n : Nat) (rest : Text),
      (ofNat n ++ stop :: rest).takeWhile Char.isDigit = ofNat n := by
    intro n rest
    rw [List.takeWhile_append_of_pos fun c => isDigit_of_mem_ofNat]
    simp [digit]
  intro m n rest other same
  simp only [List.append_assoc, List.singleton_append] at same
  have digits := congrArg (List.takeWhile Char.isDigit) same
  rw [taken, taken] at digits
  have value := congrArg (Nat.ofDigitChars 10 · 0) digits
  simp only [ofDigitChars_ofNat] at value
  rw [digits] at same
  exact ⟨value, by simpa using same⟩

namespace Json

/-! ## Strings -/

/-- The character that an escape sequence or a plain character at the start of a text stands for,
    and the text behind it. -/
def unescape : Text → Option (Char × Text)
  | '\\' :: 'u' :: _ :: _ :: high :: low :: rest =>
    (Text.digitValue? high).bind fun h =>
      (Text.digitValue? low).map fun l => (Char.ofNat (16 * h + l), rest)
  | '\\' :: 'n' :: rest => some ('\n', rest)
  | '\\' :: 'r' :: rest => some ('\r', rest)
  | '\\' :: 't' :: rest => some ('\t', rest)
  | '\\' :: 'b' :: rest => some ('\x08', rest)
  | '\\' :: 'f' :: rest => some ('\x0c', rest)
  | '\\' :: c :: rest => some (c, rest)
  | c :: rest => some (c, rest)
  | [] => none

theorem digitValue?_hexDigit {n : Nat} (small : n < 16) :
    Text.digitValue? (hexDigit n) = some n := by
  have table : ∀ n < 16, Text.digitValue? (hexDigit n) = some n := by decide
  exact table n small

theorem unescape_escape_append (c : Char) (rest : Text) :
    unescape (escape c ++ rest) = some (c, rest) := by
  unfold escape
  split
  iterate 7 rfl
  split
  · next control =>
    have low : c.toNat % 16 < 16 := Nat.mod_lt _ (by decide)
    have high : c.toNat / 16 < 16 := by omega
    simp [unescape, digitValue?_hexDigit low, digitValue?_hexDigit high, Nat.div_add_mod]
  · simp_all [unescape]

/-- No escape sequence starts with a quote. -/
theorem head?_escape (c : Char) : (escape c).head?.any (· != '"') = true := by
  unfold escape
  split
  iterate 7 rfl
  split
  · rfl
  · simp_all

theorem delimited_string : Delimited string := by
  have characters : Delimited escape := .of_read unescape_escape_append
  have closed := characters.flatMap_concat head?_escape
  exact closed.prepend ['"']

/-! ## Arrays and objects -/

/-- What is written between brackets: the first member, the others behind a comma each, and the
    closing bracket on a line of its own. -/
theorem enclose_cons (opening closing : Char) (depth : Nat) (member : Text) (members : List Text) :
    enclose opening closing depth (member :: members) =
      opening :: '\n' :: (indent (depth + 1) ++ member ++
        (members.flatMap (fun m => ',' :: '\n' :: indent (depth + 1) ++ m) ++ ['\n']) ++
          (indent depth ++ [closing])) := by
  have joined : [',', '\n'].intercalate ((member :: members).map (indent (depth + 1) ++ ·)) =
      indent (depth + 1) ++ member ++
        members.flatMap (fun m => ',' :: '\n' :: indent (depth + 1) ++ m) := by
    induction members generalizing member with
    | nil => simp
    | cons next members ih =>
      rw [List.map_cons, List.map_cons, List.intercalate_cons_cons, ← List.map_cons, ih]
      simp
  rw [enclose, joined]
  · simp
  · simp

theorem delimited_array {α : Type} {f : α → Text} (delimited : Delimited f) (depth : Nat) :
    Delimited fun as : List α => array depth (as.map f) := by
  have later : Delimited fun as : List α =>
      as.flatMap (fun a => ',' :: '\n' :: indent (depth + 1) ++ f a) ++ ['\n'] :=
    (delimited.prepend (',' :: '\n' :: indent (depth + 1))).flatMap_concat (by simp)
  have members := (((delimited.prepend (indent (depth + 1))).append later).concat
    (indent depth ++ [']'])).prepend ['[', '\n']
  have written : ∀ a as, array depth ((a :: as).map f) = ['[', '\n'] ++ (indent (depth + 1) ++ f a ++
      (as.flatMap (fun b => ',' :: '\n' :: indent (depth + 1) ++ f b) ++ ['\n']) ++
        (indent depth ++ [']'])) := by
    intro a as
    rw [array, List.map_cons, enclose_cons, List.flatMap_map]
    rfl
  have empty : array depth ([].map f) = ['[', ']'] := rfl
  intro as bs rest other same
  dsimp only at same
  cases as with
  | nil =>
    cases bs with
    | nil => simpa [empty] using same
    | cons b bs =>
      rw [empty, written] at same
      simp at same
  | cons a as =>
    cases bs with
    | nil =>
      rw [empty, written] at same
      simp at same
    | cons b bs =>
      rw [written, written] at same
      obtain ⟨equal, same⟩ := @members (a, as) (b, bs) rest other same
      rw [Prod.mk.injEq] at equal
      exact ⟨by rw [equal.1, equal.2], same⟩

/-- What stands on the line of a field in front of its value. -/
def lead (depth : Nat) (key : String) : Text :=
  indent (depth + 1) ++ (string key.toList ++ [':', ' '])

/-- An object is delimited if its field is. -/
theorem delimited_object {α : Type} {f : α → Text} (delimited : Delimited f) (depth : Nat)
    (key : String) : Delimited fun a => object depth [(key, f a)] := by
  have field := (delimited.prepend ('\x7b' :: '\n' :: lead depth key)).concat
    ('\n' :: indent depth ++ ['\x7d'])
  intro a b rest other same
  apply field
  simpa [object, enclose_cons, lead] using same

/-- An object with two fields is delimited if they are, the first one by the comma behind it. -/
theorem delimited_object_pair {α β : Type} {f : α → Text} {g : β → Text}
    (first : Delimited fun a => f a ++ [',']) (second : Delimited g) (depth : Nat)
    (key key' : String) :
    Delimited fun p : α × β => object depth [(key, f p.1), (key', g p.2)] := by
  have fields := ((first.prepend ('\x7b' :: '\n' :: lead depth key)).append
    (second.prepend ('\n' :: lead depth key'))).concat ('\n' :: indent depth ++ ['\x7d'])
  intro a b rest other same
  apply fields
  simpa [object, enclose_cons, lead] using same

end Json

/-! ## Tokens and programs -/

theorem TokenKind.title_injective : Function.Injective title := by
  intro k l
  cases k <;> cases l <;> decide

theorem Token.delimited_toJson (depth : Nat) : Delimited (toJson depth) := by
  have kind := (Json.delimited_string.comp TokenKind.title_injective).concat [',']
  have fields := Json.delimited_object_pair kind Json.delimited_string depth "kind" "value"
  have parts : Function.Injective fun t : Token => (t.kind, t.value) := by
    rintro ⟨_, _⟩ ⟨_, _⟩ same
    simpa using same
  exact (fields.comp parts :)

theorem Statement.delimited_toJson (depth : Nat) : Delimited (toJson depth) := by
  have tokens := Json.delimited_array (Token.delimited_toJson (depth + 2)) (depth + 1)
  have content : Function.Injective Statement.content := by
    rintro ⟨_⟩ ⟨_⟩ same
    simpa using same
  exact (Json.delimited_object tokens depth "content").comp content

theorem Line.delimited_toJson (depth : Nat) : Delimited (toJson depth) := by
  have comma : (',' : Char).isDigit = false := rfl
  have numbers : Function.Injective UInt32.toNat := fun _ _ => UInt32.toNat_inj.1
  have statements := Json.delimited_array (Statement.delimited_toJson (depth + 2)) (depth + 1)
  have fields := Json.delimited_object_pair ((Text.delimited_ofNat comma).comp numbers) statements
    depth "number" "statements"
  have parts : Function.Injective fun l : Line => (l.number, l.statements) := by
    rintro ⟨_, _⟩ ⟨_, _⟩ same
    simpa using same
  exact (fields.comp parts :)

theorem Program.delimited_toJson : Delimited toJson := by
  have lines := Json.delimited_array (Line.delimited_toJson 2) 1
  have content : Function.Injective Program.lines := by
    rintro ⟨_⟩ ⟨_⟩ same
    simpa using same
  exact (Json.delimited_object lines 0 "lines").comp content

theorem TokenFormat.delimited_write_json : Delimited json.write :=
  Json.delimited_array (Token.delimited_toJson 1) 0

/-- The JSON documents of programs determine them, whatever their trees hold, and those of token
    lists do. -/
theorem serialize_json_eq_iff :
    (∀ p q : Program, Formatter.json.serialize p = Formatter.json.serialize q ↔ p = q) ∧
      ∀ tokens others : List Token,
        TokenFormat.json.write tokens = TokenFormat.json.write others ↔ tokens = others := by
  constructor
  · intro p q
    have serialized : Formatter.json.serialize p = Formatter.json.serialize q ↔
        p.toJson = q.toJson := by
      simp [Formatter.json]
    rw [serialized]
    exact Program.delimited_toJson.injective.eq_iff
  · intro tokens others
    exact TokenFormat.delimited_write_json.injective.eq_iff

end Listing
