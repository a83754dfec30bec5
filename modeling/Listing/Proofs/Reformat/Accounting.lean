import Mathlib
import Listing.Proofs.Format.History
import Listing.Proofs.Program.Spread

/-!
# The log and the result

The events of a run report numbers: of lines that were built, put behind others, there before and
after splitting, and explained. They come from different places, the lines put behind others from
one visit each, and still they add up. A visit inserts one line or none, and over a whole pass the
lines inserted make up the difference, those included that are split again.

Main statements: `length_visits`, the account of a pass; `events_reformat`, all that a run reports;
and `reformat_adds_up`, by which its numbers agree with each other and with the result.
-/

namespace Listing

/-! ## Fields of events -/

namespace Event

/-- The number under a field of an event with the given message. -/
def number? (message field : String) (e : Event) : Option Nat :=
  if e.message = message then (e.fields.lookup field).map (Nat.ofDigitChars 10 · 0) else none

/-- The numbers under a field of the events with the given message, in their order. -/
def numbers (message field : String) (events : List Event) : List Nat :=
  events.filterMap (number? message field)

theorem numbers_append (message field : String) (events others : List Event) :
    numbers message field (events ++ others) =
      numbers message field events ++ numbers message field others :=
  List.filterMap_append

/-- Events with other messages do not count. -/
theorem numbers_eq_nil {message : String} {events : List Event}
    (other : ∀ e ∈ events, e.message ≠ message) (field : String) :
    numbers message field events = [] := by
  rw [numbers, List.filterMap_eq_nil_iff]
  intro e member
  exact if_neg (other e member)

end Event

/-! ## Splitting -/

/-- A visit puts at most one line behind the line it visits. -/
theorem Line.length_inserted_le (l : Line) : l.visit.inserted.length ≤ 1 := by
  obtain ⟨number, statements⟩ := l
  match statements with
  | [] => simp [visit, visitFrom]
  | [first] => simp [visit, visitFrom]
  | first :: second :: tail =>
    rw [visit, visitFrom_cons_cons]
    split <;> simp

/-- A pass visits the lines it starts with and those it inserts. -/
theorem length_visits (pending : List Line) : (visits pending).length =
    pending.length + ((visits pending).map (·.inserted.length)).sum := by
  fun_induction visits pending with
  | case1 => rfl
  | case2 l pending ih =>
    rw [List.length_cons, ih, List.length_append, List.map_cons, List.sum_cons, List.length_cons]
    omega

theorem exists_of_mem_visits {pending : List Line} {v : Visit} (member : v ∈ visits pending) :
    ∃ l : Line, v = l.visit := by
  fun_induction visits pending with
  | case1 => cases member
  | case2 l pending ih =>
    rcases List.mem_cons.1 member with rfl | later
    · exact ⟨l, rfl⟩
    · exact ih later

/-- A visit that inserts lines reports how many. -/
theorem Visit.number?_event? (v : Visit) :
    v.event?.bind (Event.number? "split statements onto new lines" "inserted") =
      if v.inserted.isEmpty then none else some v.inserted.length := by
  unfold event?
  split
  · rfl
  · simp [Event.number?, Event.message, Event.fields, List.lookup]

/-- What visits report adds up to the number of lines they insert. -/
theorem sum_numbers_visits (visited : List Visit) :
    (Event.numbers "split statements onto new lines" "inserted"
      (visited.filterMap Visit.event?)).sum = (visited.map (·.inserted.length)).sum := by
  unfold Event.numbers
  rw [List.filterMap_filterMap]
  induction visited with
  | nil => rfl
  | cons v visited ih =>
    rw [List.filterMap_cons, Visit.number?_event?, List.map_cons, List.sum_cons, ← ih]
    cases v.inserted <;> simp

/-- A pass reports one line at a time. -/
theorem exists_of_mem_events {pending : List Line} {e : Event}
    (member : e ∈ (visits pending).filterMap Visit.event?) : ∃ line, e = .lineSplit line 1 := by
  obtain ⟨v, visited, reported⟩ := List.mem_filterMap.1 member
  obtain ⟨l, rfl⟩ := exists_of_mem_visits visited
  have bound := l.length_inserted_le
  unfold Visit.event? at reported
  by_cases nothing : l.visit.inserted = []
  · simp [nothing] at reported
  · have positive := List.length_pos_iff.2 nothing
    have one : l.visit.inserted.length = 1 := by omega
    simp only [List.isEmpty_iff, nothing, if_false, one, Option.some.injEq] at reported
    exact ⟨_, reported.symm⟩

/-- The lines that a pass reports make up the difference. -/
theorem Program.length_lines_split (p : Program) :
    p.lines.length + (Event.numbers "split statements onto new lines" "inserted"
      ((visits p.lines).filterMap Visit.event?)).sum = p.split.lines.length := by
  rw [sum_numbers_visits, ← length_visits, split, List.length_map]

/-! ## Explaining -/

/-- A line gains a statement exactly if there is an explanation for it. -/
theorem Line.length_explain_eq_iff (l : Line) :
    l.explain.statements.length = l.statements.length + 1 ↔ l.explanation?.isSome = true := by
  unfold explain
  cases l.explanation? <;> simp

theorem Program.countP_explanation? (p : Program) : p.lines.countP (·.explanation?.isSome) =
    (p.lines.zip p.explain.lines).countP
      fun (l, m) => m.statements.length = l.statements.length + 1 := by
  have paired : p.lines.zip p.explain.lines = p.lines.map fun l => (l, l.explain) := by
    exact List.map_prod_left_eq_zip.symm
  rw [paired, List.countP_map]
  apply List.countP_congr
  intro l _
  simp [l.length_explain_eq_iff]

/-! ## Building -/

/-- Whether tokens open with a line number. -/
def opensNumbered : List Token → Bool
  | first :: _ => first.kind == .digit && (lineNumber? first.value).isSome
  | [] => false

theorem isSome_event?_of (first : Token) (rest : List Token) :
    (Opening.of first rest).event?.isSome = !opensNumbered (first :: rest) := by
  unfold Opening.of opensNumbered
  split
  · next digit =>
    cases number : lineNumber? first.value <;> simp [Opening.event?, digit, number]
  · next other => simp [Opening.event?, other]

/-- What is reported about the lines that tokens make up. -/
def warnings (tokens : List Token) : List Event :=
  (lineTokens tokens).filterMap fun (first, rest) => (Opening.of first rest).event?

/-- The tokens in front of the end, cut at the newlines, cuts without tokens left out. -/
def lineGroups (tokens : List Token) : List (List Token) :=
  ((tokens.takeWhile (·.kind != .endOfText)).splitOnP (·.kind == .newline)).filter (· ≠ [])

/-- There is a warning for every line that does not open with its number. -/
theorem length_warnings (tokens : List Token) :
    (warnings tokens).length = (lineGroups tokens).countP (!opensNumbered ·) := by
  unfold warnings lineTokens lineGroups
  dsimp only
  rw [List.length_filterMap_eq_countP]
  simp only [isSome_event?_of]
  generalize List.splitOnP _ _ = groups
  induction groups with
  | nil => rfl
  | cons group groups ih =>
    cases group with
    | nil => simpa using ih
    | cons first rest => simpa [List.countP_cons] using ih

theorem level_of_mem_warnings {tokens : List Token} {e : Event} (member : e ∈ warnings tokens) :
    e.level = .warn := by
  obtain ⟨⟨first, rest⟩, -, reported⟩ := List.mem_filterMap.1 member
  cases opening : Opening.of first rest with
  | numbered n rest => simp [opening, Opening.event?] at reported
  | outOfRange digits =>
    simp only [opening, Opening.event?, Option.some.injEq] at reported
    rw [← reported]
    rfl
  | unnumbered first =>
    simp only [opening, Opening.event?, Option.some.injEq] at reported
    rw [← reported]
    rfl

/-- Warnings have two messages. -/
theorem numbers_warnings {message : String}
    (quiet : message ≠ "line number out of range, using 0" ∧
      message ≠ "line does not start with a line number, using 0")
    (field : String) (tokens : List Token) :
    Event.numbers message field (warnings tokens) = [] := by
  apply Event.numbers_eq_nil
  intro e member
  have level := level_of_mem_warnings member
  cases e with
  | numberOutOfRange value => exact quiet.1.symm
  | numberMissing first => exact quiet.2.symm
  | _ => cases level

/-! ## A whole run -/

namespace Registry

/-- The events of a run that splits and explains lines. -/
theorem events_reformat {format : Text} (noDump : TokenFormat.ofName? format = none)
    (r : Registry) (source : Text) :
    let p := Program.ofText source
    (r.reformat ⟨true, true⟩ format source).events =
      [.tokenized (tokenize source).length] ++ warnings (tokenize source) ++
        [.built p.lines.length] ++ (visits p.lines).filterMap Visit.event? ++
        [.splitDone p.lines.length p.split.lines.length,
          .explained (p.split.lines.countP (·.explanation?.isSome))] := by
  unfold reformat
  rw [noDump]
  simp [Program.build, Program.splitStep, Program.explainStep, warnings, Program.ofText]

/-- The numbers of the events that come once in a run. -/
theorem numbers_reformat {format : Text} (noDump : TokenFormat.ofName? format = none)
    (r : Registry) (source : Text) {message : String}
    (quiet : message ≠ "line number out of range, using 0" ∧
      message ≠ "line does not start with a line number, using 0")
    (other : message ≠ "split statements onto new lines") (field : String) :
    let p := Program.ofText source
    Event.numbers message field (r.reformat ⟨true, true⟩ format source).events =
      Event.numbers message field [.tokenized (tokenize source).length, .built p.lines.length,
        .splitDone p.lines.length p.split.lines.length,
        .explained (p.split.lines.countP (·.explanation?.isSome))] := by
  have warned := numbers_warnings quiet field (tokenize source)
  have moved : Event.numbers message field
      ((visits (Program.ofText source).lines).filterMap Visit.event?) = [] := by
    apply Event.numbers_eq_nil
    intro e member
    obtain ⟨line, rfl⟩ := exists_of_mem_events member
    exact other.symm
  rw [events_reformat noDump]
  simp only [Event.numbers_append, warned, moved, List.append_nil]
  simp only [← Event.numbers_append, List.cons_append, List.nil_append]

/-- The reports of inserted lines are those of the pass that splits lines. -/
theorem numbers_inserted_reformat {format : Text} (noDump : TokenFormat.ofName? format = none)
    (r : Registry) (source : Text) :
    let inserting := "split statements onto new lines"
    Event.numbers inserting "inserted" (r.reformat ⟨true, true⟩ format source).events =
      Event.numbers inserting "inserted"
        ((visits (Program.ofText source).lines).filterMap Visit.event?) := by
  have warned : Event.numbers "split statements onto new lines" "inserted"
      (warnings (tokenize source)) = [] := numbers_warnings (by decide) _ _
  rw [events_reformat noDump]
  simp only [Event.numbers_append, warned]
  simp [Event.numbers, Event.number?, Event.message]

theorem exists_lineSplit_of_mem {format : Text} (noDump : TokenFormat.ofName? format = none)
    {r : Registry} {source : Text} {e : Event}
    (member : e ∈ (r.reformat ⟨true, true⟩ format source).events)
    (inserting : e.message = "split statements onto new lines") :
    ∃ line, e = .lineSplit line 1 := by
  cases e with
  | lineSplit line inserted =>
    have quiet : .lineSplit line inserted ∉ warnings (tokenize source) := by
      intro warned
      cases level_of_mem_warnings warned
    rw [events_reformat noDump] at member
    exact exists_of_mem_events (by simpa [quiet] using member)
  | _ => simp [Event.message] at inserting

/-- Only building warns. -/
theorem countP_warn_reformat {format : Text} (noDump : TokenFormat.ofName? format = none)
    (r : Registry) (source : Text) :
    (r.reformat ⟨true, true⟩ format source).events.countP (·.level == .warn) =
      (warnings (tokenize source)).length := by
  have warned : (warnings (tokenize source)).countP (·.level == .warn) =
      (warnings (tokenize source)).length := by
    rw [List.countP_eq_length]
    intro e member
    rw [level_of_mem_warnings member]
    rfl
  have moved : ((visits (Program.ofText source).lines).filterMap Visit.event?).countP
      (·.level == .warn) = 0 := by
    rw [List.countP_eq_zero]
    intro e member
    obtain ⟨line, rfl⟩ := exists_of_mem_events member
    simp [Event.level]
  rw [events_reformat noDump]
  simp only [List.countP_append, warned, moved]
  simp [Event.level]

/-- The log of a run that splits and explains lines adds up with its result. As many lines are built
    as there are before splitting. Every report of inserted lines is of one line, and together they
    make up the lines there are more after splitting. As many lines are explained as end up with one
    statement more than after splitting, and there is a warning for every line of the source that
    holds tokens and does not open with its number. -/
theorem reformat_adds_up {format : Text} (tagged : format ≠ TokenFormat.taggedName)
    (json : format ≠ TokenFormat.jsonName) (r : Registry) (source : Text) :
    let run := r.reformat ⟨true, true⟩ format source
    let p := Program.ofText source
    run.result = r.serialize p.split.explain format ∧
    Event.numbers "built program" "lines" run.events = [p.lines.length] ∧
    Event.numbers "split lines" "before" run.events = [p.lines.length] ∧
    Event.numbers "split lines" "after" run.events = [p.split.lines.length] ∧
    (∀ e ∈ run.events, e.message = "split statements onto new lines" →
      e.fields.lookup "inserted" = some ['1']) ∧
    p.lines.length + (Event.numbers "split statements onto new lines" "inserted" run.events).sum =
      p.split.lines.length ∧
    Event.numbers "added explanations" "annotated" run.events =
      [(p.split.lines.zip p.split.explain.lines).countP
        fun (l, m) => m.statements.length = l.statements.length + 1] ∧
    run.events.countP (·.level == .warn) =
      (lineGroups (tokenize source)).countP (!opensNumbered ·) := by
  intro run p
  have noDump : TokenFormat.ofName? format = none := by simp [TokenFormat.ofName?, tagged, json]
  refine ⟨reformat_result noDump r _ source, ?built, ?before, ?after, ?one, ?sum, ?annotated, ?warned⟩
  case built | before | after =>
    rw [numbers_reformat noDump r source (by decide) (by decide)]
    simp [Event.numbers, Event.number?, Event.message, Event.fields, List.lookup, p]
  case one =>
    intro e member inserting
    obtain ⟨line, rfl⟩ := exists_lineSplit_of_mem noDump member inserting
    rfl
  case sum =>
    rw [numbers_inserted_reformat noDump]
    exact p.length_lines_split
  case annotated =>
    rw [numbers_reformat noDump r source (by decide) (by decide), ← p.split.countP_explanation?]
    simp [Event.numbers, Event.number?, Event.message, Event.fields, p]
  case warned =>
    rw [← length_warnings]
    exact countP_warn_reformat noDump r source

/-- A line that is split twice, one without a number and one whose number is too large. -/
theorem reformat_adds_up_split_twice :
    let source := "10 print 1:print 2:poke 53280,0\nfoo:bar\n4294967296 end".toList
    let run := (standard RenderOptions.default).reformat ⟨true, true⟩ "basic".toList source
    "basic".toList ≠ TokenFormat.taggedName ∧ "basic".toList ≠ TokenFormat.jsonName ∧
    Event.numbers "split lines" "before" run.events = [3] ∧
    Event.numbers "split lines" "after" run.events = [6] ∧
    (Event.numbers "split statements onto new lines" "inserted" run.events).sum = 3 ∧
    Event.numbers "added explanations" "annotated" run.events = [3] ∧
    run.events.countP (·.level == .warn) = 2 := by
  intro source run
  have tagged : "basic".toList ≠ TokenFormat.taggedName := by decide
  have json : "basic".toList ≠ TokenFormat.jsonName := by decide
  obtain ⟨-, -, before, after, -, sum, annotated, warned⟩ :=
    reformat_adds_up tagged json (standard RenderOptions.default) source
  have built : (Program.ofText source).lines.length = 3 := by decide +kernel
  have split : (Program.ofText source).split.lines.length = 6 := by decide +kernel
  rw [built] at before
  rw [split] at after
  rw [built, split] at sum
  refine ⟨tagged, json, before, after, ?_, annotated.trans ?_, warned.trans ?_⟩
  · exact Nat.add_left_cancel (sum : 3 + _ = 3 + 3)
  · decide +kernel
  · decide +kernel

end Registry

end Listing
