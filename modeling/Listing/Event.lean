import Listing.Program.Reading
import Listing.Program.Split

/-!
# Events

What happens to a listing is recorded as a sequence of events, from the reading of the source to the
last change of the program. An event has a level, the part it comes from, a message and named values.
-/

namespace Listing

/-- How much an event matters. -/
inductive Level where
  | debug | warn
  deriving DecidableEq, Repr

/-- Something that happened. -/
inductive Event where
  /-- The source was read as so many tokens. -/
  | tokenized (tokens : Nat)
  /-- A line opens with digits that are no line number. -/
  | numberOutOfRange (value : Text)
  /-- A line opens with a token that is no number. -/
  | numberMissing (first : Text)
  /-- The tokens made up so many lines. -/
  | built (lines : Nat)
  /-- Lines were put behind a line that was split. -/
  | lineSplit (line : UInt32) (inserted : Nat)
  /-- Splitting changed the number of lines. -/
  | splitDone (before after : Nat)
  /-- So many lines were explained. -/
  | explained (annotated : Nat)
  deriving DecidableEq, Repr

/-- The parts of the program that report events. -/
inductive Origin where
  | building | splitting | explaining | processor
  deriving DecidableEq, Repr

namespace Event

/-- The level of an event: what is wrong with a listing is a warning. -/
def level : Event → Level
  | .numberOutOfRange _ | .numberMissing _ => .warn
  | _ => .debug

/-- The part that reports an event. -/
def origin : Event → Origin
  | .tokenized _ | .splitDone _ _ => .processor
  | .numberOutOfRange _ | .numberMissing _ | .built _ => .building
  | .lineSplit _ _ => .splitting
  | .explained _ => .explaining

/-- The message of an event. -/
def message : Event → String
  | .tokenized _ => "tokenized source"
  | .numberOutOfRange _ => "line number out of range, using 0"
  | .numberMissing _ => "line does not start with a line number, using 0"
  | .built _ => "built program"
  | .lineSplit _ _ => "split statements onto new lines"
  | .splitDone _ _ => "split lines"
  | .explained _ => "added explanations"

/-- The named values of an event. -/
def fields : Event → List (String × Text)
  | .tokenized tokens => [("tokens", Text.ofNat tokens)]
  | .numberOutOfRange value => [("value", value)]
  | .numberMissing first => [("first", first)]
  | .built lines => [("lines", Text.ofNat lines)]
  | .lineSplit line inserted =>
    [("line", Text.ofNat line.toNat), ("inserted", Text.ofNat inserted)]
  | .splitDone before after => [("before", Text.ofNat before), ("after", Text.ofNat after)]
  | .explained annotated => [("annotated", Text.ofNat annotated)]

end Event

namespace Opening

/-- What is reported about the opening of a line. -/
def event? : Opening → Option Event
  | .numbered _ _ => none
  | .outOfRange digits => some (.numberOutOfRange digits)
  | .unnumbered first => some (.numberMissing first)

end Opening

namespace Visit

/-- What is reported about a visit to a line. -/
def event? (v : Visit) : Option Event :=
  if v.inserted.isEmpty then none else some (.lineSplit v.kept.number v.inserted.length)

end Visit

end Listing
