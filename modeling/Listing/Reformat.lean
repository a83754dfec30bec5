import Listing.Event
import Listing.Format.Registry
import Listing.Program.Explain
import Listing.Token.Dump

/-!
# Reformatting

A source text goes through four steps: it is read as a program, its lines are split, they are
explained, and the program is written in a format. Splitting and explaining are done on demand. A
token dump stops after the tokens have been read.
-/

namespace Listing

/-- The steps that change a program. -/
structure ReformatOptions where
  splitLines : Bool
  addExplanations : Bool
  deriving DecidableEq, Repr

/-- The result of a run and the events on the way to it. -/
structure Logged (α : Type) where
  result : α
  events : List Event
  deriving DecidableEq, Repr

namespace Program

/-- The program that the tokens make up, with what there is to report about its lines. -/
def build (tokens : List Token) : Logged Program :=
  let warnings := (lineTokens tokens).filterMap fun (first, rest) => (Opening.of first rest).event?
  let program := ofTokens tokens
  ⟨program, warnings ++ [.built program.lines.length]⟩

/-- Splits the lines of a program on demand. -/
def splitStep (p : Program) (enabled : Bool) : Logged Program :=
  if enabled then
    let moved := (visits p.lines).filterMap Visit.event?
    ⟨p.split, moved ++ [.splitDone p.lines.length p.split.lines.length]⟩
  else ⟨p, []⟩

/-- Explains the lines of a program on demand. -/
def explainStep (p : Program) (enabled : Bool) : Logged Program :=
  if enabled then ⟨p.explain, [.explained (p.lines.countP (·.explanation?.isSome))]⟩ else ⟨p, []⟩

end Program

namespace Registry

/-- The names of all formats a source can be written in, in ascending order. -/
def availableFormats (r : Registry) : List Text :=
  (r.names ++ [TokenFormat.jsonName, TokenFormat.taggedName]).mergeSort (compare · · |>.isLE)

/-- Writes a source text in the named format, its lines split and explained as the options say. -/
def reformat (r : Registry) (options : ReformatOptions) (format source : Text) :
    Logged (Except FormatError Text) :=
  let tokens := tokenize source
  match TokenFormat.ofName? format with
  | some dump => ⟨.ok (dump.write tokens), [.tokenized tokens.length]⟩
  | none =>
    let built := Program.build tokens
    let split := built.result.splitStep options.splitLines
    let explained := split.result.explainStep options.addExplanations
    ⟨r.serialize explained.result format,
      .tokenized tokens.length :: built.events ++ split.events ++ explained.events⟩

end Registry

end Listing
