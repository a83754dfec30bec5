import Listing.Text.Basic

/-!
# Command line arguments

Arguments are read from the first to the last. Options may stand anywhere among them and may be
given once; short ones may share a dash. Behind `--` there are no options. The first option that asks
for the version or for help decides the request; a mistake before it makes the arguments unusable.
-/

namespace Listing

/-- What to do with which input. -/
structure Command where
  input : Text
  output : Text
  splitLines : Bool
  addExplanations : Bool
  isVerbose : Bool
  /-- The settings file, if it is not the usual one. -/
  settings : Option Text
  format : Text
  deriving DecidableEq, Repr

/-- What the arguments ask for. -/
inductive Request where
  | run (command : Command)
  | version
  | help
  deriving DecidableEq, Repr

namespace Request

/-- The options without a value. -/
inductive Switch where
  | splitLines | addExplanations | verbose
  deriving DecidableEq, Repr

/-- The options with a value. -/
inductive Setting where
  | settings | format
  deriving DecidableEq, Repr

/-- An option. -/
inductive CommandOption where
  | switch (s : Switch)
  | setting (s : Setting)
  | version
  | help
  deriving DecidableEq, Repr

/-- The option with a long name. -/
def ofLongName? (name : Text) : Option CommandOption :=
  if name = "split-lines".toList then some (.switch .splitLines)
  else if name = "add-explanations".toList then some (.switch .addExplanations)
  else if name = "verbose".toList then some (.switch .verbose)
  else if name = "config".toList then some (.setting .settings)
  else if name = "format".toList then some (.setting .format)
  else if name = "version".toList then some .version
  else if name = "help".toList then some .help
  else none

/-- The option with a short name. -/
def ofShortName? : Char → Option CommandOption
  | 'v' => some (.switch .verbose)
  | 'c' => some (.setting .settings)
  | 'f' => some (.setting .format)
  | 'V' => some .version
  | 'h' => some .help
  | _ => none

/-- What the arguments have given so far. -/
structure Given where
  splitLines : Bool := false
  addExplanations : Bool := false
  verbose : Bool := false
  settings : Option Text := none
  format : Option Text := none
  paths : List Text := []
  deriving DecidableEq, Repr

namespace Given

/-- Takes a switch, unless it has been given. -/
def turnOn (g : Given) : Switch → Option Given
  | .splitLines => if g.splitLines then none else some { g with splitLines := true }
  | .addExplanations => if g.addExplanations then none else some { g with addExplanations := true }
  | .verbose => if g.verbose then none else some { g with verbose := true }

/-- Takes the value of a setting, unless it has been given. -/
def set (g : Given) (value : Text) : Setting → Option Given
  | .settings => if g.settings.isSome then none else some { g with settings := some value }
  | .format => if g.format.isSome then none else some { g with format := some value }

/-- Takes a path, unless both have been given. -/
def addPath (g : Given) (path : Text) : Option Given :=
  if g.paths.length < 2 then some { g with paths := g.paths ++ [path] } else none

/-- The request, if both paths have been given. -/
def request? (g : Given) : Option Request :=
  match g.paths with
  | [input, output] =>
    some (.run
      { input, output,
        splitLines := g.splitLines,
        addExplanations := g.addExplanations,
        isVerbose := g.verbose,
        settings := g.settings,
        format := g.format.getD "basic".toList })
  | _ => none

end Given

/-- Where an argument leaves the reading of the others. -/
inductive Progress where
  /-- The next argument is read on its own. -/
  | next (g : Given)
  /-- The next argument is the value of a setting. -/
  | value (g : Given) (s : Setting)
  /-- The request is decided. -/
  | done (r : Request)
  deriving DecidableEq, Repr

/-- Reads a long option behind its dashes. A value may stand behind an equals sign. -/
def readLong (g : Given) (t : Text) : Option Progress := do
  let option ← ofLongName? (t.takeWhile (· != '='))
  match option, t.dropWhile (· != '=') with
  | .switch s, [] => (g.turnOn s).map .next
  | .setting s, [] => some (.value g s)
  | .setting s, _ :: value => (g.set value s).map .next
  | .version, [] => some (.done .version)
  | .help, [] => some (.done .help)
  | _, _ :: _ => none

/-- Reads short options behind their dash. The value of a setting may follow its name, with or
    without an equals sign. -/
def readShort (g : Given) : Text → Option Progress
  | [] => some (.next g)
  | c :: t =>
    match ofShortName? c with
    | some (.switch s) => (g.turnOn s).bind (readShort · t)
    | some (.setting s) =>
      match t with
      | [] => some (.value g s)
      | '=' :: value => (g.set value s).map .next
      | value => (g.set value s).map .next
    | some .version => some (.done .version)
    | some .help => some (.done .help)
    | none => none

/-- Whether an argument is an option. -/
def isOption : Text → Bool
  | '-' :: _ :: _ => true
  | _ => false

/-- Reads an argument other than `--`. -/
def readArgument (g : Given) : Text → Option Progress
  | '-' :: '-' :: t => readLong g t
  | '-' :: c :: t => readShort g (c :: t)
  | path => (g.addPath path).map .next

/-- Reads the arguments behind those that gave `g`. -/
def parseFrom (g : Given) : List Text → Option Request
  | [] => g.request?
  | argument :: arguments =>
    if argument = ['-', '-'] then (arguments.foldlM Given.addPath g).bind Given.request?
    else
      match readArgument g argument with
      | none => none
      | some (.done r) => some r
      | some (.next g) => parseFrom g arguments
      | some (.value g s) =>
        match arguments with
        | [] => none
        | value :: arguments =>
          if isOption value then none
          else
            match g.set value s with
            | some g => parseFrom g arguments
            | none => none

/-- The request that the arguments make, if they can be used. -/
def parse? (arguments : List Text) : Option Request := parseFrom {} arguments

end Request

end Listing
