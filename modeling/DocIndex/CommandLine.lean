/-
  THE COMMAND LINE.

  A command line is read level by level.  The top level takes the model and the format of the log
  and may name a command; the command takes over what follows it, with options of its own.

  An option waits for its value, and a value that came as an argument of its own is looked at only
  when the next thing is met: `settle` does that.  So a command word after a settled value is a
  command, while one that stands where a value is due is that value.  A value attached to its option
  (`--model=m`, `-mm`, `-m=m`) is looked at immediately.

  The command's own faults come before those of the level above it, and a request for help or for
  the version comes before anything that is missing.
-/
import DocIndex.Request

namespace DocIndex

/-- How the lines of the log are written. -/
inductive LogFormat where
  | text
  | json
  deriving Repr, DecidableEq

def LogFormat.known : List (String × LogFormat) := [("text", .text), ("json", .json)]

/-- What the program is to do. -/
inductive Command where
  | serve
  | search (request : SearchRequest)
  | resolve (request : ResolveRequest)
  | lookup (request : LookupRequest)
  deriving Repr, DecidableEq

/-- A command line that was understood. -/
structure Invocation where
  model : String
  logFormat : LogFormat
  command : Option Command
  deriving Repr, DecidableEq

/-- Why a command line is not carried out. -/
inductive Refusal where
  | displayHelp
  | displayVersion
  | invalidSubcommand
  | invalidValue
  | argumentConflict
  | tooManyValues
  | unknownArgument
  | missingRequiredArgument
  deriving Repr, DecidableEq

namespace CommandLine

/-! ## Arguments -/

/-- What an argument looks like. -/
inductive Argument where
  /-- `--`, after which every argument is a word -/
  | separator
  /-- `--name` or `--name=value` -/
  | long (name : String) (value : Option String)
  /-- `-x`, with what follows the letter -/
  | short (letter : Char) (rest : List Char)
  | word
  deriving Repr, DecidableEq

/-- The name before the first `=`, and the value behind it. -/
def splitLong (cs : List Char) : String × Option String :=
  match cs.dropWhile (· != '=') with
  | [] => (String.ofList cs, none)
  | _ :: value => (String.ofList (cs.takeWhile (· != '=')), some (String.ofList value))

/-- A lone `-` is a word. -/
def Argument.ofText (text : String) : Argument :=
  match text.toList with
  | ['-', '-'] => .separator
  | '-' :: '-' :: cs => .long (splitLong cs).1 (splitLong cs).2
  | '-' :: c :: cs => .short c cs
  | _ => .word

/-- The value attached to a short option. -/
def attachedValue : List Char → Option String
  | [] => none
  | '=' :: value => some (String.ofList value)
  | value => some (String.ofList value)

/-! ## Levels -/

/-- An option that takes a value. -/
structure ValueOption where
  name : String
  letter : Option Char := none
  /-- the values to choose from; none for a free value -/
  choices : Option (List String) := none
  deriving Repr, DecidableEq

/-- What a level accepts. -/
structure Level where
  options : List ValueOption := []
  /-- does it take a word of its own? -/
  takesWord : Bool := false
  hasVersion : Bool := false
  commands : List String := []

/-- An option whose value is not yet looked at. -/
structure Unsettled where
  option : ValueOption
  value : Option String := none

/-- What was given on a level so far. -/
structure Given where
  /-- the values of the options, by name -/
  values : List (String × String) := []
  word : Option String := none
  unsettled : Option Unsettled := none

namespace Given

/-- Is an option waiting for its value? -/
def isAwaiting (g : Given) : Bool :=
  match g.unsettled with
  | some u => u.value.isNone
  | none => false

/-- Gives an option a value.  That it has none yet is looked at before the value. -/
def put (g : Given) (o : ValueOption) (value : String) : Except Refusal Given :=
  if (g.values.lookup o.name).isSome then .error .argumentConflict
  else if (o.choices.map (·.contains value)).getD true then
    .ok { g with values := (o.name, value) :: g.values }
  else .error .invalidValue

/-- Looks at the option that is not settled. -/
def settle (g : Given) : Except Refusal Given :=
  match g.unsettled with
  | none => .ok g
  | some ⟨o, some value⟩ => { g with unsettled := none }.put o value
  | some ⟨_, none⟩ => .error .invalidValue

/-- The argument is the value that an option waits for. -/
def collect (g : Given) (value : String) : Given :=
  { g with unsettled := g.unsettled.map fun u => { u with value := some value } }

/-- An option, with the value attached to it. -/
def takeOption (g : Given) (o : ValueOption) (attached : Option String) : Except Refusal Given := do
  let settled ← g.settle
  match attached with
  | some value => settled.put o value
  | none => return { settled with unsettled := some ⟨o, none⟩ }

end Given

namespace Level

/-- A word that is neither a command nor a value. -/
def takeWord (l : Level) (g : Given) (word : String) : Except Refusal Given :=
  if l.takesWord && g.word.isNone then do return { ← g.settle with word := some word }
  else if l.commands.isEmpty then .error .unknownArgument
  else .error .invalidSubcommand

/-- A word behind the separator, where a command cannot be named any more. -/
def takeTrailing (l : Level) (g : Given) (word : String) : Except Refusal Given :=
  if l.commands.contains word then .error .unknownArgument else l.takeWord g word

/-- A flag that shows something: what is unsettled is looked at before it. -/
def display (g : Given) (shown : Refusal) : Except Refusal Given := do
  let _ ← g.settle
  throw shown

/-- An option written with its name. -/
def takeLong (l : Level) (g : Given) (name : String) (value : Option String) :
    Except Refusal Given :=
  let flag (shown : Refusal) : Except Refusal Given :=
    if value.isSome then .error .tooManyValues else display g shown
  if name = "help" then flag .displayHelp
  else if l.hasVersion && name = "version" then flag .displayVersion
  else match l.options.find? (·.name = name) with
    | some o => g.takeOption o value
    | none => .error .unknownArgument

/-- An option written with its letter. -/
def takeShort (l : Level) (g : Given) (letter : Char) (rest : List Char) : Except Refusal Given :=
  if letter = 'h' then display g .displayHelp
  else if l.hasVersion && letter = 'V' then display g .displayVersion
  else match l.options.find? (·.letter = some letter) with
    | some o => g.takeOption o (attachedValue rest)
    | none => .error .unknownArgument

/-- What a level leaves: what was given, and the command with the arguments behind it. -/
structure Reading where
  given : Given
  command : Option (String × List String) := none

/-- Reads the arguments of a level, up to a command. -/
def read (l : Level) (g : Given) : List String → Except Refusal Reading
  | [] => .ok ⟨g, none⟩
  | arg :: args =>
    if !g.isAwaiting && l.commands.contains arg then .ok ⟨g, some (arg, args)⟩
    else match Argument.ofText arg with
      | .separator => do return ⟨← args.foldlM l.takeTrailing g, none⟩
      | .long name value => do l.read (← l.takeLong g name value) args
      | .short letter rest => do l.read (← l.takeShort g letter rest) args
      | .word => do
        l.read (← if g.isAwaiting then .ok (g.collect arg) else l.takeWord g arg) args

end Level

/-! ## The levels of this program -/

/-- The format of an answer. -/
def formatOption : ValueOption where
  name := "format"
  letter := some 'f'
  choices := some (Format.known.map (·.1))

def modelOption : ValueOption where
  name := "model"
  letter := some 'm'

def logOption : ValueOption where
  name := "log-format"
  choices := some (LogFormat.known.map (·.1))

/-- The commands that do some work. -/
def workCommands : List String := ["serve", "search", "resolve", "lookup"]

def top : Level where
  options := [modelOption, logOption]
  hasVersion := true
  commands := workCommands ++ ["help"]

/-- The one word that a command needs. -/
def neededWord (g : Given) : Except Refusal String :=
  match g.word with
  | some word => .ok word
  | none => .error .missingRequiredArgument

/-- The format that was asked for. -/
def chosenFormat (g : Given) : Format :=
  ((g.values.lookup formatOption.name).bind (Format.known.lookup ·)).getD .text

/-- What was given to a command. -/
def readCommand (l : Level) (args : List String) : Except Refusal Given := do
  (← l.read {} args).given.settle

/-- Help is given on the program, or on one of its commands. -/
def readHelp : List String → Refusal
  | [] => .displayHelp
  | [name] => if top.commands.contains name then .displayHelp else .invalidSubcommand
  | _ => .invalidSubcommand

/-- The command with its own arguments. -/
def command (name : String) (args : List String) : Except Refusal Command :=
  match name with
  | "search" => do
    let g ← readCommand { options := [formatOption], takesWord := true } args
    return .search ⟨← neededWord g, chosenFormat g⟩
  | "resolve" => do
    let g ← readCommand { options := [formatOption], takesWord := true } args
    return .resolve ⟨← neededWord g, chosenFormat g⟩
  | "lookup" => do
    return .lookup ⟨← neededWord (← readCommand { takesWord := true } args)⟩
  | "serve" => do
    let _ ← readCommand {} args
    return .serve
  | _ => .error (readHelp args)

/-- Reads a command line; `model` is the model to use where none is given. -/
def parse (model : Option String) (args : List String) : Except Refusal Invocation := do
  let reading ← top.read {} args
  let command ← reading.command.mapM fun (name, rest) => command name rest
  let g ← reading.given.settle
  match g.values.lookup modelOption.name <|> model with
  | none => throw .missingRequiredArgument
  | some path =>
    return {
      model := path
      logFormat := ((g.values.lookup logOption.name).bind (LogFormat.known.lookup ·)).getD .text
      command := command }

end CommandLine
end DocIndex
