/-! # Command lines

Reading the words of a command line against a description of a command: options with one or two
hyphens, operands by place, and commands below commands.
-/

namespace RouteAtlas

inductive OptionUse where
  | flag
  /-- It has a value and is given once at most. -/
  | single
  /-- It has a value each time it is given. -/
  | repeated
  | help
  | version
  deriving DecidableEq, Repr

structure Parameter where
  name : String
  /-- The letter of an option behind a single hyphen. -/
  letter : Option Char := none
  use : OptionUse := .single
  /-- Whether the value is a path, which is never empty. -/
  isPath : Bool := false
  required : Bool := false
  deriving DecidableEq, Repr

def Parameter.takesValue (parameter : Parameter) : Bool :=
  parameter.use == .single || parameter.use == .repeated

/-- A command: its options, its operands in order, and the commands below it. -/
structure CommandShape where
  name : String
  options : List Parameter := []
  operands : List Parameter := []
  commands : List CommandShape := []
  /-- Whether one of the commands below must follow. -/
  needsCommand : Bool := false

/-- Why a command line is not run. -/
inductive UsageStop where
  | help
  | version
  | unknownArgument
  | unknownCommand
  /-- An option or operand that must be given is not. -/
  | missingArgument
  /-- One of the commands below must follow, and something else was given. -/
  | missingCommand
  /-- One of the commands below must follow, and nothing was given. -/
  | nothingGiven
  /-- A value is missing, or is empty where that makes no sense. -/
  | invalidValue
  /-- A value for an option that has none. -/
  | unwantedValue
  | repeatedOption
  deriving DecidableEq, Repr

/-- Whether a command line asks for what is shown in place of running it. -/
def UsageStop.isRequest : UsageStop → Bool
  | .help | .version => true
  | _ => false

/-- A command line as it was understood. -/
structure Arguments where
  /-- The commands below the first one that were chosen. -/
  path : List String := []
  /-- The options and operands in order, each with its value. -/
  given : List (String × String) := []
  deriving DecidableEq, Repr

namespace Arguments

/-- Whether an option was given. -/
def has (arguments : Arguments) (name : String) : Bool :=
  arguments.given.any fun entry => decide (entry.1 = name)

/-- The values that were given for a name, in order. -/
def values (arguments : Arguments) (name : String) : List String :=
  (arguments.given.filter fun entry => decide (entry.1 = name)).map Prod.snd

/-- The value that was given for a name; of several the last. -/
def value? (arguments : Arguments) (name : String) : Option String :=
  (arguments.values name).getLast?

end Arguments

namespace CommandShape

def option? (shape : CommandShape) (name : String) : Option Parameter :=
  shape.options.find? fun option => decide (option.name = name)

def letter? (shape : CommandShape) (letter : Char) : Option Parameter :=
  shape.options.find? fun option => decide (option.letter = some letter)

def command? (shape : CommandShape) (name : String) : Option CommandShape :=
  shape.commands.find? fun command => decide (command.name = name)

/-- Whether a word asks for help on the commands below. -/
def isHelpCommand (shape : CommandShape) (word : String) : Bool :=
  !shape.commands.isEmpty && word == "help"

/-- What follows a request for help on commands: the words are to lead to one of them. -/
def helpOn (shape : CommandShape) : List String → UsageStop
  | [] => .help
  | word :: rest =>
    match shape.command? word with
    | some command => command.helpOn rest
    | none => if shape.isHelpCommand word && rest.isEmpty then .help else .unknownCommand

end CommandShape

/-- The words of one command that were read. -/
structure Reading where
  /-- The options and operands that are settled, in order. -/
  given : List (String × String) := []
  /-- The last option or operand, with its value as soon as it is there. -/
  pending : Option (Parameter × Option String) := none
  /-- How many operands were met. -/
  operands : Nat := 0
  /-- Whether two hyphens were met, behind which all words are operands. -/
  onlyOperands : Bool := false

namespace Reading

/-- Whether the next word is to be the value of an option. -/
def awaitsValue (reading : Reading) : Bool :=
  match reading.pending with
  | some (_, none) => true
  | _ => false

/-- Whether a parameter was settled before. -/
def knows (reading : Reading) (parameter : Parameter) : Bool :=
  reading.given.any fun entry => decide (entry.1 = parameter.name)

/-- Take an option or operand with its value for good. -/
def record (reading : Reading) (parameter : Parameter) (value : String) :
    Except UsageStop Reading :=
  if parameter.use != .repeated && reading.knows parameter then .error .repeatedOption
  else if parameter.isPath && value.isEmpty then .error .invalidValue
  else .ok { reading with given := reading.given ++ [(parameter.name, value)] }

/-- Settle the last option or operand. -/
def settle (reading : Reading) : Except UsageStop Reading :=
  match reading.pending with
  | none => .ok reading
  | some (_, none) => .error .invalidValue
  | some (parameter, some value) => { reading with pending := none }.record parameter value

/-- Take an option without a value. -/
def takeFlag (reading : Reading) (parameter : Parameter) : Except UsageStop Reading := do
  let settled ← reading.settle
  match parameter.use with
  | .help => .error .help
  | .version => .error .version
  | _ => settled.record parameter ""

/-- Take an option whose value may be attached to it. -/
def takeOption (reading : Reading) (parameter : Parameter) (attached : Option String) :
    Except UsageStop Reading := do
  let settled ← reading.settle
  match attached with
  | some value => settled.record parameter value
  | none => .ok { settled with pending := some (parameter, none) }

/-- Take a word that starts with two hyphens. A value may follow an equals sign. -/
def takeLong (shape : CommandShape) (reading : Reading) (body : List Char) :
    Except UsageStop Reading :=
  let name := body.takeWhile (· ≠ '=')
  let attached :=
    if name.length = body.length then none else some (String.ofList (body.drop (name.length + 1)))
  match shape.option? (String.ofList name) with
  | none => .error .unknownArgument
  | some parameter =>
    if parameter.takesValue then reading.takeOption parameter attached
    else if attached.isSome then .error .unwantedValue
    else reading.takeFlag parameter

/-- Take the letters behind one hyphen. What follows a letter whose option has a value is that
    value, with or without an equals sign. -/
def takeLetters (shape : CommandShape) (reading : Reading) :
    List Char → Except UsageStop Reading
  | [] => .ok reading
  | letter :: rest =>
    match shape.letter? letter with
    | none => .error .unknownArgument
    | some parameter =>
      if parameter.takesValue then
        let attached := match rest with
          | [] => none
          | '=' :: value => some (String.ofList value)
          | value => some (String.ofList value)
        reading.takeOption parameter attached
      else do takeLetters shape (← reading.takeFlag parameter) rest

def takeOperand (shape : CommandShape) (reading : Reading) (word : String) :
    Except UsageStop Reading :=
  match shape.operands[reading.operands]? with
  | some parameter => do
    let settled ← reading.settle
    .ok { settled with pending := some (parameter, some word), operands := reading.operands + 1 }
  | none =>
    let known := (shape.command? word).isSome || shape.isHelpCommand word
    if shape.commands.isEmpty || (reading.onlyOperands && known) then .error .unknownArgument
    else .error .unknownCommand

/-- Take a word that is no command. -/
def take (shape : CommandShape) (reading : Reading) (word : String) : Except UsageStop Reading :=
  if reading.onlyOperands then reading.takeOperand shape word
  else
    match word.toList, reading.pending with
    | ['-', '-'], _ => .ok { reading with onlyOperands := true }
    | '-' :: '-' :: body, _ => reading.takeLong shape body
    | '-' :: letter :: body, _ => reading.takeLetters shape (letter :: body)
    | _, some (parameter, none) => .ok { reading with pending := some (parameter, some word) }
    | _, _ => reading.takeOperand shape word

/-- End a command, behind which one below it may have been read. -/
def finish (shape : CommandShape) (reading : Reading) (below : Option (String × Arguments)) :
    Except UsageStop Arguments := do
  let settled ← reading.settle
  let isMissing := fun (parameter : Parameter) => parameter.required && !settled.knows parameter
  match below with
  | some (name, arguments) =>
    .ok ⟨name :: arguments.path, settled.given ++ arguments.given⟩
  | none =>
    if shape.needsCommand then
      .error (if settled.given.isEmpty then .nothingGiven else .missingCommand)
    else if (shape.options ++ shape.operands).any isMissing then .error .missingArgument
    else .ok ⟨[], settled.given⟩

/-- Read the words of a command. -/
def run (shape : CommandShape) (reading : Reading) : List String → Except UsageStop Arguments
  | [] => reading.finish shape none
  | word :: rest =>
    if reading.onlyOperands || reading.awaitsValue then do
      run shape (← reading.take shape word) rest
    else if shape.isHelpCommand word then .error (shape.helpOn rest)
    else
      match shape.command? word with
      | some command => do
        let arguments ← run command {} rest
        reading.finish shape (some (word, arguments))
      | none => do run shape (← reading.take shape word) rest

end Reading

def CommandShape.read (shape : CommandShape) (words : List String) : Except UsageStop Arguments :=
  Reading.run shape {} words

end RouteAtlas
