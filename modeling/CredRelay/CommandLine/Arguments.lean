import CredRelay.Text.Cut
/-! Reading arguments. An option is a word after two hyphens or a letter after one,
letters may stand together, and a value follows as the next argument, after an equals
sign, or right behind a letter. Two hyphens alone end the options. An option is given at
most once. -/
namespace CredRelay.CommandLine

open Text

/-- The options of the program. -/
inductive OptionName where
  | help
  | version
  | verbose
  | config
  | root
  | transport
  | username
  | password
  | passwordStdin
  | init
  deriving DecidableEq, Repr

namespace OptionName

/-- The word for an option. -/
def word : OptionName → String
  | .help => "help"
  | .version => "version"
  | .verbose => "verbose"
  | .config => "config"
  | .root => "root"
  | .transport => "transport"
  | .username => "username"
  | .password => "password"
  | .passwordStdin => "password-stdin"
  | .init => "init"

/-- The letter for an option, if it has one. -/
def letter? : OptionName → Option Char
  | .help => some 'h'
  | .version => some 'V'
  | .verbose => some 'v'
  | .username => some 'u'
  | .password => some 'p'
  | _ => none

/-- Whether an option comes with a value. -/
def takesValue : OptionName → Bool
  | .config | .root | .transport | .username | .password => true
  | _ => false

/-- Whether an option ends the reading of arguments. -/
def isFinal : OptionName → Bool
  | .help | .version => true
  | _ => false

/-- Whether an option can have a value. -/
def accepts (name : OptionName) (value : String) : Bool :=
  match name with
  | .config | .root => !value.isEmpty
  | .transport => ["unix", "pipe", "tcp"].contains value
  | _ => true

end OptionName

/-- What can be given at one place of the command line: options, how many plain values,
and words that begin a command. -/
structure Level where
  options : List OptionName
  values : Nat
  commands : List String
  deriving DecidableEq, Repr

/-- Why reading stopped: an option that asks for nothing but a text, or arguments that are
no use. -/
inductive Stop where
  | final (name : OptionName)
  | unusable
  deriving DecidableEq, Repr

/-- What was given at one place: options with their values, plain values, and the command
that begins with what follows it. -/
structure Given where
  options : List (OptionName × String)
  values : List String
  command : Option (String × List String)
  deriving DecidableEq, Repr

namespace Given

/-- Nothing. -/
def empty : Given :=
  ⟨[], [], none⟩

/-- Whether an option was given. -/
def has (g : Given) (name : OptionName) : Bool :=
  (g.options.lookup name).isSome

/-- The value of an option that was given. -/
def value? (g : Given) (name : OptionName) : Option String :=
  g.options.lookup name

/-- Adds an option with its value, unless it is there already or cannot have that
value. -/
def addOption (g : Given) (name : OptionName) (value : String) : Except Stop Given :=
  if name.isFinal then .error (.final name)
  else if g.has name || !name.accepts value then .error .unusable
  else .ok { g with options := g.options ++ [(name, value)] }

/-- Adds a plain value, if there is room for it. -/
def addValue (l : Level) (g : Given) (value : String) : Except Stop Given :=
  if g.values.length < l.values then .ok { g with values := g.values ++ [value] }
  else .error .unusable

/-- Adds plain values. -/
def addValues (l : Level) (g : Given) : List String → Except Stop Given
  | [] => .ok g
  | value :: rest =>
    match g.addValue l value with
    | .ok g => addValues l g rest
    | .error stop => .error stop

end Given

/-- What was read, and the option that still waits for its value. -/
abbrev Reading := Except Stop (Given × Option OptionName)

/-- Adds an option that comes without a value. -/
def readFlag (g : Given) (name : OptionName) : Reading :=
  match g.addOption name "" with
  | .ok g => .ok (g, none)
  | .error stop => .error stop

/-- Adds an option whose value is part of the same argument. -/
def readAttached (g : Given) (name : OptionName) (value : List Char) : Reading :=
  match g.addOption name (String.ofList value) with
  | .ok g => .ok (g, none)
  | .error stop => .error stop

/-- Reads what stands after two hyphens. -/
def readWord (l : Level) (g : Given) (s : List Char) : Reading :=
  let (word, value) := match cut '=' s with
    | some (word, value) => (word, some value)
    | none => (s, none)
  match l.options.find? fun name => name.word.toList == word, value with
  | none, _ => .error .unusable
  | some name, none => if name.takesValue then .ok (g, some name) else readFlag g name
  | some name, some value =>
    if name.takesValue then readAttached g name value else .error .unusable

/-- Reads what stands after one hyphen. -/
def readLetters (l : Level) (g : Given) : List Char → Reading
  | [] => .ok (g, none)
  | c :: rest =>
    match l.options.find? fun name => name.letter? == some c with
    | none => .error .unusable
    | some name =>
      if name.takesValue then
        match rest with
        | [] => .ok (g, some name)
        | '=' :: value => readAttached g name value
        | value => readAttached g name value
      else
        match g.addOption name "" with
        | .ok g => readLetters l g rest
        | .error stop => .error stop

/-- Whether an argument is meant as an option or ends them. -/
def isOptionLike (argument : String) : Bool :=
  match argument.toList with
  | '-' :: _ :: _ => true
  | _ => false

/-- Reads one argument while no option waits for a value. -/
def readArgument (l : Level) (g : Given) (argument : String) : Reading :=
  match argument.toList with
  | '-' :: '-' :: word => readWord l g word
  | '-' :: c :: letters => readLetters l g (c :: letters)
  | _ =>
    match g.addValue l argument with
    | .ok g => .ok (g, none)
    | .error stop => .error stop

/-- Reads the arguments of one place, where an option may wait for its value. -/
def readLevel (l : Level) (g : Given) (waiting : Option OptionName) :
    List String → Except Stop Given
  | [] => if waiting.isSome then .error .unusable else .ok g
  | argument :: rest =>
    match waiting with
    | some name =>
      if isOptionLike argument then .error .unusable
      else
        match g.addOption name argument with
        | .ok g => readLevel l g none rest
        | .error stop => .error stop
    | none =>
      if l.commands.contains argument then .ok { g with command := some (argument, rest) }
      else if argument == "--" then g.addValues l rest
      else
        match readArgument l g argument with
        | .ok (g, waiting) => readLevel l g waiting rest
        | .error stop => .error stop

end CredRelay.CommandLine
