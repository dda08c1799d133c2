import CredRelay.CommandLine.Arguments
import CredRelay.Login.Attempt
import CredRelay.Settings.Basic
/-! Invocations of the program: one command with its operands, and options that may stand
before or after the word of the command. Where such an option stands at both places, the
later one counts. -/
namespace CredRelay.CommandLine

/-- What the program is asked to do. -/
inductive Task where
  | serve (transport : Option Transport)
  | inetd
  | login (attempt : Login.Attempt)
  | logout (server : Option String)
  | config (init : Bool)
  deriving DecidableEq, Repr

/-- A task with the options that all tasks share. -/
structure Invocation where
  verbose : Bool
  config : Option String
  root : Option String
  task : Task
  deriving DecidableEq, Repr

/-- The options that may stand anywhere. -/
def sharedOptions : List OptionName :=
  [.help, .verbose, .config, .root]

/-- What may stand before the word of a command. -/
def topLevel : Level where
  options := .version :: sharedOptions
  values := 0
  commands := ["serve", "inetd", "login", "logout", "config", "help"]

/-- What may stand after the word of a command. -/
def levelOf (command : String) : Level :=
  match command with
  | "serve" => ⟨.transport :: sharedOptions, 0, []⟩
  | "login" => ⟨[.username, .password, .passwordStdin] ++ sharedOptions, 1, []⟩
  | "logout" => ⟨sharedOptions, 1, []⟩
  | "config" => ⟨.init :: sharedOptions, 0, []⟩
  | _ => ⟨sharedOptions, 0, []⟩

/-- The task that a command with its operands is. A secret is given in one way only. -/
def taskOf (command : String) (g : Given) : Except Stop Task :=
  match command with
  | "serve" => .ok (.serve ((g.value? .transport).bind Transport.ofText?))
  | "inetd" => .ok .inetd
  | "login" =>
    if g.has .password && g.has .passwordStdin then .error .unusable
    else
      .ok (.login ⟨g.values.head?, g.value? .username, g.value? .password,
        g.has .passwordStdin⟩)
  | "logout" => .ok (.logout g.values.head?)
  | "config" => .ok (.config (g.has .init))
  | _ => .error (.final .help)

/-- The value of an option that may stand at two places. -/
def laterValue? (outer inner : Given) (name : OptionName) : Option String :=
  (inner.value? name).or (outer.value? name)

/-- The invocation that some arguments make. -/
def Invocation.ofArguments (arguments : List String) : Except Stop Invocation :=
  match readLevel topLevel Given.empty none arguments with
  | .error stop => .error stop
  | .ok outer =>
    match outer.command with
    | none => .error .unusable
    | some (command, rest) =>
      match readLevel (levelOf command) Given.empty none rest with
      | .error stop => .error stop
      | .ok inner =>
        match taskOf command inner with
        | .error stop => .error stop
        | .ok task =>
          .ok ⟨outer.has .verbose || inner.has .verbose, laterValue? outer inner .config,
            laterValue? outer inner .root, task⟩

end CredRelay.CommandLine
