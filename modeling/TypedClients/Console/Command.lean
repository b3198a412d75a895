/-!
# Commands

What a command line asks for. Options may stand before and after other arguments of a command; the
last one of several counts.
-/
namespace TypedClients.Console

structure Options where
  /-- The file with the configuration. -/
  configuration : Option String := none
  verbose : Bool := false
  help : Bool := false
  deriving DecidableEq, Repr, Inhabited

inductive Command where
  /-- Generates the clients of all projects. -/
  | generate (options : Options)
  /-- Shows the routes of all projects. -/
  | inspect (options : Options)
  | version
  | help
  deriving DecidableEq, Repr, Inhabited

namespace Command

/-- Reads a group of options of one letter each. The one with a value takes the rest of the group, or
else the next argument: then the flag in the result tells so. -/
def readLetters (options : Options) : List Char → Option (Options × Bool)
  | [] => some (options, false)
  | 'v' :: cs => readLetters { options with verbose := true } cs
  | ['c'] => some (options, true)
  | 'c' :: cs => some ({ options with configuration := some (String.ofList cs) }, false)
  | _ => none

/-- Reads the options of a command, and its other arguments. -/
def readOptions (options : Options) : List String → Option (Options × List String)
  | [] => some (options, [])
  | arg :: args =>
      let valued : Option (Options × List String) :=
        match args with
        | [] => none
        | value :: args => readOptions { options with configuration := some value } args
      let other : Option (Options × List String) :=
        (readOptions options args).map fun (options, others) => (options, arg :: others)
      match arg.toList with
      | ['-', '-'] => some (options, args)
      | '-' :: '-' :: name =>
          let flag := name.takeWhile (· != '=')
          let value := String.ofList (name.drop (flag.length + 1))
          match String.ofList flag, name.contains '=' with
          | "config", true => readOptions { options with configuration := some value } args
          | "config", false => valued
          | "verbose", false => readOptions { options with verbose := true } args
          | "help", false => readOptions { options with help := true } args
          | _, _ => none
      | '-' :: c :: cs => match readLetters options (c :: cs) with
          | some (options, false) => readOptions options args
          | some (options, true) => match args with
              | [] => none
              | value :: args => readOptions { options with configuration := some value } args
          | none => none
      | _ => other

/-- Reads a command that takes the options, but no other argument. -/
def withOptions (make : Options → Command) (args : List String) : Option Command := do
  let (options, others) ← readOptions {} args
  if options.help then return .help
  guard others.isEmpty
  return make options

/-- The command with a name and arguments. -/
def named (name : String) (args : List String) : Option Command :=
  match name, args with
  | "generate", args => withOptions .generate args
  | "inspect", args => withOptions .inspect args
  | "version", [] | "version", ["--"] => some .version
  | "version", "--help" :: _ => some .help
  | _, _ => none

/-- The command of a command line, if it asks for one as it should. -/
def read : List String → Option Command
  | [] => none
  | "--help" :: _ => some .help
  | "--" :: name :: args => named name args
  | name :: args => named name args

end Command

end TypedClients.Console
