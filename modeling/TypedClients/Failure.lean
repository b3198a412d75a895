import TypedClients.Text.Quoted
import TypedClients.Text.Utf8

/-!
# Failures

Errors that the program reports, with the one text of each, and faults that end a run without a
report. What went wrong underneath an error is its cause; the text of a cause is part of the error's
text where the cause has one.
-/
namespace TypedClients

open TypedClients.Text

/-- How the operating system refuses an operation on a path. -/
inductive SystemError where
  | notFound
  | alreadyExists
  | notADirectory
  | isADirectory
  | nameTooLong
  deriving DecidableEq, Repr, Inhabited

namespace SystemError

def number : SystemError → Nat
  | notFound => 2
  | alreadyExists => 17
  | notADirectory => 20
  | isADirectory => 21
  | nameTooLong => 36

def description : SystemError → String
  | notFound => "No such file or directory"
  | alreadyExists => "File exists"
  | notADirectory => "Not a directory"
  | isADirectory => "Is a directory"
  | nameTooLong => "File name too long"

end SystemError

/-- A number in base sixteen, of at least two digits. -/
def hexByte (b : UInt8) : String :=
  let digits := Nat.toDigits 16 b.toNat
  String.ofList (List.replicate (2 - digits.length) '0' ++ digits)

/-- The number in base ten. -/
def decimal (n : Nat) : String := String.ofList (Nat.toDigits 10 n)

/-- The text of a decoding error. -/
def decodeMessage (e : DecodeError) : String :=
  match e.bytes with
  | [b] => "'utf-8' codec can't decode byte 0x" ++ hexByte b ++ " in position " ++
      decimal e.position ++ ": " ++ e.reason
  | bs => "'utf-8' codec can't decode bytes in position " ++ decimal e.position ++ "-" ++
      decimal (e.position + bs.length - 1) ++ ": " ++ e.reason

/-- What went wrong underneath an error. -/
inductive Cause where
  /-- A source text does not follow the grammar. -/
  | malformedSource
  /-- A configuration text does not follow its grammar. -/
  | malformedConfiguration
  /-- A configuration has the wrong shape. -/
  | invalidConfiguration
  | undecodable (error : DecodeError)
  /-- The root of the sources is no directory. -/
  | notADirectory (path : String)
  | system (error : SystemError) (path : String)
  | other (text : String)
  deriving DecidableEq, Repr, Inhabited

/-- The text that a cause adds to that of the error. -/
def Cause.text? : Cause → Option String
  | malformedSource | malformedConfiguration | invalidConfiguration => none
  | undecodable e => some (decodeMessage e)
  | notADirectory path => some path
  | system e path =>
      some ("[Errno " ++ decimal e.number ++ "] " ++ e.description ++ ": " ++ quotedString path)
  | other text => some text

/-- How a value in a configuration differs from what is expected there. -/
inductive SettingsIssue where
  | missing
  /-- The whole is no mapping. -/
  | noSettings
  /-- A project is no mapping. -/
  | noProject
  | noList
  | noText
  /-- Bytes that are no text. -/
  | undecodableText
  | noBool
  /-- A value that could be a truth value but is none. -/
  | unclearBool
  | unknownKey
  /-- The value in the environment does not follow its grammar. -/
  | malformedVariable
  deriving DecidableEq, Repr, Inhabited

def SettingsIssue.message : SettingsIssue → String
  | missing => "Field required"
  | noSettings => "Input should be a valid dictionary or instance of CodegenConfig"
  | noProject => "Input should be a valid dictionary or instance of ProjectConfig"
  | noList => "Input should be a valid list"
  | noText => "Input should be a valid string"
  | undecodableText => "Input should be a valid string, unable to parse raw data as a unicode string"
  | noBool => "Input should be a valid boolean"
  | unclearBool => "Input should be a valid boolean, unable to interpret input"
  | unknownKey => "Extra inputs are not permitted"
  | malformedVariable =>
      "Value error, error parsing value for field \"projects\" from source \"EnvSettingsSource\""

/-- What is wrong, without the place. -/
inductive Problem where
  | duplicateRoute (route : String)
  | duplicateParameter (name : String)
  | invalidType (text : String)
  | invalidCode
  | sharedModule
  | unreadableConfiguration (cause : Cause)
  | invalidConfiguration (issue : SettingsIssue)
  | noConfiguration
  | other (text : String)
  deriving DecidableEq, Repr, Inhabited

/-- The text of a cause after a colon, if it has one. -/
def Cause.suffix (c : Cause) : String :=
  match c.text? with
  | some text => ": " ++ text
  | none => ""

def Problem.message : Problem → String
  | duplicateRoute route => "Route '" ++ route ++ "' is declared more than once"
  | duplicateParameter name => "Parameter '" ++ name ++ "' is bound more than once"
  | invalidType text => "Invalid type expression '" ++ text ++ "'"
  | invalidCode => "Generated code has invalid syntax"
  | sharedModule => "Two controller files map to the same client module"
  | unreadableConfiguration cause => "Cannot read configuration" ++ cause.suffix
  | invalidConfiguration issue => "Invalid configuration: " ++ issue.message
  | noConfiguration => "No routegen configuration found"
  | other text => text

/-- An error that the program reports. -/
inductive Error where
  | general (text : String)
  /-- Something is wrong with the sources. -/
  | source (text : String)
  | sourceLoad (path : String) (cause : Option Cause)
  /-- Controllers give no routes. -/
  | routing (problem : Problem) (context : Option String)
  /-- No parameter of a route binds a parameter of its path. -/
  | unboundParameter (route parameter : String) (className : Option String)
  /-- Two controllers of a file have the same client. -/
  | duplicateClient (client file : String)
  /-- Routes give no client. -/
  | generation (problem : Problem) (context : Option String) (cause : Option Cause)
  | configuration (problem : Problem) (path field : Option String) (cause : Option Cause)
  | output (path : String) (cause : Option Cause)
  deriving DecidableEq, Repr, Inhabited

namespace Error

/-- A text between two others, unless it is missing or empty. -/
def around (before after : String) : Option String → String
  | none => ""
  | some "" => ""
  | some s => before ++ s ++ after

/-- The suffix for a cause that may be missing. -/
def causeSuffix : Option Cause → String
  | none => ""
  | some c => c.suffix

/-- Where an error arose: for an unbound parameter, the route in its class. -/
def context? : Error → Option String
  | routing _ context => context
  | unboundParameter route _ className => some (around "" "." className ++ route)
  | duplicateClient _ file => some file
  | generation _ context _ => context
  | _ => none

/-- What was done when an error arose. -/
def whileDoing (activity : String) (context : Option String) : String :=
  around (" (while " ++ activity ++ " ") ")" context

def message : Error → String
  | general text => text
  | source text => text
  | sourceLoad path cause => "Failed to load source '" ++ path ++ "'" ++ causeSuffix cause
  | routing problem context => problem.message ++ whileDoing "extracting" context
  | unboundParameter route parameter className =>
      "No parameter with name '" ++ parameter ++ "' found in method '" ++ route ++ "'" ++
        whileDoing "extracting" (unboundParameter route parameter className).context?
  | duplicateClient client file =>
      "Client class '" ++ client ++ "' would be generated more than once" ++
        whileDoing "extracting" (some file)
  | generation problem context cause =>
      problem.message ++ whileDoing "generating" context ++ causeSuffix cause
  | configuration problem path field _ =>
      problem.message ++ around " in '" "'" path ++ around " (field: " ")" field
  | output path cause => "Failed to write output to '" ++ path ++ "'" ++ causeSuffix cause

end Error

/-- What ends a run without a report. -/
inductive Fault where
  /-- A wrapper of a type has no arguments. -/
  | noCarriedType
  | emptyName
  /-- A path has no file name. -/
  | noFileName (path : String)
  /-- A source text holds a null character. -/
  | nullCharacter
  /-- A text that is read as source holds a surrogate. -/
  | surrogate
  /-- The name of a source text holds a null character. -/
  | nullInName
  /-- The path of a file to be read holds a null character. -/
  | nullInPath
  | undecodable (error : DecodeError)
  /-- A project file does not follow its grammar. -/
  | malformedProjectFile
  /-- The project file holds a value of the wrong kind where a table is looked for. -/
  | wrongKind
  /-- A value of a configuration is written in a known form but does not exist. -/
  | noSuchValue (text : String)
  /-- A number in a configuration has no digits at all. -/
  | emptyNumber
  /-- A text that is marked as a truth value is none. -/
  | noTruthValue
  /-- A text that is marked as a time is none. -/
  | noMoment
  /-- A text for the screen closes a tag that is not open. -/
  | unopenedTag
  /-- A whole number has too many digits to be written. -/
  | longNumber
  /-- The expression in a field of formatted text needs a backslash. -/
  | backslashInField
  /-- A file cannot be read. -/
  | system (error : SystemError)
  deriving DecidableEq, Repr, Inhabited

def Fault.message : Fault → String
  | .emptyName => "Name cannot be empty"
  | .noFileName path => "PurePosixPath('" ++ path ++ "') has an empty name"
  | .nullCharacter => "source code string cannot contain null bytes"
  | .nullInName => "embedded null character"
  | .nullInPath => "embedded null byte"
  | .noSuchValue text => text
  | .longNumber => "Exceeds the limit (4300 digits) for integer string conversion; use sys.set_int_max_str_digits() to increase the limit"
  | .backslashInField => "Unable to avoid backslash in f-string expression part"
  | _ => ""

/-- Why an operation has no result. -/
inductive Failure where
  | reported (error : Error)
  | fault (fault : Fault)
  deriving DecidableEq, Repr, Inhabited

end TypedClients
