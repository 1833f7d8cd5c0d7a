/-!
# EnumCodec.CommandLine.Arguments

**Splitting a command line.** Options and positional arguments may be mixed. A long option takes its
value from behind an equals sign or from the next argument, a short one from the rest of its own
argument or from the next; short flags may be joined. Two dashes end the options. The first fault from
the left is the one that counts.
-/

namespace EnumCodec.CommandLine

/-- The options of the command. -/
inductive OptionName where
  | config
  | language
  | module
  | root
  | force
  | format
  | verbose
deriving DecidableEq, Repr, Inhabited

namespace OptionName

/-- The options in the order in which they are declared. -/
def all : List OptionName := [.config, .language, .module, .root, .force, .format, .verbose]

/-- The long form of an option. -/
def long : OptionName → String
  | .config => "--config"
  | .language => "--language"
  | .module => "--module"
  | .root => "--root"
  | .force => "--force"
  | .format => "--format"
  | .verbose => "--verbose"

/-- The letter of the short form of an option. -/
def letter? : OptionName → Option Char
  | .config => some 'c'
  | .language => some 'l'
  | .module => some 'm'
  | .root => some 'r'
  | .force => some 'f'
  | .format => none
  | .verbose => some 'v'

/-- Does an option take no value? -/
def isFlag : OptionName → Bool
  | .force | .format | .verbose => true
  | _ => false

end OptionName

/-- Why arguments cannot be split. -/
inductive SplitError where
  /-- There is no such option. -/
  | noSuchOption (name : String)
  /-- An option has no value. -/
  | missingValue (name : String)
  /-- A flag has a value. -/
  | unexpectedValue (name : String)
deriving DecidableEq, Repr, Inhabited

/-- Arguments that have been split. -/
structure Arguments where
  /-- The options with their values, in order; flags have none. -/
  options : List (OptionName × Option String) := []
  /-- The other arguments, in order. -/
  positional : List String := []
deriving Repr, Inhabited

/-- What an argument is. -/
inductive ArgumentKind where
  /-- It is no option. -/
  | positional
  /-- It gives options. -/
  | options (given : List (OptionName × Option String))
  /-- It gives options, and one more whose value is the next argument. -/
  | pending (given : List (OptionName × Option String)) (option : OptionName) (typed : String)
deriving Repr, Inhabited

/-- The text up to the first equals sign, and the text behind it if there is one. -/
def splitEquals : List Char → List Char × Option (List Char)
  | [] => ([], none)
  | '=' :: rest => ([], some rest)
  | c :: rest =>
    let (front, value) := splitEquals rest
    (c :: front, value)

/-- The options of joined letters. -/
def shortOptions (given : List (OptionName × Option String)) :
    List Char → Except SplitError ArgumentKind
  | [] => .ok (.options given)
  | c :: rest =>
    match OptionName.all.find? fun option => option.letter? == some c with
    | none => .error (.noSuchOption (String.ofList ['-', c]))
    | some option =>
      if option.isFlag then shortOptions (given ++ [(option, none)]) rest
      else if rest.isEmpty then .ok (.pending given option (String.ofList ['-', c]))
      else .ok (.options (given ++ [(option, some (String.ofList rest))]))

/-- What an argument is, other than the two dashes that end the options. -/
def classify (argument : String) : Except SplitError ArgumentKind :=
  match argument.toList with
  | '-' :: c :: rest =>
    let (front, value) := splitEquals ('-' :: c :: rest)
    let name := String.ofList front
    match OptionName.all.find? fun option => option.long == name with
    | some option =>
      match option.isFlag, value with
      | true, some _ => .error (.unexpectedValue name)
      | true, none => .ok (.options [(option, none)])
      | false, some value => .ok (.options [(option, some (String.ofList value))])
      | false, none => .ok (.pending [] option name)
    | none =>
      if c = '-' then .error (.noSuchOption name) else shortOptions [] (c :: rest)
  | _ => .ok .positional

/-- Splits arguments, the first of which may be the value of an option before them. -/
def splitFrom (split : Arguments) (pending : Option (OptionName × String)) :
    List String → Except SplitError Arguments
  | [] =>
    match pending with
    | some (_, typed) => .error (.missingValue typed)
    | none => .ok split
  | argument :: rest =>
    match pending with
    | some (option, _) =>
      splitFrom { split with options := split.options ++ [(option, some argument)] } none rest
    | none =>
      if argument = "--" then .ok { split with positional := split.positional ++ rest }
      else
        match classify argument with
        | .error error => .error error
        | .ok .positional =>
          splitFrom { split with positional := split.positional ++ [argument] } none rest
        | .ok (.options given) =>
          splitFrom { split with options := split.options ++ given } none rest
        | .ok (.pending given option typed) =>
          splitFrom { split with options := split.options ++ given } (some (option, typed)) rest

/-- Splits the arguments of a command. -/
def splitArguments (arguments : List String) : Except SplitError Arguments :=
  splitFrom {} none arguments

end EnumCodec.CommandLine
