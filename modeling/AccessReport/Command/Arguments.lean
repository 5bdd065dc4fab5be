/-!
# Arguments

How a row of arguments is read. An option is given at most once, by its long name behind two
hyphens or, if it has one, by its letter behind one; several letters may share a hyphen. The value
of an option follows behind an equals sign or as the next argument; as the next argument it cannot
start with a hyphen, unless it is nothing but a hyphen. Behind two hyphens alone every argument is
a plain one.

Arguments are read from left to right. Asking for help ends the reading at once, and so does the
first fault before it. The value of an option that is the next argument is only looked at when
something follows it or the arguments end.
-/
namespace AccessReport

/-- Why arguments lead to no command. -/
inductive Refusal where
  | help
  | fault
deriving DecidableEq, Repr

def Refusal.exitCode : Refusal → Nat
  | help => 0
  | fault => 2

namespace Arguments

/-- What an option does. -/
inductive Effect where
  | help
  | flag
  /-- Takes one of the values that are accepted. -/
  | value (accepts : String → Bool)

structure Switch where
  name : String
  letter : Option Char := none
  effect : Effect

/-- What can be given in one place: options, plain arguments, and commands. -/
structure Grammar where
  switches : List Switch
  plain : Nat := 0
  commands : List String := []

/-- What was given so far. -/
structure Given where
  /-- Options with their values; a flag has the empty one. -/
  options : List (String × String) := []
  /-- The last option, while its value is not settled. -/
  pending : Option (Switch × Option String) := none
  plain : List String := []

namespace Given

def has (given : Given) (name : String) : Bool := given.options.any (·.1 == name)

def value? (given : Given) (name : String) : Option String := given.options.lookup name

/-- Whether the next argument is the value of an option. -/
def awaits (given : Given) : Bool := given.pending.any (·.2.isNone)

end Given

/-- One more option. -/
def addOption (given : Given) (name value : String) : Except Refusal Given :=
  if given.has name then .error .fault
  else .ok { given with options := given.options ++ [(name, value)] }

def accepts (switch : Switch) (value : String) : Bool :=
  match switch.effect with
  | .value accepts => accepts value
  | _ => false

/-- The pending option becomes a given one. -/
def settle (given : Given) : Except Refusal Given :=
  match given.pending with
  | none => .ok given
  | some (_, none) => .error .fault
  | some (switch, some value) =>
    if accepts switch value then addOption { given with pending := none } switch.name value
    else .error .fault

/-- An option without a value behind an equals sign. -/
def raise (switch : Switch) (given : Given) : Except Refusal Given := do
  let settled ← settle given
  match switch.effect with
  | .help => throw .help
  | .flag => addOption settled switch.name ""
  | .value _ => pure { settled with pending := some (switch, none) }

/-- An option with a value behind an equals sign. -/
def raiseWith (switch : Switch) (value : String) (given : Given) : Except Refusal Given := do
  let settled ← settle given
  if accepts switch value then addOption settled switch.name value else throw .fault

/-- A long name, and the value behind an equals sign. -/
def splitValue (cs : List Char) : String × Option String :=
  (String.ofList (cs.takeWhile (· != '=')),
    match cs.dropWhile (· != '=') with
    | _ :: value => some (String.ofList value)
    | [] => none)

def raiseLong (grammar : Grammar) (cs : List Char) (given : Given) : Except Refusal Given :=
  let (name, value) := splitValue cs
  match grammar.switches.find? (·.name == name), value with
  | some switch, some value => raiseWith switch value given
  | some switch, none => raise switch given
  | none, _ => .error .fault

/-- The options of several letters behind one hyphen. -/
def raiseLetters (grammar : Grammar) (given : Given) (letters : List Char) :
    Except Refusal Given :=
  letters.foldlM (fun given letter =>
    match grammar.switches.find? (·.letter == some letter) with
    | some switch => raise switch given
    | none => .error .fault) given

/-- A plain argument, or the value of the option before it. -/
def addPlain (grammar : Grammar) (given : Given) (argument : String) : Except Refusal Given := do
  let settled ← settle given
  if settled.plain.length < grammar.plain then
    pure { settled with plain := settled.plain ++ [argument] }
  else throw .fault

/-- One argument that is neither a command nor two hyphens alone. -/
def addArgument (grammar : Grammar) (given : Given) (argument : String) : Except Refusal Given :=
  match argument.toList with
  | '-' :: '-' :: name => raiseLong grammar name given
  | '-' :: letter :: letters => raiseLetters grammar given (letter :: letters)
  | _ => match given.pending with
    | some (switch, none) => .ok { given with pending := some (switch, some argument) }
    | _ => addPlain grammar given argument

/-- Reads arguments up to the name of a command; gives the name and what follows it. -/
def read (grammar : Grammar) (given : Given) :
    List String → Except Refusal (Given × Option (String × List String))
  | [] => .ok (given, none)
  | argument :: rest =>
    if !given.awaits && grammar.commands.contains argument then .ok (given, some (argument, rest))
    else if argument == "--" then do pure (← rest.foldlM (addPlain grammar) given, none)
    else do read grammar (← addArgument grammar given argument) rest

/-- Reads arguments where no command can follow. -/
def readAll (grammar : Grammar) (arguments : List String) : Except Refusal Given := do
  settle (← read grammar {} arguments).1

/-- The option that every place has. -/
def helpSwitch : Switch where
  name := "help"
  letter := some 'h'
  effect := .help

/-- The command that shows help, with what follows it: at most the name of a command. -/
def helpRefusal (commands : List String) (rest : List String) : Refusal :=
  match rest with
  | [] => .help
  | [name] => if commands.contains name then .help else .fault
  | _ => .fault

end Arguments
end AccessReport
