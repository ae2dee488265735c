/-!
# Arguments

A command takes options, which are known by a long name and perhaps a letter, and positional
arguments.  An option either is a switch or takes a value: behind `=`, behind its letter, or as the
next argument.  Letters of switches may be run together behind one dash.  Each option may be given
once, and behind `--` every argument is positional.
-/
namespace DiskPlan.CommandLine

/-- What an option does with a value. -/
inductive OptionKind where
  /-- It takes none. -/
  | switch
  /-- It takes one, which must satisfy a test. -/
  | value (accepts : String → Bool)
  /-- It asks for information about the program. -/
  | information

/-- An option of a command. -/
structure OptionSpec where
  /-- Its name behind two dashes. -/
  long : String
  /-- Its letter behind one dash. -/
  short : Option Char := none
  /-- What it does with a value. -/
  kind : OptionKind

/-- What a command takes. -/
structure Spec where
  /-- Its options. -/
  options : List OptionSpec
  /-- How many positional arguments it takes at most. -/
  positionals : Nat := 0

/-- Why reading arguments stops early. -/
inductive Stop where
  /-- Information about the program is asked for. -/
  | information
  /-- The arguments do not fit the command. -/
  | misuse
  deriving Repr, DecidableEq

/-- The arguments of a command as they have been understood. -/
structure Matches where
  /-- The options with their values; a switch has an empty one. -/
  options : List (String × String) := []
  /-- The positional arguments, reversed. -/
  revPositionals : List String := []

namespace Matches

/-- The value of an option, if it is given. -/
def value? (m : Matches) (long : String) : Option String := m.options.lookup long

/-- Whether an option is given. -/
def has (m : Matches) (long : String) : Bool := (m.value? long).isSome

/-- The positional arguments. -/
def positionals (m : Matches) : List String := m.revPositionals.reverse

end Matches

/-- An argument by its form. -/
inductive Argument where
  /-- Two dashes. -/
  | separator
  /-- A long option, perhaps with a value. -/
  | long (name : String) (value : Option String)
  /-- Letters behind a dash. -/
  | letters (cs : List Char)
  /-- Anything else. -/
  | plain (text : String)

/-- Tells the form of an argument. -/
def Argument.ofText (text : String) : Argument :=
  match text.toList with
  | ['-', '-'] => .separator
  | '-' :: '-' :: cs =>
    match cs.span (· != '=') with
    | (name, []) => .long (String.ofList name) none
    | (name, _ :: value) => .long (String.ofList name) (some (String.ofList value))
  | '-' :: c :: cs => .letters (c :: cs)
  | _ => .plain text

/-- Whether an argument can be the value of the option before it. -/
def Argument.isPlain : Argument → Bool
  | .plain _ => true
  | _ => false

/-- What one option does. -/
inductive Taken where
  /-- Its value is complete. -/
  | done (m : Matches)
  /-- Its value is the next argument. -/
  | pending (option : OptionSpec)

/-- Records an option with its value. -/
def record (m : Matches) (o : OptionSpec) (value : String) : Except Stop Matches :=
  match o.kind with
  | .information => .error .information
  | .switch =>
    if m.has o.long then .error .misuse else .ok { m with options := (o.long, "") :: m.options }
  | .value accepts =>
    if m.has o.long || !accepts value then .error .misuse
    else .ok { m with options := (o.long, value) :: m.options }

/-- Takes a long option. -/
def takeLong (spec : Spec) (m : Matches) (name : String) (value : Option String) :
    Except Stop Taken :=
  match spec.options.find? (·.long == name), value with
  | none, _ => .error .misuse
  | some o, none =>
    if o.kind matches .value _ then .ok (.pending o) else (record m o "").map .done
  | some o, some value =>
    if o.kind matches .value _ then (record m o value).map .done else .error .misuse

/-- A value behind a letter, without the `=` that may join them. -/
def attached : List Char → String
  | '=' :: cs => String.ofList cs
  | cs => String.ofList cs

/-- Takes the letters behind a dash. -/
def takeLetters (spec : Spec) : Matches → List Char → Except Stop Taken
  | m, [] => .ok (.done m)
  | m, c :: cs =>
    match spec.options.find? (·.short == some c) with
    | none => .error .misuse
    | some o =>
      match o.kind, cs with
      | .value _, [] => .ok (.pending o)
      | .value _, c :: cs => (record m o (attached (c :: cs))).map .done
      | _, cs => do takeLetters spec (← record m o "") cs

/-- Takes a positional argument. -/
def takePositional (spec : Spec) (m : Matches) (text : String) : Except Stop Matches :=
  if m.revPositionals.length < spec.positionals then
    .ok { m with revPositionals := text :: m.revPositionals }
  else .error .misuse

/-- Reads the arguments of a command; an option may be waiting for its value. -/
def readWith (spec : Spec) : Option OptionSpec → Matches → List String → Except Stop Matches
  | none, m, [] => .ok m
  | some _, _, [] => .error .misuse
  | some o, m, text :: rest =>
    if (Argument.ofText text).isPlain then do readWith spec none (← record m o text) rest
    else .error .misuse
  | none, m, text :: rest =>
    match Argument.ofText text with
    | .separator => rest.foldlM (takePositional spec) m
    | .plain text => do readWith spec none (← takePositional spec m text) rest
    | .long name value => do
      match ← takeLong spec m name value with
      | .done m => readWith spec none m rest
      | .pending o => readWith spec (some o) m rest
    | .letters cs => do
      match ← takeLetters spec m cs with
      | .done m => readWith spec none m rest
      | .pending o => readWith spec (some o) m rest

/-- Reads the arguments of a command. -/
def Spec.read (spec : Spec) (args : List String) : Except Stop Matches :=
  readWith spec none {} args

/-- Reads the options before the name of a command; gives the name and the arguments behind it. -/
def Spec.readLeading (spec : Spec) : Matches → List String → Except Stop (String × List String)
  | _, [] => .error .misuse
  | m, text :: rest =>
    match Argument.ofText text with
    | .plain text => .ok (text, rest)
    | .separator => .error .misuse
    | .long name value => do
      match ← takeLong spec m name value with
      | .done m => spec.readLeading m rest
      | .pending _ => throw .misuse
    | .letters cs => do
      match ← takeLetters spec m cs with
      | .done m => spec.readLeading m rest
      | .pending _ => throw .misuse

end DiskPlan.CommandLine
