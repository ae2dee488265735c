import DiskPlan.CommandLine.Arguments
import DiskPlan.ByteStream.ChaCha
import DiskPlan.Customization.Loading
import DiskPlan.Document.Json.Writer
import DiskPlan.Layout.FromTemplate
import DiskPlan.Policy
import DiskPlan.Summary
import DiskPlan.Table.Document

/-!
# Commands

The three commands of the program: checking a customization, planning a table from one, and planning
a table from the built-in template.  A command is read from the arguments and the seed in the
environment, and run on the content of the files that it names; what it prints is its result.
-/
namespace DiskPlan.CommandLine

/-- What the two commands that plan a table have in common. -/
structure Output where
  /-- The least size of the image, as it is written. -/
  size : Option String
  /-- The seed of the identifiers. -/
  seed : Option UInt64
  /-- Whether to print a summary instead of the table. -/
  summary : Bool

/-- A command. -/
inductive Command where
  /-- Check a customization, perhaps against the standard policies. -/
  | validate (file : String) (policy : Bool)
  /-- Plan a table from a customization, if one is given. -/
  | generate (file : Option String) (options : Options) (output : Output)
  /-- Plan a table from the built-in template. -/
  | template (output : Output)

/-! ## Reading commands -/

/-- The options of every command. -/
def commonOptions : List OptionSpec :=
  [{ long := "verbose", short := some 'v', kind := .switch },
    { long := "help", short := some 'h', kind := .information },
    { long := "version", short := some 'V', kind := .information }]

/-- Reads a seed: digits, perhaps behind a plus sign, of a number below `2 ^ 64`. -/
def seed? (text : String) : Option UInt64 :=
  let digits :=
    match text.toList with
    | '+' :: cs => cs
    | cs => cs
  if digits.isEmpty || !digits.all Char.isDigit then none
  else (Size.fit? (Size.ofDigits digits)).map UInt64.ofNat

/-- The option of a value that may be any text. -/
def textOption (long : String) (short : Option Char) : OptionSpec :=
  { long, short, kind := .value fun _ => true }

/-- The option of a value that is the word of a keyword. -/
def keywordOption (α : Type) [Keyword α] (long : String) (short : Char) : OptionSpec :=
  { long, short := some short, kind := .value fun word => (Keyword.ofWord? word : Option α).isSome }

/-- The options of the commands that plan a table. -/
def outputOptions : List OptionSpec :=
  [textOption "size" (some 's'),
    { long := "seed", kind := .value fun text => (seed? text).isSome },
    { long := "summary", kind := .switch }]

/-- What `validate` takes. -/
def validateSpec : Spec where
  options := { long := "policy", kind := .switch } :: commonOptions
  positionals := 1

/-- What `generate` takes. -/
def generateSpec : Spec where
  options :=
    [textOption "customization" (some 'c'), keywordOption BootMode "boot-mode" 'b',
      keywordOption TableType "table-type" 't', keywordOption FsType "default-fs" 'f',
      { long := "strict", kind := .switch }] ++ outputOptions ++ commonOptions

/-- What `template` takes. -/
def templateSpec : Spec where
  options := outputOptions ++ commonOptions

/-- The seed that is given as an option or else in the environment. -/
def Matches.seed (m : Matches) (environment : Option String) : Except Stop (Option UInt64) :=
  match (m.value? "seed").or environment with
  | none => .ok none
  | some text =>
    match seed? text with
    | some seed => .ok (some seed)
    | none => .error .misuse

/-- What is to be printed of a planned table. -/
def Matches.output (m : Matches) (environment : Option String) : Except Stop Output := do
  return { size := m.value? "size", seed := ← m.seed environment, summary := m.has "summary" }

/-- The keyword that an option gives, if it is given. -/
def Matches.keyword? {α : Type} [Keyword α] (m : Matches) (long : String) : Option α :=
  (m.value? long).bind Keyword.ofWord?

/-- The options of a table to be generated. -/
def Matches.planOptions (m : Matches) : Options where
  defaultFsType := some ((m.keyword? "default-fs").getD .xfs)
  bootMode := (m.keyword? "boot-mode").getD .hybrid
  tableType := m.keyword? "table-type"
  requiredSizes := defaultRequiredSizes
  mode := if m.has "strict" then .strict else .grow

/-- The names of the commands. -/
def commandNames : List String := ["validate", "generate", "template", "help"]

/-- Reads a command of the given name. -/
def readCommand (environment : Option String) (args : List String) :
    String → Except Stop Command
  | "validate" => do
    let m ← validateSpec.read args
    match m.positionals with
    | [file] => return .validate file (m.has "policy")
    | _ => throw .misuse
  | "generate" => do
    let m ← generateSpec.read args
    return .generate (m.value? "customization") m.planOptions (← m.output environment)
  | "template" => do
    let m ← templateSpec.read args
    return .template (← m.output environment)
  | "help" =>
    match args with
    | [] => throw .information
    | [name] => throw (if commandNames.contains name then .information else .misuse)
    | _ => throw .misuse
  | _ => throw .misuse

/-- Reads a command from the arguments and the seed in the environment. -/
def Command.read (args : List String) (environment : Option String) : Except Stop Command := do
  let (name, rest) ← Spec.readLeading { options := commonOptions } {} args
  readCommand environment rest name

/-! ## Running commands -/

/-- Why a command fails. -/
inductive Failure where
  /-- The file of a customization cannot be loaded. -/
  | load (file : String) (cause : PlanError)
  /-- The customization or the table cannot be planned. -/
  | plan (cause : PlanError)

/-- The wording of a failure. -/
def Failure.message : Failure → String
  | load file _ => "failed to load " ++ file
  | plan cause => cause.message

/-- The file that a command reads. -/
def Command.file? : Command → Option String
  | .validate file _ => some file
  | .generate file _ _ => file
  | .template _ => none

/-- Loads a customization from the content of a file. -/
def load (contents : String → Option ByteArray) (file : String) : Except Failure Customization :=
  (Customization.ofFile file (contents file)).mapError (.load file)

/-- Reads the least size of an image, zero if none is given. -/
def Output.leastSize (o : Output) : Except PlanError Nat :=
  match o.size with
  | none => .ok 0
  | some text => (Size.read text).mapError .size

/-- The stream of the identifiers: that of the seed, or else the given one. -/
def Output.stream (o : Output) (entropy : ByteStream) : ByteStream :=
  match o.seed with
  | some seed => .seeded seed
  | none => entropy

/-- Prints a table. -/
def Output.render (o : Output) (t : Table) : String :=
  if o.summary then t.summary else Document.Json.renderSpread t.encode ++ "\n"

/-- Checks a customization. -/
def runValidate (c : Customization) (policy : Bool) : Except PlanError String := do
  c.validate
  if policy then Policies.standard.checkCustomization (some c)
  return "✓ Customization is valid\n"

/-- Plans a table from a customization. -/
def runGenerate (c : Customization) (options : Options) (output : Output) (entropy : ByteStream) :
    Except PlanError String := do
  let c := { c with minsize := max c.minsize (← output.leastSize) }
  let (table, _) ← Customization.plan (some c) options (output.stream entropy)
  return output.render table

/-- Plans a table from the built-in template. -/
def runTemplate (output : Output) (entropy : ByteStream) : Except PlanError String := do
  let (table, _) ← Table.baseTemplate.fromTemplate [] (← output.leastSize) .grow
    defaultRequiredSizes (output.stream entropy)
  return output.render table

/-- Runs a command on the contents of files, with a stream for identifiers without a seed; gives
what it prints. -/
def Command.run (contents : String → Option ByteArray) (entropy : ByteStream) :
    Command → Except Failure String
  | .validate file policy => do
    let c ← load contents file
    (runValidate c policy).mapError .plan
  | .generate none options output => (runGenerate {} options output entropy).mapError .plan
  | .generate (some file) options output => do
    let c ← load contents file
    (runGenerate c options output entropy).mapError .plan
  | .template output => (runTemplate output entropy).mapError .plan

/-! ## Outcomes -/

/-- What a run of the program leaves behind. -/
structure Outcome where
  /-- The exit code. -/
  exitCode : Nat
  /-- What is printed. -/
  stdout : String := ""
  /-- The message of a failure. -/
  message : Option String := none

/-- How the program is used. -/
def usage : String :=
  "Usage: diskplan [-v] validate FILE [--policy]\n"
    ++ "       diskplan [-v] generate [-c FILE] [-b MODE] [-t TYPE] [-f FS] [-s SIZE]\n"
    ++ "                  [--strict] [--seed N] [--summary]\n"
    ++ "       diskplan [-v] template [-s SIZE] [--seed N] [--summary]\n"

/-- Runs the program: exit code 0 for success and information, 1 for a failure, 2 for arguments that
do not fit. -/
def outcome (args : List String) (environment : Option String)
    (contents : String → Option ByteArray) (entropy : ByteStream) : Outcome :=
  match Command.read args environment with
  | .error .information => { exitCode := 0, stdout := usage }
  | .error .misuse => { exitCode := 2 }
  | .ok command =>
    match command.run contents entropy with
    | .ok text => { exitCode := 0, stdout := text }
    | .error failure => { exitCode := 1, message := some failure.message }

end DiskPlan.CommandLine
