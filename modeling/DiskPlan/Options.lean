import DiskPlan.PathMap
import DiskPlan.Table

/-!
# Options

What the caller decides about a table that is planned from a customization: how the image boots, the
kind of the table, the default filesystem type, what the directories need, and whether a requested
size may be exceeded.
-/
namespace DiskPlan

/-- The firmware that an image has to boot on. -/
inductive BootMode where
  /-- None: something else loads the system. -/
  | none
  /-- BIOS. -/
  | legacy
  /-- UEFI. -/
  | uefi
  /-- Both. -/
  | hybrid
  deriving Repr, DecidableEq

instance : Keyword BootMode where
  all := [.none, .legacy, .uefi, .hybrid]
  word
    | .none => "none"
    | .legacy => "legacy"
    | .uefi => "uefi"
    | .hybrid => "hybrid"

namespace BootMode

/-- Whether a partition for a BIOS boot loader is needed. -/
def needsBios : BootMode → Bool
  | .legacy | .hybrid => true
  | .none | .uefi => false

/-- Whether an EFI system partition is needed. -/
def needsEfi : BootMode → Bool
  | .uefi | .hybrid => true
  | .none | .legacy => false

end BootMode

/-- What to do when the requested size is too small for what has to fit. -/
inductive SizingMode where
  /-- Grow to what is needed. -/
  | grow
  /-- Refuse. -/
  | strict
  deriving Repr, DecidableEq

instance : Keyword SizingMode where
  all := [.grow, .strict]
  word
    | .grow => "grow"
    | .strict => "strict"

/-- The options of a table that is planned from a customization. -/
structure Options where
  /-- The type of filesystems that name none. -/
  defaultFsType : Option FsType := none
  /-- How the image boots. -/
  bootMode : BootMode := .none
  /-- The kind of the table, if it is asked for. -/
  tableType : Option TableType := none
  /-- The sizes that directories need. -/
  requiredSizes : PathMap Nat := .empty
  /-- Whether a requested size may be exceeded. -/
  mode : SizingMode := .grow
  deriving Repr, DecidableEq

/-- The kind of the table: GPT unless another is asked for. -/
def Options.effectiveTableType (o : Options) : TableType := o.tableType.getD .gpt

/-- What the directories of most systems need: 1 GiB for the root and 2 GiB for `/usr`. -/
def defaultRequiredSizes : PathMap Nat :=
  .ofList [("/", Size.gibibyte), ("/usr", 2 * Size.gibibyte)]

/-! ## Words as callers give them -/

/-- The keyword that a word stands for, or a configuration error. -/
def keywordOrError {α : Type} [Keyword α] (error : String → ConfigurationError) (word : String) :
    Except PlanError α :=
  match Keyword.ofWord? word with
  | some a => .ok a
  | none => .error (.configuration (error word))

/-- The filesystem type of a word. -/
def FsType.ofWord (word : String) : Except PlanError FsType := keywordOrError .fsType word

/-- The kind of table of a word. -/
def TableType.ofWord (word : String) : Except PlanError TableType := keywordOrError .tableType word

/-- The boot mode of a word. -/
def BootMode.ofWord (word : String) : Except PlanError BootMode := keywordOrError .bootMode word

/-- The sizing mode of a word. -/
def SizingMode.ofWord (word : String) : Except PlanError SizingMode :=
  keywordOrError .sizingMode word

end DiskPlan
