import DiskPlan.Document.Datum

/-!
# The tables of a TOML document

A TOML document builds its tables line by line.  A table comes about in one of three ways: a header
defines it, a longer header implies it, or the dotted key of an entry does.  An implied table may be
defined later, once; a dotted one may be extended by dotted keys only; a defined one may not be
reached by dotted keys at all.  A header in double brackets adds a table to a list, and the last
table of a list stands for it in later headers.  What is written as a value is closed.
-/
namespace DiskPlan.Document.Toml

/-- How a table came about. -/
inductive Origin where
  /-- By a header of its own. -/
  | defined
  /-- By a longer header. -/
  | implied
  /-- By a dotted key. -/
  | dotted
  deriving Repr, DecidableEq

/-- What a key stands for while a document is read. -/
inductive Node where
  /-- A value, which is closed. -/
  | value (value : Datum)
  /-- A table with its entries, in order. -/
  | table (origin : Origin) (entries : List (String × Node))
  /-- A list of tables, the last one first. -/
  | tables (rev : List Node)

/-- The entries of a table that is being built. -/
abbrev Entries := List (String × Node)

/-! ## Changing tables -/

/-- Changes what a key stands for; a new key comes last. -/
def update (key : String) (change : Option Node → Option Node) : Entries → Option Entries
  | [] => (change none).map fun node => [(key, node)]
  | (k, node) :: rest =>
    if k = key then (change (some node)).map fun node => (k, node) :: rest
    else (update key change rest).map ((k, node) :: ·)

/-- A change of a table, given how it came about. -/
abbrev Change := Origin → Entries → Option Entries

/-- Applies a change to the table at a path; missing tables on the way come about by `origin`.  Only
a path of a dotted key makes dotted tables, and it may not enter a defined one. -/
def atPath (origin : Origin) (change : Change) : List String → Change
  | [], o, entries => change o entries
  | key :: path, _, entries => update key (fun
    | none => (atPath origin change path origin []).map (.table origin)
    | some (.value _) => none
    | some (.table o es) =>
      if origin = .dotted ∧ o = .defined then none
      else (atPath origin change path o es).map (.table o)
    | some (.tables (.table o es :: rev)) =>
      (atPath origin change path o es).map fun es => .tables (.table o es :: rev)
    | some (.tables _) => none) entries

/-- Adds an entry to a table: a new key, in the table itself or, behind a dotted path, in a table
that dotted keys made. -/
def addEntry (behindPath : Bool) (key : String) (value : Datum) : Change := fun o entries =>
  if (o = .dotted) != behindPath then none
  else update key (fun old => if old.isSome then none else some (.value value)) entries

/-- Adds the entry of a dotted key to a table. -/
def addDotted (path : List String) (key : String) (value : Datum) : Change :=
  atPath .dotted (addEntry (!path.isEmpty) key value) path

/-- Defines a table: a new one, or one that was implied, which then comes last. -/
def define (key : String) : Change := fun _ entries =>
  match entries.lookup key with
  | none => some (entries ++ [(key, .table .defined [])])
  | some (.table .implied es) =>
    some (entries.filter (fun e => e.1 != key) ++ [(key, .table .defined es)])
  | some _ => none

/-- Adds a table to a list of tables, which may be new. -/
def append (key : String) : Change := fun _ =>
  update key fun
    | none => some (.tables [.table .defined []])
    | some (.tables rev) => some (.tables (.table .defined [] :: rev))
    | some _ => none

/-! ## The finished value -/

mutual

/-- The value of a node. -/
def Node.toDatum : Node → Datum
  | .value value => value
  | .table _ entries => .table (entriesToDatum entries)
  | .tables rev => .list (nodesToDatum rev).reverse

/-- The values of nodes. -/
def nodesToDatum : List Node → List Datum
  | [] => []
  | node :: nodes => node.toDatum :: nodesToDatum nodes

/-- The values of entries. -/
def entriesToDatum : List (String × Node) → List (Option String × Datum)
  | [] => []
  | (key, node) :: entries => (some key, node.toDatum) :: entriesToDatum entries

end

/-- An entry behind its path. -/
structure Entry where
  /-- The path of the key. -/
  path : List String
  /-- The key. -/
  key : String
  /-- The value. -/
  value : Datum

/-- The table of entries that stand together, as in a table that is written as a value. -/
def inlineTable? (entries : List Entry) : Option Datum :=
  (entries.foldlM (fun es e => addDotted e.path e.key e.value .defined es) []).map fun es =>
    .table (entriesToDatum es)

/-! ## Documents -/

/-- A line of a document that says something. -/
inductive Statement where
  /-- An entry of the current table. -/
  | entry (e : Entry)
  /-- The header of a table. -/
  | header (path : List String) (key : String)
  /-- The header of one more table of a list. -/
  | listHeader (path : List String) (key : String)

/-- A document that is being read: its tables and the path of the current one. -/
structure Draft where
  /-- The entries of the whole document. -/
  entries : Entries := []
  /-- The path of the current table. -/
  current : List String := []

/-- Adds a statement to a document. -/
def Draft.add? (d : Draft) : Statement → Option Draft
  | .entry e =>
    (atPath .implied (addDotted e.path e.key e.value) d.current .defined d.entries).map fun es =>
      { d with entries := es }
  | .header path key =>
    (atPath .implied (define key) path .defined d.entries).map fun es => ⟨es, path ++ [key]⟩
  | .listHeader path key =>
    (atPath .implied (append key) path .defined d.entries).map fun es => ⟨es, path ++ [key]⟩

/-- The value of a document. -/
def assemble? (statements : List Statement) : Option Datum :=
  (statements.foldlM Draft.add? {}).map fun d => .table (entriesToDatum d.entries)

end DiskPlan.Document.Toml
