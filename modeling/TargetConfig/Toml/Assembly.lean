import TargetConfig.Toml.Value

/-! # Tables from the statements of a document

A document is a list of statements: entries with dotted keys, and headers that name a table or
start a new element of an array of tables. The entries up to the next header belong to the table
that the last header named, and those before the first header to the document itself. `ofStatements`
puts them together, or refuses the document because it defines something twice.
-/

namespace TargetConfig.Toml

/-- A dotted key: the tables to pass through, and the key in the last of them. -/
structure Path where
  parents : List String
  key : String
  deriving DecidableEq, Repr

/-- An entry as it is written, before its dotted key is resolved. -/
structure Entry where
  path : Path
  value : Value

/-- What a line of a document states. -/
inductive Statement where
  | entry (entry : Entry)
  | table (path : Path)
  | element (path : Path)

/-- A header with the entries that follow it. -/
structure Section where
  isElement : Bool
  path : Path
  entries : List Entry

namespace Table

/-- Adds an entry below the tables that its dotted key names, which come into being where they are
missing. A table written between braces or named by a header accepts none. A table that a header
passed through, and the last element of an array of tables, can be passed through again, but
nothing is added to them directly. -/
def put (key : String) (value : Value) : List String → Table → Option Table
  | [], table => table.add? key value
  | parent :: parents, table =>
    match table.get? parent with
    | none => do
      let entries ← put key value parents []
      return table ++ [(parent, .table .dotted entries)]
    | some (.table .dotted entries) => do
      let entries ← put key value parents entries
      return table.replace parent (.table .dotted entries)
    | some (.table .implied entries) =>
      if parents.isEmpty then none
      else do
        let entries ← put key value parents entries
        return table.replace parent (.table .implied entries)
    | some (.tables elements) =>
      if parents.isEmpty then none
      else do
        let last ← elements.getLast?
        let entries ← put key value parents last
        return table.replace parent (.tables (elements.dropLast ++ [entries]))
    | some _ => none

def putAll (entries : List Entry) (table : Table) : Option Table :=
  entries.foldlM (fun table entry => put entry.path.key entry.value entry.path.parents table) table

/-- Changes the table that a path of a header leads to. Missing tables come into being, and an
array of tables stands for its last element. -/
def modify (change : Table → Option Table) : List String → Table → Option Table
  | [], table => change table
  | parent :: parents, table =>
    match table.get? parent with
    | none => do
      let entries ← modify change parents []
      return table ++ [(parent, .table .implied entries)]
    | some (.table .inline _) => none
    | some (.table origin entries) => do
      let entries ← modify change parents entries
      return table.replace parent (.table origin entries)
    | some (.tables elements) => do
      let last ← elements.getLast?
      let entries ← modify change parents last
      return table.replace parent (.tables (elements.dropLast ++ [entries]))
    | some _ => none

/-- Adds a table under a key. A header may name a table that earlier headers only passed through;
that table then moves to the end. -/
def addTable (key : String) (entries : List Entry) (table : Table) : Option Table :=
  match table.get? key with
  | none => do
    let added ← putAll entries []
    return table ++ [(key, .table .header added)]
  | some (.table .implied old) => do
    let added ← putAll entries old
    return table.erase key ++ [(key, .table .header added)]
  | some _ => none

/-- Adds an element to the array of tables under a key, which comes into being if it is missing. -/
def addElement (key : String) (entries : List Entry) (table : Table) : Option Table :=
  match table.get? key with
  | none => do
    let added ← putAll entries []
    return table ++ [(key, .tables [added])]
  | some (.tables elements) => do
    let added ← putAll entries []
    return table.replace key (.tables (elements ++ [added]))
  | some _ => none

/-- Adds what a header and the entries after it define. -/
def addSection (table : Table) (part : Section) : Option Table :=
  modify ((if part.isElement then addElement else addTable) part.path.key part.entries)
    part.path.parents table

/-- The entries before the first header, and the sections. -/
def sections : List Statement → List Entry × List Section
  | [] => ([], [])
  | .entry entry :: statements =>
    let (entries, parts) := sections statements
    (entry :: entries, parts)
  | .table path :: statements =>
    let (entries, parts) := sections statements
    ([], ⟨false, path, entries⟩ :: parts)
  | .element path :: statements =>
    let (entries, parts) := sections statements
    ([], ⟨true, path, entries⟩ :: parts)

/-- The table that a document defines, unless it defines something twice. -/
def ofStatements (statements : List Statement) : Option Table :=
  let (entries, parts) := sections statements
  (putAll entries []).bind fun table => parts.foldlM addSection table

end Table

end TargetConfig.Toml
