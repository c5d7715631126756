import ServiceFlow.Config.Tree

/-!
# TOML tables in the making

Model of how the lines of a TOML file fill its tables. A table comes from a header of its own, is
implied by the header of a table within it, or is implied by a key with dots.

* No key is given twice, and no table has two headers. A table that was only implied may still get its
  header.
* Keys with dots add to tables from such keys alone.
* Headers in double brackets start a new row of tables, and what follows goes into the last row.
-/

namespace ServiceFlow.Toml

/-- Where a table comes from. -/
inductive Origin where
  | header
  | implied
  | dotted
deriving DecidableEq

/-- What stands under a key: a closed value, a table, or rows of tables with the last one first. -/
inductive Entry where
  | value (tree : Tree)
  | table (origin : Origin) (entries : List (String × Entry))
  | rows (latest : List (String × Entry)) (earlier : List (List (String × Entry)))

/-- The entries of a table by key. -/
abbrev Entries := List (String × Entry)

/-- What stands under a key. -/
def find? (entries : Entries) (key : String) : Option Entry :=
  (entries.find? (·.1 == key)).map (·.2)

/-- Puts an entry under a key in place of any other. -/
def put (entries : Entries) (key : String) (e : Entry) : Entries :=
  if (find? entries key).isSome then
    entries.map fun old => if old.1 == key then (key, e) else old
  else entries ++ [(key, e)]

/-- Changes the table at the end of a path. Tables that are not there yet come from `origin`, and
`passes` says which of the others the path may lead through. -/
def within (origin : Origin) (passes : Origin → Bool) (change : Origin → Entries → Option Entries) :
    List String → Origin → Entries → Option Entries
  | [], own, entries => change own entries
  | key :: path, _, entries =>
    match find? entries key with
    | none => do
      return put entries key (.table origin (← within origin passes change path origin []))
    | some (.table own inner) =>
      if passes own then do
        return put entries key (.table own (← within origin passes change path own inner))
      else none
    | some (.rows latest earlier) => do
      return put entries key (.rows (← within origin passes change path .header latest) earlier)
    | some (.value _) => none

/-- Puts a value under a key with dots. -/
def assign (path : List String) (key : String) (v : Tree) (own : Origin) (entries : Entries) :
    Option Entries :=
  within .dotted (· != .header)
    (fun last entries =>
      if (last == .dotted) == path.isEmpty || (find? entries key).isSome then none
      else some (put entries key (.value v)))
    path own entries

/-- Gives a table its header. -/
def open? (key : String) (entries : Entries) : Option Entries :=
  match find? entries key with
  | none => some (put entries key (.table .header []))
  | some (.table .implied inner) => some (put entries key (.table .header inner))
  | _ => none

/-- Starts a new row. -/
def openRow? (key : String) (entries : Entries) : Option Entries :=
  match find? entries key with
  | none => some (put entries key (.rows [] []))
  | some (.rows latest earlier) => some (put entries key (.rows [] (latest :: earlier)))
  | _ => none

/-- Works on the table at the end of the path of a header. -/
def atHeader (path : List String) (change : Origin → Entries → Option Entries) (entries : Entries) :
    Option Entries :=
  within .implied (fun _ => true) change path .header entries

mutual

/-- A finished entry as a tree. -/
def Entry.tree : Entry → Tree
  | .value v => v
  | .table _ entries => .table (treesOf entries)
  | .rows latest earlier => .list (rowTrees earlier ++ [.table (treesOf latest)])

/-- Finished entries as trees. -/
def treesOf : List (String × Entry) → List (String × Tree)
  | [] => []
  | (key, e) :: rest => (key, e.tree) :: treesOf rest

/-- Rows as trees, the first one first. -/
def rowTrees : List (List (String × Entry)) → List Tree
  | [] => []
  | row :: earlier => rowTrees earlier ++ [.table (treesOf row)]

end

end ServiceFlow.Toml
