import Petstore.Toml.Key
import Petstore.Toml.Value

/-!
# The table tree of a TOML text

Tables come about by headers, by headers of tables inside them, and by dotted keys; the tree
remembers which, because a table may be defined only once: dotted keys add only to tables that
dotted keys made, and a header may only take up a table that other headers made on the way to their
own.
-/

namespace Petstore.Toml

/-- How a table came about. -/
inductive TableKind where
  | explicit
  | implicit
  | dotted
  deriving DecidableEq, Repr

/-- A node of the tree: a value, a table, or the tables of one repeated header, latest first. -/
inductive Node where
  | value (value : Value)
  | table (kind : TableKind) (entries : List (String × Node))
  | tables (items : List Node)
  deriving Inhabited

/-- The entries of a table. -/
abbrev Entries := List (String × Node)

namespace Entries

/-- The entry of a key. -/
def find? (entries : Entries) (key : String) : Option Node :=
  entries.lookup key

/-- Put a node under a key, in the place of the one that is there. -/
def put (entries : Entries) (key : String) (node : Node) : Entries :=
  match entries with
  | [] => [(key, node)]
  | (other, stored) :: rest =>
    if other = key then (key, node) :: rest else (other, stored) :: put rest key node

/-- Go down a path, making the tables that are missing, and change the entries at its end. Along
dotted keys no table may be passed that a header defined. -/
def descend (alongKeys : Bool) (change : TableKind → Entries → Option Entries) :
    List String → TableKind → Entries → Option Entries
  | [], kind, entries => change kind entries
  | key :: path, _, entries =>
    match find? entries key with
    | none => do
      let kind := if alongKeys then .dotted else .implicit
      let below ← descend alongKeys change path kind []
      return put entries key (.table kind below)
    | some (.value _) => none
    | some (.table kind below) =>
      if alongKeys && kind = .explicit then none
      else do
        let below ← descend alongKeys change path kind below
        return put entries key (.table kind below)
    | some (.tables (.table kind below :: earlier)) => do
      let below ← descend alongKeys change path kind below
      return put entries key (.tables (.table kind below :: earlier))
    | some (.tables _) => none

/-- Add a value under a dotted key. -/
def assign (key : Key) (value : Value) (entries : Entries) : Option Entries :=
  let add (kind : TableKind) (entries : Entries) : Option Entries :=
    if (kind = .dotted) = key.path.isEmpty then none
    else if (find? entries key.last).isSome then none
    else some (put entries key.last (.value value))
  descend true add key.path .explicit entries

/-- Define the table of a header. -/
def define (key : Key) (entries : Entries) : Option Entries :=
  let add (_ : TableKind) (entries : Entries) : Option Entries :=
    match find? entries key.last with
    | none => some (put entries key.last (.table .explicit []))
    | some (.table .implicit below) => some (put entries key.last (.table .explicit below))
    | some _ => none
  descend false add key.path .explicit entries

/-- Add a table to those of a repeated header. -/
def append (key : Key) (entries : Entries) : Option Entries :=
  let add (_ : TableKind) (entries : Entries) : Option Entries :=
    match find? entries key.last with
    | none => some (put entries key.last (.tables [.table .explicit []]))
    | some (.tables items) =>
      some (put entries key.last (.tables (.table .explicit [] :: items)))
    | some _ => none
  descend false add key.path .explicit entries

/-- Change the entries of the table at the end of a path of headers. -/
def within (path : List String) (change : Entries → Option Entries) (entries : Entries) :
    Option Entries :=
  descend false (fun _ entries => change entries) path .explicit entries

end Entries

mutual

/-- The value of a node. -/
def Node.toValue : Node → Value
  | .value value => value
  | .table _ entries => .table (entriesToValues entries)
  | .tables items => .array (reversedValues [] items)

/-- The values of entries. -/
def entriesToValues : List (String × Node) → List (String × Value)
  | [] => []
  | (key, node) :: rest => (key, node.toValue) :: entriesToValues rest

/-- The values of nodes, last node first, in front of `done`. -/
def reversedValues (done : List Value) : List Node → List Value
  | [] => done
  | node :: rest => reversedValues (node.toValue :: done) rest

end

end Petstore.Toml
