import Wiring.Settings.Value
import Wiring.Toml.Date

/-!
# Tables in TOML

The tables of a document grow line by line. A table can be given once only, by a header, by dotted
keys or in braces; headers of tables below it only imply it.

* `TableKind`, `Node`, `Entries`: tables under construction;
* `changeAt?`: a change at a path of keys;
* `assign?`, `openTable?`, `openItem?`: what a key, a header and a header of a list item do;
* `dateKey`, `Node.toSetting?`, `tableToSetting?`: the finished values.
-/

namespace Wiring.Toml

/-- How a table came about: it was given as such, implied by a header below it, or made by dotted
keys. -/
inductive TableKind where
  | given
  | implied
  | dotted
  deriving DecidableEq

/-- What a key stands for: a plain value, a date, an array, a table in braces, a table that lines
may still add to, or a list of tables that headers add to. -/
inductive Node where
  | leaf (value : Setting)
  | date (text : String)
  | array (items : List Node)
  | braces (entries : List (String × Node))
  | table (kind : TableKind) (entries : List (String × Node))
  | tables (items : List (List (String × Node)))

/-- The entries of a table under construction. -/
abbrev Entries := List (String × Node)

/-- Change the node of a key, or make it. -/
def updateNode? (key : String) (change : Option Node → Option Node) : Entries → Option Entries
  | [] => (change none).map fun node => [(key, node)]
  | entry :: rest =>
    if entry.1 = key then (change (some entry.2)).map fun node => (key, node) :: rest
    else (updateNode? key change rest).map (entry :: ·)

/-- Change the table that a path leads to. Missing tables are made, of the given kind. A list of
tables stands for its last item. Dotted keys do not lead into a table that was given. -/
def changeAt? (made : TableKind) (change : TableKind → Entries → Option Entries) :
    List String → TableKind → Entries → Option Entries
  | [], kind, entries => change kind entries
  | key :: path, _, entries =>
    updateNode? key (fun
      | none => (changeAt? made change path made []).map (.table made)
      | some (.table kind below) =>
        if made = .dotted ∧ kind = .given then none
        else (changeAt? made change path kind below).map (.table kind)
      | some (.tables items) =>
        match items.getLast? with
        | none => none
        | some last =>
          (changeAt? made change path .given last).map fun last =>
            .tables (items.dropLast ++ [last])
      | some _ => none) entries

/-- Set a new key, at the end of a path of dotted keys, in a table that is being given. Without a
path the table itself must not come from dotted keys, with one it has to. -/
def assign? (path : List String) (key : String) (value : Node) (entries : Entries) :
    Option Entries :=
  changeAt? .dotted (fun kind entries =>
    if (kind = .dotted) ↔ path.isEmpty then none
    else updateNode? key (fun
      | none => some value
      | some _ => none) entries) path .given entries

/-- Give the table of a header. It must be new, or implied so far, and becomes the last entry of the
table around it. -/
def openTable? (path : List String) (key : String) (root : Entries) : Option Entries :=
  changeAt? .implied (fun _ entries =>
    match entries.lookup key with
    | none => some (entries ++ [(key, .table .given [])])
    | some (.table .implied below) =>
      some (entries.filter (·.1 ≠ key) ++ [(key, .table .given below)])
    | some _ => none) path .given root

/-- Add an item to the list of a header with two brackets. -/
def openItem? (path : List String) (key : String) (root : Entries) : Option Entries :=
  changeAt? .implied (fun _ entries =>
    updateNode? key (fun
      | none => some (.tables [[]])
      | some (.tables items) => some (.tables (items ++ [[]]))
      | some _ => none) entries) path .given root

/-- Set a key in the table that the last header gave. -/
def assignBelow? (header path : List String) (key : String) (value : Node) (root : Entries) :
    Option Entries :=
  changeAt? .implied (fun _ entries => assign? path key value entries) header .given root

/-! ## Finished values -/

/-- The key that makes a table a date, if it is the first one of the table. -/
def dateKey : String := "$__toml_private_datetime"

/-- The date in quotes that stands at the date key. -/
def quotedDate? : Node → Option Setting
  | .leaf (.text text) => (dateTime? text.toList).map .text
  | _ => none

mutual

/-- The value of a node, unless there is a table in it that is not the date it says to be. -/
def Node.toSetting? : Node → Option Setting
  | .leaf value => some value
  | .date text => some (.text text)
  | .array items => (itemsToSettings? items).map .list
  | .braces entries => tableToSetting? entries
  | .table _ entries => tableToSetting? entries
  | .tables items => (tablesToSettings? items).map .list
  termination_by structural node => node

/-- The values of the items of an array. -/
def itemsToSettings? : List Node → Option (List Setting)
  | [] => some []
  | node :: rest => do return (← node.toSetting?) :: (← itemsToSettings? rest)
  termination_by structural items => items

/-- The value of a table with the given entries: a table, or the date at the date key. -/
def tableToSetting? : Entries → Option Setting
  | [] => some (.table [])
  | (key, node) :: rest =>
    if key = dateKey then quotedDate? node
    else do return .table ((key, ← node.toSetting?) :: (← entriesToSettings? rest))
  termination_by structural entries => entries

/-- The values of entries of a table. -/
def entriesToSettings? : Entries → Option (List (String × Setting))
  | [] => some []
  | (key, node) :: rest => do return (key, ← node.toSetting?) :: (← entriesToSettings? rest)
  termination_by structural entries => entries

/-- The values of a list of tables. -/
def tablesToSettings? : List Entries → Option (List Setting)
  | [] => some []
  | entries :: rest => do return (← tableToSetting? entries) :: (← tablesToSettings? rest)
  termination_by structural items => items

end

end Wiring.Toml
