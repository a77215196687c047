import TrafficMap.Json.Members
import TrafficMap.Json.Value

/-!
# Tables

A TOML document builds a table step by step, and a table that was finished once is not opened
again. So every table remembers how it came about: it was written with a header of its own, it is
implied by the header of a table below it, or a dotted key made it. A header may finish an implied
table, and dotted keys may go on with a table that dotted keys made. `insert?` and `place?` are the
two ways of adding to a table; both refuse to replace a value.
-/

namespace TrafficMap.Toml

open Json (Value)
open Members (put)

/-- How a table came about. -/
inductive Origin where
  /-- It has a header, or it is the whole document. -/
  | written
  /-- A table below it has a header. -/
  | implied
  /-- It is named by a dotted key. -/
  | dotted
  deriving DecidableEq, Repr

/-- What a key stands for: a value, a table, or the tables that share a header. -/
inductive Node where
  | value (v : Value)
  | table (origin : Origin) (entries : List (String × Node))
  | rows (tables : List (List (String × Node)))

/-- The entries of a table; their keys are distinct. -/
abbrev Entries := List (String × Node)

namespace Node

mutual

/-- A node as a value. -/
def toValue : Node → Value
  | value v => v
  | table _ entries => .object (membersOf entries)
  | rows tables => .array (objectsOf tables)

/-- The members of a table. -/
def membersOf : List (String × Node) → List (String × Value)
  | [] => []
  | (k, n) :: rest => (k, toValue n) :: membersOf rest

/-- Tables as objects. -/
def objectsOf : List (List (String × Node)) → List Value
  | [] => []
  | t :: rest => .object (membersOf t) :: objectsOf rest

end

end Node

namespace Entries

/-- Changes the table at the end of a path, making the tables on the way that are missing. The path
of a dotted key leads only through tables that have no header of their own; any path leads through
the last of the tables that share a header, but never through a value. -/
def alter? (made : Origin) (change : Origin → Entries → Option Entries) :
    List String → Origin → Entries → Option Entries
  | [], origin, t => change origin t
  | key :: path, _, t =>
    match t.lookup key with
    | none => (alter? made change path made []).map fun sub => put key (.table made sub) t
    | some (.value _) => none
    | some (.table origin sub) =>
      if made = .dotted && origin = .written then none
      else (alter? made change path origin sub).map fun sub => put key (.table origin sub) t
    | some (.rows tables) =>
      (alter? made change path .written (tables.getLastD [])).map fun last =>
        put key (.rows (tables.dropLast ++ [last])) t

/-- Adds the value of a key, whose dotted path leads to a table that dotted keys made. -/
def insert? (path : List String) (key : String) (v : Value) (t : Entries) : Option Entries :=
  alter? .dotted (fun origin t =>
      if (!path.isEmpty && origin != .dotted) || (t.lookup key).isSome then none
      else some (put key (.value v) t))
    path .written t

/-- Adds the values of some keys one after another. -/
def insertAll? (t : Entries) (lines : List (List String × String × Value)) : Option Entries :=
  lines.foldlM (fun t (path, key, v) => insert? path key v t) t

/-- Adds the table of a header, with the values of its lines. A header that is shared adds one more
table; any other finishes an implied table or begins one. -/
def place? (shared : Bool) (path : List String) (key : String)
    (lines : List (List String × String × Value)) (t : Entries) : Option Entries :=
  alter? .implied (fun _ t =>
      if shared then
        match t.lookup key with
        | none => (insertAll? [] lines).map fun row => put key (.rows [row]) t
        | some (.rows tables) =>
          (insertAll? [] lines).map fun row => put key (.rows (tables ++ [row])) t
        | some _ => none
      else
        match t.lookup key with
        | none => (insertAll? [] lines).map fun sub => put key (.table .written sub) t
        | some (.table .implied sub) =>
          (insertAll? sub lines).map fun sub => put key (.table .written sub) t
        | some _ => none)
    path .written t

end Entries

end TrafficMap.Toml
