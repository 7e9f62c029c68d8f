import FieldRules.Double.Basic

/-!
Values of TOML documents. Tables keep their entries in the order of the document and remember how
they came about, since that decides what may still be added to them.
-/
namespace FieldRules

/-- How a table came about. -/
inductive TableForm where
  /-- In braces. -/
  | inline
  /-- By a header, or as the document itself. -/
  | header
  /-- On the way to a header of a table within it. -/
  | implied
  /-- By a dotted key. -/
  | dotted
deriving DecidableEq, Repr

inductive Toml where
  | string (value : String)
  | integer (value : Int)
  | float (value : Double)
  | bool (value : Bool)
  /-- A date, a time of day or both. -/
  | moment
  | array (items : List Toml)
  | table (form : TableForm) (entries : List (String × Toml))
  /-- The tables of repeated headers in double brackets. -/
  | tables (items : List Toml)

namespace Toml

instance : Inhabited Toml := ⟨moment⟩

/-- A table by itself. -/
structure Table where
  form : TableForm
  entries : List (String × Toml)

namespace Table

def toToml (t : Table) : Toml := .table t.form t.entries

def find? (t : Table) (key : String) : Option Toml := t.entries.lookup key

/-- Adds an entry at the end. -/
def add (t : Table) (key : String) (value : Toml) : Table :=
  { t with entries := t.entries ++ [(key, value)] }

/-- Replaces the value under a key in its place. -/
def replace (t : Table) (key : String) (value : Toml) : Table :=
  { t with entries := t.entries.map fun e => if e.1 = key then (key, value) else e }

def erase (t : Table) (key : String) : Table :=
  { t with entries := t.entries.filter fun e => e.1 != key }

end Table

/-- Changes the table at a path and gives what the change gives. Tables that are missing on the way
are made, by dotted keys or by a header. The last table of repeated headers stands for all of them.
Nothing leads into a table in braces, and no dotted key into a table with a header. -/
def Table.alterAt? {α : Type} (dotted : Bool) (change : Table → Option (α × Table)) :
    List String → Table → Option (α × Table)
  | [], t => change t
  | key :: path, t => match t.find? key with
    | none =>
      (alterAt? dotted change path ⟨if dotted then .dotted else .implied, []⟩).map fun r =>
        (r.1, t.add key r.2.toToml)
    | some (.table form entries) =>
      if form = .inline ∨ (dotted ∧ form = .header) then none
      else (alterAt? dotted change path ⟨form, entries⟩).map fun r =>
        (r.1, t.replace key r.2.toToml)
    | some (.tables items) => match items.getLast? with
      | some (.table form entries) =>
        (alterAt? dotted change path ⟨form, entries⟩).map fun r =>
          (r.1, t.replace key (.tables (items.dropLast ++ [r.2.toToml])))
      | _ => none
    | some _ => none

end Toml

end FieldRules
