import FieldRules.Toml.Number
import FieldRules.Toml.Text

/-!
Reading TOML documents. A value is read with a stack of the arrays and tables in braces that are
still open. A document is a sequence of lines, each of them empty, a header or an entry; the entries
after a header belong to its table. No table gets a second header and no key a second value.
-/
namespace FieldRules.Toml

/-- Adds an entry under a key to the table that the parts before its last one lead to. A table that
dotted keys made takes entries by dotted keys only. -/
def Table.addAt? (t : Table) (key : List String × String) (value : Toml) : Option Table :=
  (t.alterAt? true (fun t =>
    if (t.form == .dotted) == key.1.isEmpty || (t.find? key.2).isSome then none
    else some ((), t.add key.2 value)) key.1).map (·.2)

/-- An open array or table in braces, with the key that waits for a value. -/
inductive Open where
  | array (items : List Toml)
  | table (t : Table) (key : List String × String)

/-- What may come next: a value, an item or the end of an array, or what follows a value. -/
inductive Expecting where
  | value
  | item
  | more (v : Toml)

structure ValueReading where
  expecting : Expecting
  stack : List Open
  rest : List Char

/-- A value that is no array and no table. -/
def scalar? (s : List Char) : Option (Toml × List Char) :=
  match s with
  | '"' :: _ | '\'' :: _ => (string? s).map fun r => (.string (String.ofList r.1), r.2)
  | 't' :: 'r' :: 'u' :: 'e' :: rest => some (.bool true, rest)
  | 'f' :: 'a' :: 'l' :: 's' :: 'e' :: rest => some (.bool false, rest)
  | 'i' :: _ | 'n' :: _ => special? false s
  | s => number? s

/-- The key of an entry up to the equals sign and the blanks after it. -/
def entryKey? (s : List Char) : Option ((List String × String) × List Char) :=
  match key? s with
  | some (key, '=' :: rest) => some (key, dropBlanks rest)
  | _ => none

def openTable? (t : Table) (stack : List Open) (s : List Char) : Option ValueReading :=
  (entryKey? s).map fun (key, rest) => ⟨.value, .table t key :: stack, rest⟩

namespace ValueReading

/-- Reads a value, or opens one. -/
def value? (stack : List Open) : List Char → Option ValueReading
  | '[' :: rest =>
    if stack.length + 1 < depthLimit then some ⟨.item, .array [] :: stack, rest⟩ else none
  | '{' :: rest =>
    if stack.length + 1 < depthLimit then
      match dropBlanks rest with
      | '}' :: rest => some ⟨.more (.table .inline []), stack, rest⟩
      | rest => openTable? ⟨.inline, []⟩ stack rest
    else none
  | s => (scalar? s).map fun r => ⟨.more r.1, stack, r.2⟩

/-- One step of the reading of a value that is not at its end. -/
def step? (r : ValueReading) : Option ValueReading :=
  match r.expecting, r.stack with
  | .value, stack => value? stack r.rest
  | .item, .array items :: stack => match dropSpaces r.rest with
    | ']' :: rest => some ⟨.more (.array items.reverse), stack, rest⟩
    | rest => value? r.stack rest
  | .more v, .array items :: stack => match dropSpaces r.rest with
    | ',' :: rest => some ⟨.item, .array (v :: items) :: stack, rest⟩
    | ']' :: rest => some ⟨.more (.array (v :: items).reverse), stack, rest⟩
    | _ => none
  | .more v, .table t key :: stack => (t.addAt? key v).bind fun t =>
    match dropBlanks r.rest with
    | ',' :: rest => openTable? t stack rest
    | '}' :: rest => some ⟨.more t.toToml, stack, rest⟩
    | _ => none
  | _, _ => none

def runWithin? : Nat → ValueReading → Option (Toml × List Char)
  | fuel, r => match r, fuel with
    | ⟨.more v, [], rest⟩, _ => some (v, rest)
    | _, 0 => none
    | r, fuel + 1 => r.step?.bind (runWithin? fuel)

end ValueReading

/-- A value; every step of its reading takes a character. -/
def value? (s : List Char) : Option (Toml × List Char) :=
  ValueReading.runWithin? (s.length + 1) ⟨.value, [], s⟩

/-- A line of a document. -/
inductive Line where
  | blank
  | header (path : List String × String)
  | arrayHeader (path : List String × String)
  | entry (key : List String × String) (value : Toml)

def line? (s : List Char) : Option (Line × List Char) :=
  match dropBlanks s with
  | [] => some (.blank, [])
  | '#' :: rest => (endLine? ('#' :: rest)).map (.blank, ·)
  | '[' :: '[' :: rest => match key? rest with
    | some (path, ']' :: ']' :: rest) => (endLine? rest).map (.arrayHeader path, ·)
    | _ => none
  | '[' :: rest => match key? rest with
    | some (path, ']' :: rest) => (endLine? rest).map (.header path, ·)
    | _ => none
  | s => match lineEnd? s with
    | some rest => some (.blank, rest)
    | none => do
      let (key, rest) ← entryKey? s
      let (value, rest) ← value? rest
      (endLine? rest).map (.entry key value, ·)

/-- A document under construction: the tables closed so far, and the table that takes entries, with
its path unless it is the document itself. -/
structure Building where
  root : Table
  current : Table
  path : Option (Bool × (List String × String))

namespace Building

def start : Building := ⟨⟨.header, []⟩, ⟨.header, []⟩, none⟩

/-- Puts the current table in its place. -/
def close? (b : Building) : Option Table :=
  match b.path with
  | none => some b.current
  | some (repeated, path) =>
    (b.root.alterAt? false (fun parent => match repeated, parent.find? path.2 with
      | false, none => some ((), parent.add path.2 b.current.toToml)
      | true, some (.tables items) =>
        some ((), parent.replace path.2 (.tables (items ++ [b.current.toToml])))
      | _, _ => none) path.1).map (·.2)

/-- Takes the table that a header names out of its place; it must not have been made but on the way
to others. -/
def openHeader? (b : Building) (path : List String × String) : Option Building := do
  let (current, root) ← (← b.close?).alterAt? false (fun parent => match parent.find? path.2 with
    | none => some (⟨.header, []⟩, parent)
    | some (.table .implied entries) => some (⟨.header, entries⟩, parent.erase path.2)
    | some _ => none) path.1
  return ⟨root, current, some (false, path)⟩

def openArrayHeader? (b : Building) (path : List String × String) : Option Building := do
  let (_, root) ← (← b.close?).alterAt? false (fun parent => match parent.find? path.2 with
    | none => some ((), parent.add path.2 (.tables []))
    | some (.tables _) => some ((), parent)
    | some _ => none) path.1
  return ⟨root, ⟨.header, []⟩, some (true, path)⟩

def line? (b : Building) : Line → Option Building
  | .blank => some b
  | .header path => b.openHeader? path
  | .arrayHeader path => b.openArrayHeader? path
  | .entry key value => (b.current.addAt? key value).map fun current => { b with current }

def runWithin? : Nat → Building → List Char → Option Building
  | _, b, [] => some b
  | 0, _, _ => none
  | fuel + 1, b, s => do
    let (line, rest) ← Toml.line? s
    runWithin? fuel (← b.line? line) rest

end Building

/-- The table of a document; a byte order mark in front does not count. -/
def ofChars? (s : List Char) : Option Table :=
  let s := match s with
    | '\ufeff' :: rest => rest
    | s => s
  (Building.start.runWithin? (s.length + 1) s).bind Building.close?

end FieldRules.Toml
