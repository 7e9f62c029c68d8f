import FieldRules.Unicode.Age
import FieldRules.Unicode.Category
import FieldRules.Unicode.Property
import FieldRules.Unicode.Script
import FieldRules.Unicode.ScriptExtension
import FieldRules.Unicode.Segmentation

/-!
Properties of characters by name. Case, blanks, hyphens and underscores in a name do not count, nor
does `is` in front of it. A name alone is that of a yes-or-no property, a general category or a
script; a name with a value picks one class of a property that has several.
-/
namespace FieldRules.Unicode

def separators : List Char := [' ', '_', '-']

/-- The plain form of a name. The short name of the category of others is kept from being taken for
that of a comment. -/
def plainName (name : List Char) : List Char :=
  let hasIs := (name.take 2).map Char.toLower = ['i', 's']
  let rest := if hasIs then name.drop 2 else name
  let plain := (rest.filter fun c => c.toNat ≤ 0x7F && !separators.contains c).map Char.toLower
  if hasIs ∧ plain = ['c'] then ['i', 's', 'c'] else plain

/-- The groups of general categories, with their short and long names and their members. -/
def categoryGroups : List (List String × List String) :=
  [(["l", "letter"], ["lu", "ll", "lt", "lm", "lo"]),
   (["lc", "casedletter"], ["lu", "ll", "lt"]),
   (["m", "mark", "combiningmark"], ["mn", "mc", "me"]),
   (["n", "number"], ["nd", "nl", "no"]),
   (["p", "punctuation", "punct"], ["pc", "pd", "ps", "pe", "pi", "pf", "po"]),
   (["s", "symbol"], ["sm", "sc", "sk", "so"]),
   (["z", "separator"], ["zs", "zl", "zp"])]

/-- The categories of all assigned characters. -/
def assigned : CharSet := .ofRanges (categoryTexts.flatMap fun t => rangesOfText t.2)

def category? (name : String) : Option CharSet :=
  if name = "any" then some .full
  else if name = "ascii" then some ⟨[(0, 0x7F)]⟩
  else if name = "assigned" then some assigned
  else if name = "cn" ∨ name = "unassigned" then some assigned.complement
  else if name = "c" ∨ name = "other" then
    some (assigned.complement.union (unionOf categoryTexts ["cc", "cf", "co"]))
  else match categoryGroups.find? fun g => g.1.contains name with
    | some g => some (unionOf categoryTexts g.2)
    | none => lookup? categoryTexts name

/-- The characters of a version of the standard and of all versions before it. -/
def age? (name : String) : Option CharSet :=
  (ageTexts.findIdx? fun t => t.1.contains name).map fun i =>
    .ofRanges ((ageTexts.take (i + 1)).flatMap fun t => rangesOfText t.2)

/-- The set of a property given by its name alone. -/
def named? (name : List Char) : Option CharSet :=
  let name := String.ofList (plainName name)
  (lookup? propertyTexts name).or ((category? name).or (lookup? scriptTexts name))

/-- The set of the characters for which a property has a value. -/
def valued? (property value : List Char) : Option CharSet :=
  let value := String.ofList (plainName value)
  match String.ofList (plainName property) with
  | "gc" | "generalcategory" => category? value
  | "sc" | "script" => lookup? scriptTexts value
  | "scx" | "scriptextensions" => lookup? scriptExtensionTexts value
  | "age" => age? value
  | "gcb" | "graphemeclusterbreak" => lookup? graphemeBreakTexts value
  | "wb" | "wordbreak" => lookup? wordBreakTexts value
  | "sb" | "sentencebreak" => lookup? sentenceBreakTexts value
  | _ => none

end FieldRules.Unicode
