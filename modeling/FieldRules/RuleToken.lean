/-!
Rule tokens: the name of a validator and, after colons, its arguments. Arguments go by their place
and may be empty. A validator may limit how many it takes; the last one then keeps all further
colons.
-/
namespace FieldRules

structure RuleToken where
  name : String
  args : List String
deriving DecidableEq

namespace RuleToken

/-- The text before the first colon, and the text after it if there is a colon. -/
def splitColon (s : List Char) : List Char × Option (List Char) :=
  match s.dropWhile (· != ':') with
  | [] => (s, none)
  | _ :: rest => (s.takeWhile (· != ':'), some rest)

/-- Cuts at colons into at most `most` pieces. -/
def pieces : Nat → List Char → List (List Char)
  | 0, _ => []
  | 1, s => [s]
  | _ + 2, [] => [[]]
  | most + 2, c :: rest =>
    if c = ':' then [] :: pieces (most + 1) rest
    else match pieces (most + 2) rest with
      | [] => [[c]]
      | piece :: others => (c :: piece) :: others

/-- The arguments in the text after the first colon; with no limit, as many as there are. -/
def arguments (maxArgs : Option Nat) (s : List Char) : List (List Char) :=
  pieces (maxArgs.getD (s.length + 1)) s

/-- The name of a token's validator. -/
def nameOf (token : String) : String := String.ofList (splitColon token.toList).1

/-- Reads a token for a validator that takes at most `maxArgs` arguments. -/
def ofText (maxArgs : Option Nat) (token : String) : RuleToken :=
  let (name, rest) := splitColon token.toList
  { name := String.ofList name
    args := match rest with
      | none => []
      | some rest => (arguments maxArgs rest).map String.ofList }

def toText (t : RuleToken) : String := t.args.foldl (fun s arg => s ++ ":" ++ arg) t.name

end RuleToken

end FieldRules
