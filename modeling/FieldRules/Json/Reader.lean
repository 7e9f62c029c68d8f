import FieldRules.Json.Basic
import FieldRules.Json.Document

/-!
Reading JSON values. Of a text's tree, its strings must hold whole characters, its numbers must not
be too large and its containers nest at most 127 deep; of two members with one key the later counts.

A number without fraction and exponent is an integer if it fits in 64 bits. Any other number is the
double of its first digits, as many as fit in 64 bits, times or divided by the double of a power of
ten; since both the power and the result are rounded, it may miss the nearest double by one.
-/
namespace FieldRules.Json

def nestingLimit : Nat := 127

def isHighUnit (code : Nat) : Bool := 0xD800 ≤ code && code < 0xDC00

def isLowUnit (code : Nat) : Bool := 0xDC00 ≤ code && code < 0xE000

/-- The characters of a string; a high unit and a low one after it make one character. -/
def charsOf? : List Piece → Option (List Char)
  | [] => some []
  | .char c :: rest => (charsOf? rest).map (c :: ·)
  | .unit high :: .unit low :: rest =>
    if isHighUnit high then
      if isLowUnit low then
        (charsOf? rest).map (Char.ofNat (0x10000 + (high - 0xD800) * 0x400 + (low - 0xDC00)) :: ·)
      else none
    else if isLowUnit high then none
    else (charsOf? (.unit low :: rest)).map (Char.ofNat high :: ·)
  | .unit code :: rest =>
    if isHighUnit code || isLowUnit code then none
    else (charsOf? rest).map (Char.ofNat code :: ·)

def stringOf? (pieces : List Piece) : Option String := (charsOf? pieces).map String.ofList

/-- Appends digits to a number as long as it stays below 2⁶⁴; gives the digits left over too. -/
def absorb (number : Nat) : List Char → Nat × List Char
  | [] => (number, [])
  | d :: rest =>
    let next := number * 10 + (d.toNat - '0'.toNat)
    if next < UInt64.size then absorb next rest else (number, d :: rest)

/-- `base * 10 ^ exponent` in doubles, the power within 10³⁰⁸; nothing if it is infinite. -/
def scaled? : Nat → Double → Int → Option Double
  | rounds, base, exponent =>
    if 0 ≤ exponent then
      if exponent ≤ 308 then
        let product := base.mul (.ofDecimal false 1 exponent)
        if product.isFinite then some product else none
      else if base.signedUnits = 0 then some base
      else none
    else if -308 ≤ exponent then some (base.div (.ofDecimal false 1 (-exponent)))
    else match rounds with
      | 0 => some base
      | rounds + 1 => scaled? rounds (base.div (.ofDecimal false 1 308)) (exponent + 308)

namespace NumberText

def exponentValue (n : NumberText) : Int :=
  match n.exponent with
  | none => 0
  | some (negative, digits) =>
    let value : Int := Nat.ofDigitChars 10 digits 0
    if negative then -value else value

/-- Four divisions by 10³⁰⁸ take every number below 2⁶⁴ to zero. -/
def toDouble? (n : NumberText) : Option Double :=
  let (whole, wholeLeft) := absorb 0 n.whole
  let fraction := n.fraction.getD []
  let (significand, fractionLeft) := absorb whole fraction
  let exponent : Int := wholeLeft.length - (fraction.length - fractionLeft.length : Nat)
  (scaled? 4 (.ofNat significand) (exponent + n.exponentValue)).map fun d =>
    if n.negative then d.negate else d

def toJson? (n : NumberText) : Option Json :=
  let whole := Nat.ofDigitChars 10 n.whole 0
  if n.fraction.isSome || n.exponent.isSome then n.toDouble?.map .double
  else if n.negative then
    if whole = 0 then some (.double (.ofUnits true 0))
    else if Int64.minValue.toInt ≤ -(whole : Int) then some (.integer (-(whole : Int)))
    else n.toDouble?.map .double
  else if whole < UInt64.size then some (.integer whole)
  else n.toDouble?.map .double

end NumberText

namespace Document

mutual

/-- The value of a tree with at most `room` containers around each of its values. -/
def toJson? (room : Nat) : Document → Option Json
  | .null => some .null
  | .bool b => some (.bool b)
  | .number text => text.toJson?
  | .string pieces => (stringOf? pieces).map .string
  | .array items => match room with
    | 0 => none
    | room + 1 => (itemsOf? room items).map .array
  | .object members => match room with
    | 0 => none
    | room + 1 => (membersOf? room members).map fun ms => .ofDict (Dict.ofList ms)

def itemsOf? (room : Nat) : List Document → Option (List Json)
  | [] => some []
  | item :: rest => (toJson? room item).bind fun v => (itemsOf? room rest).map (v :: ·)

def membersOf? (room : Nat) : List (List Piece × Document) → Option (List (String × Json))
  | [] => some []
  | (key, item) :: rest =>
    (stringOf? key).bind fun k => (toJson? room item).bind fun v =>
      (membersOf? room rest).map ((k, v) :: ·)

end

end Document

def ofChars? (s : List Char) : Option Json :=
  (Document.ofChars? s).bind (Document.toJson? nestingLimit)

/-- The value of a JSON text. -/
def ofText? (s : String) : Option Json := ofChars? s.toList

end FieldRules.Json
