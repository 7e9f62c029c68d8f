import FieldRules.Pattern.Basic

/-!
How heavy a pattern is, in bytes of the machine that would search for it backwards byte by byte, or
forwards with marks at its groups. Every state of the machine takes 32 bytes; counted repetitions
are written out, and a set of characters takes a state for each range of bytes that begins one of
its characters. Patterns beyond a limit are refused.
-/
namespace FieldRules.Pattern

def weightLimit : Nat := 10485760

def stateWeight : Nat := 32

/-- Cuts a range of code points into ranges whose encodings are products of byte ranges. -/
def evenRanges : Nat → Nat → Nat → List (Nat × Nat)
  | 0, first, last => [(first, last)]
  | fuel + 1, first, last =>
    if last < first then []
    else match [0x7F, 0x7FF, 0xFFFF].find? fun m => first ≤ m && m < last with
      | some m => evenRanges fuel first m ++ evenRanges fuel (m + 1) last
      | none =>
        if last ≤ 0x7F then [(first, last)]
        else match [0x40, 0x1000, 0x40000].find? fun block => first / block != last / block &&
            (first % block != 0 || last % block != block - 1) with
          | none => [(first, last)]
          | some block =>
            if first % block != 0 then
              let cut := (first / block + 1) * block
              evenRanges fuel first (cut - 1) ++ evenRanges fuel cut last
            else
              let cut := last / block * block
              evenRanges fuel first (cut - 1) ++ evenRanges fuel cut last

/-- The bytes of a code point's encoding. -/
def encoded (code : Nat) : List Nat :=
  if code ≤ 0x7F then [code]
  else if code ≤ 0x7FF then [0xC0 + code / 0x40, 0x80 + code % 0x40]
  else if code ≤ 0xFFFF then
    [0xE0 + code / 0x1000, 0x80 + code / 0x40 % 0x40, 0x80 + code % 0x40]
  else
    [0xF0 + code / 0x40000, 0x80 + code / 0x1000 % 0x40, 0x80 + code / 0x40 % 0x40,
      0x80 + code % 0x40]

def byteRanges (r : Nat × Nat) : List (Nat × Nat) := (encoded r.1).zip (encoded r.2)

def commonLength : List (Nat × Nat) → List (Nat × Nat) → Nat
  | a :: s, b :: t => if a = b then 1 + commonLength s t else 0
  | _, _ => 0

/-- The states for sequences of byte ranges, one for each beginning. -/
def beginnings : List (Nat × Nat) → List (List (Nat × Nat)) → Nat
  | _, [] => 0
  | last, s :: rest => s.length - commonLength last s + beginnings s rest

def setWeight (s : CharSet) : Nat :=
  match s.ranges with
  | [] => stateWeight
  | ranges =>
    if ranges.length = 1 ∧ ranges.all (fun r => r.1 = r.2) then
      stateWeight * (ranges.flatMap fun r => encoded r.1).length
    else if s.isAscii then 2 * stateWeight + 8 * ranges.length
    else
      let sequences := (ranges.flatMap fun r => evenRanges 64 r.1 r.2).map byteRanges
      stateWeight * (2 + beginnings [] sequences) + 4 * sequences.length

/-- The weight of a pattern and the least and the greatest number of characters it takes. -/
structure Measure where
  backward : Nat
  forward : Nat
  /-- Every match takes a character. -/
  proper : Bool
  /-- No match takes a character. -/
  blank : Bool

namespace Measure

def seq (m n : Measure) : Measure :=
  ⟨m.backward + n.backward, m.forward + n.forward, m.proper || n.proper, m.blank && n.blank⟩

def alt (m n : Measure) : Measure :=
  ⟨m.backward + n.backward + 72, m.forward + n.forward + 72, m.proper && n.proper,
    m.blank && n.blank⟩

/-- The weight of a repetition of something that weighs `w`. -/
def repeatedWeight (proper : Bool) (least : Nat) (most : Option Nat) (w : Nat) : Nat :=
  match most with
  | none =>
    if least = 0 then if proper then w + 40 else w + 112
    else least * w + 40
  | some most =>
    if most ≤ least then max stateWeight (least * w)
    else least * w + stateWeight + (most - least) * (w + 40)

def repeated (least : Nat) (most : Option Nat) (m : Measure) : Measure :=
  let least := if m.blank then min least 1 else least
  let most := if m.blank then some ((most.map (min 1)).getD 1) else most
  ⟨repeatedWeight m.proper least most m.backward, repeatedWeight m.proper least most m.forward,
    least != 0 && m.proper, m.blank || most == some 0⟩

end Measure

def measure : Pattern Atom → Measure
  | empty => ⟨stateWeight, stateWeight, false, true⟩
  | atom (.char s) => ⟨setWeight s, setWeight s / 2, true, false⟩
  | atom (.look _) => ⟨stateWeight, stateWeight, false, true⟩
  | seq p q => p.measure.seq q.measure
  | alt p q => p.measure.alt q.measure
  | repeated least most p => p.measure.repeated least most
  | capture p =>
    let m := p.measure
    { m with forward := m.forward + 2 * stateWeight }

def tooHeavy (p : Pattern Atom) : Bool :=
  let m := p.measure
  weightLimit < max m.backward m.forward

end FieldRules.Pattern
