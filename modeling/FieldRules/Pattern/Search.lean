import FieldRules.Pattern.Basic

/-!
Searching a text for a pattern. A set of positions of the text is a number whose binary digits mark
its members. A pattern takes a set of positions to the set of all positions at which a match can end
that started in it; it occurs in the text if this set is not empty when the search starts
everywhere.
-/
namespace FieldRules.Pattern

/-- The set of the places in a list whose members satisfy `p`. -/
def places {α : Type} (p : α → Bool) : List α → Nat
  | [] => 0
  | a :: rest => (if p a then 1 else 0) + 2 * places p rest

/-- What an atom is worth on a text: the positions where it holds, and the characters it takes. -/
structure Gate where
  positions : Nat
  width : Nat
deriving Repr

def Gate.pass (g : Gate) (s : Nat) : Nat := (s &&& g.positions) <<< g.width

/-- The characters on both sides of every position of a text. -/
def borders (text : List Char) : List (Option Char × Option Char) :=
  (none :: text.map some).zip (text.map some ++ [none])

def Atom.gate (text : List Char) : Atom → Gate
  | .char s => ⟨places s.contains text, 1⟩
  | .look l => ⟨places (fun b => l.holds b.1 b.2) (borders text), 0⟩

/-- `n` times `f`; it stops where nothing changes any more. -/
def times (f : Nat → Nat) : Nat → Nat → Nat
  | 0, s => s
  | n + 1, s =>
    let next := f s
    if next = s then s else times f n next

/-- All that `f` reaches in at most `n` steps, with the start; it stops where nothing is added. -/
def within (f : Nat → Nat) : Nat → Nat → Nat
  | 0, s => s
  | n + 1, s =>
    let next := s ||| f s
    if next = s then s else within f n next

/-- Where matches that start in a set can end. On a text of `size` characters, `size` rounds of a
repetition reach all that any number of rounds can reach. -/
def ends (size : Nat) : Pattern Gate → Nat → Nat
  | empty, s => s
  | atom g, s => g.pass s
  | seq p q, s => ends size q (ends size p s)
  | alt p q, s => ends size p s ||| ends size q s
  | repeated least most p, s =>
    let rounds := match most with
      | some most => most - least
      | none => size
    within (ends size p) rounds (times (ends size p) least s)
  | capture p, s => ends size p s

/-- The set of all positions of a text of `size` characters. -/
def everywhere (size : Nat) : Nat := Nat.pow 2 (size + 1) - 1

/-- Whether a pattern occurs somewhere in a text. -/
def occursIn (p : Pattern Atom) (text : List Char) : Bool :=
  ends text.length (p.map (Atom.gate text)) (everywhere text.length) != 0

end FieldRules.Pattern
