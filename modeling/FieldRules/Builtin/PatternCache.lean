import FieldRules.Builtin.Language

/-!
The compiled patterns of a process, by their sources. All regex checks of all engines share them. A
check takes its pattern from there, or else compiles it and adds it to what the other checks have
left by that time. Looking for a pattern is one step and adding it another, and other checks may
come between the two. A source that has no pattern adds nothing.
-/
namespace FieldRules

open Pattern

structure PatternCache where
  patterns : Dict (Pattern Atom)

/-- A call of the validator `regex`. -/
structure RegexCheck where
  focus : Focus
  args : List String

namespace RegexCheck

/-- The source of the pattern, if the rule gives one. -/
def source? (check : RegexCheck) : Option String := argument? check.args 0

/-- The verdict on the value, once its pattern is known. -/
def judge (check : RegexCheck) (source : String) (p : Pattern Atom) : Verdict :=
  Builtin.judgeText p check.focus
    s!"Field `{check.focus.field}` does not match regexp: `/{source}/`."

end RegexCheck

namespace PatternCache

def empty : PatternCache := ⟨.empty⟩

def find? (c : PatternCache) (source : String) : Option (Pattern Atom) := c.patterns.find? source

def add (c : PatternCache) (source : String) (p : Pattern Atom) : PatternCache :=
  ⟨c.patterns.insert source p⟩

/-- The pattern of a source, and whether it was compiled just now. -/
def fetch (c : PatternCache) (source : String) : Except RuleError (Pattern Atom × Bool) :=
  match c.find? source with
  | some p => .ok (p, false)
  | none => match compile source with
    | .error fault => .error (.invalidPattern source fault)
    | .ok p => .ok (p, true)

/-- The pattern of a source, and the cache after that. -/
def compiled (c : PatternCache) (source : String) :
    Except RuleError (Pattern Atom) × PatternCache :=
  match c.fetch source with
  | .error err => (.error err, c)
  | .ok (p, isNew) => (.ok p, if isNew then c.add source p else c)

/-- What a check comes to, and the cache after it. -/
def check (c : PatternCache) (check : RegexCheck) : Except RuleError Verdict × PatternCache :=
  match check.source? with
  | none => (.error (.missingArgument "regex" "pattern"), c)
  | some source =>
    let (pattern, next) := c.compiled source
    (pattern.map (check.judge source), next)

end PatternCache

/-- Checks that run at the same time: the cache that they share, and the patterns that some of them
have compiled and not yet added, with their sources. -/
structure PatternProcess where
  cache : PatternCache
  pending : List (String × Pattern Atom)

inductive PatternAccess where
  /-- A check looks for its pattern, and compiles it if it is not there. -/
  | look (source : String)
  /-- The check whose pattern is at this place adds it. -/
  | add (place : Nat)

namespace PatternProcess

def start : PatternProcess := ⟨.empty, []⟩

def after (s : PatternProcess) : PatternAccess → PatternProcess
  | .look source => match s.cache.fetch source with
    | .ok (p, true) => { s with pending := s.pending ++ [(source, p)] }
    | _ => s
  | .add place => match s.pending[place]? with
    | some (source, p) => ⟨s.cache.add source p, s.pending.eraseIdx place⟩
    | none => s

def run (s : PatternProcess) (accesses : List PatternAccess) : PatternProcess :=
  accesses.foldl after s

end PatternProcess

end FieldRules
