/-!
# Text patterns

A pattern is a regular expression with assertions.  `Pattern.ends` lists the positions at which a match that starts at
a given position may end; a text satisfies a pattern if some position of it starts a match (`Pattern.occursIn`).
Whether a repetition is greedy makes no difference.  Word characters are ASCII letters, digits and the underscore.
-/

namespace RouteTable

inductive CharSet
  | range (low high : Char)
  | none
  | union (a b : CharSet)
  | both (a b : CharSet)
  | negate (a : CharSet)
deriving DecidableEq, Repr

namespace CharSet

def contains : CharSet → Char → Bool
  | range low high, c => low ≤ c && c ≤ high
  | none, _ => false
  | union a b, c => a.contains c || b.contains c
  | both a b, c => a.contains c && b.contains c
  | negate a, c => !a.contains c

def one (c : Char) : CharSet := range c c

def ofList (cs : List Char) : CharSet := cs.foldr (fun c s => union (one c) s) none

def digit : CharSet := range '0' '9'

def lower : CharSet := range 'a' 'z'

def upper : CharSet := range 'A' 'Z'

def word : CharSet := union (union lower upper) (union digit (one '_'))

/-- Blanks of all kinds that a pattern counts as white space. -/
def blank : CharSet :=
  ofList [' ', '\t', '\n', '\r', '\x0b', '\x0c', '\u00a0', '\ufeff', '\u2003', '\u2029']

/-- The set as seen without regard to the case of ASCII letters. -/
def containsFolded (s : CharSet) (c : Char) : Bool := s.contains c || s.contains c.toLower || s.contains c.toUpper

end CharSet

/-- Conditions on a position. -/
inductive Anchor
  | textStart
  | textEnd
  | lineStart
  | lineEnd
  | wordEdge
  | noWordEdge
deriving DecidableEq, Repr

inductive Pattern
  | empty
  | char (set : CharSet) (ignoreCase : Bool)
  | anchor (a : Anchor)
  | seq (p q : Pattern)
  | alt (p q : Pattern)
  /-- At least `least` and at most `most` matches one after the other. -/
  | times (p : Pattern) (least : Nat) (most : Option Nat)
  /-- A match that starts here. -/
  | ahead (p : Pattern) (negated : Bool)
  /-- A match that ends here. -/
  | behind (p : Pattern) (negated : Bool)
deriving DecidableEq, Repr

namespace Anchor

def isWordAt (s : Array Char) (i : Nat) : Bool := (s[i]?).any CharSet.word.contains

/-- Exactly one of the neighbours of a position is a word character. -/
def atWordEdge (s : Array Char) (i : Nat) : Bool := (i != 0 && isWordAt s (i - 1)) != isWordAt s i

def holds (s : Array Char) (i : Nat) : Anchor → Bool
  | textStart => i == 0
  | textEnd => i == s.size
  | lineStart => i == 0 || s[i - 1]? == some '\n'
  | lineEnd => i == s.size || s[i]? == some '\n'
  | wordEdge => atWordEdge s i
  | noWordEdge => !atWordEdge s i

end Anchor

namespace Pattern

/-- Positions reached after exactly some steps. -/
def after (step : Nat → List Nat) : Nat → List Nat → List Nat
  | 0, here => here
  | n + 1, here => after step n (here.flatMap step).eraseDups

/-- Positions reached after at most some steps; `new` are those that were reached last. -/
def within (step : Nat → List Nat) : Nat → List Nat → List Nat → List Nat
  | 0, reached, _ => reached
  | n + 1, reached, new =>
    match (new.flatMap step).eraseDups.filter (!reached.contains ·) with
    | [] => reached
    | next => within step n (reached ++ next) next

/-- Where a match that starts at a position may end. -/
def ends (s : Array Char) : Pattern → Nat → List Nat
  | empty, i => [i]
  | char set ignoreCase, i =>
    match s[i]? with
    | some c => if (if ignoreCase then set.containsFolded c else set.contains c) then [i + 1] else []
    | none => []
  | anchor a, i => if a.holds s i then [i] else []
  | seq p q, i => ((ends s p i).flatMap (ends s q)).eraseDups
  | alt p q, i => (ends s p i ++ ends s q i).eraseDups
  | times p least most, i =>
    let here := after (ends s p) least [i]
    let more := match most with
      | some most => most - least
      | none => s.size + 1
    within (ends s p) more here here
  | ahead p negated, i => if (ends s p i).isEmpty == negated then [i] else []
  | behind p negated, i =>
    if ((List.range (i + 1)).any fun start => (ends s p start).contains i) != negated then [i] else []

/-- Some part of the text matches. -/
def occursIn (p : Pattern) (text : String) : Bool :=
  let s := text.toList.toArray
  (List.range (s.size + 1)).any fun i => !(ends s p i).isEmpty

/-- Whether a pattern looks beyond the part it matches. -/
def looksAround : Pattern → Bool
  | seq p q => p.looksAround || q.looksAround
  | alt p q => p.looksAround || q.looksAround
  | times p _ _ => p.looksAround
  | ahead _ _ => true
  | behind _ _ => true
  | _ => false

end Pattern

end RouteTable
