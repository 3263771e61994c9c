import VarsAdvisor.Compression.Bits

/-!
# Prefix codes

A prefix code is given by the length of each symbol's code word. Words of one length are numbers
that follow one another in the order of their symbols, and the words of the next length follow those
that have been used. So a code is known by the symbols of each length.
-/

namespace VarsAdvisor.Compression

/-- A prefix code: for each length of a word, from one on, the symbols with words of that length. -/
structure PrefixCode where
  levels : List (List Nat)
  deriving DecidableEq, Repr

namespace PrefixCode

/-- The symbols whose words have this length. -/
def symbolsOf (lengths : List Nat) (length : Nat) : List Nat :=
  (lengths.zipIdx.filter fun (n, _) => n == length).map (·.2)

/-- The code whose words have these lengths; a symbol with a length of zero has no word. Without
any word there is still one level. -/
def ofLengths (lengths : List Nat) : PrefixCode :=
  ⟨(List.range (max 1 (lengths.foldl max 0))).map fun n => symbolsOf lengths (n + 1)⟩

/-- How many words are left over behind the levels, if there are `free` before them; none if there
are too few. -/
def spare? (free : Nat) : List (List Nat) → Option Nat
  | [] => some free
  | level :: deeper =>
    if level.length ≤ 2 * free then spare? (2 * free - level.length) deeper else none

/-- All words are used. -/
def isComplete (code : PrefixCode) : Bool :=
  spare? 1 code.levels == some 0

/-- There is no word at all. -/
def isEmpty (code : PrefixCode) : Bool :=
  code.levels.all List.isEmpty

/-- All words are used, or there is at most one, of a single bit. -/
def isUsable (code : PrefixCode) : Bool :=
  code.isComplete || code.isEmpty || code.levels.map List.length == [1]

/-- The symbol of the next word, which is `place` behind the first of its level. A word of no
symbol is a flaw. -/
def walk (flaw : Flaw) (place : Nat) : List (List Nat) → BitReader Nat
  | [] => stopAt flaw
  | level :: deeper => do
    let bit ← takeBit
    let place := 2 * place + bit.toNat
    match level[place]? with
    | some symbol => pure symbol
    | none => walk flaw (place - level.length) deeper

/-- Takes a word and gives its symbol. -/
def take (code : PrefixCode) (flaw : Flaw) : BitReader Nat :=
  walk flaw 0 code.levels

end PrefixCode

end VarsAdvisor.Compression
