import Stencil.Number.Read

/-!
# Packed tables

Large tables are kept packed, as lines of capitals, digits and few other symbols. A line is given by how much of the line
above it starts with and by its rest. The bits of all this are read from one long fraction in base ninety: each bit
takes its share of an interval, the larger the more it was to be expected. What is to be expected is learned on the way,
from what stood in the same surroundings before: each kind of surroundings gives an estimate, and the estimates are
added up with weights that are learned as well. In tables of numbers, each number is written as its difference from the one
above it.
-/

set_option autoImplicit false

namespace Stencil.Text.Packed

def alphabet : List Char :=
  ((List.range 95).map fun i => Char.ofNat (32 + i)).filter fun c => c ∉ [' ', '"', '\\', '\x7b', '\x7d']

def symbols : List Char := "\n -(),0123456789ABCDEFGHIJKLMNOPQRSTUVWXYZ".toList

/-! ## Estimates -/

def stir (h n : Nat) : Nat := (h * 0x2f0b4c47 + n + 1) % 0x80000000

def digest (ns : List Nat) : Nat := ns.foldl stir 7

def around (surroundings path : Nat) : Nat := stir (stir surroundings path) 0

def cells : Nat := 0x200000

def kept (memory : Array Nat) (h : Nat) : Nat :=
  let found := memory.getD (h / 0x400) 0
  if found / 0x80000 = h / 2 % 0x100 then found else h / 2 % 0x100 * 0x80000 + 0x40000

def chance (cell : Nat) : Nat := cell / 8 % 0x10000

def learned (cell : Nat) (bit : Bool) : Nat :=
  let (one, seen) := (chance cell, cell % 8)
  let one := if bit then one + (0x10000 - one) * 2 / (2 * seen + 3) else one - one * 2 / (2 * seen + 3)
  cell / 0x80000 * 0x80000 + max 32 (min one (0x10000 - 32)) * 8 + min (seen + 1) 7

def logarithm (n : Nat) : Nat := 0x100 * n.log2 + (n * 0x100) >>> n.log2 - 0x100

def odds : Array Int :=
  ((List.range 0x1000).map fun i => (logarithm (16 * i + 8) : Int) - logarithm (0x10000 - (16 * i + 8))).toArray

def evidence (cell : Nat) : Int := if cell % 8 = 0 then 0 else odds.getD (chance cell / 16) 0

def weigh (memory : Array Nat) (weights : Array Int) (path : Nat) : Nat → List Nat → Int → Int
  | _, [], sum => sum
  | i, s :: rest, sum =>
    weigh memory weights path (i + 1) rest (sum + weights.getD i 0 * evidence (kept memory (around s path)))

def learn (bit : Bool) (missed : Int) (path : Nat) :
    Nat → List Nat → Array Nat → Array Int → Array Nat × Array Int
  | _, [], memory, weights => (memory, weights)
  | i, s :: rest, memory, weights =>
    let h := around s path
    let cell := kept memory h
    let weight := weights.getD i 0 + missed * evidence cell / 0x8000
    learn bit missed path (i + 1) rest (memory.setIfInBounds (h / 0x400) (learned cell bit)) (weights.setIfInBounds i weight)

def likelihood (evidence : Int) : Nat :=
  let size := min evidence.natAbs 0xbff
  let odds := (0x100 + size % 0x100) <<< (size / 0x100)
  let one := 0x10000 * odds / (odds + 0x100)
  if evidence < 0 then 0x10000 - one else one

/-! ## Symbols -/

structure Reader where
  width : Nat
  offset : Nat
  digits : List Nat
  memory : Array Nat := Array.replicate cells 0x40000
  weights : Array Int := Array.replicate 0x600 20000

def refill (width offset : Nat) : List Nat → Nat × Nat × List Nat
  | [] => (width, offset, [])
  | d :: digits => if width < 0x1000000 then refill (width * 90) (offset * 90 + d) digits else (width, offset, d :: digits)

def Reader.bit (r : Reader) (surroundings : List Nat) (kind path : Nat) : Bool × Reader :=
  let first := 8 * (64 * kind + path)
  let one := likelihood (weigh r.memory r.weights path first surroundings 0 / 0x10000)
  let share := r.width * one / 0x10000
  let bit := decide (r.offset < share)
  let missed : Int := (if bit then 0x10000 else 0) - (one : Int)
  let (memory, weights) := learn bit missed path first surroundings r.memory r.weights
  let (width, offset, digits) :=
    if bit then refill share r.offset r.digits else refill (r.width - share) (r.offset - share) r.digits
  (bit, { width, offset, digits, memory, weights })

def Reader.symbol (surroundings : List Nat) (kind : Nat) : (bits path : Nat) → Reader → Nat × Reader
  | 0, path, r => (path - 64, r)
  | bits + 1, path, r =>
    let (bit, r) := r.bit surroundings kind path
    symbol surroundings kind bits (2 * path + bit.toNat) r

/-! ## Lines -/

def isBreak (c : Nat) : Bool := c = ' '.toNat || c = '-'.toNat || c = ','.toNat

def wordsFrom (word : Nat) : List Nat → List Nat
  | [] => [word]
  | c :: line => if isBreak c then word :: wordsFrom (digest []) line else wordsFrom (stir word c) line

structure Place where
  before : List Nat := []
  above : List Nat
  farther : List Nat
  word : Nat := digest []
  words : List Nat

def Place.step (p : Place) (c : Nat) : Place where
  before := c :: p.before
  above := p.above.tail
  farther := p.farther.tail
  word := if isBreak c then digest [] else stir p.word c
  words := if isBreak c then p.words.tail else p.words

def Place.surroundings (p : Place) (first : Nat) : List Nat :=
  [digest (1 :: p.before.take 1), digest (2 :: p.before.take 3), digest (3 :: p.before.take 5), digest [4, p.word],
    digest [5, p.word, p.words.headD 0], digest (6 :: first :: p.before.headD 0 :: p.above.take 2),
    digest [7, p.above.headD 0, p.farther.headD 0, first]]

def readRest : Nat → Nat → Place → Reader → List Nat × Reader
  | 0, _, p, r => (p.before.reverse, r)
  | fuel + 1, first, p, r =>
    let (symbol, r) := r.symbol (p.surroundings first) (1 + first) 6 1
    if symbol = 0 then (p.before.reverse, r) else readRest fuel 0 (p.step (symbols.getD symbol ' ').toNat) r

def surroundingsOfStart (line : List Nat) (shared formerly : Nat) : List Nat :=
  let last := (line.reverse.takeWhile (!isBreak ·)).reverse
  let start := line.length - last.length
  [digest [8, shared, start], digest [9, start, line.length], digest [10, shared, digest last],
    digest [11, shared, formerly, line.length], digest [12, digest (line.take start)]]

def tableEnd : Nat := 63

def readLines : Nat → (line farther : List Nat) → (shared formerly : Nat) → Reader → List (List Nat)
  | 0, _, _, _, _, _ => []
  | fuel + 1, line, farther, shared, formerly, r =>
    let (count, r) := r.symbol (surroundingsOfStart line shared formerly) 0 6 1
    if count = tableEnd then []
    else
      let start := (line.take count).foldl Place.step { above := line, farther, words := wordsFrom (digest []) line }
      let (next, r) := readRest 0x80 1 start r
      next :: readLines fuel next line count shared r

def unpack (table : String) : List String :=
  let digits := (table.toList.filter (!·.isWhitespace)).map alphabet.idxOf
  let (width, offset, rest) := refill 1 0 digits
  (readLines digits.length [] [] 0 0 { width, offset, digits := rest }).map fun line => String.ofList (line.map Char.ofNat)

/-! ## Numbers -/

def difference : List Char → Int
  | '-' :: digits => -(Number.ofDigits 16 digits)
  | digits => Number.ofDigits 16 digits

def addTo (above : List Nat) : List Int → List Nat
  | [] => []
  | d :: rest => ((above.headD 0 : Int) + d).toNat :: addTo above.tail rest

def rows (lines : List String) : List (List Nat) :=
  let read (done : List (List Nat)) (row : String) : List (List Nat) :=
    addTo (done.headD []) ((row.splitOn ",").map fun n => difference n.toList) :: done
  (lines.foldl read []).reverse

end Stencil.Text.Packed
