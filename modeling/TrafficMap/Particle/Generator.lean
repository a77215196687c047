import TrafficMap.Number.Scalar

/-!
# Random numbers

A stream of 64-bit words from the ChaCha block function with twelve rounds. The key is expanded
from a 64-bit seed; the block counter starts at zero, as the stream number is. `Generator.range`
draws a number from an interval.
-/

namespace TrafficMap

/-- The state of a random generator: its key, the number of the next block, and the words of the
last block that were not used yet. -/
structure Generator where
  key : List UInt32
  block : UInt64
  pending : List UInt64
  deriving DecidableEq, Repr

namespace Generator

/-! ## Seeding -/

/-- A word with its bits moved `k` places to the right, around the end. -/
def rotateRight (x k : UInt32) : UInt32 :=
  if k = 0 then x else (x >>> k) ||| (x <<< (32 - k))

/-- A word with its bits moved `k` places to the left, around the end. -/
def rotateLeft (x k : UInt32) : UInt32 :=
  (x <<< k) ||| (x >>> (32 - k))

/-- The next state of the seed expansion. -/
def stepSeed (state : UInt64) : UInt64 :=
  state * 6364136223846793005 + 11634580027462260723

/-- The word that a state of the seed expansion gives. -/
def seedWord (state : UInt64) : UInt32 :=
  rotateRight (((state >>> 18) ^^^ state) >>> 27).toUInt32 (state >>> 59).toUInt32

/-- The first words of the seed expansion. -/
def expand : Nat → UInt64 → List UInt32
  | 0, _ => []
  | n + 1, seed => seedWord (stepSeed seed) :: expand n (stepSeed seed)

/-- The generator with a seed. -/
def ofSeed (seed : UInt64) : Generator :=
  { key := expand 8 seed, block := 0, pending := [] }

/-! ## The block function -/

/-- One quarter round on four words of the state. -/
def quarterRound (s : Array UInt32) (a b c d : Nat) : Array UInt32 :=
  let va := s.getD a 0 + s.getD b 0
  let vd := rotateLeft (s.getD d 0 ^^^ va) 16
  let vc := s.getD c 0 + vd
  let vb := rotateLeft (s.getD b 0 ^^^ vc) 12
  let va := va + vb
  let vd := rotateLeft (vd ^^^ va) 8
  let vc := vc + vd
  let vb := rotateLeft (vb ^^^ vc) 7
  (((s.setIfInBounds a va).setIfInBounds b vb).setIfInBounds c vc).setIfInBounds d vd

/-- The columns and diagonals that two rounds work on. -/
def quarters : List (Nat × Nat × Nat × Nat) :=
  [(0, 4, 8, 12), (1, 5, 9, 13), (2, 6, 10, 14), (3, 7, 11, 15),
    (0, 5, 10, 15), (1, 6, 11, 12), (2, 7, 8, 13), (3, 4, 9, 14)]

/-- Two rounds: the four columns, then the four diagonals. -/
def doubleRound (s : Array UInt32) : Array UInt32 :=
  quarters.foldl (fun s (a, b, c, d) => quarterRound s a b c d) s

/-- The constants that a block starts with. -/
def constants : List UInt32 :=
  [0x61707865, 0x3320646e, 0x79622d32, 0x6b206574]

/-- The state of a block before its rounds. -/
def initial (key : List UInt32) (block : UInt64) : Array UInt32 :=
  (constants ++ key ++ [block.toUInt32, (block >>> 32).toUInt32, 0, 0]).toArray

/-- Two neighbouring words as one, the first one low. -/
def pairWords : List UInt32 → List UInt64
  | low :: high :: rest => (low.toUInt64 ||| (high.toUInt64 <<< 32)) :: pairWords rest
  | _ => []

/-- The words of a block. -/
def blockWords (key : List UInt32) (block : UInt64) : List UInt64 :=
  let start := initial key block
  let mixed := (List.range 6).foldl (fun s _ => doubleRound s) start
  pairWords ((mixed.zip start).toList.map fun (a, b) => a + b)

/-! ## Drawing -/

/-- Draws a word. -/
def next (g : Generator) : UInt64 × Generator :=
  match g.pending with
  | w :: rest => (w, { g with pending := rest })
  | [] =>
    match blockWords g.key g.block with
    | w :: rest => (w, { g with block := g.block + 1, pending := rest })
    | [] => (0, g)

/-- A word as a fraction, from 0 to 1 without 1: its upper 52 bits after the binary point. -/
def fraction {α : Type} [Scalar α] (w : UInt64) : α :=
  Scalar.ofNat (w >>> 12).toNat / Scalar.ofNat (Nat.pow 2 52)

/-- Draws a number from the interval between two bounds. -/
def range {α : Type} [Scalar α] (g : Generator) (low high : α) : α × Generator :=
  let (w, g) := g.next
  (fraction w * (high - low) + low, g)

end Generator

end TrafficMap
