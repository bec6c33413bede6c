/-!
The pseudo-random generator behind the random instruction: MT19937, started from an integer of any
size. A generator is its 624 words and the position of the word that is used next; each output
renews that one word, so the words behind the position belong to the next round.
-/

namespace Chip8

abbrev TwisterWords := Vector UInt32 624

namespace TwisterWords

def word (words : TwisterWords) (i : Nat) : UInt32 :=
  words[i % 624]

def put (words : TwisterWords) (i : Nat) (w : UInt32) : TwisterWords :=
  words.set (i % 624) w

def fold (w : UInt32) : UInt32 :=
  w ^^^ (w >>> 30)

def ofWord (seed : UInt32) : TwisterWords :=
  (List.range 623).foldl
    (fun words k => words.put (k + 1) (1812433253 * fold (words.word k) + (k + 1).toUInt32))
    (Vector.replicate 624 seed)

/-- Replaces the word at position `i` and gives the position that comes next. The last word is also
written to the front, and the next round starts behind it. -/
def replace (words : TwisterWords) (i : Nat) (w : UInt32) : TwisterWords × Nat :=
  if i < 623 then (words.put i w, i + 1) else ((words.put 623 w).put 0 w, 1)

/-- The first round of seeding: every word takes up the key words in turn, with their numbers. -/
def absorb (key : Array UInt32) (start : TwisterWords × Nat) : TwisterWords × Nat :=
  (List.range (max 624 key.size)).foldl
    (fun (words, i) k =>
      let j := k % key.size
      let w := (words.word i ^^^ (fold (words.word (i - 1)) * 1664525)) + key.getD j 0 + j.toUInt32
      words.replace i w)
    start

/-- The second round of seeding: every word but one is mixed with its predecessor again. -/
def settle (start : TwisterWords × Nat) : TwisterWords × Nat :=
  (List.range 623).foldl
    (fun (words, i) _ =>
      let w := (words.word i ^^^ (fold (words.word (i - 1)) * 1566083941)) - i.toUInt32
      words.replace i w)
    start

def ofKey (key : Array UInt32) : TwisterWords :=
  (settle (absorb key (ofWord 19650218, 1))).1.put 0 0x80000000

end TwisterWords

structure Generator where
  words : TwisterWords
  position : Fin 624

namespace Generator

/-- The 32-bit digits of a natural number, least significant first; zero has one digit. -/
def keyOfNat (n : Nat) : List UInt32 :=
  if n < 0x100000000 then [n.toUInt32]
  else (n % 0x100000000).toUInt32 :: keyOfNat (n / 0x100000000)

/-- The generator that starts from an integer; the sign does not count. -/
def ofSeed (seed : Int) : Generator where
  words := TwisterWords.ofKey (keyOfNat seed.natAbs).toArray
  position := 0

def temper (w : UInt32) : UInt32 :=
  let w := w ^^^ (w >>> 11)
  let w := w ^^^ ((w <<< 7) &&& 0x9D2C5680)
  let w := w ^^^ ((w <<< 15) &&& 0xEFC60000)
  w ^^^ (w >>> 18)

def next (g : Generator) : UInt32 × Generator :=
  let i := g.position.val
  let joined := (g.words.word i &&& 0x80000000) ||| (g.words.word (i + 1) &&& 0x7FFFFFFF)
  let twisted := (joined >>> 1) ^^^ (if joined &&& 1 = 0 then 0 else 0x9908B0DF)
  let w := g.words.word (i + 397) ^^^ twisted
  (temper w, { words := g.words.put i w, position := Fin.ofNat 624 (i + 1) })

def byteWithin : Nat → Generator → UInt8 × Generator
  | 0, g => (0, g)
  | tries + 1, g =>
    let (bits, g) := g.next
    if bits >>> 23 < 256 then ((bits >>> 23).toUInt8, g) else byteWithin tries g

/-- The next byte, every value with the same chance. The ninth bit of the outputs obeys a linear
recurrence of order 19937 that no constant sequence of ones satisfies, so one of 19938 outputs is
always taken. -/
def byte (g : Generator) : UInt8 × Generator :=
  byteWithin 19938 g

end Generator

end Chip8
