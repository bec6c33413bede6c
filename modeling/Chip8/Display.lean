/-!
The display: 32 rows of 64 pixels that are lit or not. Drawing a sprite flips the pixels that its
set bits cover, wrapped round both edges.
-/

namespace Chip8

/-- The lit pixels, row after row from the top, each row from the left. -/
structure Display where
  pixels : Vector Bool 2048 := Vector.replicate 2048 false
deriving DecidableEq

namespace Display

def blank : Display := {}

def lit (d : Display) (i : Fin 2048) : Bool :=
  d.pixels[i]

def flip (d : Display) (i : Fin 2048) : Display :=
  { d with pixels := d.pixels.set i (!d.pixels[i]) }

/-- Flips pixels one after another; the flag becomes true when a lit pixel is switched off. -/
def flipAll (start : Display × Bool) (cells : List (Fin 2048)) : Display × Bool :=
  cells.foldl (fun (d, hit) i => (d.flip i, hit || d.lit i)) start

/-- The index of the pixel in a column and a row, both counted round the edges. -/
def cell (column row : Int) : Fin 2048 :=
  ⟨(row % 32 * 64 + column % 64).toNat, by omega⟩

def columns (bits : UInt8) : List Nat :=
  (List.range 8).filter fun k => bits.toNat.testBit (7 - k)

def spriteCells (column row : Int) : List UInt8 → List (Fin 2048)
  | [] => []
  | bits :: rest =>
    (columns bits).map (fun k : Nat => cell (column + k) row) ++ spriteCells column (row + 1) rest

def draw (d : Display) (column row : Int) (sprite : List UInt8) : Display × Bool :=
  flipAll (d, false) (spriteCells column row sprite)

def litCount (d : Display) : Nat :=
  d.pixels.toList.countP (· = true)

/-- Whether the pixel at a column and a row is lit. Only the index made of both has to be in range;
a negative one counts from the end. -/
def pixel? (d : Display) (column row : Int) : Option Bool :=
  let index := row * 64 + column
  if 0 ≤ index then d.pixels[index.toNat]?
  else if -2048 ≤ index then d.pixels[(index + 2048).toNat]?
  else none

def rows (d : Display) : List String :=
  (List.range 32).map fun (row : Nat) =>
    String.ofList <| (List.range 64).map fun (column : Nat) =>
      if d.lit (cell column row) then '#' else '.'

end Display

end Chip8
