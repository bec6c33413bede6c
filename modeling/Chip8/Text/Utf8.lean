/-!
Text files in UTF-8. A file is decoded in chunks of bytes while blocks of its text are asked for.
Where a file is not UTF-8 throughout, the blocks before the first bad chunk can still be read; every
spelling of a line break in them is a line feed.
-/

namespace Chip8.Text.Utf8

inductive Lead where
  | char (c : Char) (rest : List UInt8)
  | unfinished
  | bad

/-- Reads the `count` bytes behind the first one of a character. The next of them lies between two
bounds, and each later one between 0x80 and 0xBF. -/
def follow : (count code low high : Nat) → List UInt8 → Lead
  | 0, code, _, _, rest => .char (Char.ofNat code) rest
  | _ + 1, _, _, _, [] => .unfinished
  | count + 1, code, low, high, b :: rest =>
    if low ≤ b.toNat ∧ b.toNat ≤ high then follow count (code * 64 + b.toNat % 64) 0x80 0xBF rest
    else .bad

/-- The first character of a run of bytes. The bounds leave out spellings that are too long,
surrogates, and numbers beyond the last code point. -/
def lead : List UInt8 → Lead
  | [] => .unfinished
  | b :: rest =>
    let n := b.toNat
    if n < 0x80 then .char (Char.ofNat n) rest
    else if n < 0xC2 then .bad
    else if n < 0xE0 then follow 1 (n % 32) 0x80 0xBF rest
    else if n < 0xF0 then
      follow 2 (n % 16) (if n = 0xE0 then 0xA0 else 0x80) (if n = 0xED then 0x9F else 0xBF) rest
    else if n < 0xF5 then
      follow 3 (n % 8) (if n = 0xF0 then 0x90 else 0x80) (if n = 0xF4 then 0x8F else 0xBF) rest
    else .bad

/-- The characters of a run of bytes and the bytes of an unfinished one at its end; none if a byte
is bad. -/
def decode : (fuel : Nat) → (text : Array Char) → List UInt8 → Option (Array Char × List UInt8)
  | 0, text, bytes => some (text, bytes)
  | fuel + 1, text, bytes =>
    match lead bytes with
    | .char c rest => decode fuel (text.push c) rest
    | .unfinished => some (text, bytes)
    | .bad => none

def lineFeeds : List Char → List Char
  | [] => []
  | '\r' :: '\n' :: rest => '\n' :: lineFeeds rest
  | c :: rest => (if c = '\r' then '\n' else c) :: lineFeeds rest

def blockSize : Nat := 4096

/-- The least number of bytes in a chunk that is not the last one. -/
def chunkSize : Nat := 8192

structure Progress where
  text : Array Char := #[]
  heldReturn : Bool := false
  heldBytes : List UInt8 := []
  chunkBytes : Nat := 0
  chunkChars : Nat := 0

namespace Progress

/-- The number of bytes in the next chunk: enough for the block in progress, if its characters take
up as much room as those of the chunk before. -/
def nextSize (p : Progress) : Nat :=
  let missing := blockSize - p.text.size % blockSize
  max chunkSize (max missing (missing * p.chunkBytes / p.chunkChars))

def take (p : Progress) (chunk : List UInt8) : Option Progress :=
  (decode (p.heldBytes.length + chunk.length) #[] (p.heldBytes ++ chunk)).map fun (chars, held) =>
    if chars.isEmpty then { p with heldBytes := held, chunkBytes := chunk.length, chunkChars := 0 }
    else
      let chars := if p.heldReturn then '\r' :: chars.toList else chars.toList
      let heldReturn := chars.getLast? = some '\r'
      let ready := lineFeeds (if heldReturn then chars.dropLast else chars)
      { text := p.text ++ ready.toArray
        heldReturn
        heldBytes := held
        chunkBytes := chunk.length
        chunkChars := ready.length }

def run : (fuel : Nat) → Progress → List UInt8 → Progress
  | 0, p, _ => p
  | fuel + 1, p, bytes =>
    if bytes.isEmpty then p
    else
      match p.take (bytes.take p.nextSize) with
      | none => p
      | some further => further.run fuel (bytes.drop p.nextSize)

end Progress

/-- The text that can be read from a file that is not UTF-8 throughout: the whole blocks before the
first bad chunk. -/
def readable (bytes : List UInt8) : List Char :=
  let text := (Progress.run (bytes.length / chunkSize + 1) {} bytes).text
  text.toList.take (text.size / blockSize * blockSize)

example : (decode 4 #[] [0x41, 0xC3, 0xA9, 0xE2]) = some (#['A', 'é'], [0xE2]) := by decide +kernel

example : decode 3 #[] [0xED, 0xA0, 0x80] = none := by decide +kernel

end Chip8.Text.Utf8
