/-!
Texts. A text is a list of code points. Besides characters it may hold surrogates, the halves from
which 16-bit encodings put together the characters beyond their range; in a text they stay apart.
They meet when the text is written out.
-/

namespace Chip8

/-- A code point: a character, or one of the surrogates, which are no characters. -/
inductive CodePoint where
  | char (c : Char)
  | surrogate (n : Fin 0x800)
deriving DecidableEq, Repr

namespace CodePoint

def firstSurrogate : Nat := 0xD800

def toNat : CodePoint → Nat
  | char c => c.toNat
  | surrogate n => firstSurrogate + n.val

def ofNat? (n : Nat) : Option CodePoint :=
  if h : firstSurrogate ≤ n ∧ n < firstSurrogate + 0x800 then
    some (surrogate ⟨n - firstSurrogate, by omega⟩)
  else if n < 0x110000 then some (char (Char.ofNat n))
  else none

end CodePoint

abbrev Text := List CodePoint

namespace Text

def ofChars (cs : List Char) : Text :=
  cs.map .char

def ofString (s : String) : Text :=
  ofChars s.toList

instance : Coe String Text := ⟨ofString⟩

def chars? : Text → Option (List Char)
  | [] => some []
  | .char c :: rest => (chars? rest).map (c :: ·)
  | .surrogate _ :: _ => none

def paired (high low : Fin 0x800) : Char :=
  Char.ofNat (0x10000 + high.val * 0x400 + (low.val - 0x400))

/-- The characters of a text that is written out. A first half and a second half behind it become
one character, and a half without its other one becomes the replacement character. -/
def writtenChars : Text → List Char
  | [] => []
  | .char c :: rest => c :: writtenChars rest
  | .surrogate high :: .surrogate low :: rest =>
    if high.val < 0x400 ∧ 0x400 ≤ low.val then paired high low :: writtenChars rest
    else '\uFFFD' :: writtenChars (.surrogate low :: rest)
  | .surrogate _ :: rest => '\uFFFD' :: writtenChars rest

def written (t : Text) : String :=
  String.ofList (writtenChars t)

/-- Whether a text stands before another or is equal to it: at the first difference the numbers of the
code points count. -/
def isBefore : Text → Text → Bool
  | [], _ => true
  | _ :: _, [] => false
  | a :: s, b :: t => if a = b then isBefore s t else a.toNat < b.toNat

theorem chars?_ofChars (cs : List Char) : chars? (ofChars cs) = some cs := by
  induction cs with
  | nil => rfl
  | cons c rest ih =>
    have tail : chars? (rest.map .char) = some rest := ih
    simp [ofChars, chars?, tail]

end Text

end Chip8
