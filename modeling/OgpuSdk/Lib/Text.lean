import Mathlib.Data.List.Infix

/-!
# Text: lower case, substrings, small search patterns

Texts are lists of characters. `lower` is a full-Unicode lower-casing up to
letters outside ASCII: it is exact wherever the result contains an ASCII
character, which is all a search for ASCII text can see. A `Pattern` is a
sequence of "one character of this class" and "any number of characters of
this class", enough for literals and blank-tolerant searches; `search` looks
for one anywhere in a text.
-/

namespace OgpuSdk.Text

/-- Lower case of a character. The Kelvin sign and the dotted capital I are the only
characters outside ASCII whose lower case has an ASCII character in it. -/
def lowerChar (c : Char) : List Char :=
  if 'A' ≤ c ∧ c ≤ 'Z' then [Char.ofNat (c.toNat + 32)]
  else if c = '\u212a' then ['k']
  else if c = '\u0130' then ['i', '\u0307']
  else [c]

def lower (s : List Char) : List Char := s.flatMap lowerChar

/-- The characters a search treats as blank, Unicode separators included. -/
def isSpace (c : Char) : Bool :=
  let n := c.toNat
  (0x09 ≤ n && n ≤ 0x0d) || (0x1c ≤ n && n ≤ 0x20) || n == 0x85 || n == 0xa0 || n == 0x1680 ||
    (0x2000 ≤ n && n ≤ 0x200a) || n == 0x2028 || n == 0x2029 || n == 0x202f || n == 0x205f ||
    n == 0x3000

inductive Piece where
  | one (p : Char → Bool)
  | many (p : Char → Bool)

abbrev Pattern := List Piece

def lit (s : String) : Pattern := s.toList.map fun c => .one (· == c)

/-- Zero or more characters of the class, then `rest`. -/
def matchMany (p : Char → Bool) (rest : List Char → Bool) : List Char → Bool
  | [] => rest []
  | c :: cs => rest (c :: cs) || (p c && matchMany p rest cs)

/-- Some prefix of the text matches the pattern. -/
def starts : Pattern → List Char → Bool
  | [], _ => true
  | .one p :: ps, cs =>
    match cs with
    | c :: cs => p c && starts ps cs
    | [] => false
  | .many p :: ps, cs => matchMany p (starts ps) cs

def search (ps : Pattern) (s : List Char) : Bool := s.tails.any (starts ps)

def contains (s : List Char) (sub : String) : Bool := s.tails.any (sub.toList.isPrefixOf ·)

end OgpuSdk.Text
