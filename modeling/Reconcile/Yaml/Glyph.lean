/-!
# The characters of a text and where they stand

A `Glyph` is a character of a YAML text with its place: how many characters come before it, its
line and its column, all from zero. Every way to write a line break becomes one glyph: carriage
return, line feed, both together and next line are a line feed; the two Unicode separators stay. The
last glyph is the zero character, which no text may hold, so that a look ahead always finds one.
-/
namespace Reconcile.Yaml

structure Glyph where
  char : Char
  index : Nat
  line : Nat
  column : Nat
  deriving Repr

/-- The byte order mark. -/
def mark : Char := '\uFEFF'

/-- The end of the text. -/
def isEnd (c : Char) : Bool := c == '\x00'

def isBlank (c : Char) : Bool := c == ' ' || c == '\t'

def isBreak (c : Char) : Bool :=
  c == '\n' || c == '\r' || c == '\x85' || c == '\u2028' || c == '\u2029'

/-- Does nothing of a word stand here: a blank, a line break or the end? -/
def isGap (c : Char) : Bool := isBlank c || isBreak c || isEnd c

/-- The characters of names. -/
def isWord (c : Char) : Bool := c.isAlphanum || c == '_' || c == '-'

/-- May the character stand in a text? -/
def isReadable (c : Char) : Bool :=
  c == '\t' || c == '\n' || c == '\r' || (' ' ≤ c && c ≤ '~') || c == '\x85'
    || ('\xA0' ≤ c && c ≤ '\uD7FF') || ('\uE000' ≤ c && c ≤ '\uFFFD') || 0x10000 ≤ c.toNat

namespace Glyph

/-- What locating has seen: the glyphs so far, the last first, the place of the next one, and
whether the last character was a carriage return. -/
structure Located where
  seen : List Glyph := []
  index : Nat := 0
  line : Nat := 0
  column : Nat := 0
  afterReturn : Bool := false

def Located.push (at_ : Located) (c : Char) : Located :=
  if at_.afterReturn && c == '\n' then
    { at_ with index := at_.index + 1, afterReturn := false }
  else if isBreak c then
    let shown := if c == '\r' || c == '\x85' then '\n' else c
    { seen := ⟨shown, at_.index, at_.line, at_.column⟩ :: at_.seen
      index := at_.index + 1, line := at_.line + 1, column := 0, afterReturn := c == '\r' }
  else
    { seen := ⟨c, at_.index, at_.line, at_.column⟩ :: at_.seen
      index := at_.index + 1, line := at_.line, column := at_.column + 1, afterReturn := false }

def locate (text : List Char) : List Glyph :=
  let located := text.foldl Located.push {}
  (⟨'\x00', located.index, located.line, located.column⟩ :: located.seen).reverse

/-- The glyphs of a text; none if a character may not stand in it. -/
def ofText? (text : List Char) : Option (List Glyph) :=
  if text.all isReadable then some (locate text) else none

end Glyph

/-- The character `n` places ahead. -/
def look (n : Nat) (rest : List Glyph) : Char := (rest[n]?.map (·.char)).getD '\x00'

/-- Do these glyphs start a line with three times the same character and then a gap? -/
def isTriple (c : Char) (rest : List Glyph) : Bool :=
  (rest.head?.map (·.column)) == some 0 && look 0 rest == c && look 1 rest == c && look 2 rest == c
    && isGap (look 3 rest)

/-- Three hyphens or three points at the start of a line separate documents. -/
def isSeparator (rest : List Glyph) : Bool := isTriple '-' rest || isTriple '.' rest

/-- The characters of the run of glyphs that satisfy `p`, and the glyphs after it. -/
def spanGlyphs (p : Char → Bool) (rest : List Glyph) : List Char × List Glyph :=
  ((rest.takeWhile (p ·.char)).map (·.char), rest.dropWhile (p ·.char))

end Reconcile.Yaml
