import Reconcile.Yaml.Glyph
import Reconcile.Yaml.Scalar

/-!
# How a text is written

A text stands plain where it reads back as itself, in single quotes where it would not, in double
quotes where a character has to be escaped, and as a literal block when it has several lines.
`styleOf` chooses; `render` writes the text in the chosen style, for a node whose continued lines
start in a given column.
-/
namespace Reconcile.Yaml

inductive Style where
  | plain | single | double | literal
  deriving DecidableEq, Repr

/-- May the character be written as itself? -/
def isPrintable (c : Char) : Bool :=
  c == '\n' || (' ' ≤ c && c ≤ '~')
    || ('\xA0' ≤ c && c != mark && c != '\uFFFE' && c != '\uFFFF')

/-- Do two characters that stand next to each other satisfy `p`? -/
def hasPair (p : Char → Char → Bool) (text : List Char) : Bool :=
  (text.zip (text.drop 1)).any fun pair => p pair.1 pair.2

/-- The characters that never start a plain text. -/
def indicators : List Char :=
  ['#', ',', '[', ']', '\x7b', '\x7d', '&', '*', '!', '|', '>', '\'', '"', '%', '@', '\x60']

/-- Would the start of the text be read as something else than a plain scalar? -/
def startsIndicated : List Char → Bool
  | [] => false
  | c :: rest =>
    let next := rest.head?.getD '\x00'
    indicators.contains c || ((c == '-' || c == '?') && isGap next)
      || ((c == '-' || c == '.') && rest.take 2 == [c, c])

/-- Does the text hold the sign of a value or of a comment? -/
def isSplit (text : List Char) : Bool :=
  hasPair (fun c next => (c == ':' && isGap next) || (isGap c && next == '#')) text
    || text.getLast? == some ':'

/-- Does the text start or end with a space or a line break? -/
def hasOuterGap (text : List Char) : Bool :=
  text.head?.any (fun c => c == ' ' || isBreak c) || text.getLast?.any fun c => c == ' ' || isBreak c

/-- Does only an escape keep the text: a character that is not printable, or a space at the end of
a line? -/
def needsEscape (text : List Char) : Bool :=
  !text.all isPrintable || hasPair (fun c next => c == ' ' && isBreak next) text

def allowsPlain (text : List Char) : Bool :=
  !(needsEscape text || text.any isBreak || hasOuterGap text || startsIndicated text || isSplit text)

def allowsSingle (text : List Char) : Bool :=
  !(needsEscape text || hasPair (fun c next => isBreak c && next == ' ') text)

def allowsLiteral (text : List Char) : Bool := !(needsEscape text || text.getLast? == some ' ')

/-- Is a plain scalar with this text read as the text? -/
def readsAsText (text : String) : Bool :=
  Scalar.ofPlain? text == some (.text text) && !Scalar.hasNeedlessZero text

def styleOf (text : String) : Style :=
  let chars := text.toList
  if chars.contains '\n' then if allowsLiteral chars then .literal else .double
  else if readsAsText text && allowsPlain chars then .plain
  else if allowsSingle chars then .single
  else .double

/-- The digits of a code point, in `width` places. -/
def upperHex (width n : Nat) : List Char :=
  (List.range width).reverse.map fun place =>
    let digit := n / 16 ^ place % 16
    if digit < 10 then Char.ofNat ('0'.toNat + digit) else Char.ofNat ('A'.toNat + (digit - 10))

/-- The characters with an escape of one letter. -/
def letterEscapes : List (Char × Char) :=
  [('\x00', '0'), ('\x07', 'a'), ('\x08', 'b'), ('\t', 't'), ('\n', 'n'), ('\x0b', 'v'),
    ('\x0c', 'f'), ('\r', 'r'), ('\x1b', 'e'), ('"', '"'), ('\\', '\\'), ('\x85', 'N'),
    ('\u2028', 'L'), ('\u2029', 'P')]

/-- A character inside double quotes. -/
def escape (c : Char) : List Char :=
  match letterEscapes.lookup c with
  | some letter => ['\\', letter]
  | none =>
    if isPrintable c then [c]
    else if c.toNat ≤ 0xFF then '\\' :: 'x' :: upperHex 2 c.toNat
    else if c.toNat ≤ 0xFFFF then '\\' :: 'u' :: upperHex 4 c.toNat
    else '\\' :: 'U' :: upperHex 8 c.toNat

/-- Text with the blanks of `column` before each line that is not empty; `atStart` at the start of a
line. -/
def indentLines (column : Nat) : (atStart : Bool) → List Char → List Char
  | _, [] => []
  | atStart, c :: rest =>
    if isBreak c then c :: indentLines column true rest
    else if atStart then List.replicate column ' ' ++ c :: indentLines column false rest
    else c :: indentLines column false rest

/-- How a literal block keeps the line breaks at its end: none, one, or all. -/
def chomping (text : List Char) : List Char :=
  match text.reverse with
  | [] => ['-']
  | [c] => if isBreak c then ['+'] else ['-']
  | c :: before :: _ => if !isBreak c then ['-'] else if isBreak before then ['+'] else []

/-- The head of a literal block; it tells the indentation when the text starts with a gap. -/
def literalHead (text : List Char) : List Char :=
  '|' :: ((if text.head?.any fun c => c == ' ' || isBreak c then ['2'] else []) ++ chomping text)

def singleQuoted (column : Nat) (text : List Char) : List Char :=
  let doubled := text.flatMap fun c => if c == '\'' then ['\'', '\''] else [c]
  let margin := if text.getLast?.any isBreak then List.replicate column ' ' else []
  '\'' :: (indentLines column false doubled ++ margin ++ ['\''])

/-- The text as it is written, without the end of its last line. -/
def render (column : Nat) (text : String) : List Char :=
  let chars := text.toList
  match styleOf text with
  | .plain => chars
  | .single => singleQuoted column chars
  | .double => '"' :: (chars.flatMap escape ++ ['"'])
  | .literal => literalHead chars ++ '\n' :: indentLines column true chars

/-- Does the text, as it is written, end its own last line? -/
def endsLine (text : String) : Bool := styleOf text == .literal && text.toList.getLast?.any isBreak

end Reconcile.Yaml
