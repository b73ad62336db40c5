import Reconcile.Json.Reader
import Reconcile.Yaml.Glyph

/-!
# The text of scalars

A scalar is written plain, inside single or double quotes, or as a block of lines. Inside the first
three, a run of blanks and line breaks between words is folded: blanks alone stay, one line break is
a space, and of several all but the first stay. Each reader takes the glyphs after the indicator
that starts the scalar and gives its text and the glyphs after it. Characters of the text are
collected in reverse.
-/
namespace Reconcile.Yaml

/-- The blanks and line breaks since the last word. -/
structure Gap where
  /-- The blanks before the first line break, the last first. -/
  blanks : List Char := []
  broken : Bool := false
  /-- The first line break; none when it was escaped. -/
  first : Option Char := none
  /-- The other line breaks, the last first. -/
  others : List Char := []

namespace Gap

def blank (gap : Gap) (c : Char) : Gap :=
  if gap.broken then gap else { gap with blanks := c :: gap.blanks }

def lineBreak (gap : Gap) (c : Char) : Gap :=
  if gap.broken then { gap with others := c :: gap.others } else { broken := true, first := some c }

/-- A line break that a backslash takes away. -/
def escaped : Gap := { broken := true }

/-- What the gap leaves in the text, the last character first. -/
def fold (gap : Gap) : List Char :=
  if !gap.broken then gap.blanks
  else
    match gap.first with
    | none => gap.others
    | some c =>
      if c != '\n' then gap.others ++ [c]
      else if gap.others.isEmpty then [' '] else gap.others

end Gap

/-- A plain scalar. It ends before a colon that a gap follows, before a flow indicator inside a flow
collection, and after a gap before a comment, a separator of documents or, outside flow collections,
a column left of `indent`. The answer tells whether a line break came before that. -/
def readPlain (inFlow : Bool) (indent : Int) :
    Gap → List Char → List Glyph → Option (String × Bool × List Glyph)
  | gap, text, [] => some (String.ofList text.reverse, gap.broken, [])
  | gap, text, glyph :: rest =>
    let c := glyph.char
    let ahead := look 0 rest
    let afterGap := gap.broken || !gap.blanks.isEmpty
    if isBlank c then
      if gap.broken && c == '\t' && glyph.column < indent then none
      else readPlain inFlow indent (gap.blank c) text rest
    else if isBreak c then readPlain inFlow indent (gap.lineBreak c) text rest
    else if isEnd c || (afterGap && (c == '#' || isSeparator (glyph :: rest)
          || (!inFlow && glyph.column < indent)))
        || (c == ':' && isGap ahead)
        || (inFlow && [',', '[', ']', '\x7b', '\x7d'].contains c) then
      some (String.ofList text.reverse, gap.broken, glyph :: rest)
    else if inFlow && c == ':' && [',', '?', '[', ']', '\x7b', '\x7d'].contains ahead then none
    else readPlain inFlow indent {} (c :: (gap.fold ++ text)) rest

/-- Text inside single quotes, where a quote is written twice. -/
def readSingleQuoted : Gap → List Char → List Glyph → Option (String × List Glyph)
  | _, _, [] => none
  | gap, text, glyph :: rest =>
    let c := glyph.char
    if isBlank c then readSingleQuoted (gap.blank c) text rest
    else if isBreak c then readSingleQuoted (gap.lineBreak c) text rest
    else if isEnd c || isSeparator (glyph :: rest) then none
    else if c != '\'' then readSingleQuoted {} (c :: (gap.fold ++ text)) rest
    else
      match rest with
      | [] => some (String.ofList (gap.fold ++ text).reverse, [])
      | next :: after =>
        if next.char == '\'' then readSingleQuoted {} ('\'' :: (gap.fold ++ text)) after
        else some (String.ofList (gap.fold ++ text).reverse, next :: after)

/-- The character that a backslash and one letter stand for. -/
def unescape? (letter : Char) : Option Char :=
  [('0', '\x00'), ('a', '\x07'), ('b', '\x08'), ('t', '\t'), ('\t', '\t'), ('n', '\n'),
    ('v', '\x0b'), ('f', '\x0c'), ('r', '\r'), ('e', '\x1b'), (' ', ' '), ('"', '"'), ('/', '/'),
    ('\\', '\\'), ('N', '\x85'), ('_', '\xA0'), ('L', '\u2028'), ('P', '\u2029')].lookup letter

/-- How many hexadecimal digits follow a backslash and this letter. -/
def codeLength? (letter : Char) : Option Nat :=
  [('x', 2), ('u', 4), ('U', 8)].lookup letter

/-- The character with this code, unless it is a surrogate or past the last one. -/
def charOfCode? (code : Nat) : Option Char :=
  if code.isValidChar then some (Char.ofNat code) else none

/-- The code in the escape that is being read: digits still to come and the value so far. -/
structure Code where
  missing : Nat
  value : Nat

/-- Text inside double quotes, with escapes. -/
def readDoubleQuoted : Option Code → Gap → List Char → List Glyph → Option (String × List Glyph)
  | _, _, _, [] => none
  | some code, gap, text, glyph :: rest =>
    match Json.hexValue? glyph.char with
    | none => none
    | some digit =>
      let value := 16 * code.value + digit
      if code.missing ≤ 1 then
        match charOfCode? value with
        | none => none
        | some c => readDoubleQuoted none gap (c :: text) rest
      else readDoubleQuoted (some ⟨code.missing - 1, value⟩) gap text rest
  | none, gap, text, glyph :: rest =>
    let c := glyph.char
    if isBlank c then readDoubleQuoted none (gap.blank c) text rest
    else if isBreak c then readDoubleQuoted none (gap.lineBreak c) text rest
    else if isEnd c || isSeparator (glyph :: rest) then none
    else
      let text := gap.fold ++ text
      if c == '"' then some (String.ofList text.reverse, rest)
      else if c != '\\' then readDoubleQuoted none {} (c :: text) rest
      else
        match rest with
        | [] => none
        | letter :: rest =>
          if isBreak letter.char then readDoubleQuoted none Gap.escaped text rest
          else
            match unescape? letter.char, codeLength? letter.char with
            | some c, _ => readDoubleQuoted none {} (c :: text) rest
            | none, some missing => readDoubleQuoted (some ⟨missing, 0⟩) {} text rest
            | none, none => none

/-- What becomes of the line breaks at the end of a block. -/
inductive Chomping where
  | strip | clip | keep
  deriving DecidableEq

/-- The indicators after the one that starts a block: chomping and an explicit indentation, in
either order. -/
def readBlockHeader (rest : List Glyph) : Option (Chomping × Option Nat × List Glyph) :=
  let chomping? (c : Char) : Option Chomping :=
    if c == '+' then some .keep else if c == '-' then some .strip else none
  let digit? (c : Char) : Option Nat :=
    if c.isDigit then some (c.toNat - '0'.toNat) else none
  match chomping? (look 0 rest), digit? (look 0 rest) with
  | some chomping, _ =>
    match digit? (look 1 rest) with
    | some 0 => none
    | some digit => some (chomping, some digit, rest.drop 2)
    | none => some (chomping, none, rest.drop 1)
  | none, some 0 => none
  | none, some digit =>
    match chomping? (look 1 rest) with
    | some chomping => some (chomping, some digit, rest.drop 2)
    | none => some (.clip, some digit, rest.drop 1)
  | none, none => some (.clip, none, rest)

/-- The rest of a line that may hold only blanks and a comment. -/
def skipLineEnd? (rest : List Glyph) : Option (List Glyph) :=
  let rest := rest.dropWhile (isBlank ·.char)
  let rest :=
    if look 0 rest == '#' then rest.dropWhile fun glyph => !(isBreak glyph.char || isEnd glyph.char)
    else rest
  if isBreak (look 0 rest) then some (rest.drop 1)
  else if isEnd (look 0 rest) then some rest
  else none

/-- The empty lines that start a block, and the spaces before its first word: the line breaks, the
last first, and the largest column reached. A tab may not stand where a space is expected. -/
def skipIndentation (indent : Option Nat) :
    (breaks : List Char) → (widest : Nat) → List Glyph → Option (List Char × Nat × List Glyph)
  | breaks, widest, [] => some (breaks, widest, [])
  | breaks, widest, glyph :: rest =>
    let inside := match indent with
      | none => true
      | some indent => glyph.column < indent
    if inside && glyph.char == ' ' then skipIndentation indent breaks widest rest
    else if inside && glyph.char == '\t' then none
    else
      let widest := max widest glyph.column
      if isBreak glyph.char then skipIndentation indent (glyph.char :: breaks) widest rest
      else some (breaks, widest, glyph :: rest)

/-- A block as far as it is read. -/
structure Block where
  /-- The text, the last character first. -/
  text : List Char := []
  /-- The break that ended the last line with text, if there is one. -/
  ended : List Char := []
  /-- The breaks of the empty lines after it, the last first. -/
  breaks : List Char := []
  /-- Did that line start with a blank? -/
  startsBlank : Bool := false

/-- Join what is read to a line that starts with `c`. In a folded block one break between two lines
that start with no blank is a space. -/
def Block.join (literal : Bool) (block : Block) (c : Char) : Block :=
  let folds := !literal && block.ended == ['\n'] && !block.startsBlank && !isBlank c
  let between := if !folds then block.ended else if block.breaks.isEmpty then [' '] else []
  { text := block.breaks ++ (between ++ block.text), startsBlank := isBlank c }

/-- The lines of a block, indented by `indent`, from the start of a line or inside one. -/
def readBlockLines (literal : Bool) (indent : Nat) :
    (inLine : Bool) → Block → List Glyph → Option (Block × List Glyph)
  | _, block, [] => some (block, [])
  | true, block, glyph :: rest =>
    if isEnd glyph.char then some (block, glyph :: rest)
    else if isBreak glyph.char then
      readBlockLines literal indent false { block with ended := [glyph.char] } rest
    else readBlockLines literal indent true { block with text := glyph.char :: block.text } rest
  | false, block, glyph :: rest =>
    let c := glyph.char
    if c == ' ' && glyph.column < indent then readBlockLines literal indent false block rest
    else if c == '\t' && glyph.column < indent then none
    else if isBreak c then
      readBlockLines literal indent false { block with breaks := c :: block.breaks } rest
    else if glyph.column == indent && !isEnd c then
      let block := block.join literal c
      readBlockLines literal indent true { block with text := c :: block.text } rest
    else some (block, glyph :: rest)

/-- The text of a block once its final line breaks are chomped. -/
def Block.chomped (block : Block) (chomping : Chomping) : String :=
  String.ofList <| List.reverse <|
    match chomping with
    | .strip => block.text
    | .clip => block.ended ++ block.text
    | .keep => block.breaks ++ (block.ended ++ block.text)

/-- A block scalar inside a collection indented by `parent`, which is -1 outside of any. Without an
explicit indentation the block takes that of its first word, or more if an empty line before it is
longer. -/
def readBlock (literal : Bool) (parent : Int) (rest : List Glyph) :
    Option (String × List Glyph) := do
  let (chomping, explicit, rest) ← readBlockHeader rest
  let rest ← skipLineEnd? rest
  let given := explicit.map (parent.toNat + ·)
  let (breaks, widest, rest) ← skipIndentation given [] 0 rest
  let indent := given.getD (max widest (max (parent + 1).toNat 1))
  let (block, rest) ← readBlockLines literal indent false { breaks } rest
  return (block.chomped chomping, rest)

end Reconcile.Yaml
