import Reconcile.Yaml.Token.Property

/-!
# Reading tokens

The tokens of a text in one pass. Two things are known only after the fact. A scalar, an alias, a
flow collection or a property may turn out to be a key when a colon follows it on its line, within
1024 characters: its place is kept as a `Candidate`, one for each level of flow collections, and the
token of the key goes in there. And a block collection starts where a line goes further to the right
than the collection around it, and ends where one comes back.
-/
namespace Reconcile.Yaml

/-- A place where a key may have started. -/
structure Candidate where
  /-- How many tokens come before it. -/
  position : Nat
  index : Nat
  line : Nat
  column : Nat
  /-- In a block mapping nothing but a key can start in the column of the mapping. -/
  required : Bool

structure Scan where
  rest : List Glyph
  tokens : Array Token := #[]
  /-- The columns of the block collections around, the innermost first, and -1 outside of them. -/
  columns : List Int := [-1]
  /-- May a key, or in a block also an entry, start here? -/
  keyAllowed : Bool := true
  candidate : Option Candidate := none
  /-- The candidates of the flow collections around the innermost one. -/
  outer : List (Option Candidate) := []

namespace Scan

def inFlow (s : Scan) : Bool := !s.outer.isEmpty

def column (s : Scan) : Int := s.columns.headD (-1)

def push (s : Scan) (token : Token) : Scan := { s with tokens := s.tokens.push token }

/-- Give up the candidate, unless it had to become a key. -/
def dropCandidate? (s : Scan) : Option Scan :=
  match s.candidate with
  | some candidate => if candidate.required then none else some { s with candidate := none }
  | none => some s

/-- A key may start at this glyph. -/
def saveCandidate? (s : Scan) (glyph : Glyph) : Option Scan :=
  if s.keyAllowed then do
    let s ← s.dropCandidate?
    return { s with candidate := some {
      position := s.tokens.size, index := glyph.index, line := glyph.line, column := glyph.column
      required := !s.inFlow && s.column == glyph.column } }
  else some s

/-- A key stays on its line and within 1024 characters: what is left of a candidate at this glyph. -/
def stillCandidate? (glyph : Glyph) : Option Candidate → Option (Option Candidate)
  | none => some none
  | some candidate =>
    if candidate.line < glyph.line || candidate.index + 1024 < glyph.index then
      if candidate.required then none else some none
    else some (some candidate)

def dropStale? (s : Scan) (glyph : Glyph) : Option Scan := do
  return { s with
    candidate := ← stillCandidate? glyph s.candidate
    outer := ← s.outer.mapM (stillCandidate? glyph) }

/-- End the block collections to the right of a column. -/
def unwind (s : Scan) (column : Int) : Scan :=
  if s.inFlow then s
  else
    let ended := (s.columns.takeWhile (column < ·)).length
    { s with
      columns := s.columns.drop ended
      tokens := s.tokens ++ Array.replicate ended Token.blockEnd }

/-- Start a block collection in a column, as the token at `position`, if the one around is to the
left of it. -/
def startBlock (s : Scan) (column : Int) (position : Nat) (start : Token) : Scan :=
  if s.inFlow || column ≤ s.column then s
  else
    { s with
      columns := column :: s.columns
      tokens := s.tokens.insertIdxIfInBounds position start }

/-- Skip blanks, comments and line breaks, and a byte order mark at the start of a line, which fills
a column. Outside flow collections a key may start on a new line, and where one may start a tab is no
blank. -/
def skipGap (inFlow : Bool) : (keyAllowed inComment : Bool) → List Glyph → Bool × List Glyph
  | keyAllowed, _, [] => (keyAllowed, [])
  | keyAllowed, inComment, glyph :: rest =>
    let c := glyph.char
    if isBreak c then skipGap inFlow (keyAllowed || !inFlow) false rest
    else if inComment && !isEnd c then skipGap inFlow keyAllowed true rest
    else if c == '#' then skipGap inFlow keyAllowed true rest
    else if c == ' ' || (c == '\t' && (inFlow || !keyAllowed)) || (c == mark && glyph.column == 0)
    then skipGap inFlow keyAllowed false rest
    else (keyAllowed, glyph :: rest)

/-- A token that stands for itself after `width` glyphs and takes no part in keys. -/
def pushIndicator (s : Scan) (width : Nat) (token : Token) (keyAllowed : Bool) : Scan :=
  { s.push token with rest := s.rest.drop width, keyAllowed }

def openFlow? (s : Scan) (glyph : Glyph) (start : Token) : Option Scan := do
  let s ← s.saveCandidate? glyph
  return { s with outer := s.candidate :: s.outer, candidate := none }.pushIndicator 1 start true

def closeFlow? (s : Scan) (final : Token) : Option Scan := do
  let s ← s.dropCandidate?
  let s := match s.outer with
    | candidate :: outer => { s with candidate, outer }
    | [] => s
  return s.pushIndicator 1 final false

/-- An indicator that starts an entry or a key of a block collection where none was open. -/
def startEntry? (s : Scan) (glyph : Glyph) (collection token : Token) (keyAllowed : Bool) :
    Option Scan :=
  if !s.inFlow && !s.keyAllowed then none
  else do
    let s := s.startBlock glyph.column s.tokens.size collection
    return (← s.dropCandidate?).pushIndicator 1 token keyAllowed

/-- A colon: the candidate becomes the key of the value that follows. -/
def value? (s : Scan) (glyph : Glyph) : Option Scan :=
  match s.candidate with
  | some candidate =>
    let s := { s with tokens := s.tokens.insertIdxIfInBounds candidate.position .key }
    let s := s.startBlock candidate.column candidate.position .blockMappingStart
    some ({ s with candidate := none }.pushIndicator 1 .value false)
  | none =>
    if !s.inFlow && !s.keyAllowed then none
    else
      let s := s.startBlock glyph.column s.tokens.size .blockMappingStart
      some (s.pushIndicator 1 .value (!s.inFlow))

/-- A token that a key may start with. -/
def pushNode? (s : Scan) (glyph : Glyph) (read : Option (Token × List Glyph)) : Option Scan := do
  let s ← s.saveCandidate? glyph
  let (token, rest) ← read
  return { s.push token with rest, keyAllowed := false }

def plain? (s : Scan) (glyph : Glyph) (rest : List Glyph) : Option Scan := do
  let s ← s.saveCandidate? glyph
  let (text, broken, rest) ← readPlain s.inFlow (s.column + 1) {} [] (glyph :: rest)
  return { s.push (.scalar true text) with rest, keyAllowed := broken }

def block? (s : Scan) (literal : Bool) (rest : List Glyph) : Option Scan := do
  let s ← s.dropCandidate?
  let (text, rest) ← readBlock literal s.column rest
  return { s.push (.scalar false text) with rest, keyAllowed := true }

/-- A plain scalar may start with an indicator only where the next character takes its meaning
away. -/
def startsPlain (inFlow : Bool) (c next : Char) : Bool :=
  if c == '-' then !isBlank next
  else if c == '?' || c == ':' then !inFlow && !isGap next
  else !(isGap c || [',', '[', ']', '\x7b', '\x7d', '#', '&', '*', '!', '|', '>', '\'', '"', '%',
    '@', '\x60'].contains c)

/-- The token that starts at this glyph, which is not the last one. -/
def token? (s : Scan) (glyph : Glyph) (rest : List Glyph) : Option Scan :=
  let c := glyph.char
  let next := look 0 rest
  let quoted (text : Option (String × List Glyph)) : Option (Token × List Glyph) :=
    text.map fun (text, rest) => (.scalar false text, rest)
  if c == '%' && glyph.column == 0 then do
    let s ← (s.unwind (-1)).dropCandidate?
    let (token, rest) ← readDirective rest
    return { s.push token with rest, keyAllowed := false }
  else if isSeparator (glyph :: rest) then do
    let s ← (s.unwind (-1)).dropCandidate?
    return s.pushIndicator 3 (if c == '-' then .documentStart else .documentEnd) false
  else if c == '[' then s.openFlow? glyph .flowSequenceStart
  else if c == '\x7b' then s.openFlow? glyph .flowMappingStart
  else if c == ']' then s.closeFlow? .flowSequenceEnd
  else if c == '\x7d' then s.closeFlow? .flowMappingEnd
  else if c == ',' then do return (← s.dropCandidate?).pushIndicator 1 .flowEntry true
  else if c == '-' && isGap next then s.startEntry? glyph .blockSequenceStart .blockEntry true
  else if c == '?' && (s.inFlow || isGap next) then
    s.startEntry? glyph .blockMappingStart .key (!s.inFlow)
  else if c == ':' && (s.inFlow || isGap next) then s.value? glyph
  else if c == '*' then
    s.pushNode? glyph ((readName rest).map fun (name, rest) => (.alias name, rest))
  else if c == '&' then
    s.pushNode? glyph ((readName rest).map fun (name, rest) => (.anchor name, rest))
  else if c == '!' then s.pushNode? glyph (readTag s.inFlow rest)
  else if c == '|' && !s.inFlow then s.block? true rest
  else if c == '>' && !s.inFlow then s.block? false rest
  else if c == '\'' then s.pushNode? glyph (quoted (readSingleQuoted {} [] rest))
  else if c == '"' then s.pushNode? glyph (quoted (readDoubleQuoted none {} [] rest))
  else if startsPlain s.inFlow c next then s.plain? glyph rest
  else none

/-- All tokens up to the end of the text. -/
def run : (fuel : Nat) → Scan → Option (List Token)
  | 0, _ => none
  | fuel + 1, s =>
    let (keyAllowed, rest) := skipGap s.inFlow s.keyAllowed false s.rest
    match rest with
    | [] => none
    | glyph :: after => do
      let s ← { s with rest, keyAllowed }.dropStale? glyph
      let s := s.unwind glyph.column
      if isEnd glyph.char then
        let s ← (s.unwind (-1)).dropCandidate?
        return s.tokens.toList
      else run fuel (← s.token? glyph after)

end Scan

/-- The tokens of a text. Each token takes at least one character, which bounds their number. -/
def Token.ofText? (text : List Char) : Option (List Token) := do
  let glyphs ← Glyph.ofText? text
  Scan.run (glyphs.length + 1) { rest := glyphs }

end Reconcile.Yaml
