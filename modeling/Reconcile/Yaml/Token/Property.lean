import Reconcile.Yaml.Token.Basic
import Reconcile.Yaml.Token.Scalar

/-!
# Names, tags and directives

The tokens that start with `*`, `&`, `!` and, at the start of a line, `%`. Each reader takes the
glyphs after that indicator.
-/
namespace Reconcile.Yaml

/-- The name of an anchor or an alias, and what follows it. -/
def readName (rest : List Glyph) : Option (String × List Glyph) :=
  let (name, rest) := spanGlyphs isWord rest
  let next := look 0 rest
  if name.isEmpty then none
  else if isGap next || ['?', ':', ',', ']', '\x7d', '%', '@', '\x60'].contains next then
    some (String.ofList name, rest)
  else none

/-- The characters of a tag. Inside angle brackets and in a directive flow indicators are among
them. -/
def isTagChar (verbatim : Bool) (c : Char) : Bool :=
  isWord c || [';', '/', '?', ':', '@', '&', '=', '+', '$', '.', '%', '!', '~', '*', '\'', '(',
    ')'].contains c || (verbatim && [',', '[', ']'].contains c)

/-- How many bytes, after the first one, belong to a character, and what the first one holds of its
code. -/
def leadByte? (byte : Nat) : Option (Nat × Nat) :=
  if byte < 0x80 then some (0, byte)
  else if 0xC0 ≤ byte ∧ byte < 0xE0 then some (1, byte - 0xC0)
  else if 0xE0 ≤ byte ∧ byte < 0xF0 then some (2, byte - 0xE0)
  else if 0xF0 ≤ byte ∧ byte < 0xF8 then some (3, byte - 0xF0)
  else none

/-- Undo the percent escapes of a tag. Each escape is one byte of a character; `pending` counts the
bytes still to come and holds the code so far. -/
def unescapeTag : (pending : Option Code) → List Char → Option (List Char)
  | none, [] => some []
  | some _, [] => none
  | pending, c :: rest =>
    if c = '%' then
      match rest with
      | high :: low :: rest =>
        match Json.hexValue? high, Json.hexValue? low with
        | some high, some low =>
          let byte := 16 * high + low
          let code? := match pending with
            | none => (leadByte? byte).map fun (missing, value) => Code.mk missing value
            | some code =>
              if 0x80 ≤ byte ∧ byte < 0xC0 then
                some ⟨code.missing - 1, 64 * code.value + (byte - 0x80)⟩
              else none
          match code? with
          | none => none
          | some code =>
            if code.missing = 0 then
              match charOfCode? code.value with
              | none => none
              | some c => (unescapeTag none rest).map (c :: ·)
            else unescapeTag (some code) rest
        | _, _ => none
      | _ => none
    else if pending.isSome then none
    else (unescapeTag none rest).map (c :: ·)

/-- The characters of a tag and what follows them. -/
def readTagChars (verbatim : Bool) (rest : List Glyph) : Option (List Char × List Glyph) :=
  let (chars, rest) := spanGlyphs (isTagChar verbatim) rest
  (unescapeTag none chars).map fun chars => (chars, rest)

/-- A tag: `<…>`, a handle between exclamation marks and a suffix, or a suffix alone, whose handle
is one mark. A lone mark has an empty handle. -/
def readTag (inFlow : Bool) (rest : List Glyph) : Option (Token × List Glyph) := do
  let (token, rest) ←
    if look 0 rest == '<' then do
      let (suffix, rest) ← readTagChars true (rest.drop 1)
      if suffix.isEmpty || look 0 rest != '>' then none
      else some (Token.tag "" (String.ofList suffix), rest.drop 1)
    else
      let (name, after) := spanGlyphs isWord rest
      if look 0 after == '!' then do
        let (suffix, rest) ← readTagChars false (after.drop 1)
        if suffix.isEmpty then none
        else some (Token.tag ("!" ++ String.ofList name ++ "!") (String.ofList suffix), rest)
      else do
        let (suffix, rest) ← readTagChars false rest
        if suffix.isEmpty then some (Token.tag "" "!", rest)
        else some (Token.tag "!" (String.ofList suffix), rest)
  if isGap (look 0 rest) || (inFlow && look 0 rest == ',') then some (token, rest) else none

/-- A number of a version: at most nine digits. -/
def readVersionNumber (rest : List Glyph) : Option (Nat × List Glyph) :=
  let (run, rest) := spanGlyphs Char.isDigit rest
  if run.isEmpty || run.length > 9 then none else some (Decimal.valueOfDigits run, rest)

/-- A directive and the rest of its line. -/
def readDirective (rest : List Glyph) : Option (Token × List Glyph) := do
  let (name, rest) := spanGlyphs isWord rest
  let skipBlanks (rest : List Glyph) : List Glyph := rest.dropWhile (isBlank ·.char)
  if !isGap (look 0 rest) then none
  else
    let (token, rest) ←
      if name == ['Y', 'A', 'M', 'L'] then do
        let (major, rest) ← readVersionNumber (skipBlanks rest)
        if look 0 rest != '.' then none
        else
          let (minor, rest) ← readVersionNumber (rest.drop 1)
          some (Token.version major minor, rest)
      else if name == ['T', 'A', 'G'] then do
        let rest := skipBlanks rest
        let (word, after) := spanGlyphs isWord (rest.drop 1)
        let closed := look 0 after == '!'
        let after := if closed then after.drop 1 else after
        if look 0 rest != '!' || !(closed || word.isEmpty) || !isBlank (look 0 after) then none
        else
          let handle := "!" ++ String.ofList word ++ (if closed then "!" else "")
          let (expansion, rest) ← readTagChars true (skipBlanks after)
          if expansion.isEmpty || !isGap (look 0 rest) then none
          else some (Token.tagHandle handle (String.ofList expansion), rest)
      else none
    return (token, ← skipLineEnd? rest)

end Reconcile.Yaml
