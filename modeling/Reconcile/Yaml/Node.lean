import Reconcile.Yaml.Token.Basic

/-!
# The nodes of a document

A node is a scalar, a sequence, a mapping or an alias of another node; all but an alias may carry an
anchor and a tag. `Node.ofTokens?` reads the one document that a stream of tokens holds: where the
grammar leaves a node out an empty plain scalar stands, and a stream without a document has none.

The grammar is read by recursive descent. Fuel is counted in tokens: each call passes on to another
at most three times before a token is consumed.
-/
namespace Reconcile.Yaml

/-- A node whose anchors and aliases are labelled by `ι`. -/
inductive Node (ι : Type) where
  | alias (label : ι)
  | scalar (anchor : Option ι) (tag : Option String) (plain : Bool) (text : String)
  | sequence (anchor : Option ι) (tag : Option String) (items : List (Node ι))
  | mapping (anchor : Option ι) (tag : Option String) (entries : List (Node ι × Node ι))

namespace Node

/-- The node that stands where none is written. -/
def missing : Node ι := .scalar none none true ""

/-- What the handles of tags stand for. -/
abbrev Handles := List (String × String)

def standardHandles : Handles := [("!", "!"), ("!!", "tag:yaml.org,2002:")]

def expandTag? (handles : Handles) (handle suffix : String) : Option String :=
  if handle.isEmpty then some suffix
  else (handles.lookup handle).map (· ++ suffix)

/-- The anchor and the tag before a node, in either order, and the tokens after them. -/
def properties? (handles : Handles) (tokens : List Token) :
    Option (Option String × Option String × List Token) :=
  match tokens with
  | .anchor name :: .tag handle suffix :: rest =>
    (expandTag? handles handle suffix).map fun tag => (some name, some tag, rest)
  | .anchor name :: rest => some (some name, none, rest)
  | .tag handle suffix :: .anchor name :: rest =>
    (expandTag? handles handle suffix).map fun tag => (some name, some tag, rest)
  | .tag handle suffix :: rest =>
    (expandTag? handles handle suffix).map fun tag => (none, some tag, rest)
  | rest => some (none, none, rest)

/-- Is the next token one of these? The end of the stream is none of them. -/
def comesNext (tokens : List Token) (among : List Token) : Bool :=
  match tokens with
  | token :: _ => among.contains token
  | [] => false

/-- The tokens after a comma that must be there, except before the first entry of a collection. -/
def afterComma? (first : Bool) (tokens : List Token) : Option (List Token) :=
  match first, tokens with
  | true, tokens => some tokens
  | false, .flowEntry :: rest => some rest
  | false, _ => none

mutual

/-- A node: `inBlock` where block collections may start, `hanging` where the entries of a sequence
may stand in the column of the mapping around it. -/
def read (handles : Handles) :
    (fuel : Nat) → (inBlock hanging : Bool) → List Token → Option (Node String × List Token)
  | 0, _, _, _ => none
  | _ + 1, _, _, .alias name :: rest => some (.alias name, rest)
  | fuel + 1, inBlock, hanging, tokens =>
    match properties? handles tokens with
    | none => none
    | some (anchor, tag, tokens) =>
      match tokens with
      | .scalar plain text :: rest =>
        some (.scalar anchor (if tag == some "!" then none else tag) plain text, rest)
      | .flowSequenceStart :: rest =>
        (readFlowItems handles fuel true rest).map fun (items, rest) =>
          (.sequence anchor tag items, rest)
      | .flowMappingStart :: rest =>
        (readFlowEntries handles fuel true rest).map fun (entries, rest) =>
          (.mapping anchor tag entries, rest)
      | tokens =>
        if hanging && comesNext tokens [.blockEntry] then
          (readHangingItems handles fuel tokens).map fun (items, rest) =>
            (.sequence anchor tag items, rest)
        else if inBlock && comesNext tokens [.blockSequenceStart] then
          (readBlockItems handles fuel (tokens.drop 1)).map fun (items, rest) =>
            (.sequence anchor tag items, rest)
        else if inBlock && comesNext tokens [.blockMappingStart] then
          (readBlockEntries handles fuel (tokens.drop 1)).map fun (entries, rest) =>
            (.mapping anchor tag entries, rest)
        else if anchor.isSome || tag.isSome then some (.scalar anchor tag true "", tokens)
        else none

/-- A node, or the missing one before any of the tokens that end its place. -/
def readUnless (handles : Handles) :
    (fuel : Nat) → (ends : List Token) → (inBlock hanging : Bool) → List Token →
      Option (Node String × List Token)
  | 0, _, _, _, _ => none
  | fuel + 1, ends, inBlock, hanging, tokens =>
    if comesNext tokens ends then some (missing, tokens)
    else read handles fuel inBlock hanging tokens

/-- The items of a block sequence up to its end. -/
def readBlockItems (handles : Handles) :
    (fuel : Nat) → List Token → Option (List (Node String) × List Token)
  | 0, _ => none
  | fuel + 1, .blockEntry :: rest => do
    let (item, rest) ← readUnless handles fuel [.blockEntry, .blockEnd] true false rest
    let (items, rest) ← readBlockItems handles fuel rest
    return (item :: items, rest)
  | _ + 1, .blockEnd :: rest => some ([], rest)
  | _ + 1, _ => none

/-- The items of a sequence without tokens for its start and end. -/
def readHangingItems (handles : Handles) :
    (fuel : Nat) → List Token → Option (List (Node String) × List Token)
  | 0, _ => none
  | fuel + 1, .blockEntry :: rest => do
    let (item, rest) ←
      readUnless handles fuel [.blockEntry, .key, .value, .blockEnd] true false rest
    let (items, rest) ← readHangingItems handles fuel rest
    return (item :: items, rest)
  | _ + 1, rest => some ([], rest)

/-- The entries of a block mapping up to its end. -/
def readBlockEntries (handles : Handles) :
    (fuel : Nat) → List Token → Option (List (Node String × Node String) × List Token)
  | 0, _ => none
  | fuel + 1, .key :: rest => do
    let (key, rest) ← readUnless handles fuel [.key, .value, .blockEnd] true true rest
    let (value, rest) ← readValue handles fuel [.key, .value, .blockEnd] true rest
    let (entries, rest) ← readBlockEntries handles fuel rest
    return ((key, value) :: entries, rest)
  | _ + 1, .blockEnd :: rest => some ([], rest)
  | _ + 1, _ => none

/-- The value after a key, missing when no value is marked or before a token that ends its place. -/
def readValue (handles : Handles) :
    (fuel : Nat) → (ends : List Token) → (inBlock : Bool) → List Token →
      Option (Node String × List Token)
  | 0, _, _, _ => none
  | fuel + 1, ends, inBlock, .value :: rest => readUnless handles fuel ends inBlock inBlock rest
  | _ + 1, _, _, rest => some (missing, rest)

/-- The items of a flow sequence up to its end; a comma may follow the last one. -/
def readFlowItems (handles : Handles) :
    (fuel : Nat) → (first : Bool) → List Token → Option (List (Node String) × List Token)
  | 0, _, _ => none
  | _ + 1, _, .flowSequenceEnd :: rest => some ([], rest)
  | fuel + 1, first, tokens =>
    match afterComma? first tokens with
    | none => none
    | some (.flowSequenceEnd :: rest) => some ([], rest)
    | some (.key :: rest) => do
      let (entry, rest) ← readPair handles fuel rest
      let (items, rest) ← readFlowItems handles fuel false rest
      return (.mapping none none [entry] :: items, rest)
    | some rest => do
      let (item, rest) ← read handles fuel false false rest
      let (items, rest) ← readFlowItems handles fuel false rest
      return (item :: items, rest)

/-- The one entry of a mapping that stands without braces in a flow sequence. Where its key is left
out, the token in that place is passed over. -/
def readPair (handles : Handles) :
    (fuel : Nat) → List Token → Option ((Node String × Node String) × List Token)
  | 0, _ => none
  | fuel + 1, tokens => do
    let (key, rest) ←
      if comesNext tokens [.value, .flowEntry, .flowSequenceEnd] then some (missing, tokens.drop 1)
      else read handles fuel false false tokens
    let (value, rest) ← readValue handles fuel [.flowEntry, .flowSequenceEnd] false rest
    return ((key, value), rest)

/-- The entries of a flow mapping up to its end; a comma may follow the last one. -/
def readFlowEntries (handles : Handles) :
    (fuel : Nat) → (first : Bool) → List Token →
      Option (List (Node String × Node String) × List Token)
  | 0, _, _ => none
  | _ + 1, _, .flowMappingEnd :: rest => some ([], rest)
  | fuel + 1, first, tokens =>
    match afterComma? first tokens with
    | none => none
    | some (.flowMappingEnd :: rest) => some ([], rest)
    | some (.key :: rest) => do
      let (key, rest) ←
        readUnless handles fuel [.value, .flowEntry, .flowMappingEnd] false false rest
      let (value, rest) ← readValue handles fuel [.flowEntry, .flowMappingEnd] false rest
      let (entries, rest) ← readFlowEntries handles fuel false rest
      return ((key, value) :: entries, rest)
    | some rest => do
      let (key, rest) ← read handles fuel false false rest
      let (entries, rest) ← readFlowEntries handles fuel false rest
      return ((key, missing) :: entries, rest)

end

/-- The directives before a document: one version at most, 1.1 or 1.2, and each handle once. The
answer holds the handles and tells whether there were directives at all. -/
def directives? : (versioned : Bool) → Handles → List Token → Option (Handles × List Token)
  | versioned, handles, .version major minor :: rest =>
    if versioned || major != 1 || !(minor == 1 || minor == 2) then none
    else directives? true handles rest
  | versioned, handles, .tagHandle handle expansion :: rest =>
    if (handles.lookup handle).isSome then none
    else directives? versioned (handles ++ [(handle, expansion)]) rest
  | _, handles, rest => some (handles, rest)

def isDirective : Token → Bool
  | .version .. | .tagHandle .. => true
  | _ => false

/-- The document that the tokens start with, and the tokens after it. -/
def readDocument? (tokens : List Token) : Option (Node String × List Token) := do
  let fuel := 4 * tokens.length + 4
  let (handles, rest) ← directives? false [] tokens
  match rest with
  | .documentStart :: rest =>
    if rest.isEmpty || rest.head?.any isDirective
        || comesNext rest [.documentStart, .documentEnd] then
      some (missing, rest)
    else read (handles ++ standardHandles) fuel true false rest
  | rest =>
    if tokens.head?.any isDirective then none else read standardHandles fuel true false rest

/-- The document of a stream, which holds at most one. -/
def ofTokens? (tokens : List Token) : Option (Option (Node String)) :=
  if tokens.isEmpty then some none
  else
    match readDocument? tokens with
    | some (node, rest) => if rest.all (· == .documentEnd) then some (some node) else none
    | none => none

end Node

end Reconcile.Yaml
