/-
# FilterQuery.Yaml.Reader -- tokens as nodes

Where a node may stand and none does, there is an empty plain scalar.  The items
of a sequence need not be indented more than the key that they belong to.  Inside
brackets a key with a value is a mapping of its own.

Every call counts down `steps`, which start with more than two for each token: a
call that takes no token makes one that does.
-/
import FilterQuery.Yaml.Basic
import FilterQuery.Yaml.Token

namespace FilterQuery.Yaml

/-- Whether the next token, if any, is one of those that `stops` names. -/
def stopsAt (stops : Token → Bool) (tokens : List Token) : Bool :=
  tokens.head?.any stops

/-- A block collection goes on or ends here. -/
def endsBlockNode : Token → Bool
  | .key | .value | .blockEnd => true
  | _ => false

/-- An item of a block sequence ends here. -/
def endsItem : Token → Bool
  | .entry | .blockEnd => true
  | _ => false

/-- An item of a sequence without indentation ends here. -/
def endsLooseItem : Token → Bool
  | .entry | .key | .value | .blockEnd => true
  | _ => false

/-- A key inside brackets ends here. -/
def endsFlowKey (close : Token → Bool) : Token → Bool
  | .value | .comma => true
  | t => close t

/-- A value inside brackets ends here. -/
def endsFlowValue (close : Token → Bool) : Token → Bool
  | .comma => true
  | t => close t

/-- The bracket that closes a sequence. -/
def closesSequence : Token → Bool
  | .flowSequenceEnd => true
  | _ => false

/-- The brace that closes a mapping. -/
def closesMapping : Token → Bool
  | .flowMappingEnd => true
  | _ => false

/-- The tokens behind the comma between two items inside brackets, or all of them before the first
item and the closing bracket. -/
def behindComma (first : Bool) (close : Token → Bool) (tokens : List Token) :
    Option (List Token) :=
  if first || stopsAt close tokens then some tokens
  else
    match tokens with
    | .comma :: rest => some rest
    | _ => none

mutual
/-- A node; blocks may begin only where `block` says so, and sequences without indentation only
where `loose` does. -/
def readNode (block loose : Bool) : (steps : Nat) → List Token → Option (Yaml × List Token)
  | 0, _ => none
  | steps + 1, tokens =>
    match tokens with
    | .scalar plain text :: rest => some (.scalar plain text, rest)
    | .flowSequenceStart :: rest => do
      let (items, rest) ← readFlowItems true steps rest
      some (.sequence items, rest)
    | .flowMappingStart :: rest => do
      let (entries, rest) ← readFlowEntries true steps rest
      some (.mapping entries, rest)
    | .entry :: _ =>
      if loose then do
        let (items, rest) ← readLooseItems steps tokens
        some (.sequence items, rest)
      else none
    | .blockSequenceStart :: rest =>
      if block then do
        let (items, rest) ← readItems steps rest
        some (.sequence items, rest)
      else none
    | .blockMappingStart :: rest =>
      if block then do
        let (entries, rest) ← readEntries steps rest
        some (.mapping entries, rest)
      else none
    | _ => none

/-- A node, or nothing if the next token is one of those that `stops` names. -/
def readNodeBefore (stops : Token → Bool) (block loose : Bool) :
    (steps : Nat) → List Token → Option (Yaml × List Token)
  | 0, _ => none
  | steps + 1, tokens =>
    if stopsAt stops tokens then some (.nothing, tokens) else readNode block loose steps tokens

/-- The items of a block sequence. -/
def readItems : (steps : Nat) → List Token → Option (List Yaml × List Token)
  | 0, _ => none
  | steps + 1, tokens =>
    match tokens with
    | .entry :: rest => do
      let (item, rest) ← readNodeBefore endsItem true false steps rest
      let (items, rest) ← readItems steps rest
      some (item :: items, rest)
    | .blockEnd :: rest => some ([], rest)
    | _ => none

/-- The items of a sequence without indentation. -/
def readLooseItems : (steps : Nat) → List Token → Option (List Yaml × List Token)
  | 0, _ => none
  | steps + 1, tokens =>
    match tokens with
    | .entry :: rest => do
      let (item, rest) ← readNodeBefore endsLooseItem true false steps rest
      let (items, rest) ← readLooseItems steps rest
      some (item :: items, rest)
    | _ => some ([], tokens)

/-- The entries of a block mapping. -/
def readEntries : (steps : Nat) → List Token → Option (List (Yaml × Yaml) × List Token)
  | 0, _ => none
  | steps + 1, tokens =>
    match tokens with
    | .key :: rest => do
      let (key, rest) ← readNodeBefore endsBlockNode true true steps rest
      let (value, rest) ← readValue endsBlockNode true steps rest
      let (entries, rest) ← readEntries steps rest
      some ((key, value) :: entries, rest)
    | .blockEnd :: rest => some ([], rest)
    | _ => none

/-- The value behind its colon, or nothing. -/
def readValue (stops : Token → Bool) (block : Bool) :
    (steps : Nat) → List Token → Option (Yaml × List Token)
  | 0, _ => none
  | steps + 1, tokens =>
    match tokens with
    | .value :: rest => readNodeBefore stops block block steps rest
    | _ => some (.nothing, tokens)

/-- The key of a mapping in a sequence in brackets.  If there is none, the token that stands in its
place is lost. -/
def readPairKey : (steps : Nat) → List Token → Option (Yaml × List Token)
  | 0, _ => none
  | steps + 1, tokens =>
    if stopsAt (endsFlowKey closesSequence) tokens then some (.nothing, tokens.drop 1)
    else readNode false false steps tokens

/-- The items of a sequence in brackets. -/
def readFlowItems (first : Bool) : (steps : Nat) → List Token → Option (List Yaml × List Token)
  | 0, _ => none
  | steps + 1, tokens => do
    match ← behindComma first closesSequence tokens with
    | .flowSequenceEnd :: rest => some ([], rest)
    | .key :: rest =>
      let (key, rest) ← readPairKey steps rest
      let (value, rest) ← readValue (endsFlowValue closesSequence) false steps rest
      let (items, rest) ← readFlowItems false steps rest
      some (.mapping [(key, value)] :: items, rest)
    | tokens =>
      let (item, rest) ← readNode false false steps tokens
      let (items, rest) ← readFlowItems false steps rest
      some (item :: items, rest)

/-- The entries of a mapping in braces. -/
def readFlowEntries (first : Bool) :
    (steps : Nat) → List Token → Option (List (Yaml × Yaml) × List Token)
  | 0, _ => none
  | steps + 1, tokens => do
    match ← behindComma first closesMapping tokens with
    | .flowMappingEnd :: rest => some ([], rest)
    | .key :: rest =>
      let (key, rest) ← readNodeBefore (endsFlowKey closesMapping) false false steps rest
      let (value, rest) ← readValue (endsFlowValue closesMapping) false steps rest
      let (entries, rest) ← readFlowEntries false steps rest
      some ((key, value) :: entries, rest)
    | tokens =>
      let (key, rest) ← readNode false false steps tokens
      let (entries, rest) ← readFlowEntries false steps rest
      some ((key, .nothing) :: entries, rest)
end

/-- A mark between documents. -/
def isDocumentMark : Token → Bool
  | .documentStart | .documentEnd => true
  | _ => false

/-- The mark at the end of a document. -/
def isDocumentEnd : Token → Bool
  | .documentEnd => true
  | _ => false

/-- The only document of a text; a text without one is nothing. -/
def read? (text : String) : Option Yaml := do
  let tokens ← tokens? text.toList
  let steps := 3 * tokens.length + 3
  let (node, rest) ←
    match tokens with
    | [] => some (.nothing, [])
    | .documentStart :: rest =>
      if rest.isEmpty || stopsAt isDocumentMark rest then some (.nothing, rest)
      else readNode true false steps rest
    | _ => readNode true false steps tokens
  if (rest.dropWhile isDocumentEnd).isEmpty then some node else none

end FilterQuery.Yaml
