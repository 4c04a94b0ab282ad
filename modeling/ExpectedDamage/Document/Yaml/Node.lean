import ExpectedDamage.Document.Yaml.Reader
import ExpectedDamage.Document.Yaml.Scalar
import ExpectedDamage.Document.Yaml.Token
import ExpectedDamage.Keyed
/-!
# Documents of YAML

A document is a node: a scalar, a list of nodes, or pairs of nodes. Nodes are read
from tokens; each step takes a token, so the number of tokens bounds the recursion.
The value of a node is that of its plain scalars; a key must be a scalar, and the
later of two equal keys counts. Of several faults the one that lies least deep is
reported, and the first of those from the left.

`read` is a `Reader` for ordinary documents, the one that commands use unless they are
given another. It refuses directives, tags, anchors, block scalars and keys that are no
scalars, takes every key for a text, and does not merge what stands under `<<`.
-/

namespace ExpectedDamage.Document.Yaml

open Record

/-- A part of a document. -/
inductive Node where
  | scalar (text : String) (plain : Bool)
  | list (items : List Node)
  | pairs (entries : List (Node × Node))
  deriving Inhabited, Repr

namespace Node

/-- A node that is left out. -/
def missing : Node := .scalar "" true

def endsBlockNode : List Token → Bool
  | .item :: _ | .key :: _ | .value :: _ | .blockEnd :: _ => true
  | _ => false

def endsBlockItem : List Token → Bool
  | .item :: _ | .blockEnd :: _ => true
  | _ => false

/-- Whether the next token begins no key or value of a block. -/
def endsBlockEntry : List Token → Bool
  | .key :: _ | .value :: _ | .blockEnd :: _ => true
  | _ => false

/-- Whether the next token begins no node between brackets with the given end. -/
def endsFlowNode (closing : Token) : List Token → Bool
  | .value :: _ | .comma :: _ => true
  | t :: _ => t == closing
  | [] => false

mutual

/-- A node. Blocks may begin only where `block` says so, and a list without an
indentation of its own only as the value of a key. -/
def read? (block flush : Bool) : Nat → List Token → Option (Node × List Token)
  | 0, _ => none
  | bound + 1, tokens =>
    match tokens with
    | .item :: _ =>
      if flush then
        (flushItems? bound tokens).map fun (items, rest) => (.list items, rest)
      else none
    | .scalar text plain :: rest => some (.scalar text plain, rest)
    | .flowListStart :: rest =>
      (flowItems? true bound rest).map fun (items, rest) => (.list items, rest)
    | .flowMapStart :: rest =>
      (flowPairs? true bound rest).map fun (entries, rest) => (.pairs entries, rest)
    | .blockListStart :: rest =>
      if block then (blockItems? bound rest).map fun (items, rest) => (.list items, rest) else none
    | .blockMapStart :: rest =>
      if block then (blockPairs? bound rest).map fun (entries, rest) => (.pairs entries, rest)
      else none
    | _ => none

def blockItems? : Nat → List Token → Option (List Node × List Token)
  | 0, _ => none
  | bound + 1, tokens =>
    match tokens with
    | .blockEnd :: rest => some ([], rest)
    | .item :: rest => do
      let (node, rest) ←
        if endsBlockItem rest then some (missing, rest) else read? true false bound rest
      let (items, rest) ← blockItems? bound rest
      return (node :: items, rest)
    | _ => none

/-- The items of a list that is indented like the key it belongs to. -/
def flushItems? : Nat → List Token → Option (List Node × List Token)
  | 0, _ => none
  | bound + 1, tokens =>
    match tokens with
    | .item :: rest => do
      let (node, rest) ←
        if endsBlockNode rest then some (missing, rest) else read? true false bound rest
      let (items, rest) ← flushItems? bound rest
      return (node :: items, rest)
    | rest => some ([], rest)

def blockPairs? : Nat → List Token → Option (List (Node × Node) × List Token)
  | 0, _ => none
  | bound + 1, tokens =>
    match tokens with
    | .blockEnd :: rest => some ([], rest)
    | .key :: rest => do
      let (key, rest) ←
        if endsBlockEntry rest then some (missing, rest) else read? true true bound rest
      let (value, rest) ← blockValue? bound rest
      let (entries, rest) ← blockPairs? bound rest
      return ((key, value) :: entries, rest)
    | _ => none

def blockValue? : Nat → List Token → Option (Node × List Token)
  | 0, _ => none
  | bound + 1, tokens =>
    match tokens with
    | .value :: rest =>
      if endsBlockEntry rest then some (missing, rest) else read? true true bound rest
    | rest => some (missing, rest)

/-- The items between brackets; a pair among them is a mapping of its own. -/
def flowItems? (first : Bool) : Nat → List Token → Option (List Node × List Token)
  | 0, _ => none
  | bound + 1, tokens =>
    match tokens with
    | .flowListEnd :: rest => some ([], rest)
    | tokens => do
      let tokens ←
        match first, tokens with
        | true, tokens => some tokens
        | false, .comma :: rest => some rest
        | false, _ => none
      match tokens with
      | .flowListEnd :: rest => return ([], rest)
      | .key :: rest =>
        let (key, rest) ← flowKey? .flowListEnd bound rest
        let (value, rest) ← flowValue? .flowListEnd bound rest
        let (items, rest) ← flowItems? false bound rest
        return (.pairs [(key, value)] :: items, rest)
      | tokens =>
        let (node, rest) ← read? false false bound tokens
        let (items, rest) ← flowItems? false bound rest
        return (node :: items, rest)

/-- The pairs between braces; a key may lack its value. -/
def flowPairs? (first : Bool) : Nat → List Token → Option (List (Node × Node) × List Token)
  | 0, _ => none
  | bound + 1, tokens =>
    match tokens with
    | .flowMapEnd :: rest => some ([], rest)
    | tokens => do
      let tokens ←
        match first, tokens with
        | true, tokens => some tokens
        | false, .comma :: rest => some rest
        | false, _ => none
      match tokens with
      | .flowMapEnd :: rest => return ([], rest)
      | .key :: rest =>
        let (key, rest) ← flowKey? .flowMapEnd bound rest
        let (value, rest) ← flowValue? .flowMapEnd bound rest
        let (entries, rest) ← flowPairs? false bound rest
        return ((key, value) :: entries, rest)
      | tokens =>
        let (key, rest) ← read? false false bound tokens
        let (entries, rest) ← flowPairs? false bound rest
        return ((key, missing) :: entries, rest)

/-- A key between brackets. -/
def flowKey? (closing : Token) : Nat → List Token → Option (Node × List Token)
  | 0, _ => none
  | bound + 1, tokens =>
    if endsFlowNode closing tokens then some (missing, tokens) else read? false false bound tokens

/-- The value of a key between brackets. -/
def flowValue? (closing : Token) : Nat → List Token → Option (Node × List Token)
  | 0, _ => none
  | bound + 1, tokens =>
    match tokens with
    | .value :: rest =>
      if (match rest with
          | .comma :: _ => true
          | t :: _ => t == closing
          | [] => false) then some (missing, rest)
      else read? false false bound rest
    | rest => some (missing, rest)

end

/-- The plain scalar that is a key for pairs to be merged. -/
def mergeMark : String := "<<"

/-- The plain scalars that are marks for keys and have no value. -/
def keyMarks : List String := ["=", mergeMark]

def scalarValue (text : String) (plain : Bool) : Except Fault Value :=
  if !plain then .ok (.text text)
  else if keyMarks.contains text then .error .malformed
  else
    match plainValue? text with
    | .ok value => .ok value
    | .error fault => .error (.escaped fault)

def keyText : Node → Except Fault String
  | .scalar text plain =>
    if plain && keyMarks.contains text then .ok text
    else (scalarValue text plain).map fun _ => text
  | _ => .error .malformed

/-- Whether a pair merges a scalar, which has no pairs. -/
def mergesScalar : Node → Node → Bool
  | .scalar text true, .scalar .. => text == mergeMark
  | _, _ => false

mutual

def value : Node → Except Fault Value
  | .scalar text plain => scalarValue text plain
  | .list items => .list <$> itemValues items
  | .pairs entries => .object <$> fieldValues [] entries

def itemValues : List Node → Except Fault (List Value)
  | [] => .ok []
  | node :: rest => do return (← node.value) :: (← itemValues rest)

/-- The fields of pairs, after those already taken. -/
def fieldValues (fields : List (String × Value)) :
    List (Node × Node) → Except Fault (List (String × Value))
  | [] => .ok fields
  | (key, node) :: rest => do
    if mergesScalar key node then throw .malformed
    let text ← key.keyText
    let value ← node.value
    fieldValues (Keyed.insert text value fields) rest

end

/-- The fault of what is read, if it has one. -/
def error? {α : Type} : Except Fault α → Option Fault
  | .ok _ => none
  | .error fault => some fault

/-- The fault that a node has by itself, as a key or as another part. -/
def fault? (isKey : Bool) (node : Node) : Option Fault :=
  match isKey, node with
  | true, node => error? node.keyText
  | false, .scalar text plain => error? (scalarValue text plain)
  | false, _ => none

/-- The parts of a node, each with whether it is a key. -/
def parts : Node → List (Bool × Node)
  | .scalar .. => []
  | .list items => items.map (false, ·)
  | .pairs entries => entries.flatMap fun (key, node) => [(true, key), (false, node)]

/-- The first fault among the given parts, or else among the parts of those. -/
def firstFault? : Nat → List (Bool × Node) → Option Fault
  | 0, _ => none
  | bound + 1, given =>
    match given.findSome? fun (isKey, node) => node.fault? isKey with
    | some fault => some fault
    | none =>
      if given.isEmpty then none else firstFault? bound (given.flatMap fun part => part.2.parts)

end Node

def skipDocumentEnds : List Token → List Token
  | .documentEnd :: rest => skipDocumentEnds rest
  | rest => rest

def document? (tokens : List Token) : Option Node := do
  let bound := 3 * tokens.length + 3
  let (node, rest) ←
    match tokens with
    | [] => some (Node.missing, [])
    | .documentStart :: rest =>
      match rest with
      | [] | .documentStart :: _ | .documentEnd :: _ => some (Node.missing, rest)
      | rest => Node.read? true false bound rest
    | tokens => Node.read? true false bound tokens
  if (skipDocumentEnds rest).isEmpty then some node else none

/-- The value of an ordinary document. -/
def read : Reader := fun text =>
  match (tokens? text).bind document? with
  | none => .error .malformed
  | some node =>
    match Node.firstFault? (text.length + 2) [(false, node)] with
    | some fault => .error fault
    | none => node.value

end ExpectedDamage.Document.Yaml
