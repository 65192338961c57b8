import FleetReconciler.Yaml.Token

/-!
# Nodes

What a text says: scalars, sequences and mappings. A node may have a name by which other places
refer to it; a reference is a node of its own, so a node may refer to one that it is part of.

Names are numbered. When a name is given to a node, its number becomes the count of different names
so far, so a name that is given anew can share its number with the next new name. A reference is to
a number, and leads to the last node that was given it.

* `Node`, `Document` — the nodes, and a root with the named nodes;
* `Document.ofTokens?` — the document of tokens;
* `Document.parse?` — the only document of a text.
-/

namespace FleetReconciler.Yaml

/-- A piece of data. -/
inductive Node where
  /-- A reference to the node of a number. -/
  | reference (number : Nat)
  | scalar (tag : Option String) (style : ScalarStyle) (text : String)
  | sequence (items : List Node)
  | mapping (entries : List (Node × Node))
  deriving Repr

/-- The scalar that stands where nothing is written. -/
def Node.absent (tag : Option String) : Node := .scalar tag .plain ""

/-- The giving of a name: the number of the name, and how many were given before. -/
structure NameGiving where
  number : Nat
  turn : Nat
  deriving DecidableEq, Repr

/-- A root with the nodes that have a name. -/
structure Document where
  root : Node
  /-- The names that were given, the latest first. -/
  givings : List NameGiving := []
  /-- The nodes with a name, by the turn at which it was given. -/
  named : List (Nat × Node) := []

/-- The node that a node stands for. A reference never leads to another one. -/
def Document.resolve? (d : Document) : Node → Option Node
  | .reference number => do
    let giving ← d.givings.find? (·.number = number)
    let (_, node) ← d.named.find? (·.1 = giving.turn)
    return node
  | node => some node

/-- The state of the reading of a document. -/
structure Composer where
  tokens : List Token
  /-- What the handles of tags stand for. -/
  handles : List (String × String) := []
  /-- The different names so far with their numbers. -/
  names : List (String × Nat) := []
  /-- The names that were given, the latest first. -/
  givings : List NameGiving := []
  /-- The nodes with a name, as far as they are complete, by the turn at which it was given. -/
  named : List (Nat × Node) := []

/-- A step of the reading; none if the tokens are malformed. -/
abbrev Composing := StateT Composer Option

namespace Composing

/-- The next token, which stays. -/
def peek : Composing (Option Token) := return (← get).tokens.head?

/-- Passes over the next token. -/
def skip : Composing Unit := modify fun c => { c with tokens := c.tokens.drop 1 }

/-- Fails. -/
def malformed {α : Type} : Composing α := fun _ => none

/-- What stands before a node: the turn at which its name was given, and its tag. -/
structure Properties where
  turn : Option Nat := none
  tag : Option String := none

/-- Gives a name to the node that follows. The answer is the turn. -/
def declare (name : String) : Composing Nat := do
  let c ← get
  let number := c.names.length
  let turn := c.givings.length
  set { c with
    names := (name, number) :: c.names.filter (·.1 ≠ name)
    givings := ⟨number, turn⟩ :: c.givings }
  return turn

/-- The full tag of a handle and a suffix. -/
def fullTag (handle suffix : String) : Composing String := do
  if handle = "" then return suffix
  match (← get).handles.find? (·.1 = handle) with
  | some (_, lead) => return lead ++ suffix
  | none => malformed

/-- Reads the name and the tag of a node, each at most once and in either order. -/
def properties : Composing Properties := do
  match ← peek with
  | some (.anchor a) =>
    skip
    match ← peek with
    | some (.tag handle suffix) =>
      skip
      return { tag := some (← fullTag handle suffix), turn := some (← declare a) }
    | _ => return { turn := some (← declare a) }
  | some (.tag handle suffix) =>
    skip
    match ← peek with
    | some (.anchor a) =>
      skip
      return { tag := some (← fullTag handle suffix), turn := some (← declare a) }
    | _ => return { tag := some (← fullTag handle suffix) }
  | _ => return {}

/-- Keeps a node under its name. -/
def keep (p : Properties) (node : Node) : Composing Node := do
  match p.turn with
  | some turn => modify fun c => { c with named := (turn, node) :: c.named }
  | none => pure ()
  return node

/-- The tag that says no more of a written scalar than none. -/
def plainTag : String := "!"

/-- Whether the next token is one of those after which a value is left out. -/
def stopsBlock : Option Token → Bool
  | some .key | some .value | some .blockEnd => true
  | _ => false

mutual

/-- Reads a node. In a block it may be a block collection; as a value of a mapping it may be a
sequence that is not indented. -/
def node : (fuel : Nat) → (inBlock bare : Bool) → Composing Node
  | 0, _, _ => malformed
  | fuel + 1, inBlock, bare => do
    match ← peek with
    | some (.alias name) =>
      match (← get).names.find? (·.1 = name) with
      | some (_, n) =>
        skip
        return .reference n
      | none => malformed
    | _ =>
      let p ← properties
      match ← peek with
      | some .blockEntry =>
        if bare then keep p (.sequence (← bareEntries fuel))
        else absent p
      | some (.scalar style text) =>
        skip
        keep p (.scalar (p.tag.filter (· ≠ plainTag)) style text)
      | some .flowSequenceStart =>
        skip
        keep p (.sequence (← flowItems fuel true))
      | some .flowMappingStart =>
        skip
        keep p (.mapping (← flowEntries fuel true))
      | some .blockSequenceStart =>
        if inBlock then
          skip
          keep p (.sequence (← blockItems fuel))
        else absent p
      | some .blockMappingStart =>
        if inBlock then
          skip
          keep p (.mapping (← blockEntries fuel))
        else absent p
      | _ => absent p
where
  /-- A node of which only the name or the tag is written. -/
  absent (p : Properties) : Composing Node :=
    if p.turn.isSome || p.tag.isSome then keep p (.absent p.tag) else malformed

/-- The items of a sequence in block form. -/
def blockItems : Nat → Composing (List Node)
  | 0 => malformed
  | fuel + 1 => do
    match ← peek with
    | some .blockEntry =>
      skip
      let item ← match ← peek with
        | some .blockEntry | some .blockEnd => pure (.absent none)
        | _ => node fuel true false
      return item :: (← blockItems fuel)
    | some .blockEnd =>
      skip
      return []
    | _ => malformed

/-- The items of a sequence in block form that is not indented. -/
def bareEntries : Nat → Composing (List Node)
  | 0 => malformed
  | fuel + 1 => do
    match ← peek with
    | some .blockEntry =>
      skip
      let t ← peek
      let item ←
        if t = some .blockEntry || stopsBlock t then pure (.absent none) else node fuel true false
      return item :: (← bareEntries fuel)
    | _ => return []

/-- The entries of a mapping in block form. -/
def blockEntries : Nat → Composing (List (Node × Node))
  | 0 => malformed
  | fuel + 1 => do
    match ← peek with
    | some .key =>
      skip
      let key ← if stopsBlock (← peek) then pure (.absent none) else node fuel true true
      let value ← match ← peek with
        | some .value => do
          skip
          if stopsBlock (← peek) then pure (.absent none) else node fuel true true
        | _ => pure (.absent none)
      return (key, value) :: (← blockEntries fuel)
    | some .blockEnd =>
      skip
      return []
    | _ => malformed

/-- The items of a sequence in flow form; `first` before the first item. -/
def flowItems : Nat → (first : Bool) → Composing (List Node)
  | 0, _ => malformed
  | fuel + 1, first => do
    if (← peek) = some .flowSequenceEnd then
      skip
      return []
    if !first then
      if (← peek) ≠ some .flowEntry then malformed
      skip
    match ← peek with
    | some .flowSequenceEnd =>
      skip
      return []
    | some .key =>
      skip
      let entry ← flowPair fuel
      return .mapping [entry] :: (← flowItems fuel false)
    | _ =>
      let item ← node fuel false false
      return item :: (← flowItems fuel false)

/-- A mapping of one entry inside a sequence in flow form, behind the start of its key. -/
def flowPair : Nat → Composing (Node × Node)
  | 0 => malformed
  | fuel + 1 => do
    let key ← match ← peek with
      | some .value | some .flowEntry | some .flowSequenceEnd => do
        skip
        pure (.absent none)
      | _ => node fuel false false
    match ← peek with
    | some .value =>
      skip
      match ← peek with
      | some .flowEntry | some .flowSequenceEnd => return (key, .absent none)
      | _ => return (key, ← node fuel false false)
    | _ => return (key, .absent none)

/-- The entries of a mapping in flow form; `first` before the first entry. -/
def flowEntries : Nat → (first : Bool) → Composing (List (Node × Node))
  | 0, _ => malformed
  | fuel + 1, first => do
    if (← peek) = some .flowMappingEnd then
      skip
      return []
    if !first then
      if (← peek) ≠ some .flowEntry then malformed
      skip
    match ← peek with
    | some .flowMappingEnd =>
      skip
      return []
    | some .key =>
      skip
      let key ← match ← peek with
        | some .value | some .flowEntry | some .flowMappingEnd => pure (.absent none)
        | _ => node fuel false false
      let value ← match ← peek with
        | some .value => do
          skip
          match ← peek with
          | some .flowEntry | some .flowMappingEnd => pure (.absent none)
          | _ => node fuel false false
        | _ => pure (.absent none)
      return (key, value) :: (← flowEntries fuel false)
    | _ =>
      let key ← node fuel false false
      return (key, .absent none) :: (← flowEntries fuel false)

end

/-! ## Documents -/

/-- The handles that need no directive. -/
def defaultHandles : List (String × String) := [("!", "!"), ("!!", "tag:yaml.org,2002:")]

/-- Reads the directives before a document. Each of them may be given once. -/
def directives : (versioned : Bool) → (handles : List (String × String)) → List Token →
    Option (List (String × String) × List Token)
  | versioned, handles, .versionDirective major minor :: rest =>
    if versioned || major ≠ 1 || (minor ≠ 1 && minor ≠ 2) then none
    else directives true handles rest
  | versioned, handles, .tagDirective handle lead :: rest =>
    if handles.any (·.1 = handle) then none
    else directives versioned ((handle, lead) :: handles) rest
  | _, handles, rest =>
    some (handles ++ defaultHandles.filter fun d => !handles.any (·.1 = d.1), rest)

/-- Reads the content of a document that was started by a mark. -/
def content (fuel : Nat) : Composing Node := do
  match ← peek with
  | none | some (.versionDirective ..) | some (.tagDirective ..) | some .documentStart
  | some .documentEnd => return .absent none
  | _ => node fuel true false

end Composing

open Composing in
/-- The only document of a list of tokens. None if the tokens are malformed or hold more than one
document; without tokens the document is an absent node. -/
def Document.ofTokens? (tokens : List Token) : Option Document := do
  let fuel := 2 * tokens.length + 2
  match tokens with
  | [] => return { root := .absent none }
  | t :: _ =>
    let (root, c) ←
      match t with
      | .versionDirective .. | .tagDirective .. | .documentStart => do
        let (handles, rest) ← directives false [] tokens
        match rest with
        | .documentStart :: rest => (content fuel).run { tokens := rest, handles }
        | _ => none
      | _ => (node fuel true false).run { tokens, handles := defaultHandles }
    if c.tokens.all (· = .documentEnd) then
      return { root, givings := c.givings, named := c.named }
    else none

/-- The only document of a text. -/
def Document.parse? (s : String) : Option Document := do
  Document.ofTokens? (← Token.ofText? s)

end FleetReconciler.Yaml
