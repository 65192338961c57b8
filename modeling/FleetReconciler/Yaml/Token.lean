import FleetReconciler.Yaml.Scalar

/-!
# Tokens

The tokens of a text. What indentation means becomes tokens too: a collection in block form starts
where something stands further to the right than the collection around it, and ends where something
stands further to the left.

A key needs no mark of its own. So wherever a key could start, a place is kept, and it is filled
when a colon follows on the same line. Tokens are only ever added at the end.

* `Token` — the tokens;
* `Tokenizer` — the state of the reading, with the places that are still open;
* `Token.ofText?` — all tokens of a text.
-/

namespace FleetReconciler.Yaml

/-- The parts of a text. -/
inductive Token where
  | versionDirective (major minor : Nat)
  | tagDirective (handle lead : String)
  | documentStart
  | documentEnd
  | blockSequenceStart
  | blockMappingStart
  | blockEnd
  | flowSequenceStart
  | flowSequenceEnd
  | flowMappingStart
  | flowMappingEnd
  | blockEntry
  | flowEntry
  | key
  | value
  | alias (name : String)
  | anchor (name : String)
  | tag (handle suffix : String)
  | scalar (style : ScalarStyle) (text : String)
  deriving DecidableEq, Repr

/-- A place before a token at which a key may turn out to start. -/
structure KeyPlace where
  /-- The number of the place. -/
  number : Nat
  line : Nat
  column : Nat
  index : Nat
  /-- Whether anything but a key is an error there. -/
  needed : Bool

/-- A token, or a place that may be filled later. -/
inductive Slot where
  | token (t : Token)
  | place (number : Nat)

/-- The state of the reading of a text. -/
structure Tokenizer where
  rest : List Glyph
  /-- The line and the index of the end of the text. -/
  endLine : Nat
  endIndex : Nat
  /-- The slots so far, backwards. -/
  slots : List Slot := []
  /-- The places that were filled, and whether a mapping starts there. -/
  filled : List (Nat × Bool) := []
  places : Nat := 0
  /-- The column of the block collection that is open; less than zero outside of all. -/
  indent : Int := -1
  /-- The columns of the block collections around it. -/
  outer : List Int := []
  /-- For each open flow collection, the innermost first, and for the block around them: the place
  at which a key may have started. -/
  open_ : List (Option KeyPlace) := [none]
  /-- Whether a key may start here. -/
  keyAllowed : Bool := true

namespace Tokenizer

/-- Whether the reading is inside a flow collection. -/
def inFlow (z : Tokenizer) : Bool := z.open_.length > 1

/-- The line and the index of what comes next. -/
def position (z : Tokenizer) : Nat × Nat :=
  match z.rest with
  | g :: _ => (g.line, g.index)
  | [] => (z.endLine, z.endIndex)

/-- Adds a token. -/
def add (z : Tokenizer) (t : Token) : Tokenizer := { z with slots := .token t :: z.slots }

/-! ## Places of keys -/

/-- The longest key without a mark. -/
def maxKeyLength : Nat := 1024

/-- Closes the places that lie too far back to be keys; none if one of them needs its key. -/
def closeStale (z : Tokenizer) : Option Tokenizer := do
  let (line, index) := z.position
  let open_ ← z.open_.mapM fun
    | none => some none
    | some p =>
      if p.line < line || p.index + maxKeyLength < index then
        if p.needed then none else some none
      else some (some p)
  return { z with open_ }

/-- Closes the innermost place; none if it needs its key. -/
def closePlace (z : Tokenizer) : Option Tokenizer :=
  match z.open_ with
  | some p :: rest => if p.needed then none else some { z with open_ := none :: rest }
  | _ => some z

/-- Keeps a place for a key before the next token, if a key may start there. -/
def keepPlace (z : Tokenizer) : Option Tokenizer :=
  if !z.keyAllowed then some z
  else
    match z.rest with
    | [] => some z
    | g :: _ => do
      let z ← z.closePlace
      let needed := !z.inFlow && z.indent = g.column
      let p : KeyPlace := ⟨z.places, g.line, g.column, g.index, needed⟩
      return { z with
        open_ := some p :: z.open_.drop 1
        slots := .place z.places :: z.slots
        places := z.places + 1 }

/-! ## Indentation -/

/-- Opens a block collection at a column unless one that stands as far to the right is open. The
answer says whether it was opened. -/
def openBlock (z : Tokenizer) (column : Nat) : Bool × Tokenizer :=
  if !z.inFlow && z.indent < column then
    (true, { z with indent := column, outer := z.indent :: z.outer })
  else (false, z)

/-- Ends the block collections that stand further to the right than a column. -/
def closeBlocks (z : Tokenizer) (column : Int) : Tokenizer :=
  if z.inFlow then z else close z.indent z.outer z.slots
where
  /-- Ends one collection after another. -/
  close (indent : Int) : List Int → List Slot → Tokenizer
    | [], slots => { z with indent, outer := [], slots }
    | next :: outer, slots =>
      if indent > column then close next outer (.token .blockEnd :: slots)
      else { z with indent, outer := next :: outer, slots }

/-! ## Gaps between tokens -/

/-- Skips spaces, comments, line breaks and the mark at the start of a line. A key may start behind
a line break of a block. -/
def skipGaps (inFlow : Bool) : (inComment keyAllowed : Bool) → List Glyph → List Glyph × Bool
  | _, keyAllowed, [] => ([], keyAllowed)
  | inComment, keyAllowed, g :: rest =>
    if isBreak g.char then skipGaps inFlow false (keyAllowed || !inFlow) rest
    else if inComment then skipGaps inFlow true keyAllowed rest
    else if g.isLineMark || g.char = ' ' || (g.char = '\t' && (inFlow || !keyAllowed)) then
      skipGaps inFlow false keyAllowed rest
    else if g.char = '#' then skipGaps inFlow true keyAllowed rest
    else (g :: rest, keyAllowed)

/-! ## Marks -/

/-- A mark of some characters behind which a key may or may not start. -/
def mark (z : Tokenizer) (t : Token) (length : Nat) (keyAllowed : Bool) : Tokenizer :=
  { z with rest := z.rest.drop length, keyAllowed }.add t

/-- A mark between documents. -/
def documentMark (z : Tokenizer) (t : Token) : Option Tokenizer := do
  let z ← (z.closeBlocks (-1)).closePlace
  return z.mark t 3 false

/-- The start of a flow collection. -/
def flowStart (z : Tokenizer) (t : Token) : Option Tokenizer := do
  let z ← z.keepPlace
  return { z with open_ := none :: z.open_ }.mark t 1 true

/-- The end of a flow collection. -/
def flowEnd (z : Tokenizer) (t : Token) : Option Tokenizer := do
  let z ← z.closePlace
  let open_ := match z.open_ with
    | _ :: p :: more => p :: more
    | ps => ps
  return { z with open_ }.mark t 1 false

/-- A comma between the entries of a flow collection. -/
def flowEntry (z : Tokenizer) : Option Tokenizer := do
  return (← z.closePlace).mark .flowEntry 1 true

/-- Opens a block collection here for a mark; none if nothing may start here. -/
def openHere (z : Tokenizer) (column : Nat) (t : Token) : Option Tokenizer :=
  if z.inFlow then some z
  else if !z.keyAllowed then none
  else
    let (opened, z) := z.openBlock column
    some (if opened then z.add t else z)

/-- The dash before an entry. -/
def blockEntry (z : Tokenizer) (column : Nat) : Option Tokenizer := do
  let z ← (← z.openHere column .blockSequenceStart).closePlace
  return z.mark .blockEntry 1 true

/-- The question mark before a key. -/
def keyMark (z : Tokenizer) (column : Nat) : Option Tokenizer := do
  let z ← (← z.openHere column .blockMappingStart).closePlace
  return z.mark .key 1 (!z.inFlow)

/-- The colon before a value. If a key may have started on this line, it did. -/
def valueMark (z : Tokenizer) (column : Nat) : Option Tokenizer :=
  match z.open_ with
  | some p :: more =>
    let (opened, z) := z.openBlock p.column
    let z := { z with open_ := none :: more, filled := (p.number, opened) :: z.filled }
    some (z.mark .value 1 false)
  | _ => do
    let z ← z.openHere column .blockMappingStart
    return z.mark .value 1 (!z.inFlow)

/-! ## Names, tags and directives -/

/-- Whether a character may stand in a name. -/
def isNameChar (c : Char) : Bool :=
  ('0' ≤ c && c ≤ '9') || ('a' ≤ c && c ≤ 'z') || ('A' ≤ c && c ≤ 'Z') || c = '_' || c = '-'

/-- Whether a name ends properly before what follows it. -/
def nameEnds : List Glyph → Bool
  | [] => true
  | g :: _ => isGap g.char || ['?', ':', ',', ']', '}', '%', '@', '\x60'].contains g.char

/-- An anchor or an alias. -/
def named (z : Tokenizer) (t : String → Token) : Option Tokenizer := do
  let z ← z.keepPlace
  let (name, rest) := spanChars isNameChar (z.rest.drop 1)
  if name = [] || !nameEnds rest then none
  else some ({ z with rest, keyAllowed := false }.add (t (String.ofList name)))

/-- Whether a character may stand in a tag. The last three may not where they could end it. -/
def isTagChar (verbatim : Bool) (c : Char) : Bool :=
  isNameChar c ||
    [';', '/', '?', ':', '@', '&', '=', '+', '$', '.', '%', '!', '~', '*', '\'', '(',
      ')'].contains c ||
    (verbatim && [',', '[', ']'].contains c)

/-- The number of bytes of a character that starts with a given byte. -/
def byteLength? (byte : Nat) : Option Nat :=
  if byte < 0x80 then some 1
  else if 0xC0 ≤ byte && byte < 0xE0 then some 2
  else if 0xE0 ≤ byte && byte < 0xF0 then some 3
  else if 0xF0 ≤ byte && byte < 0xF8 then some 4
  else none

/-- The character of bytes that have the shape of one. If they are none, it is the character that
stands for what cannot be read; the tags that mean something hold no such character. -/
def charOfBytes (bytes : List Nat) : Char :=
  match String.fromUTF8? ⟨(bytes.map Nat.toUInt8).toArray⟩ with
  | some s => s.toList.headD '\uFFFD'
  | none => '\uFFFD'

/-- Decodes the bytes that are written with a percent sign; `missing` bytes belong to the character
whose bytes so far are `bytes`. -/
def percentDecoded (missing : Nat) (bytes : List Nat) : List Char → Option (List Char)
  | [] => if missing = 0 then some [] else none
  | '%' :: a :: b :: rest => do
    let byte := 16 * (← hexValue? a) + (← hexValue? b)
    let missing ←
      if missing = 0 then byteLength? byte
      else if 0x80 ≤ byte && byte < 0xC0 then some missing
      else none
    let bytes := bytes ++ [byte]
    if missing = 1 then return charOfBytes bytes :: (← percentDecoded 0 [] rest)
    else percentDecoded (missing - 1) bytes rest
  | '%' :: _ => none
  | c :: rest => if missing = 0 then return c :: (← percentDecoded 0 [] rest) else none

/-- The text of a tag of given characters. It ends where a NUL is written. -/
def tagText? (cs : List Char) : Option String :=
  (percentDecoded 0 [] cs).map fun text => String.ofList (text.takeWhile (· ≠ '\x00'))

/-- Reads a handle: an exclamation mark, and perhaps a name with another one. -/
def handle? : List Glyph → Option (List Char × List Glyph)
  | g :: rest =>
    if g.char = '!' then
      let (name, rest) := spanChars isNameChar rest
      match rest with
      | e :: rest' =>
        if e.char = '!' then some ('!' :: name ++ ['!'], rest') else some ('!' :: name, rest)
      | [] => some ('!' :: name, [])
    else none
  | [] => none

/-- Reads a tag: its handle, its suffix and what follows. -/
def tag? (gs : List Glyph) : Option (String × String × List Glyph) :=
  match gs with
  | _ :: b :: rest =>
    if b.char = '<' then do
      let (uri, rest) := spanChars (isTagChar true) rest
      match rest with
      | e :: rest => if e.char = '>' && uri ≠ [] then some ("", ← tagText? uri, rest) else none
      | [] => none
    else shorthand
  | _ => shorthand
where
  /-- A tag with a handle, or with an exclamation mark alone. -/
  shorthand : Option (String × String × List Glyph) := do
    let (handle, rest) ← handle? gs
    let (more, rest) := spanChars (isTagChar false) rest
    if handle.length > 1 && handle.getLast? = some '!' then
      if more = [] then none else some (String.ofList handle, ← tagText? more, rest)
    else
      let suffix ← tagText? (handle.drop 1 ++ more)
      if suffix = "" then some ("", "!", rest) else some ("!", suffix, rest)

/-- A tag. -/
def tag (z : Tokenizer) : Option Tokenizer := do
  let z ← z.keepPlace
  let (handle, suffix, rest) ← tag? z.rest
  let ends := atGap rest || (z.inFlow && (rest.head?.map Glyph.char) = some ',')
  if ends then some ({ z with rest, keyAllowed := false }.add (.tag handle suffix)) else none

/-- The number of a text of digits, at most nine. -/
def versionNumber? (cs : List Char) : Option Nat :=
  if cs = [] || cs.length > 9 then none else some (cs.foldl (fun n c => 10 * n + (c.toNat - 48)) 0)

/-- Whether a character is a digit. -/
def isDigit (c : Char) : Bool := '0' ≤ c && c ≤ '9'

/-- What follows the spaces. -/
def skipSpaces (gs : List Glyph) : List Glyph := gs.dropWhile fun g => isSpace g.char

/-- Reads the rest of a version directive. -/
def version? (gs : List Glyph) : Option (Token × List Glyph) := do
  let (major, rest) := spanChars isDigit (skipSpaces gs)
  match rest with
  | d :: rest =>
    if d.char = '.' then
      let (minor, rest) := spanChars isDigit rest
      return (.versionDirective (← versionNumber? major) (← versionNumber? minor), rest)
    else none
  | [] => none

/-- Reads the rest of a tag directive. -/
def tagDirective? (gs : List Glyph) : Option (Token × List Glyph) := do
  let (handle, rest) ← handle? (skipSpaces gs)
  if handle.length > 1 && handle.getLast? ≠ some '!' then none
  match rest with
  | s :: _ =>
    if !isSpace s.char then none
    let (lead, rest) := spanChars (isTagChar true) (skipSpaces rest)
    if lead = [] || !atGap rest then none
    return (.tagDirective (String.ofList handle) (← tagText? lead), rest)
  | [] => none

/-- A directive before a document. -/
def directive (z : Tokenizer) : Option Tokenizer := do
  let z ← (z.closeBlocks (-1)).closePlace
  let (name, rest) := spanChars isNameChar (z.rest.drop 1)
  if !atGap rest then none
  let (t, rest) ←
    if name = "YAML".toList then version? rest
    else if name = "TAG".toList then tagDirective? rest
    else none
  return { z with rest := ← endLine? rest, keyAllowed := false }.add t

/-! ## Scalars -/

/-- A scalar that has been read. -/
def addScalar (z : Tokenizer) (style : ScalarStyle) (r : ScalarRead) (keyAllowed : Bool) :
    Tokenizer :=
  { z with rest := r.rest, keyAllowed }.add (.scalar style (String.ofList r.text))

/-- A block scalar. -/
def blockScalar (z : Tokenizer) (isFolded : Bool) : Option Tokenizer := do
  let z ← z.closePlace
  let r ← readBlock isFolded z.indent (z.rest.drop 1)
  return z.addScalar (if isFolded then .folded else .literal) r true

/-- A quoted scalar. -/
def quotedScalar (z : Tokenizer) (quote : Char) : Option Tokenizer := do
  let z ← z.keepPlace
  let r ← readQuoted quote [] (.inside .none) (z.rest.drop 1)
  return z.addScalar .quoted r false

/-- A plain scalar. -/
def plainScalar (z : Tokenizer) : Option Tokenizer := do
  let z ← z.keepPlace
  let r ← readPlain z.inFlow (z.indent + 1) [] .none z.rest
  return z.addScalar .plain r r.crossedLine

/-- Whether a plain scalar can start with a character, given what follows it. -/
def startsPlain (inFlow : Bool) (c : Char) (rest : List Glyph) : Bool :=
  !(['-', '?', ':', ',', '[', ']', '{', '}', '#', '&', '*', '!', '|', '>', '\'', '"', '%', '@',
      '\x60'].contains c || isGap c) ||
    (c = '-' && !(rest.head?.any fun g => isSpace g.char)) ||
    (!inFlow && (c = '?' || c = ':') && !atGap rest)

/-! ## One token after another -/

/-- Reads the next token at a glyph. -/
def next (z : Tokenizer) (g : Glyph) (rest : List Glyph) : Option Tokenizer :=
  let c := g.char
  if g.column = 0 && c = '%' then z.directive
  else if startsWithThree '-' z.rest then z.documentMark .documentStart
  else if startsWithThree '.' z.rest then z.documentMark .documentEnd
  else if c = '[' then z.flowStart .flowSequenceStart
  else if c = '{' then z.flowStart .flowMappingStart
  else if c = ']' then z.flowEnd .flowSequenceEnd
  else if c = '}' then z.flowEnd .flowMappingEnd
  else if c = ',' then z.flowEntry
  else if c = '-' && atGap rest then z.blockEntry g.column
  else if c = '?' && (z.inFlow || atGap rest) then z.keyMark g.column
  else if c = ':' && (z.inFlow || atGap rest) then z.valueMark g.column
  else if c = '*' then z.named .alias
  else if c = '&' then z.named .anchor
  else if c = '!' then z.tag
  else if c = '|' && !z.inFlow then z.blockScalar false
  else if c = '>' && !z.inFlow then z.blockScalar true
  else if c = '\'' || c = '"' then z.quotedScalar c
  else if startsPlain z.inFlow c rest then z.plainScalar
  else none

/-- Ends the reading at the end of the text. -/
def finish (z : Tokenizer) : Option Tokenizer :=
  (z.closeBlocks (-1)).closePlace

/-- Reads token after token; every token has a character, so `fuel` is the number of characters. -/
def run : Nat → Tokenizer → Option Tokenizer
  | fuel, z => do
    let (rest, keyAllowed) := skipGaps z.inFlow false z.keyAllowed z.rest
    let z ← ({ z with rest, keyAllowed }).closeStale
    match rest, fuel with
    | [], _ => z.finish
    | g :: more, fuel + 1 => run fuel (← (z.closeBlocks g.column).next g more)
    | _ :: _, 0 => none

/-- The tokens that a slot stands for. -/
def tokensOf (filled : List (Nat × Bool)) : Slot → List Token
  | .token t => [t]
  | .place n =>
    match filled.find? (·.1 = n) with
    | some (_, true) => [.blockMappingStart, .key]
    | some (_, false) => [.key]
    | none => []

/-- All tokens that have been read. -/
def tokens (z : Tokenizer) : List Token := z.slots.reverse.flatMap (tokensOf z.filled)

end Tokenizer

/-- The tokens of a text; none if it is malformed. -/
def Token.ofText? (s : String) : Option (List Token) := do
  let rest ← Glyph.ofText? s
  let (endLine, endIndex) := match rest.getLast? with
    | some g => (if isBreak g.char then g.line + 1 else g.line, g.index + 1)
    | none => (0, 0)
  let z : Tokenizer := { rest, endLine, endIndex }
  return (← z.run rest.length).tokens

end FleetReconciler.Yaml
