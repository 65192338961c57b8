import FleetReconciler.Yaml.Glyph

/-!
# Scalars

The text of a scalar in each of the styles in which it can be written. A line break inside a plain
or quoted scalar is folded: one break is a space, of several breaks the first is dropped.

* `readPlain` — a scalar without marks, which ends where something else could begin;
* `readQuoted` — a scalar between single or double quotes;
* `readBlock` — the indented lines behind a `|` or a `>`.
-/

namespace FleetReconciler.Yaml

/-- How a scalar is written. -/
inductive ScalarStyle where
  | plain
  | quoted
  | literal
  | folded
  deriving DecidableEq, Repr

/-- A scalar that has been read, with what follows it. -/
structure ScalarRead where
  text : List Char
  /-- Whether the reading went on to another line behind the text. -/
  crossedLine : Bool
  rest : List Glyph

/-- The gap that lies behind what has been read of a scalar. -/
inductive Gap where
  | none
  | spaces (cs : List Char)
  /-- A first line break, if it counts, and the breaks behind it. -/
  | breaks (first : Option Char) (more : List Char)

namespace Gap

/-- The text of a gap inside a scalar. -/
def folded : Gap → List Char
  | none => []
  | spaces cs => cs
  | breaks (some '\n') [] => [' ']
  | breaks (some '\n') more => more
  | breaks first more => first.toList ++ more

/-- The gap with one more space or break. -/
def add (c : Char) : Gap → Gap
  | none => if isBreak c then breaks (some c) [] else spaces [c]
  | spaces cs => if isBreak c then breaks (some c) [] else spaces (cs ++ [c])
  | breaks first more => if isBreak c then breaks first (more ++ [c]) else breaks first more

/-- Whether the gap holds a line break. -/
def crossesLine : Gap → Bool
  | breaks .. => true
  | _ => false

/-- Whether there is no gap. -/
def isNone : Gap → Bool
  | none => true
  | _ => false

end Gap

/-! ## Plain scalars -/

/-- Whether a character ends a plain scalar, given what follows it. -/
def endsPlain (inFlow : Bool) (c : Char) (rest : List Glyph) : Bool :=
  (c = ':' && atGap rest) || (inFlow && (c = ',' || c = '[' || c = ']' || c = '{' || c = '}'))

/-- Whether a colon stands where a plain scalar of a flow collection must not have one. -/
def badColon (inFlow : Bool) (c : Char) : List Glyph → Bool
  | g :: _ => inFlow && c = ':' && [',', '?', '[', ']', '{', '}'].contains g.char
  | [] => false

/-- Whether a plain scalar cannot go on behind a gap with the next glyph. -/
def stopsBehindGap (inFlow : Bool) (margin : Int) : List Glyph → Bool
  | [] => true
  | g :: rest =>
    g.char = '#' || atDocumentMark (g :: rest) || (!inFlow && (g.column : Int) < margin)

/-- Reads a plain scalar; `text` holds what was read, backwards. In a block its further lines must
be indented by `margin` at least. -/
def readPlain (inFlow : Bool) (margin : Int) (text : List Char) (gap : Gap) :
    List Glyph → Option ScalarRead
  | [] => some ⟨text.reverse, gap.crossesLine, []⟩
  | g :: rest =>
    if isGap g.char then
      if gap.crossesLine && g.char = '\t' && (g.column : Int) < margin then none
      else readPlain inFlow margin text (gap.add g.char) rest
    else if !gap.isNone && stopsBehindGap inFlow margin (g :: rest) then
      some ⟨text.reverse, gap.crossesLine, g :: rest⟩
    else if badColon inFlow g.char rest then none
    else if endsPlain inFlow g.char rest then some ⟨text.reverse, gap.crossesLine, g :: rest⟩
    else readPlain inFlow margin (g.char :: (gap.folded.reverse ++ text)) .none rest

/-! ## Quoted scalars -/

/-- The character of an escape of one letter. -/
def escaped? : Char → Option Char
  | '0' => some '\x00'
  | 'a' => some '\x07'
  | 'b' => some '\x08'
  | 't' => some '\t'
  | '\t' => some '\t'
  | 'n' => some '\n'
  | 'v' => some '\x0b'
  | 'f' => some '\x0c'
  | 'r' => some '\r'
  | 'e' => some '\x1b'
  | ' ' => some ' '
  | '"' => some '"'
  | '/' => some '/'
  | '\\' => some '\\'
  | 'N' => some '\x85'
  | '_' => some '\xa0'
  | 'L' => some '\u2028'
  | 'P' => some '\u2029'
  | _ => none

/-- The number of hexadecimal digits behind an escape letter. -/
def escapeWidth? : Char → Option Nat
  | 'x' => some 2
  | 'u' => some 4
  | 'U' => some 8
  | _ => none

/-- The value of a hexadecimal digit. -/
def hexValue? (c : Char) : Option Nat :=
  if '0' ≤ c ∧ c ≤ '9' then some (c.toNat - 48)
  else if 'a' ≤ c ∧ c ≤ 'f' then some (c.toNat - 87)
  else if 'A' ≤ c ∧ c ≤ 'F' then some (c.toNat - 55)
  else none

/-- The character with a given code. -/
def charOfCode? (n : Nat) : Option Char :=
  if h : n.isValidChar then some (Char.ofNatAux n h) else none

/-- Where the reading of a quoted scalar stands. -/
inductive QuotedState where
  | inside (gap : Gap)
  /-- Behind a backslash. -/
  | escape
  /-- Inside a code of which some digits are missing. -/
  | code (missing value : Nat)
  /-- Behind the first of two single quotes. -/
  | doubled

/-- Reads a scalar up to its closing quote; `text` holds what was read, backwards. -/
def readQuoted (quote : Char) (text : List Char) : QuotedState → List Glyph → Option ScalarRead
  | _, [] => none
  | .escape, g :: rest =>
    if isBreak g.char then readQuoted quote text (.inside (.breaks none [])) rest
    else
      match escapeWidth? g.char, escaped? g.char with
      | some width, _ => readQuoted quote text (.code width 0) rest
      | none, some c => readQuoted quote (c :: text) (.inside .none) rest
      | none, none => none
  | .code missing value, g :: rest =>
    match hexValue? g.char with
    | none => none
    | some d =>
      let value := 16 * value + d
      if missing ≤ 1 then
        match charOfCode? value with
        | some c => readQuoted quote (c :: text) (.inside .none) rest
        | none => none
      else readQuoted quote text (.code (missing - 1) value) rest
  | .doubled, _ :: rest => readQuoted quote (quote :: text) (.inside .none) rest
  | .inside gap, g :: rest =>
    if isGap g.char then readQuoted quote text (.inside (gap.add g.char)) rest
    else if atDocumentMark (g :: rest) then none
    else
      let text := gap.folded.reverse ++ text
      if g.char = quote then
        if quote = '\'' && (rest.head?.map Glyph.char) = some quote then
          readQuoted quote text .doubled rest
        else some ⟨text.reverse, false, rest⟩
      else if quote = '"' && g.char = '\\' then readQuoted quote text .escape rest
      else readQuoted quote (g.char :: text) (.inside .none) rest

/-! ## Block scalars -/

/-- What happens to the line breaks at the end of a block scalar. -/
inductive Chomping where
  | strip
  | clip
  | keep
  deriving DecidableEq, Repr

/-- The head of a block scalar: chomping, and the indentation if it is given. -/
structure BlockHead where
  chomping : Chomping := .clip
  indentation : Option Nat := none

/-- The chomping that a character asks for. -/
def chomping? (c : Char) : Option Chomping :=
  if c = '+' then some .keep else if c = '-' then some .strip else none

/-- The digit of an indentation. -/
def digit? (c : Char) : Option Nat :=
  if '0' ≤ c ∧ c ≤ '9' then some (c.toNat - 48) else none

/-- Reads the head of a block scalar: a chomping and a digit in either order, each at most once. -/
def BlockHead.read? : List Glyph → Option (BlockHead × List Glyph)
  | [] => some ({}, [])
  | g :: rest =>
    match chomping? g.char, digit? g.char with
    | some chomping, _ =>
      match rest with
      | d :: rest' =>
        match digit? d.char with
        | some 0 => none
        | some n => some ({ chomping, indentation := some n }, rest')
        | none => some ({ chomping }, d :: rest')
      | [] => some ({ chomping }, [])
    | none, some 0 => none
    | none, some n =>
      match rest with
      | c :: rest' =>
        match chomping? c.char with
        | some chomping => some ({ chomping, indentation := some n }, rest')
        | none => some ({ indentation := some n }, c :: rest')
      | [] => some ({ indentation := some n }, [])
    | none, none => some ({}, g :: rest)

/-- What has been read of a block scalar. -/
structure BlockRead where
  /-- The text, backwards. -/
  text : List Char := []
  /-- The break at the end of the last line. -/
  lineBreak : List Char := []
  /-- The empty lines behind it. -/
  emptyLines : List Char := []
  /-- Whether the last line starts with a space. -/
  indented : Bool := false

namespace BlockRead

/-- Joins the breaks behind the last line to the text, before a line that starts with `c`. -/
def beginLine (isFolded : Bool) (b : BlockRead) (c : Char) : BlockRead :=
  let fold := isFolded && b.lineBreak = ['\n'] && !b.indented && !isSpace c
  let between :=
    if fold then (if b.emptyLines = [] then [' '] else b.emptyLines)
    else b.lineBreak ++ b.emptyLines
  { text := between.reverse ++ b.text, indented := isSpace c }

/-- The text of the whole scalar. -/
def finish (chomping : Chomping) (b : BlockRead) : List Char :=
  b.text.reverse ++
    match chomping with
    | .strip => []
    | .clip => b.lineBreak
    | .keep => b.lineBreak ++ b.emptyLines

end BlockRead

/-- Where the reading of a block scalar stands. -/
inductive BlockState where
  /-- Before the first character of a line; `widest` is the widest empty line so far. -/
  | margin (widest : Nat)
  | line

/-- The indentation of a block scalar that is not given one: that of its first line. -/
def foundIndentation (parent : Int) (widest : Nat) : Nat :=
  max widest (max (parent + 1).toNat 1)

/-- Reads the lines of a block scalar. `indentation` is none until the first line is found. -/
def readLines (isFolded : Bool) (chomping : Chomping) (parent : Int) :
    Option Nat → BlockState → BlockRead → List Glyph → Option ScalarRead
  | _, _, b, [] => some ⟨b.finish chomping, false, []⟩
  | indentation, .line, b, g :: rest =>
    if isBreak g.char then
      readLines isFolded chomping parent indentation (.margin 0)
        { b with lineBreak := [g.char] } rest
    else
      readLines isFolded chomping parent indentation .line { b with text := g.char :: b.text } rest
  | indentation, .margin widest, b, g :: rest =>
    let inMargin := match indentation with
      | none => true
      | some n => g.column < n
    let widest := max widest g.column
    if inMargin && g.char = ' ' then
      readLines isFolded chomping parent indentation (.margin widest) b rest
    else if inMargin && g.char = '\t' then none
    else if isBreak g.char then
      readLines isFolded chomping parent indentation (.margin widest)
        { b with emptyLines := b.emptyLines ++ [g.char] } rest
    else
      let found := indentation.getD (foundIndentation parent widest)
      if g.column = found then
        let b := b.beginLine isFolded g.char
        readLines isFolded chomping parent (some found) .line
          { b with text := g.char :: b.text } rest
      else some ⟨b.finish chomping, false, g :: rest⟩

/-- Reads a block scalar behind its mark, inside a collection that is indented by `parent`. -/
def readBlock (isFolded : Bool) (parent : Int) (gs : List Glyph) : Option ScalarRead := do
  let (head, gs) ← BlockHead.read? gs
  let gs ← endLine? gs
  let indentation := head.indentation.map fun n => (max parent 0).toNat + n
  readLines isFolded head.chomping parent indentation (.margin 0) {} gs

end FleetReconciler.Yaml
