/-!
# Characters with their places

YAML gives a meaning to the column at which something stands, so a text is read as a list of
characters that know their places. A line break is one glyph, however it is written.

* `Glyph.ofText?` — the glyphs of a text that holds no forbidden character;
* `startsDocument`, `endsDocument` — the marks between documents.
-/

namespace FleetReconciler.Yaml

/-- A character at its place. Places are counted from zero. -/
structure Glyph where
  char : Char
  line : Nat
  column : Nat
  /-- The number of characters before it. -/
  index : Nat
  deriving DecidableEq

/-- Whether a character may stand in a text. -/
def isAllowed (c : Char) : Bool :=
  let n := c.toNat
  n = 0x09 || n = 0x0A || n = 0x0D || (0x20 ≤ n && n ≤ 0x7E) || n = 0x85 ||
    (0xA0 ≤ n && n ≤ 0xD7FF) || (0xE000 ≤ n && n ≤ 0xFFFD) ||
    (0x10000 ≤ n && n ≤ 0x10FFFF)

/-- Whether a character is one of those that are read as a line feed. -/
def isPlainBreak (c : Char) : Bool := c = '\n' || c = '\r' || c = '\x85'

/-- Whether a character of a glyph breaks the line. -/
def isBreak (c : Char) : Bool := c = '\n' || c = '\u2028' || c = '\u2029'

/-- Whether a character is a space or a tab. -/
def isSpace (c : Char) : Bool := c = ' ' || c = '\t'

/-- Whether a character is a space, a tab or a line break. -/
def isGap (c : Char) : Bool := isSpace c || isBreak c

namespace Glyph

/-- The glyphs of characters from a place on. -/
def ofChars (line column index : Nat) : List Char → List Glyph
  | [] => []
  | '\r' :: '\n' :: rest => ⟨'\n', line, column, index⟩ :: ofChars (line + 1) 0 (index + 2) rest
  | c :: rest =>
    if isPlainBreak c then ⟨'\n', line, column, index⟩ :: ofChars (line + 1) 0 (index + 1) rest
    else if isBreak c then ⟨c, line, column, index⟩ :: ofChars (line + 1) 0 (index + 1) rest
    else ⟨c, line, column, index⟩ :: ofChars line (column + 1) (index + 1) rest

/-- The glyphs of a text; none if it holds a forbidden character. -/
def ofText? (s : String) : Option (List Glyph) :=
  if s.toList.all isAllowed then some (ofChars 0 0 0 s.toList) else none

/-- Whether a glyph is a byte order mark at the start of a line, where it says nothing. Like any
other character it takes a column. -/
def isLineMark (g : Glyph) : Bool := g.column = 0 && g.char = '\uFEFF'

end Glyph

/-! ## What comes next -/

/-- Whether a gap or the end comes next. -/
def atGap : List Glyph → Bool
  | [] => true
  | g :: _ => isGap g.char

/-- Whether three equal characters stand at the start of a line, with a gap behind them. -/
def startsWithThree (c : Char) : List Glyph → Bool
  | x :: y :: z :: rest => x.column = 0 && x.char = c && y.char = c && z.char = c && atGap rest
  | _ => false

/-- Whether a mark between documents comes next. -/
def atDocumentMark (gs : List Glyph) : Bool := startsWithThree '-' gs || startsWithThree '.' gs

/-- The characters of glyphs. -/
def charsOf (gs : List Glyph) : List Char := gs.map Glyph.char

/-- Splits glyphs before the first character that does not satisfy `p`. -/
def spanChars (p : Char → Bool) (gs : List Glyph) : List Char × List Glyph :=
  (charsOf (gs.takeWhile fun g => p g.char), gs.dropWhile fun g => p g.char)

/-- What follows the spaces and the comment at the end of a line; none if anything else is there. -/
def endLine? (gs : List Glyph) : Option (List Glyph) :=
  match gs.dropWhile fun g => isSpace g.char with
  | [] => some []
  | g :: rest =>
    if isBreak g.char then some rest
    else if g.char = '#' then
      some ((rest.dropWhile fun g => !isBreak g.char).drop 1)
    else none

end FleetReconciler.Yaml
