import FleetReconciler.Yaml.Glyph
import FleetReconciler.Yaml.Plain
import FleetReconciler.Text.Quoted

/-!
# Writing scalars

A text is written as a plain scalar where that reads back as the same text. Else it is written
between single quotes, between double quotes where it holds characters that are not printable, or as
a literal block where it has several lines.

* `Shape.ofText` — what decides in which styles a text can be written;
* `scalarText` — the written form.
-/

namespace FleetReconciler.Yaml

/-- Whether a character may be written as it is. -/
def isWritable (c : Char) : Bool :=
  let n := c.toNat
  n = 0x0A || (0x20 ≤ n && n ≤ 0x7E) || (0xA0 ≤ n && n ≤ 0xD7FF) ||
    (0xE000 ≤ n && n ≤ 0xFFFD && n ≠ 0xFEFF) || 0xFFFF < n

/-- Whether a character breaks the line of what is written. -/
def isWrittenBreak (c : Char) : Bool := isPlainBreak c || isBreak c

/-- Whether a character is a space, a tab, a line break, or the end. -/
def isWrittenGap (c : Option Char) : Bool := c.all fun c => isSpace c || isWrittenBreak c

/-- What decides in which styles a text can be written. -/
structure Shape where
  /-- Something in it would be read as a mark. -/
  marks : Bool := false
  breaks : Bool := false
  unwritable : Bool := false
  /-- It starts or ends with a space or a line break. -/
  padded : Bool := false
  endsInSpace : Bool := false
  /-- A space follows a line break. -/
  spaceBehindBreak : Bool := false
  /-- A line break follows a space. -/
  breakBehindSpace : Bool := false

/-- Characters that are marks at the start of a text. -/
def startMarks : List Char :=
  ['#', ',', '[', ']', '{', '}', '&', '*', '!', '|', '>', '\'', '"', '%', '@', '\x60']

/-- Whether the first character of a text would be read as a mark. -/
def isMarkAtStart (c : Char) (next : Option Char) : Bool :=
  startMarks.contains c || ((c = '?' || c = ':' || c = '-') && isWrittenGap next)

/-- Whether a later character would be read as a mark. -/
def isMarkInside (previous c : Char) (next : Option Char) : Bool :=
  (c = ':' && isWrittenGap next) || (c = '#' && isWrittenGap (some previous))

/-- Whether two neighbours satisfy `p` anywhere in a text. -/
def anyNeighbours (p : Char → Char → Option Char → Bool) : List Char → Bool
  | a :: b :: rest => p a b rest.head? || anyNeighbours p (b :: rest)
  | _ => false

/-- The shape of a text. -/
def Shape.ofText (cs : List Char) : Shape :=
  let edges := cs.head?.toList ++ cs.getLast?.toList
  { marks :=
      (without? "---".toList cs).isSome || (without? "...".toList cs).isSome ||
        (match cs with
        | c :: rest => isMarkAtStart c rest.head?
        | [] => false) ||
        anyNeighbours isMarkInside cs
    breaks := cs.any isWrittenBreak
    unwritable := cs.any fun c => !isWritable c
    padded := edges.any fun c => c = ' ' || isWrittenBreak c
    endsInSpace := cs.getLast? = some ' '
    spaceBehindBreak := anyNeighbours (fun a b _ => isWrittenBreak a && b = ' ') cs
    breakBehindSpace := anyNeighbours (fun a b _ => a = ' ' && isWrittenBreak b) cs }

namespace Shape

/-- Whether a text can only be written between double quotes. -/
def isSpecial (s : Shape) : Bool := s.unwritable || s.breakBehindSpace

/-- Whether a text can be written as a plain scalar. -/
def allowsPlain (s : Shape) : Bool :=
  !s.marks && !s.breaks && !s.padded && !s.spaceBehindBreak && !s.isSpecial

/-- Whether a text can be written between single quotes. -/
def allowsQuotes (s : Shape) : Bool := !s.spaceBehindBreak && !s.isSpecial

/-- Whether a text can be written as a literal block. -/
def allowsLiteral (s : Shape) : Bool := !s.endsInSpace && !s.isSpecial

end Shape

/-! ## The styles -/

/-- The character behind the backslash of an escape of one letter. -/
def escapeLetter? (c : Char) : Option Char :=
  match c.toNat with
  | 0x00 => some '0'
  | 0x07 => some 'a'
  | 0x08 => some 'b'
  | 0x09 => some 't'
  | 0x0A => some 'n'
  | 0x0B => some 'v'
  | 0x0C => some 'f'
  | 0x0D => some 'r'
  | 0x1B => some 'e'
  | 0x22 => some '"'
  | 0x5C => some '\\'
  | 0x85 => some 'N'
  | 0xA0 => some '_'
  | 0x2028 => some 'L'
  | 0x2029 => some 'P'
  | _ => none

/-- A character between double quotes. -/
def doubleQuotedChar (c : Char) : List Char :=
  if isWritable c && !isWrittenBreak c && c ≠ '"' && c ≠ '\\' then [c]
  else
    match escapeLetter? c with
    | some letter => ['\\', letter]
    | none =>
      let n := c.toNat
      let (letter, width) := if n ≤ 0xFF then ('x', 2) else ('u', 4)
      '\\' :: letter :: (Text.hexPadded width n).map Char.toUpper

/-- A text between double quotes. -/
def doubleQuoted (cs : List Char) : List Char :=
  '"' :: cs.flatMap doubleQuotedChar ++ ['"']

/-- Lines of which each starts with a margin; `fresh` at the start of a line. -/
def withMargin (margin : List Char) (write : Char → List Char) :
    (fresh : Bool) → List Char → List Char
  | _, [] => []
  | fresh, c :: rest =>
    if isWrittenBreak c then c :: withMargin margin write true rest
    else (if fresh then margin else []) ++ write c ++ withMargin margin write false rest

/-- A text between single quotes, in which a single quote is doubled. -/
def singleQuoted (margin : List Char) (cs : List Char) : List Char :=
  let write (c : Char) : List Char := if c = '\'' then ['\'', '\''] else [c]
  let closing := if cs.getLast?.any isWrittenBreak then margin else []
  '\'' :: withMargin margin write false cs ++ closing ++ ['\'']

/-- The head of a literal block: the indentation if the text starts with a gap, and what becomes of
the breaks at its end. -/
def literalHead (cs : List Char) : List Char :=
  let indentation := if cs.head?.any (fun c => c = ' ' || isWrittenBreak c) then ['2'] else []
  let chomping := match cs.reverse with
    | last :: before =>
      if !isWrittenBreak last then ['-']
      else if before.head?.all isWrittenBreak then ['+']
      else []
    | [] => ['-']
  '|' :: indentation ++ chomping

/-- A text as a literal block. -/
def literal (margin : List Char) (cs : List Char) : List Char :=
  literalHead cs ++ '\n' :: withMargin margin (fun c => [c]) true cs

/-- The written form of a text as the value of an entry; further lines start with the margin. The
form ends without a line break unless it is a literal block that ends with one. -/
def scalarChars (margin : List Char) (s : String) : List Char :=
  let cs := s.toList
  let shape := Shape.ofText cs
  if cs.contains '\n' then
    if shape.allowsLiteral then literal margin cs else doubleQuoted cs
  else if !saysMore s && shape.allowsPlain then cs
  else if shape.allowsQuotes then singleQuoted margin cs
  else doubleQuoted cs

/-! ## Entries -/

/-- Ends a line unless it is ended. -/
def endLine (cs : List Char) : List Char :=
  if cs.getLast?.any isWrittenBreak then cs else cs ++ ['\n']

/-- The line of an entry whose value is a text. -/
def textEntry (indent : Nat) (name value : String) : List Char :=
  let margin := List.replicate (indent + 2) ' '
  endLine (List.replicate indent ' ' ++ name.toList ++ [':', ' '] ++ scalarChars margin value)

/-- The line of an entry whose value is a number. -/
def numberEntry (indent : Nat) (name : String) (value : Nat) : List Char :=
  List.replicate indent ' ' ++ name.toList ++ [':', ' '] ++ Decimal.digitsOf value ++ ['\n']

/-- A section of entries. -/
def section_ (name : String) (entries : List (List Char)) : List Char :=
  if entries = [] then name.toList ++ ": \x7b\x7d\n".toList
  else name.toList ++ [':', '\n'] ++ entries.flatten

end FleetReconciler.Yaml
