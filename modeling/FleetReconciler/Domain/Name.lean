import FleetReconciler.Domain.Direction
import FleetReconciler.Domain.Folding
import FleetReconciler.Domain.Punycode
import FleetReconciler.Text.Normal
import FleetReconciler.Text.Split

/-!
# Names of hosts

A name is a row of labels with full stops between them. A label with characters beyond ASCII is
written in ASCII behind a mark.

* `Domain.ofChars?` — the name in ASCII that a text means.
-/

namespace FleetReconciler.Domain

/-- What stands before a label that is written in ASCII for another one. -/
def codeMark : List Char := ['x', 'n', '-', '-']

/-- Whether a text is ASCII. -/
def isAscii (cs : List Char) : Bool := cs.all fun c => c.toNat < 0x80

/-- The longest label that is read from its ASCII form. -/
def maxCoded : Nat := 2000

/-- The longest label that is written in ASCII form. -/
def maxUncoded : Nat := 1000

/-- The label for which a folded one stands. Only labels that need it may be written in ASCII for
another one, and only as they would be in the end. -/
def uncoded? (label : List Char) : Option (List Char) := do
  if !codeMark.isPrefixOf label then return label
  let code := label.drop codeMark.length
  if !isAscii code || code.length > maxCoded then none
  let meant ← Punycode.decoded? code
  if isAscii meant || codeMark.isPrefixOf meant then none
  if !meant.all isFolded || !Text.isNormal meant then none
  return meant

/-- Whether a label can be read by itself: it does not start with a mark, and its joiners have
something to join. -/
def isReadable (label : List Char) : Bool := !label.head?.any Text.isMark && joinersFit label

/-- The label in ASCII. -/
def coded? (label : List Char) : Option (List Char) :=
  if isAscii label then some label
  else if label.length > maxUncoded then none
  else some (codeMark ++ Punycode.encoded label)

/-- The labels of a name, folded and in normal form. -/
def labels? (cs : List Char) : Option (List (List Char)) := do
  let folded ← cs.mapM fold?
  return Text.split '.' (Text.normalized folded.flatten)

/-- The name in ASCII that a text means. In a name with letters from right to left all labels keep
their direction. -/
def ofChars? (cs : List Char) : Option (List Char) := do
  let labels ← labels? cs
  let meant ← labels.mapM uncoded?
  if !meant.all isReadable then none
  if meant.any (·.any isTurning) && !meant.all keepsDirection then none
  return Text.join '.' (← labels.mapM coded?)

end FleetReconciler.Domain
