import ExpectedDamage.Dice.Expression
import ExpectedDamage.Notice
import ExpectedDamage.Number.WholeSum
import ExpectedDamage.Number.WholeText
import ExpectedDamage.Text.Blank
import ExpectedDamage.Text.Lowercase
import ExpectedDamage.Text.Piece
import ExpectedDamage.Text.Quoted
/-!
# Reading dice expressions

Damage is written informally, so reading looks for what it knows and passes over
the rest. Blanks are dropped and case is ignored; then three searches go over the
pieces of the text on their own: dice terms (`termAt?`), signed numbers that are
not the count of a term (`modifierAt?`), and a number in front of the first sign
(`leadingModifier`). A text of one bare number is flat damage.

A term that cannot be rolled spoils the whole text. Numbers are read from left to
right, first those of the terms, so a number with too many digits counts only if no
earlier term has spoiled the text. `read` says why a text is refused, `parse?` only
that it is.
-/

namespace ExpectedDamage.Dice

open Text (Piece)

/-- A dice term as written: the digits of its numbers. -/
structure WrittenTerm where
  count : Option (List Char)
  sides : List Char
  keep : Option (KeepMode × List Char)
  deriving DecidableEq, Repr

/-- A signed number as written. -/
structure WrittenModifier where
  negative : Bool
  digits : List Char
  deriving DecidableEq, Repr

namespace WrittenTerm

/-- The term that is written; a missing count is one. -/
def term? (w : WrittenTerm) : Except ArithmeticFault Term := do
  let count ← w.count.mapM WholeText.value?
  let sides ← WholeText.value? w.sides
  let keep ← w.keep.mapM fun (mode, digits) => do
    return (⟨mode, ← WholeText.value? digits⟩ : KeepRule)
  return ⟨count.getD 1, sides, keep⟩

/-- The pieces that the term was read from, as text. -/
def text (w : WrittenTerm) : String :=
  String.ofList (w.count.getD [] ++ 'd' :: w.sides ++
    match w.keep with
    | some (.highest, digits) => 'k' :: 'h' :: digits
    | some (.lowest, digits) => 'k' :: 'l' :: digits
    | none => [])

end WrittenTerm

def WrittenModifier.value? (w : WrittenModifier) : Except ArithmeticFault Int := do
  let size ← WholeText.value? w.digits
  return if w.negative then -(size : Int) else size

/-- The keep rule at the beginning of the pieces, if they begin with one. -/
def keepAt? : List Piece → Option (KeepMode × List Char)
  | .mark 'k' :: .mark 'h' :: .number digits :: _ => some (.highest, digits)
  | .mark 'k' :: .mark 'l' :: .number digits :: _ => some (.lowest, digits)
  | _ => none

/-- A term of `size` pieces with the keep rule that may follow, and all its pieces. -/
def withKeep (count : Option (List Char)) (sides : List Char) (size : Nat) (rest : List Piece) :
    WrittenTerm × Nat :=
  match keepAt? rest with
  | some keep => (⟨count, sides, some keep⟩, size + 3)
  | none => (⟨count, sides, none⟩, size)

/-- The dice term at the beginning of the pieces and the number of its pieces. -/
def termAt? : List Piece → Option (WrittenTerm × Nat)
  | .number count :: .mark 'd' :: .number sides :: rest =>
    some (withKeep (some count) sides 3 rest)
  | .mark 'd' :: .number sides :: rest => some (withKeep none sides 2 rest)
  | _ => none

def beginsWithDie : List Piece → Bool
  | .mark 'd' :: _ => true
  | _ => false

/-- The signed number at the beginning of the pieces, unless it counts dice. -/
def modifierAt? : List Piece → Option (WrittenModifier × Nat)
  | .mark '+' :: .number digits :: rest =>
    if beginsWithDie rest then none else some (⟨false, digits⟩, 2)
  | .mark '-' :: .number digits :: rest =>
    if beginsWithDie rest then none else some (⟨true, digits⟩, 2)
  | _ => none

/-- The number in front of a sign at the beginning of the text, if there is one. -/
def leadingModifier? : List Piece → Option WrittenModifier
  | .number digits :: .mark '+' :: _ => some ⟨false, digits⟩
  | .number digits :: .mark '-' :: _ => some ⟨false, digits⟩
  | _ => none

/-- The written modifiers, a leading one last. -/
def modifiersOf (pieces : List Piece) : List WrittenModifier :=
  Text.allMatches modifierAt? pieces ++ (leadingModifier? pieces).toList

/-- Why a text is no dice expression. -/
inductive Refusal where
  /-- The text has no visible character. -/
  | blank
  /-- The text has a term that cannot be rolled. -/
  | term (written : WrittenTerm)
  /-- The text has neither dice nor a modifier. -/
  | nothing
  /-- A number of the text cannot be read. -/
  | arithmetic (fault : ArithmeticFault)
  deriving DecidableEq, Repr

/-- The text in lower case and without blanks. -/
def normalize (text : List Char) : List Char :=
  (Text.lower text).filter fun c => !Text.isBlank c

/-- What was computed, or the fault as a refusal. -/
def Refusal.computed {α : Type} : Except ArithmeticFault α → Except Refusal α
  | .ok a => .ok a
  | .error fault => .error (.arithmetic fault)

/-- The written terms, unless one of them cannot be rolled. -/
def validTerms (written : List WrittenTerm) : Except Refusal (List Term) :=
  written.mapM fun w => do
    let t ← Refusal.computed w.term?
    if t.Valid then .ok t else .error (.term w)

def readPieces (pieces : List Piece) : Except Refusal Expression := do
  let terms ← validTerms (Text.allMatches termAt? pieces)
  let modifier := wholeSum (← Refusal.computed ((modifiersOf pieces).mapM WrittenModifier.value?))
  if terms ≠ [] || modifier ≠ 0 then .ok ⟨terms, modifier⟩
  else
    match pieces with
    | [.number digits] =>
      let flat ← Refusal.computed (WholeText.value? digits)
      if flat = 0 then .error .nothing else .ok ⟨[], flat⟩
    | _ => .error .nothing

/-- The expression in a text, or why there is none. -/
def read (text : List Char) : Except Refusal Expression :=
  if text.all Text.isBlank then .error .blank else readPieces (Piece.ofText (normalize text))

/-- Why a text that must be a dice expression is none. -/
inductive ParseFault where
  | empty
  | invalid (text : String)
  deriving DecidableEq, Repr

def ParseFault.message : ParseFault → String
  | empty => "Dice notation cannot be empty"
  | invalid text => "Invalid dice notation: '" ++ text ++ "'"

namespace Expression

/-- The expression in a text, if there is one. -/
def parse? (text : String) : Except ArithmeticFault (Option Expression) :=
  match read text.toList with
  | .ok e => .ok (some e)
  | .error (.arithmetic fault) => .error fault
  | .error _ => .ok none

def require? (text : String) : Except ArithmeticFault (Except ParseFault Expression) :=
  match read text.toList with
  | .ok e => .ok (.ok e)
  | .error (.arithmetic fault) => .error fault
  | .error .blank => .ok (.error .empty)
  | .error _ => .ok (.error (.invalid text))

end Expression

/-- The remark on a text that is no expression. Empty texts are passed over, and a number
that cannot be read goes without a remark. -/
def parseNotices (text : String) : List Notice :=
  match read text.toList with
  | .ok _ | .error .blank | .error (.arithmetic _) => []
  | .error (.term w) =>
    [⟨.debug, "Rejecting dice term " ++ Text.quoted w.text ++ " in " ++ Text.quoted text⟩]
  | .error .nothing => [⟨.debug, "No dice or modifier found in " ++ Text.quoted text⟩]

end ExpectedDamage.Dice
