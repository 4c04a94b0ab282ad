import ExpectedDamage.Dice.Parser
import ExpectedDamage.Dice.Printer
import ExpectedDamage.Proofs.Text.PieceRow
import ExpectedDamage.Proofs.Text.Spelling
/-!
# Phrases of dice and numbers

A phrase is a row of components, each a flat number or a group of dice behind its sign;
only the first component may go without one. It is the written form of the expression
that has its groups as terms and the sum of its flat numbers as modifier.

A phrase has a text (`chars`) and a row of pieces (`pieces`), and the pieces of the text
are that row (`ofText_chars_append`): every component begins with a sign or a die, which
ends the number in front of it.
-/

namespace ExpectedDamage.Dice

open Text

/-- A group of dice as it is written: a count that may be missing, the sides, and a keep
rule that may be missing. -/
structure Group where
  count : Option Numeral
  sides : Numeral
  keep : Option (KeepMode × Numeral)

namespace Group

/-- The term that the group stands for; a missing count is one. -/
def term (g : Group) : Term where
  count := ((g.count.map Numeral.value).getD 1 : Nat)
  sides := g.sides.value
  keep := g.keep.map fun (mode, n) => ⟨mode, n.value⟩

def numerals (g : Group) : List Numeral :=
  g.count.toList ++ g.sides :: (g.keep.map Prod.snd).toList

/-- Whether no numeral of the group is longer than a text allows. -/
def Short (g : Group) : Prop := ∀ n ∈ g.numerals, n.Short

instance (g : Group) : Decidable g.Short := inferInstanceAs (Decidable (∀ n ∈ _, _))

def keepChars : Option (KeepMode × Numeral) → List Char
  | none => []
  | some (mode, n) => 'k' :: mode.letter :: n.digits

def chars (g : Group) : List Char :=
  (g.count.map Numeral.digits).getD [] ++ 'd' :: (g.sides.digits ++ keepChars g.keep)

def keepPieces : Option (KeepMode × Numeral) → List Piece
  | none => []
  | some (mode, n) => [.mark 'k', .mark mode.letter, .number n.digits]

def pieces (g : Group) : List Piece :=
  (g.count.map fun n => .number n.digits).toList ++
    .mark 'd' :: .number g.sides.digits :: keepPieces g.keep

/-- The group as the reader hands it on. -/
def written (g : Group) : WrittenTerm where
  count := g.count.map Numeral.digits
  sides := g.sides.digits
  keep := g.keep.map fun (mode, n) => (mode, n.digits)

end Group

/-- A flat number with the sign that it has in the phrase. -/
structure Flat where
  negative : Bool
  size : Numeral

namespace Flat

/-- What the flat number adds to the modifier. -/
def amount (f : Flat) : Int := if f.negative then -(f.size.value : Int) else f.size.value

/-- The flat number as the reader hands it on. -/
def written (f : Flat) : WrittenModifier := ⟨f.negative, f.size.digits⟩

end Flat

/-- A component without its sign. -/
inductive Item where
  | flat (size : Numeral)
  | dice (group : Group)

namespace Item

def chars : Item → List Char
  | flat size => size.digits
  | dice group => group.chars

def pieces : Item → List Piece
  | flat size => [.number size.digits]
  | dice group => group.pieces

def groups : Item → List Group
  | flat _ => []
  | dice group => [group]

def flats : Item → List Flat
  | flat size => [⟨false, size⟩]
  | dice _ => []

end Item

/-- A component behind its sign. Dice are only added. -/
inductive Component where
  | plus (item : Item)
  | minus (size : Numeral)

namespace Component

def chars : Component → List Char
  | plus item => '+' :: item.chars
  | minus size => '-' :: size.digits

def pieces : Component → List Piece
  | plus item => .mark '+' :: item.pieces
  | minus size => [.mark '-', .number size.digits]

def groups : Component → List Group
  | plus item => item.groups
  | minus _ => []

def flats : Component → List Flat
  | plus item => item.flats
  | minus size => [⟨true, size⟩]

end Component

/-- A nonempty row of components, of which the first may go without its sign. -/
structure Phrase where
  opening : Option Item
  signed : List Component
  ne_nil : opening = none → signed ≠ []

namespace Phrase

def chars (p : Phrase) : List Char :=
  (p.opening.map Item.chars).getD [] ++ p.signed.flatMap Component.chars

def pieces (p : Phrase) : List Piece :=
  (p.opening.map Item.pieces).getD [] ++ p.signed.flatMap Component.pieces

/-- The groups of dice from left to right. -/
def groups (p : Phrase) : List Group :=
  p.opening.toList.flatMap Item.groups ++ p.signed.flatMap Component.groups

/-- The flat numbers from left to right. -/
def flats (p : Phrase) : List Flat :=
  p.opening.toList.flatMap Item.flats ++ p.signed.flatMap Component.flats

/-- What the phrase says: its dice in their order, and all its flat numbers added up. -/
def expression (p : Phrase) : Expression where
  terms := p.groups.map Group.term
  modifier := wholeSum (p.flats.map Flat.amount)

end Phrase

/-! The pieces of the text. -/

theorem isDigit_letter (mode : KeepMode) : isDigit mode.letter = false := by
  cases mode <;> decide

theorem endsNumber_keepChars_append {text : List Char} (h : EndsNumber text)
    (keep : Option (KeepMode × Numeral)) : EndsNumber (Group.keepChars keep ++ text) := by
  cases keep with
  | none => exact h
  | some rule => exact endsNumber_cons (by decide)

theorem ofText_keepChars_append {text : List Char} (h : EndsNumber text)
    (keep : Option (KeepMode × Numeral)) :
    Piece.ofText (Group.keepChars keep ++ text) =
      Group.keepPieces keep ++ Piece.ofText text := by
  cases keep with
  | none => rfl
  | some rule =>
      obtain ⟨mode, n⟩ := rule
      rw [Group.keepChars, List.cons_append, List.cons_append,
        Piece.ofText_cons_mark (by decide), Piece.ofText_cons_mark (isDigit_letter mode),
        Piece.ofText_append_numeral n h]
      rfl

theorem Group.ofText_chars_append (g : Group) {text : List Char} (h : EndsNumber text) :
    Piece.ofText (g.chars ++ text) = g.pieces ++ Piece.ofText text := by
  have hdie : Piece.ofText ('d' :: (g.sides.digits ++ keepChars g.keep) ++ text) =
      .mark 'd' :: .number g.sides.digits :: (keepPieces g.keep ++ Piece.ofText text) := by
    rw [List.cons_append, List.append_assoc, Piece.ofText_cons_mark (by decide),
      Piece.ofText_append_numeral _ (endsNumber_keepChars_append h _),
      ofText_keepChars_append h]
  cases hcount : g.count with
  | none => simpa [chars, pieces, hcount] using hdie
  | some n =>
      have hends : EndsNumber ('d' :: (g.sides.digits ++ keepChars g.keep) ++ text) :=
        endsNumber_cons (by decide)
      simp only [chars, pieces, hcount, Option.map_some, Option.getD_some, Option.toList_some,
        List.append_assoc]
      rw [Piece.ofText_append_numeral n hends, hdie]
      rfl

theorem Item.ofText_chars_append (i : Item) {text : List Char} (h : EndsNumber text) :
    Piece.ofText (i.chars ++ text) = i.pieces ++ Piece.ofText text := by
  cases i with
  | flat size => exact Piece.ofText_append_numeral size h
  | dice group => exact group.ofText_chars_append h

theorem Component.ofText_chars_append (c : Component) {text : List Char}
    (h : EndsNumber text) : Piece.ofText (c.chars ++ text) = c.pieces ++ Piece.ofText text := by
  cases c with
  | plus item =>
      rw [chars, List.cons_append, Piece.ofText_cons_mark (by decide),
        item.ofText_chars_append h]
      rfl
  | minus size =>
      rw [chars, List.cons_append, Piece.ofText_cons_mark (by decide),
        Piece.ofText_append_numeral size h]
      rfl

theorem endsNumber_signed_append (cs : List Component) {text : List Char}
    (h : EndsNumber text) : EndsNumber (cs.flatMap Component.chars ++ text) := by
  cases cs with
  | nil => exact h
  | cons c cs => cases c <;> exact endsNumber_cons (by decide)

theorem ofText_signed_append (cs : List Component) {text : List Char} (h : EndsNumber text) :
    Piece.ofText (cs.flatMap Component.chars ++ text) =
      cs.flatMap Component.pieces ++ Piece.ofText text := by
  induction cs with
  | nil => rfl
  | cons c cs ih =>
      rw [List.flatMap_cons, List.append_assoc,
        c.ofText_chars_append (endsNumber_signed_append cs h), ih, List.flatMap_cons,
        List.append_assoc]

/-- The pieces of a phrase are those of its components. -/
theorem Phrase.ofText_chars_append (p : Phrase) {text : List Char} (h : EndsNumber text) :
    Piece.ofText (p.chars ++ text) = p.pieces ++ Piece.ofText text := by
  rw [chars, pieces, List.append_assoc, List.append_assoc]
  cases p.opening with
  | none => exact ofText_signed_append p.signed h
  | some item =>
      rw [Option.map_some, Option.getD_some, Option.map_some, Option.getD_some,
        item.ofText_chars_append (endsNumber_signed_append p.signed h),
        ofText_signed_append p.signed h]

/-! Phrases are written in plain characters. -/

theorem isPlain_digits (n : Numeral) : ∀ c ∈ n.digits, IsPlain c := fun c hc =>
  isPlain_of_isDigit (n.isDigit_of_mem c hc)

theorem isPlain_keepChars (keep : Option (KeepMode × Numeral)) :
    ∀ c ∈ Group.keepChars keep, IsPlain c := by
  cases keep with
  | none => simp [Group.keepChars]
  | some rule =>
      obtain ⟨mode, n⟩ := rule
      have hletter : IsPlain mode.letter := by cases mode <;> decide
      rw [Group.keepChars, List.forall_mem_cons, List.forall_mem_cons]
      exact ⟨by decide, hletter, isPlain_digits n⟩

theorem Group.isPlain_chars (g : Group) : ∀ c ∈ g.chars, IsPlain c := by
  rw [chars, List.forall_mem_append, List.forall_mem_cons, List.forall_mem_append]
  refine ⟨?_, by decide, isPlain_digits g.sides, isPlain_keepChars g.keep⟩
  cases g.count with
  | none => simp
  | some n => exact isPlain_digits n

theorem Item.isPlain_chars (i : Item) : ∀ c ∈ i.chars, IsPlain c := by
  cases i with
  | flat size => exact isPlain_digits size
  | dice group => exact group.isPlain_chars

theorem Component.isPlain_chars (c : Component) : ∀ x ∈ c.chars, IsPlain x := by
  cases c with
  | plus item => exact List.forall_mem_cons.2 ⟨by decide, item.isPlain_chars⟩
  | minus size => exact List.forall_mem_cons.2 ⟨by decide, isPlain_digits size⟩

theorem Phrase.isPlain_chars (p : Phrase) : ∀ c ∈ p.chars, IsPlain c := by
  rw [chars, List.forall_mem_append]
  constructor
  · cases p.opening with
    | none => simp
    | some item => exact item.isPlain_chars
  · intro x hx
    obtain ⟨c, _, hc⟩ := List.mem_flatMap.1 hx
    exact c.isPlain_chars x hc

end ExpectedDamage.Dice
