import ExpectedDamage.Document.Json.Reader
import ExpectedDamage.Proofs.Number.Success
import Mathlib.Data.List.Infix
/-!
# Numbers that JSON cannot hold

A document in JSON is refused for a number only if it has a run of too many digits
(`read_arithmetic`). Each reader leaves an end of the text it was given (`Tracks`), so a run
that stops an inner reader is a run of the document.
-/

namespace ExpectedDamage.Document.Json

open Record

/-- The text holds a run of more digits than a number may have. -/
def HasLongRun (text : List Char) : Prop :=
  ∃ run, run <:+: text ∧ run.all Char.isDigit = true ∧ WholeText.digitLimit < run.length

theorem HasLongRun.of_suffix {text ending : List Char} (h : HasLongRun ending)
    (hending : ending <:+ text) : HasLongRun text := by
  obtain ⟨run, hrun, hdigits, hlength⟩ := h
  exact ⟨run, hrun.trans hending.isInfix, hdigits, hlength⟩

/-- What was read leaves an end of the text, and a number that was refused is in it. -/
def Tracks {α : Type} (text : List Char) : Except Refusal (α × Cursor) → Prop
  | .ok (_, last) => last.rest <:+ text
  | .error (.malformed _) => True
  | .error (.arithmetic fault) => fault = .tooLong ∧ HasLongRun text

namespace Tracks

variable {α β : Type} {text ending : List Char}

theorem lacking (kind : FaultKind) (place : Nat) :
    Tracks text (lacking kind place : Except Refusal (α × Cursor)) := trivial

theorem of_suffix {r : Except Refusal (α × Cursor)} (h : Tracks ending r)
    (hending : ending <:+ text) : Tracks text r := by
  match r with
  | .ok (_, last) => exact List.IsSuffix.trans h hending
  | .error (.malformed _) => trivial
  | .error (.arithmetic fault) => exact ⟨h.1, h.2.of_suffix hending⟩

theorem bind {x : Except Refusal (α × Cursor)} {f : α × Cursor → Except Refusal (β × Cursor)}
    (hx : Tracks text x) (hf : ∀ a last, x = .ok (a, last) → Tracks last.rest (f (a, last))) :
    Tracks text (x >>= f) := by
  match x with
  | .ok (a, last) => exact (hf a last rfl).of_suffix hx
  | .error (.malformed _) => trivial
  | .error (.arithmetic fault) => exact hx

end Tracks

/-! Cursors. -/

theorem advance_suffix (c : Cursor) (count : Nat) : (c.advance count).rest <:+ c.rest :=
  List.drop_suffix count c.rest

theorem takeWhile_eq (c : Cursor) (p : Char → Bool) : c.takeWhile p =
    (c.rest.takeWhile p, ⟨c.rest.dropWhile p, c.place + (c.rest.takeWhile p).length⟩) := by
  rw [Cursor.takeWhile, List.span_eq_takeWhile_dropWhile]

theorem takeWhile_suffix (c : Cursor) (p : Char → Bool) : (c.takeWhile p).2.rest <:+ c.rest := by
  rw [takeWhile_eq]
  exact List.dropWhile_suffix p

theorem skipWhile_suffix (c : Cursor) (p : Char → Bool) : (c.skipWhile p).rest <:+ c.rest :=
  takeWhile_suffix c p

/-! Strings and words. -/

theorem stringPiece?_ne_arithmetic {start place : Nat} {text : List Char}
    {fault : ArithmeticFault} : stringPiece? start place text ≠ .error (.arithmetic fault) := by
  unfold stringPiece?
  split
  · exact nofun
  · exact nofun
  · exact nofun
  · split <;> exact nofun
  · split <;> exact nofun
  · split <;> exact nofun

theorem tracks_readString (start : Nat) (read : List Char) (bound : Nat) (c : Cursor) :
    Tracks c.rest (readString start read bound c) := by
  induction bound generalizing read c with
  | zero => exact .lacking _ _
  | succ bound ih =>
      rw [readString]
      split
      · next refusal hpiece =>
          cases refusal with
          | malformed fault => trivial
          | arithmetic fault => exact absurd hpiece stringPiece?_ne_arithmetic
      · exact advance_suffix c _
      · exact (ih _ _).of_suffix (advance_suffix c _)

theorem wordAt?_suffix {c last : Cursor} {v : Value} (h : wordAt? c = some (v, last)) :
    last.rest <:+ c.rest := by
  obtain ⟨⟨word, value⟩, -, hword⟩ := List.exists_of_findSome?_eq_some h
  obtain ⟨rest, hrest, heq⟩ := Option.map_eq_some_iff.1 hword
  obtain ⟨rfl, rfl⟩ := Prod.mk.inj heq
  rw [Cursor.after?] at hrest
  split at hrest
  · exact Option.some.inj hrest ▸ advance_suffix c _
  · exact nomatch hrest

/-! Numbers. -/

theorem fractionAt?_suffix {c last : Cursor} {digits : List Char}
    (h : fractionAt? c = some (digits, last)) : last.rest <:+ c.rest := by
  rw [fractionAt?] at h
  split at h
  · split at h
    · have hlast : ((c.advance 1).takeWhile Char.isDigit).2 = last :=
        congrArg Prod.snd (Option.some.inj h)
      exact hlast ▸ (takeWhile_suffix _ _).trans (advance_suffix c 1)
    · exact nomatch h
  · exact nomatch h

theorem getD_fractionAt?_suffix (c : Cursor) :
    ((fractionAt? c).getD ([], c)).2.rest <:+ c.rest := by
  cases h : fractionAt? c with
  | none => exact List.suffix_rfl
  | some found => exact fractionAt?_suffix h

theorem takeSign_suffix (text : List Char) : (WrittenDecimal.takeSign text).2 <:+ text := by
  unfold WrittenDecimal.takeSign
  split
  · exact List.suffix_cons _ _
  · exact List.suffix_cons _ _
  · exact List.suffix_rfl

theorem takeExponent?_suffix {text rest : List Char} {exponent : Int}
    (h : WrittenDecimal.takeExponent? text = some (exponent, rest)) : rest <:+ text := by
  unfold WrittenDecimal.takeExponent? at h
  split at h
  · next c tail =>
      split at h
      · simp only [List.span_eq_takeWhile_dropWhile] at h
        split at h
        · exact nomatch h
        · next digits last _ hspan =>
            obtain ⟨-, rfl⟩ := Prod.mk.inj (Option.some.inj h)
            obtain ⟨-, rfl⟩ := Prod.mk.inj hspan
            exact (List.dropWhile_suffix _).trans
              ((takeSign_suffix tail).trans (List.suffix_cons c tail))
      · exact nomatch h
  · exact nomatch h

theorem exponentAt?_suffix {c last : Cursor} {exponent : Int}
    (h : exponentAt? c = some (exponent, last)) : last.rest <:+ c.rest := by
  obtain ⟨⟨found, rest⟩, hfound, heq⟩ := Option.map_eq_some_iff.1 h
  obtain ⟨rfl, rfl⟩ := Prod.mk.inj heq
  exact takeExponent?_suffix hfound

/-- The digits of a whole number at a cursor: a zero, or a run. -/
theorem wholeDigits_tracks {start last : Cursor} {digits : List Char}
    (h : (match start.rest with
      | '0' :: _ => some (['0'], start.advance 1)
      | d :: _ => if d.isDigit then some (start.takeWhile Char.isDigit) else none
      | [] => none) = some (digits, last)) :
    last.rest <:+ start.rest ∧
      (WholeText.digitLimit < digits.length → HasLongRun start.rest) := by
  split at h
  · obtain ⟨rfl, rfl⟩ := Prod.mk.inj (Option.some.inj h)
    exact ⟨advance_suffix start 1, fun hlong => absurd hlong (by decide)⟩
  · split at h
    · rw [takeWhile_eq] at h
      obtain ⟨rfl, rfl⟩ := Prod.mk.inj (Option.some.inj h)
      exact ⟨List.dropWhile_suffix _, fun hlong =>
        ⟨_, (List.takeWhile_prefix _).isInfix, List.all_takeWhile, hlong⟩⟩
    · exact nomatch h
  · exact nomatch h

theorem tracks_readNumber (c : Cursor) : Tracks c.rest (readNumber c) := by
  unfold readNumber
  simp only
  have hstart : (if (c.rest.head? == some '-') = true then c.advance 1 else c).rest <:+ c.rest := by
    split
    · exact advance_suffix c 1
    · exact List.suffix_rfl
  generalize (if (c.rest.head? == some '-') = true then c.advance 1 else c) = start at hstart ⊢
  refine Tracks.of_suffix ?_ hstart
  split
  · exact .lacking _ _
  · next digits whole afterWhole hdigits =>
      obtain ⟨hwhole, hlong⟩ := wholeDigits_tracks hdigits
      have hfraction := (getD_fractionAt?_suffix afterWhole).trans hwhole
      split
      · next exponent last hexponent => exact (exponentAt?_suffix hexponent).trans hfraction
      · split
        · rw [WholeText.value?]
          split
          · next size hsize =>
              exact hwhole
          · next fault hfault =>
              split at hfault
              · exact nomatch hfault
              · next hlength =>
                  exact ⟨(Except.error.inj hfault).symm, hlong (Nat.lt_of_not_le hlength)⟩
        · exact hfraction

/-! Values. -/

/-- What the readers of values, items and fields do within a bound. -/
theorem tracks_read (bound : Nat) (c : Cursor) : Tracks c.rest (readValue bound c) ∧
    Tracks c.rest (readItems bound c) ∧ ∀ fields, Tracks c.rest (readFields fields bound c) := by
  induction bound generalizing c with
  | zero => exact ⟨.lacking _ _, .lacking _ _, fun _ => .lacking _ _⟩
  | succ bound ih =>
      have hstring (d : Cursor) : Tracks d.rest
          (readString d.place [] d.rest.length (d.advance 1)) :=
        (tracks_readString _ _ _ _).of_suffix (advance_suffix d 1)
      have hskip (d : Cursor) (p : Char → Bool) : ((d.advance 1).skipWhile p).rest <:+ d.rest :=
        (skipWhile_suffix _ p).trans (advance_suffix d 1)
      refine ⟨?_, ?_, fun fields => ?_⟩
      · rw [readValue]
        split
        · exact (hstring c).bind fun text last _ => List.suffix_rfl
        · simp only
          split
          · exact (advance_suffix _ 1).trans (hskip c _)
          · exact Tracks.of_suffix ((ih _).2.1.bind fun items last _ => List.suffix_rfl)
              (hskip c _)
        · simp only
          split
          · exact (advance_suffix _ 1).trans (hskip c _)
          · exact Tracks.of_suffix (((ih _).2.2 []).bind fun fields last _ => List.suffix_rfl)
              (hskip c _)
        · split
          · next found hfound => exact wordAt?_suffix hfound
          · exact tracks_readNumber c
      · rw [readItems]
        refine (ih c).1.bind fun value last _ => ?_
        simp only
        refine Tracks.of_suffix ?_ (skipWhile_suffix last isSpace)
        split
        · exact advance_suffix _ 1
        · exact Tracks.of_suffix ((ih _).2.1.bind fun items last _ => List.suffix_rfl) (hskip _ _)
        · exact .lacking _ _
      · rw [readFields]
        split
        · refine (hstring c).bind fun key last _ => ?_
          simp only
          refine Tracks.of_suffix ?_ (skipWhile_suffix last isSpace)
          split
          · refine Tracks.of_suffix ((ih _).1.bind fun value last _ => ?_) (hskip _ _)
            simp only
            refine Tracks.of_suffix ?_ (skipWhile_suffix last isSpace)
            split
            · exact advance_suffix _ 1
            · exact ((ih _).2.2 _).of_suffix (hskip _ _)
            · exact .lacking _ _
          · exact .lacking _ _
        · exact .lacking _ _

/-- A document is refused for a number only if it has a run of too many digits. -/
theorem read_arithmetic {document : List Char} {fault : ArithmeticFault}
    (h : read document = .error (.arithmetic fault)) :
    fault = .tooLong ∧ HasLongRun document := by
  rw [read] at h
  split at h
  · exact nomatch h
  · have hvalue := ((tracks_read (2 * document.length + 1) _).1).of_suffix
      (skipWhile_suffix (Cursor.ofText document) isSpace)
    cases hread : readValue (2 * document.length + 1)
        ((Cursor.ofText document).skipWhile isSpace) with
    | ok found =>
        rw [hread] at h
        have h : (if (found.2.skipWhile isSpace).rest.isEmpty = true then .ok found.1
            else lacking .extraData (found.2.skipWhile isSpace).place) =
              .error (.arithmetic fault) := h
        split at h
        · exact nomatch h
        · exact nomatch h
    | error refusal =>
        rw [hread] at h hvalue
        obtain rfl : refusal = .arithmetic fault := Except.error.inj h
        exact hvalue

end ExpectedDamage.Document.Json
