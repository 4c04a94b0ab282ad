import ExpectedDamage.Proofs.Area.Mention
/-!
# Areas that are recognised

The rules of cones, cubes, spheres and emanations know one wording each, which states a size
(`Occurrence`). Such a rule finds nothing exactly if its wording stands nowhere in the text, and
otherwise the size of the first place where it does: all digits of it, because a run of digits
that were cut in front would begin at an earlier place (`Occurrence.IsFirst.isWhole`). What stands
elsewhere in the text does not matter, only that a sphere is not looked for where a bolt strikes a
point (`match?_iff_occurrence`).
-/

namespace ExpectedDamage.Area

open Text

/-! Wordings of a size. -/

theorem afterJoined?_eq_some_iff {word : String} {text rest : List Char} :
    afterJoined? word text = some rest ↔
      ∃ joint ∈ ['-', ' '], text = joint :: (word.toList ++ rest) := by
  unfold afterJoined?
  split
  · next text => simp [after?_eq_some_iff]
  · next text => simp [after?_eq_some_iff]
  · next hhyphen hspace =>
      refine iff_of_false nofun ?_
      simp only [List.mem_cons, List.not_mem_nil, or_false, exists_eq_or_imp, exists_eq_left]
      rintro (rfl | rfl)
      · exact hhyphen _ rfl
      · exact hspace _ rfl

theorem isDigit_joint : ∀ joint ∈ ['-', ' '], isDigit joint = false :=
  List.forall_mem_cons.2 ⟨by decide, List.forall_mem_singleton.2 (by decide)⟩

theorem feet?_eq_some_iff {text digits rest : List Char} :
    feet? text = some (digits, rest) ↔ IsRun digits ∧
      ∃ joint ∈ ['-', ' '], text = digits ++ joint :: ("foot".toList ++ rest) := by
  simp only [feet?, Option.bind_eq_bind, Option.bind_eq_some_iff, Prod.exists,
    leadingNumber?_eq_some_iff, afterJoined?_eq_some_iff]
  constructor
  · rintro ⟨_, _, ⟨rfl, hrun, -⟩, _, ⟨joint, hjoint, rfl⟩, ⟨⟩⟩
    exact ⟨hrun, joint, hjoint, rfl⟩
  · rintro ⟨hrun, joint, hjoint, rfl⟩
    exact ⟨_, _, ⟨rfl, hrun, endsNumber_cons (isDigit_joint joint hjoint)⟩, _,
      ⟨joint, hjoint, rfl⟩, rfl⟩

/-- The text begins with "foot" and a noun, each behind a hyphen or a space. -/
def FootNoun (noun : String) (text : List Char) : Prop :=
  ∃ joint ∈ ['-', ' '], ∃ joint' ∈ ['-', ' '], ∃ after,
    text = joint :: ("foot".toList ++ joint' :: (noun.toList ++ after))

theorem map_sizedAhead?_eq_some_iff {noun : String} {text digits : List Char} :
    (sizedAhead? noun text).map Prod.fst = some digits ↔
      ∃ rest, text = digits ++ rest ∧ IsRun digits ∧ FootNoun noun rest := by
  simp only [sizedAhead?, Option.map_eq_some_iff, Option.bind_eq_bind, Option.bind_eq_some_iff,
    Prod.exists, feet?_eq_some_iff, afterJoined?_eq_some_iff]
  constructor
  · rintro ⟨_, after, ⟨_, _, ⟨hrun, joint, hjoint, rfl⟩, _, ⟨joint', hjoint', rfl⟩, ⟨⟩⟩, rfl⟩
    exact ⟨_, rfl, hrun, joint, hjoint, joint', hjoint', after, rfl⟩
  · rintro ⟨_, rfl, hrun, joint, hjoint, joint', hjoint', after, rfl⟩
    exact ⟨_, _, ⟨_, _, ⟨hrun, joint, hjoint, rfl⟩, after, ⟨joint', hjoint', rfl⟩, rfl⟩, rfl⟩

/-- The digits of a number between "to a distance of" and "feet". -/
def distanceAhead? (text : List Char) : Option (List Char) := do
  let rest ← after? "to a distance of ".toList text
  let (size, rest) ← leadingNumber? rest
  let _ ← after? " feet".toList rest
  return size

theorem distanceAhead?_eq_some_iff {text digits : List Char} :
    distanceAhead? text = some digits ↔
      ∃ rest, text = "to a distance of ".toList ++ (digits ++ rest) ∧ IsRun digits ∧
        " feet".toList <+: rest := by
  simp only [distanceAhead?, Option.bind_eq_bind, Option.bind_eq_some_iff, Prod.exists,
    leadingNumber?_eq_some_iff, after?_eq_some_iff]
  constructor
  · rintro ⟨_, rfl, _, _, ⟨rfl, hrun, -⟩, after, rfl, ⟨⟩⟩
    exact ⟨_, rfl, hrun, after, rfl⟩
  · rintro ⟨_, rfl, hrun, after, rfl⟩
    have hend : EndsNumber (" feet".toList ++ after) := endsNumber_cons (by decide)
    exact ⟨_, rfl, _, _, ⟨rfl, hrun, hend⟩, after, rfl, rfl⟩

/-! Templates with one wording. -/

namespace Template

/-- The templates whose rules look for one wording. -/
def worded : List Template := [cone, emanation, cube, burst]

/-- What stands in front of the size. -/
def opening : Template → List Char
  | emanation => "to a distance of ".toList
  | _ => []

theorem opening_cases (t : Template) : t.opening = [] ∨ t.opening.getLast? = some ' ' := by
  cases t <;> decide

/-- What stands behind the size, as the beginning of a text. -/
def Closes : Template → List Char → Prop
  | cone => FootNoun "cone"
  | emanation => (" feet".toList <+: ·)
  | cube => FootNoun "cube"
  | burst => FootNoun "radius"
  | cylinder | line => fun _ => False

/-- The size at the beginning of a text, if the wording of the template stands there. -/
def sizeAhead? (t : Template) (place : List Char) : Option (List Char) :=
  match t with
  | cone => (sizedAhead? "cone" place).map Prod.fst
  | emanation => distanceAhead? place
  | cube => (sizedAhead? "cube" place).map Prod.fst
  | burst => (sizedAhead? "radius" place).map Prod.fst
  | cylinder | line => none

theorem find?_rule_eq {t : Template} (ht : t ∈ worded) (text : List Char) :
    t.rule.find? text =
      if t = burst ∧ strikesPoint text = true then none
      else (firstIn? t.sizeAhead? text).map (.area t) := by
  cases t with
  | cylinder | line => exact absurd ht (by decide)
  | burst => simp only [true_and]; rfl
  | _ => rfl

theorem sizeAhead?_eq_some_iff {t : Template} {place digits : List Char} :
    t.sizeAhead? place = some digits ↔
      ∃ rest, place = t.opening ++ (digits ++ rest) ∧ IsRun digits ∧ t.Closes rest := by
  cases t with
  | cylinder | line => exact iff_of_false nofun fun ⟨_, _, _, hfalse⟩ => hfalse
  | cone | cube | burst => exact map_sizedAhead?_eq_some_iff
  | emanation => exact distanceAhead?_eq_some_iff

theorem Closes.endsNumber {t : Template} {text : List Char} (h : t.Closes text) :
    EndsNumber text := by
  cases t with
  | cylinder | line => exact h.elim
  | cone | cube | burst =>
      obtain ⟨joint, hjoint, -, -, after, rfl⟩ := h
      exact endsNumber_cons (isDigit_joint joint hjoint)
  | emanation =>
      obtain ⟨after, rfl⟩ := h
      exact endsNumber_cons (by decide)

end Template

/-- A place of a text where the wording of a template stands. -/
structure Occurrence (t : Template) (text : List Char) where
  before : List Char
  size : List Char
  rest : List Char
  text_eq : text = before ++ (t.opening ++ (size ++ rest))
  isRun_size : IsRun size
  closes : t.Closes rest

namespace Occurrence

variable {t : Template} {text : List Char}

/-- The occurrence begins no later than any other. -/
def IsFirst (o : Occurrence t text) : Prop :=
  ∀ other : Occurrence t text, o.before.length ≤ other.before.length

/-- The size is all of a run of digits of the text. -/
def IsWhole (o : Occurrence t text) : Prop :=
  (∀ c ∈ (o.before ++ t.opening).getLast?, isDigit c = false) ∧
    ∀ c ∈ o.rest.head?, isDigit c = false

/-- The occurrences are the places where a size is found. -/
theorem describes :
    Describes (fun o : Occurrence t text => o.before) (·.size) t.sizeAhead? text := by
  intro start digits
  simp only [Template.sizeAhead?_eq_some_iff]
  constructor
  · rintro ⟨_, htext, rest, rfl, hrun, hcloses⟩
    exact ⟨⟨start, digits, rest, htext, hrun, hcloses⟩, rfl, rfl⟩
  · rintro ⟨o, rfl, rfl⟩
    exact ⟨_, o.text_eq, o.rest, rfl, o.isRun_size, o.closes⟩

theorem isSome_firstIn?_iff :
    (firstIn? t.sizeAhead? text).isSome = true ↔ Nonempty (Occurrence t text) :=
  describes.isSome_firstIn?_iff

/-- A search for the wording finds the size of the first occurrence. -/
theorem firstIn?_eq_some_iff {size : List Char} :
    firstIn? t.sizeAhead? text = some size ↔
      ∃ o : Occurrence t text, o.IsFirst ∧ o.size = size :=
  describes.firstIn?_eq_some_iff

/-- The first occurrence states its size with all digits: a digit in front of them would make
an earlier one. -/
theorem IsFirst.isWhole {o : Occurrence t text} (h : o.IsFirst) : o.IsWhole := by
  refine ⟨fun c hc => ?_, o.closes.endsNumber⟩
  rcases t.opening_cases with hnil | hblank
  · by_contra hdigit
    rw [hnil, List.append_nil] at hc
    obtain ⟨before, hbefore⟩ := List.getLast?_eq_some_iff.1 hc
    have hdigits : ∀ d ∈ c :: o.size, isDigit d = true :=
      List.forall_mem_cons.2 ⟨Bool.eq_true_of_not_eq_false hdigit, o.isRun_size.2⟩
    have htext : text = before ++ (t.opening ++ (c :: o.size ++ o.rest)) := by
      have htext := o.text_eq
      rw [hnil, hbefore, List.append_assoc] at htext
      rwa [hnil]
    have hle := h ⟨before, c :: o.size, o.rest, htext, ⟨List.cons_ne_nil _ _, hdigits⟩, o.closes⟩
    rw [hbefore, List.length_append] at hle
    exact absurd hle (Nat.not_succ_le_self _)
  · rw [List.getLast?_append, hblank] at hc
    obtain rfl : ' ' = c := Option.some.inj hc
    decide

end Occurrence

/-! Bolts that strike. -/

/-- The text speaks of a bolt and, on the same line and at most twenty characters later, of a
flash, a strike or a hit. -/
def BoltStrikes (text : List Char) : Prop :=
  ∃ before gap after, ∃ verb ∈ ["flash", "strike", "hit"], gap.length ≤ 20 ∧ '\n' ∉ gap ∧
    text = before ++ ("bolt".toList ++ (gap ++ (verb.toList ++ after)))

theorem anyAhead_iff {words : List String} {places : List (List Char)} :
    anyAhead words places = true ↔
      ∃ place ∈ places, ∃ word ∈ words, ∃ after, place = word.toList ++ after := by
  simp only [anyAhead, List.any_eq_true, afterAny?, List.findSome?_isSome_iff]
  simp only [Option.isSome_iff_exists, after?_eq_some_iff]

theorem strikesPoint_iff {text : List Char} : strikesPoint text = true ↔ BoltStrikes text := by
  simp only [strikesPoint, isSome_firstIn?_iff, Option.bind_eq_bind, Option.bind_eq_some_iff,
    after?_eq_some_iff, Option.ite_none_right_eq_some, anyAhead_iff, mem_placesWithin_iff]
  constructor
  · rintro ⟨before, _, _, rfl, _, rfl, ⟨_, ⟨gap, rfl, hgap, hline⟩, verb, hverb, after, rfl⟩, -⟩
    exact ⟨before, gap, after, verb, hverb, hgap, hline, rfl⟩
  · rintro ⟨before, gap, after, verb, hverb, hgap, hline, rfl⟩
    exact ⟨before, _, (), rfl, _, rfl, ⟨_, ⟨gap, rfl, hgap, hline⟩, verb, hverb, after, rfl⟩,
      trivial⟩

/-- A rule that looks for one wording finds the size of its first occurrence, unless it looks for a
radius where a bolt strikes a point. -/
theorem find?_rule_eq_some_iff {t : Template} (ht : t ∈ Template.worded) {text : List Char}
    {finding : Finding} : t.rule.find? text = some finding ↔ ¬ (t = .burst ∧ BoltStrikes text) ∧
      ∃ o : Occurrence t text, o.IsFirst ∧ finding = .area t o.size := by
  rw [← strikesPoint_iff, Template.find?_rule_eq ht, Option.ite_none_left_eq_some]
  refine and_congr_right fun _ => ?_
  simp only [Option.map_eq_some_iff, Occurrence.firstIn?_eq_some_iff]
  constructor
  · rintro ⟨_, ⟨o, ho, rfl⟩, rfl⟩
    exact ⟨o, ho, rfl⟩
  · rintro ⟨o, ho, rfl⟩
    exact ⟨_, ⟨o, ho, rfl⟩, rfl⟩

theorem isSome_find?_rule_iff {t : Template} (ht : t ∈ Template.worded) {text : List Char} :
    (t.rule.find? text).isSome = true ↔
      Nonempty (Occurrence t text) ∧ ¬ (t = .burst ∧ BoltStrikes text) := by
  rw [← strikesPoint_iff, Template.find?_rule_eq ht]
  split
  · next hstrike => exact iff_of_false Bool.false_ne_true fun h => h.2 hstrike
  · next hstrike =>
      rw [Option.isSome_map, Occurrence.isSome_firstIn?_iff]
      exact ⟨fun hoccurs => ⟨hoccurs, hstrike⟩, And.left⟩

/-! Matches. -/

/-- A rule that looks for one wording finds nothing exactly if the wording stands nowhere in the
text, or if it looks for a radius and a bolt strikes a point. What it finds otherwise is the area
whose size is stated at the first place of the wording, by all digits that stand there; this
fails only if there are too many of them, or too many squares. -/
theorem match?_iff_occurrence {t : Template} (ht : t ∈ Template.worded) (text : List Char) :
    (t.rule.match? text ≠ .ok none ↔
      Nonempty (Occurrence t text) ∧ ¬ (t = .burst ∧ BoltStrikes text)) ∧
    ∀ m, t.rule.match? text = .ok (some m) ↔ ¬ (t = .burst ∧ BoltStrikes text) ∧
      ∃ o : Occurrence t text, o.IsFirst ∧ o.IsWhole ∧ o.size.length ≤ WholeText.digitLimit ∧
        t.squares? (digitsValue o.size) = .ok m.maxTargets ∧
        m = ⟨t.rule, m.maxTargets, none, some (t.shape, digitsValue o.size)⟩ := by
  refine ⟨TargetRule.match?_ne_none_iff.trans (isSome_find?_rule_iff ht), fun m => ?_⟩
  simp only [TargetRule.match?_eq_ok_some_iff, find?_rule_eq_some_iff ht]
  constructor
  · rintro ⟨_, ⟨hstrike, o, hfirst, rfl⟩, hmeasure⟩
    obtain ⟨squares, hlength, hsquares, rfl⟩ := measure?_area_eq_ok_iff.1 hmeasure
    exact ⟨hstrike, o, hfirst, hfirst.isWhole, hlength, hsquares, rfl⟩
  · rintro ⟨hstrike, o, hfirst, -, hlength, hsquares, hm⟩
    exact ⟨_, ⟨hstrike, o, hfirst, rfl⟩, measure?_area_eq_ok_iff.2 ⟨_, hlength, hsquares, hm⟩⟩

/-- Neither a cube, nor a cone without a joint, nor a second cone hides the first one. -/
theorem match?_iff_occurrence_second_joint :
    let text := "a 5-foot cube, a 15-footcone, a 130 foot-cone or a 60-foot cone".toList
    Template.cone ∈ Template.worded ∧
      TargetRule.cone.match? text = .ok (some ⟨.cone, 676, none, some (.cone, 130)⟩) ∧
      ∃ o : Occurrence .cone text, o.IsFirst ∧ o.IsWhole ∧ digitsValue o.size = 130 := by
  intro text
  have hworded : Template.cone ∈ Template.worded := by decide
  have hmatch : TargetRule.cone.match? text =
      .ok (some ⟨.cone, 676, none, some (.cone, 130)⟩) := by
    decide +kernel
  obtain ⟨-, o, hfirst, hwhole, -, -, hm⟩ := ((match?_iff_occurrence hworded text).2 _).1 hmatch
  refine ⟨hworded, hmatch, o, hfirst, hwhole, ?_⟩
  exact (Prod.mk.inj (Option.some.inj (RuleMatch.mk.inj hm).2.2.2)).2.symm

end ExpectedDamage.Area
