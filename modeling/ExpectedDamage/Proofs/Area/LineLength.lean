import ExpectedDamage.Proofs.Area.Recognition
import ExpectedDamage.Proofs.Text.Quantity
/-!
# The length of a line

A text with the wording of a line ("60-foot line") is always recognised as a line. Its length,
however, is not read from this wording but from the first number of feet that the text names,
which may be a width, a pole or anything else (`find?_line`). So the rule finds the length of the
line exactly if the first number of feet says the same (`match?_line_length_iff`). Distances in
"feet" do not matter, and neither does what stands behind the first "foot".
-/

namespace ExpectedDamage.Area

open Text

/-- The text begins with "foot" behind a hyphen or a space. -/
def Foot (text : List Char) : Prop :=
  ∃ joint ∈ ['-', ' '], ∃ after, text = joint :: ("foot".toList ++ after)

theorem FootNoun.foot {noun : String} {text : List Char} (h : FootNoun noun text) : Foot text := by
  obtain ⟨joint, hjoint, joint', -, after, rfl⟩ := h
  exact ⟨joint, hjoint, joint' :: (noun.toList ++ after), rfl⟩

theorem finds_footNoun (noun : String) :
    Quantity.Finds (FootNoun noun) fun place => (sizedAhead? noun place).map Prod.fst :=
  fun _ _ => map_sizedAhead?_eq_some_iff

theorem finds_foot : Quantity.Finds Foot fun place => (feet? place).map Prod.fst := by
  intro place digits
  simp only [Option.map_eq_some_iff, Prod.exists, feet?_eq_some_iff]
  constructor
  · rintro ⟨_, after, ⟨hrun, joint, hjoint, rfl⟩, rfl⟩
    exact ⟨_, rfl, hrun, joint, hjoint, after, rfl⟩
  · rintro ⟨_, rfl, hrun, joint, hjoint, after, rfl⟩
    exact ⟨digits, after, ⟨hrun, joint, hjoint, rfl⟩, rfl⟩

section Wording

variable {text : List Char}

/-- The wording of a line anywhere in the text is enough to speak of a line. -/
theorem speaksOfLine_of_wording (line : Quantity (FootNoun "line") text) :
    speaksOfLine text = true := by
  obtain ⟨first, -, hfound⟩ := line.exists_isFirst (finds_footNoun "line")
  have hsized : (sized? "line" text).isSome = true := Option.isSome_of_eq_some hfound
  rw [speaksOfLine, hsized, Bool.true_or]

theorem lineSize?_eq_of_isFirst {first : Quantity Foot text} (h : first.IsFirst) :
    lineSize? text = some first.number := by
  rw [lineSize?, (Quantity.firstIn?_eq_some_iff finds_foot).2 ⟨first, h, rfl⟩]
  rfl

/-- Where the wording of a line stands, the rule finds a line as long as the first number of
feet says. -/
theorem find?_line (line : Quantity (FootNoun "line") text) {first : Quantity Foot text}
    (h : first.IsFirst) : TargetRule.line.find? text = some (.area .line first.number) := by
  rw [TargetRule.find?, if_pos (speaksOfLine_of_wording line), lineSize?_eq_of_isFirst h]
  rfl

theorem match?_line (line : Quantity (FootNoun "line") text) {first : Quantity Foot text}
    (hfirst : first.IsFirst) {found : Option RuleMatch}
    (h : TargetRule.line.match? text = .ok found) :
    ∃ m, found = some m ∧ m.area = some (.line, digitsValue first.number) := by
  rw [TargetRule.match?, find?_line line hfirst] at h
  obtain ⟨m, hmeasure, rfl⟩ := map_eq_ok_iff.1 h
  obtain ⟨squares, -, -, rfl⟩ := measure?_area_eq_ok_iff.1 hmeasure
  exact ⟨_, rfl, rfl⟩

/-- The wording of a line itself names a number of feet, so there is a first one. -/
theorem exists_first_foot (line : Quantity (FootNoun "line") text) :
    ∃ first : Quantity Foot text, first.IsFirst := by
  obtain ⟨first, hfirst, -⟩ := (line.imp fun _ => FootNoun.foot).exists_isFirst finds_foot
  exact ⟨first, hfirst⟩

end Wording

/-- Of a text with the wording of a line, be it the first or another one, the rule of lines finds
the length that this wording states exactly if the first number of feet in the text says the
same length. -/
theorem match?_line_length_iff {text : List Char} (line : Quantity (FootNoun "line") text)
    {found : Option RuleMatch} (h : TargetRule.line.match? text = .ok found) :
    (∃ m, found = some m ∧ m.area = some (.line, digitsValue line.number)) ↔
      ∃ first : Quantity Foot text, first.IsFirst ∧
        digitsValue first.number = digitsValue line.number := by
  obtain ⟨first, hfirst⟩ := exists_first_foot line
  obtain ⟨m, rfl, harea⟩ := match?_line line hfirst h
  constructor
  · rintro ⟨_, ⟨⟩, hm⟩
    rw [harea] at hm
    exact ⟨first, hfirst, (Prod.mk.inj (Option.some.inj hm)).2⟩
  · rintro ⟨first', hfirst', hvalue⟩
    refine ⟨m, rfl, ?_⟩
    rw [harea, hfirst.number_eq finds_foot hfirst', hvalue]

/-- The width in front of the line is taken for its length. -/
theorem match?_line_length_iff_width :
    let text := "a 5-foot-wide, 60-foot line".toList
    let found : Option RuleMatch := some ⟨.line, 1, none, some (.line, 5)⟩
    TargetRule.line.match? text = .ok found ∧
      ∃ line : Quantity (FootNoun "line") text, line.IsFirst ∧ line.number = "60".toList ∧
        ¬ ∃ first : Quantity Foot text, first.IsFirst ∧
          digitsValue first.number = digitsValue line.number := by
  intro text found
  have hmatch : TargetRule.line.match? text = .ok found := by decide +kernel
  have hsized : sized? "line" text = some "60".toList := by decide +kernel
  obtain ⟨line, hline, hnumber⟩ := (Quantity.firstIn?_eq_some_iff (finds_footNoun "line")).1 hsized
  refine ⟨hmatch, line, hline, hnumber, fun hsame => ?_⟩
  obtain ⟨m, hm, harea⟩ := (match?_line_length_iff line hmatch).2 hsame
  rw [← Option.some.inj hm, hnumber] at harea
  exact absurd harea (by decide +kernel)

end ExpectedDamage.Area
