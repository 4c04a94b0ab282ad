import ExpectedDamage.Proofs.Area.Growth
import ExpectedDamage.Proofs.Text.FirstPlace
/-!
# Texts that mention an area

A text mentions an area by a wording of its template ("20-foot-radius sphere"). If the size is
the first number of the text, the rule of the template finds an area of this size, if it finds
anything (`find?_text`): what the text says behind the wording does not matter. The most
targets of the areas that two texts mention are therefore in the order of their sizes, unless
the template shrinks (`maxTargets_le_iff`).
-/

namespace ExpectedDamage.Area

open Text

/-! Wordings that open with a size. -/

section Opening

variable {text rest rest' : List Char} {noun : String}

theorem endsNumber_of_afterJoined? (h : afterJoined? noun text = some rest) :
    EndsNumber text := by
  unfold afterJoined? at h
  split at h
  · exact endsNumber_cons (by decide)
  · exact endsNumber_cons (by decide)
  · exact nomatch h

theorem feet?_eq_none (h : EndsNumber text) : feet? text = none := by
  rw [feet?, leadingNumber?_eq_none h]
  rfl

theorem feet?_numeral (size : Numeral) (h : afterJoined? "foot" text = some rest) :
    feet? (size.digits ++ text) = some (size.digits, rest) := by
  rw [feet?, leadingNumber?_numeral size (endsNumber_of_afterJoined? h)]
  exact congrArg (Option.bind · fun rest => some (size.digits, rest)) h

theorem sizedAhead?_eq_none (h : EndsNumber text) : sizedAhead? noun text = none := by
  rw [sizedAhead?, feet?_eq_none h]
  rfl

theorem sizedAhead?_numeral (size : Numeral) (h : afterJoined? "foot" text = some rest)
    (hnoun : afterJoined? noun rest = some rest') :
    sizedAhead? noun (size.digits ++ text) = some (size.digits, rest') := by
  rw [sizedAhead?, feet?_numeral size h]
  exact congrArg (Option.bind · fun rest => some (size.digits, rest)) hnoun

theorem radiusWithHeight?_eq_none (h : EndsNumber text) : radiusWithHeight? text = none := by
  rw [radiusWithHeight?, sizedAhead?_eq_none h]
  rfl

/-- The height may be written with any number of digits. -/
theorem radiusWithHeight?_numeral (size height : Numeral) (text : List Char) :
    radiusWithHeight? (size.digits ++ ("-foot-radius, ".toList ++
      (height.digits ++ ("-foot-high cylinder".toList ++ text)))) = some size.digits := by
  have hline : '\n' ∉ ' ' :: (height.digits ++ "-foot-".toList) := by
    rw [List.mem_cons, List.mem_append]
    rintro (hblank | hdigit | hword)
    · exact absurd hblank (by decide)
    · exact absurd (height.isDigit_of_mem _ hdigit) (by decide)
    · exact absurd hword (by decide)
  have hhigh : anyAhead heightWords (placesOnLine
      (' ' :: (height.digits ++ ("-foot-high cylinder".toList ++ text)))) = true := by
    have hplace := mem_placesOnLine_append hline ("high cylinder".toList ++ text)
    rw [List.cons_append, List.append_assoc] at hplace
    exact List.any_eq_true.2 ⟨_, hplace, rfl⟩
  rw [radiusWithHeight?, sizedAhead?_numeral size rfl rfl]
  have hbreak := mem_placesWithin_self 10
    (',' :: ' ' :: (height.digits ++ ("-foot-high cylinder".toList ++ text)))
  exact if_pos (List.any_eq_true.2 ⟨_, hbreak, hhigh⟩)

end Opening

/-! Mentions. -/

namespace Template

/-- The rule that looks for the template. -/
def rule : Template → TargetRule
  | cone => .cone
  | cylinder => .cylinder
  | emanation => .distance
  | cube => .cube
  | line => .line
  | burst => .radius

/-- How a text mentions an area of a size, and goes on. The height is that of a cylinder. -/
def wording (t : Template) (size height : Numeral) (after : List Char) : List Char :=
  match t with
  | cone => size.digits ++ ("-foot cone".toList ++ after)
  | cylinder => size.digits ++ ("-foot-radius, ".toList ++
      (height.digits ++ ("-foot-high cylinder".toList ++ after)))
  | emanation => "to a distance of ".toList ++ (size.digits ++ (" feet".toList ++ after))
  | cube => size.digits ++ ("-foot cube".toList ++ after)
  | line => size.digits ++ ("-foot line".toList ++ after)
  | burst => size.digits ++ ("-foot-radius sphere".toList ++ after)

end Template

/-- A text that mentions an area, whose size is the first number of the text. -/
structure Mention where
  before : List Char
  not_isDigit_before : ∀ c ∈ before, isDigit c = false
  size : Numeral
  height : Numeral
  after : List Char

namespace Mention

def text (a : Mention) (t : Template) : List Char :=
  a.before ++ t.wording a.size a.height a.after

variable (a : Mention)

/-- A search for a wording that opens with a number begins with the size. -/
theorem firstIn?_opening {α : Type} {wording : List Char → Option α} {rest : List Char} {found : α}
    (hnumber : ∀ text, EndsNumber text → wording text = none)
    (hsize : wording (a.size.digits ++ rest) = some found) :
    firstIn? wording (a.before ++ (a.size.digits ++ rest)) = some found :=
  (firstIn?_append_of_number hnumber a.not_isDigit_before _).trans (firstIn?_of_some hsize)

theorem sized?_opening {noun : String} {text rest rest' : List Char}
    (h : afterJoined? "foot" text = some rest) (hnoun : afterJoined? noun rest = some rest') :
    sized? noun (a.before ++ (a.size.digits ++ text)) = some a.size.digits := by
  apply a.firstIn?_opening
  · intro text htext
    rw [sizedAhead?_eq_none htext]
    rfl
  · rw [sizedAhead?_numeral a.size h hnoun]
    rfl

theorem cylinderSize?_text : cylinderSize? (a.text .cylinder) = some a.size.digits := by
  have hfirst : firstIn? radiusWithHeight? (a.text .cylinder) = some a.size.digits :=
    a.firstIn?_opening (fun _ => radiusWithHeight?_eq_none)
      (radiusWithHeight?_numeral a.size a.height a.after)
  rw [cylinderSize?, hfirst]
  rfl

theorem lineSize?_text : lineSize? (a.text .line) = some a.size.digits := by
  have hfirst : firstIn? (fun place => (feet? place).map Prod.fst) (a.text .line) =
      some a.size.digits := by
    apply a.firstIn?_opening
    · intro text htext
      rw [feet?_eq_none htext]
      rfl
    · rw [feet?_numeral a.size rfl]
      rfl
  rw [lineSize?, hfirst]
  rfl

theorem distance?_text : distance? (a.text .emanation) = some a.size.digits := by
  have hphrase : ("to a distance of ".toList.all fun c => !isDigit c) = true := by decide
  simp only [List.all_eq_true, Bool.not_eq_true'] at hphrase
  rw [distance?]
  refine (firstIn?_append ?_).trans (firstIn?_of_some ?_)
  · intro part hpart hne
    rw [Option.bind_eq_bind, Option.bind_eq_none_iff]
    intro rest hrest
    have hmarks : ∀ c ∈ part, isDigit c = false := fun c hc =>
      a.not_isDigit_before c (hpart.subset hc)
    rw [leadingNumber?_eq_none (endsNumber_of_after? hphrase hmarks hne hrest)]
    rfl
  · have hafter : after? "to a distance of ".toList
        (Template.emanation.wording a.size a.height a.after) =
          some (a.size.digits ++ (" feet".toList ++ a.after)) := after?_append _ _
    have hnumber : leadingNumber? (a.size.digits ++ (" feet".toList ++ a.after)) =
        some (a.size.digits, " feet".toList ++ a.after) :=
      leadingNumber?_numeral a.size (endsNumber_cons (by decide))
    rw [hafter, Option.bind_eq_bind, Option.bind_some, hnumber]
    rfl

theorem eq_area_of_map {t : Template} {found : Option (List Char)} {digits : List Char}
    {finding : Finding} (hfound : found = some digits)
    (h : found.map (.area t) = some finding) : finding = .area t digits := by
  rw [hfound] at h
  exact (Option.some.inj h).symm

/-- If the rule of the template finds anything, it finds the area that is mentioned. -/
theorem find?_text {t : Template} {finding : Finding}
    (h : t.rule.find? (a.text t) = some finding) : finding = .area t a.size.digits := by
  cases t with
  | cone => exact eq_area_of_map (a.sized?_opening rfl rfl) h
  | cylinder =>
      obtain ⟨-, h⟩ := Option.ite_none_right_eq_some.1 h
      rw [a.cylinderSize?_text] at h
      exact (Option.some.inj h).symm
  | emanation => exact eq_area_of_map a.distance?_text h
  | cube => exact eq_area_of_map (a.sized?_opening rfl rfl) h
  | line =>
      obtain ⟨-, h⟩ := Option.ite_none_right_eq_some.1 h
      rw [a.lineSize?_text] at h
      exact (Option.some.inj h).symm
  | burst =>
      obtain ⟨-, h⟩ := Option.ite_none_left_eq_some.1 h
      exact eq_area_of_map (a.sized?_opening rfl rfl) h

/-- The most targets of a mentioned area are the squares of its template. -/
theorem squares?_of_match? {t : Template} {m : RuleMatch}
    (h : t.rule.match? (a.text t) = .ok (some m)) :
    t.squares? a.size.value = .ok m.maxTargets := by
  obtain ⟨finding, hfind, hmeasure⟩ := TargetRule.match?_eq_ok_some_iff.1 h
  rw [a.find?_text hfind] at hmeasure
  obtain ⟨squares, -, hsquares, rfl⟩ := measure?_area_eq_ok_iff.1 hmeasure
  exact hsquares

end Mention

/-- Of two mentioned areas with sizes on the grid, the larger one has at least as many targets
as the smaller one unless its template shrinks. -/
theorem maxTargets_le_iff {t : Template} {a b : Mention} {m n : RuleMatch}
    (hpos : 0 < a.size.value) (hfive : 5 ∣ a.size.value) (hfive' : 5 ∣ b.size.value)
    (hle : a.size.value ≤ b.size.value) (hm : t.rule.match? (a.text t) = .ok (some m))
    (hn : t.rule.match? (b.text t) = .ok (some n)) :
    m.maxTargets ≤ n.maxTargets ↔ ¬ t.Shrinks a.size.value b.size.value :=
  Template.squares?_le_iff hpos hfive hfive' hle (a.squares?_of_match? hm)
    (b.squares?_of_match? hn)

/-- A cone of 25 feet covers more than one of 30 feet. -/
theorem maxTargets_le_iff_cones :
    let a : Mention := ⟨[], nofun, .ofNat 25, .ofNat 0, []⟩
    let b : Mention := ⟨[], nofun, .ofNat 30, .ofNat 0, []⟩
    let m : RuleMatch := ⟨.cone, 25, none, some (.cone, 25)⟩
    let n : RuleMatch := ⟨.cone, 21, none, some (.cone, 30)⟩
    TargetRule.cone.match? (a.text .cone) = .ok (some m) ∧
      TargetRule.cone.match? (b.text .cone) = .ok (some n) ∧
        Template.cone.Shrinks a.size.value b.size.value ∧ ¬ m.maxTargets ≤ n.maxTargets := by
  intro a b m n
  have hm : TargetRule.cone.match? (a.text .cone) = .ok (some m) := by decide +kernel
  have hn : TargetRule.cone.match? (b.text .cone) = .ok (some n) := by decide +kernel
  have hsizes : 0 < a.size.value ∧ 5 ∣ a.size.value ∧ 5 ∣ b.size.value ∧
      a.size.value ≤ b.size.value := by decide +kernel
  obtain ⟨hpos, hfive, hfive', hle⟩ := hsizes
  have hless : ¬ m.maxTargets ≤ n.maxTargets := by decide
  have h := maxTargets_le_iff (t := .cone) hpos hfive hfive' hle hm hn
  exact ⟨hm, hn, Classical.not_not.1 fun hshrinks => hless (h.2 hshrinks), hless⟩

end ExpectedDamage.Area
