import ExpectedDamage.Proofs.Text.FirstPlace
import ExpectedDamage.Proofs.Text.Words
import ExpectedDamage.Spell.DamageType
import Mathlib.Data.List.Infix
import Mathlib.Data.List.Nodup
import Mathlib.Data.List.Perm.Subperm
/-!
# Choices that are worded

A wording of a choice lists types of damage behind "you choose", with commas between them and
"or" before the last one (`ChoiceList`). The whole list is read, each type once and in the order of
the list, whatever stands behind it, even if that goes on with more types; and whatever stands
before it, as long as nobody chooses anything there (`damageChoice_of_choiceList`). That is a matter
of letters without regard to case, so the long s counts as an s
(`damageChoice_long_s`).
-/

namespace ExpectedDamage

open Text

namespace DamageType

/-! Names. -/

theorem afterPlain?_eq_some_iff {word text rest : List Char} :
    afterPlain? word text = some rest ↔
      ∃ front, text = front ++ rest ∧ front.map plainLetter = word := by
  induction word generalizing text with
  | nil =>
      simp only [afterPlain?, Option.some.injEq, List.map_eq_nil_iff]
      exact ⟨fun h => ⟨[], h, rfl⟩, fun ⟨_, h, hfront⟩ => by rw [h, hfront, List.nil_append]⟩
  | cons w word ih =>
      cases text with
      | nil =>
          refine iff_of_false nofun ?_
          rintro ⟨front, hfront, hword⟩
          obtain rfl := (List.append_eq_nil_iff.1 hfront.symm).1
          exact nomatch hword
      | cons c text =>
          rw [afterPlain?, Option.ite_none_right_eq_some, ih]
          constructor
          · rintro ⟨rfl, front, rfl, rfl⟩
            exact ⟨c :: front, rfl, rfl⟩
          · rintro ⟨front, htext, hword⟩
            cases front with
            | nil => exact nomatch hword
            | cons d front =>
                obtain ⟨rfl, rfl⟩ := List.cons.inj htext
                obtain ⟨rfl, rfl⟩ := List.cons.inj hword
                exact ⟨rfl, front, rfl, rfl⟩

theorem name_injective : Function.Injective name := by
  have hfind : ∀ t, all.find? (·.name == t.name) = some t := fun t => by cases t <;> rfl
  intro t u h
  have htu := hfind t
  rw [h, hfind u] at htu
  exact (Option.some.inj htu).symm

theorem isName_name (t : DamageType) : isName t.name.toList = true := by cases t <;> rfl

theorem afterName?_name_append (t : DamageType) (rest : List Char) :
    afterName? (t.name.toList ++ rest) = some rest := by
  cases t <;> rfl

theorem words_name (t : DamageType) : words t.name.toList = [t.name.toList] := by
  cases t <;> exact words_of_forall (by decide) (List.all_eq_true.1 rfl)

theorem dropWhile_isBlank_name (t : DamageType) (rest : List Char) :
    (t.name.toList ++ rest).dropWhile isBlank = t.name.toList ++ rest := by
  cases t <;> rfl

/-- Blanks before the name of a type do not matter. -/
theorem afterName?_dropWhile {blanks : List Char} (h : ∀ c ∈ blanks, isBlank c = true)
    (t : DamageType) (rest : List Char) :
    afterName? ((blanks ++ (t.name.toList ++ rest)).dropWhile isBlank) = some rest := by
  rw [List.dropWhile_append_of_pos h, dropWhile_isBlank_name, afterName?_name_append]

/-! Types behind a comma. -/

/-- A type of damage behind a comma and blanks. -/
structure Listed where
  blanks : List Char
  type : DamageType
  isBlank_of_mem : ∀ c ∈ blanks, isBlank c = true

def Listed.text (l : Listed) : List Char := ',' :: (l.blanks ++ l.type.name.toList)

theorem afterListed?_text_append (l : Listed) (rest : List Char) :
    afterListed? (l.text ++ rest) = some rest := by
  rw [Listed.text, List.cons_append, List.append_assoc, afterListed?,
    afterName?_dropWhile l.isBlank_of_mem]

theorem afterAllListed_of_none {text : List Char} (h : afterListed? text = none) :
    afterAllListed text = text := by
  rw [afterAllListed, h]

theorem afterAllListed_text_append (l : Listed) (rest : List Char) :
    afterAllListed (l.text ++ rest) = afterAllListed rest := by
  have hlt : rest.length < (l.text ++ rest).length := by
    simp only [Listed.text, List.length_append, List.length_cons]
    omega
  rw [afterAllListed, afterListed?_text_append]
  exact if_pos hlt

theorem afterAllListed_append (others : List Listed) (rest : List Char) :
    afterAllListed (others.flatMap Listed.text ++ rest) = afterAllListed rest := by
  induction others with
  | nil => rfl
  | cons l others ih =>
      rw [List.flatMap_cons, List.append_assoc, afterAllListed_text_append, ih]

/-- The words of types with commas between them are their names. -/
theorem words_listed {gap : List Char} (h : IsGap gap) (first : DamageType) (others : List Listed)
    (rest : List Char) :
    words (first.name.toList ++ (others.flatMap Listed.text ++ (gap ++ rest))) =
      (first :: others.map Listed.type).map (·.name.toList) ++ words rest := by
  induction others generalizing first with
  | nil => rw [List.flatMap_nil, List.nil_append, words_append_gap h, words_name]; rfl
  | cons l others ih =>
      have hcomma : IsGap (',' :: l.blanks) := isGap_cons (by decide) l.isBlank_of_mem
      have htext : (l :: others).flatMap Listed.text ++ (gap ++ rest) = (',' :: l.blanks) ++
          (l.type.name.toList ++ (others.flatMap Listed.text ++ (gap ++ rest))) := by
        simp only [List.flatMap_cons, Listed.text, List.cons_append, List.append_assoc]
      rw [htext, words_append_gap hcomma, words_name, ih]
      rfl

/-- No comma stands before the "or" that blanks lead to. -/
theorem append_or_ne_comma {blanks : List Char} (h : ∀ c ∈ blanks, isBlank c = true)
    (rest after : List Char) : blanks ++ ("or".toList ++ rest) ≠ ',' :: after := by
  cases blanks with
  | nil => exact fun heq => absurd (List.cons.inj heq).1 (by decide)
  | cons c blanks =>
      intro heq
      have hcomma := h c List.mem_cons_self
      rw [(List.cons.inj heq).1] at hcomma
      exact absurd hcomma (by decide)

end DamageType

open DamageType

/-! Lists of a choice. -/

/-- The types of a choice: a comma stands before each type but the first and the last, and "or"
before the last one, where there may be a comma too. -/
structure ChoiceList where
  first : DamageType
  others : List Listed
  comma : Bool
  beforeOr : List Char
  afterOr : List Char
  last : DamageType
  isBlank_of_mem_beforeOr : ∀ c ∈ beforeOr, isBlank c = true
  isBlank_of_mem_afterOr : ∀ c ∈ afterOr, isBlank c = true
  /-- The word "or" stands apart. -/
  separated : comma = true ∨ beforeOr ≠ []
  afterOr_ne_nil : afterOr ≠ []

namespace ChoiceList

variable (l : ChoiceList)

def types : List DamageType := l.first :: l.others.map Listed.type ++ [l.last]

/-- What separates "or" from the types before it. -/
def gap : List Char := if l.comma then ',' :: l.beforeOr else l.beforeOr

/-- The list as it is written from "or" on. -/
def ending : List Char := "or".toList ++ (l.afterOr ++ l.last.name.toList)

def text : List Char :=
  l.first.name.toList ++ (l.others.flatMap Listed.text ++ (l.gap ++ l.ending))

theorem isGap_gap : IsGap l.gap := by
  unfold gap
  split
  · exact isGap_cons (by decide) l.isBlank_of_mem_beforeOr
  · next hcomma =>
      exact isGap_of_isBlank (l.separated.resolve_left hcomma) l.isBlank_of_mem_beforeOr

/-- The comma before "or" begins no further type. -/
theorem afterListed?_gap_append (rest : List Char) :
    afterListed? (l.gap ++ ("or".toList ++ rest)) = none := by
  unfold gap
  split
  · rw [List.cons_append, afterListed?, List.dropWhile_append_of_pos l.isBlank_of_mem_beforeOr]
    rfl
  · rw [afterListed?]
    exact fun after => append_or_ne_comma l.isBlank_of_mem_beforeOr _ after

theorem afterLast?_gap_append (rest : List Char) :
    afterLast? (l.gap ++ ("or".toList ++ rest)) = afterName? (rest.dropWhile isBlank) := by
  have hor : afterPlain? "or".toList ((l.beforeOr ++ ("or".toList ++ rest)).dropWhile isBlank) =
      some rest := by
    rw [List.dropWhile_append_of_pos l.isBlank_of_mem_beforeOr]
    rfl
  unfold gap
  split
  · simp only [List.cons_append, afterLast?, hor]
    rfl
  · unfold afterLast?
    split
    · next heq => exact absurd heq (append_or_ne_comma l.isBlank_of_mem_beforeOr _ _)
    · simp only [hor]
      rfl

/-- A list is found as a whole, and nothing of what stands behind it. -/
theorem choiceAhead?_text_append (rest : List Char) :
    choiceAhead? ("you choose ".toList ++ (l.text ++ rest)) =
      some ("you choose ".toList ++ l.text) := by
  have hopening : afterPlain? "you choose ".toList ("you choose ".toList ++ (l.text ++ rest)) =
      some (l.text ++ rest) := rfl
  have hfirst : afterName? (l.text ++ rest) =
      some (l.others.flatMap Listed.text ++ (l.gap ++ (l.ending ++ rest))) := by
    simp only [text, List.append_assoc]
    exact afterName?_name_append l.first _
  have hothers : afterAllListed (l.others.flatMap Listed.text ++ (l.gap ++ (l.ending ++ rest))) =
      l.gap ++ (l.ending ++ rest) := by
    rw [afterAllListed_append, ending, List.append_assoc]
    exact afterAllListed_of_none (l.afterListed?_gap_append _)
  have hlast : afterLast? (l.gap ++ (l.ending ++ rest)) = some rest := by
    rw [ending, List.append_assoc, afterLast?_gap_append, List.append_assoc]
    exact afterName?_dropWhile l.isBlank_of_mem_afterOr l.last rest
  simp only [choiceAhead?, hopening, hfirst, hothers, hlast, Option.bind_eq_bind,
    Option.bind_some, Option.pure_def, Option.some.injEq]
  rw [← List.append_assoc, List.length_append, Nat.add_sub_cancel, List.take_left]

theorem words_ending : words l.ending = ["or".toList, l.last.name.toList] := by
  have hgap : IsGap l.afterOr := isGap_of_isBlank l.afterOr_ne_nil l.isBlank_of_mem_afterOr
  have hor : words "or".toList = ["or".toList] :=
    words_of_forall (by decide) (List.all_eq_true.1 rfl)
  rw [ending, words_append_gap hgap, hor, words_name]
  rfl

/-- The words of a choice that are names are those of its types. -/
theorem filter_words_text :
    (words ("you choose ".toList ++ l.text)).filter isName = l.types.map (·.name.toList) := by
  have hopening : words ("you choose ".toList ++ l.text) =
      words "you choose".toList ++ words l.text := by
    have hspace : IsGap [' '] := isGap_cons (by decide) (List.forall_mem_nil _)
    exact words_append_gap hspace "you choose".toList l.text
  have hchoose : (words "you choose".toList).filter isName = [] := by decide +kernel
  have hnames : ∀ types : List DamageType,
      (types.map (·.name.toList)).filter isName = types.map (·.name.toList) := by
    intro types
    refine List.filter_eq_self.2 fun word hword => ?_
    obtain ⟨t, -, rfl⟩ := List.mem_map.1 hword
    exact isName_name t
  have hlast : ["or".toList, l.last.name.toList].filter isName = [l.last].map (·.name.toList) := by
    rw [List.filter_cons_of_neg (by decide)]
    exact hnames [l.last]
  rw [hopening, text, words_listed l.isGap_gap, words_ending, List.filter_append, hchoose,
    List.nil_append, List.filter_append, hnames, hlast, ← List.map_append]
  rfl

/-- A list is looked for at no place before it, unless something is chosen there too: "you choose"
has no second y, so that no other one reaches into it. -/
theorem choiceAhead?_eq_none {part : List Char} (hne : part ≠ [])
    (h : ¬ "you choose".toList <:+: part.map plainLetter) (rest : List Char) :
    choiceAhead? (part ++ ("you choose ".toList ++ rest)) = none := by
  have hplain : afterPlain? "you choose ".toList (part ++ ("you choose ".toList ++ rest)) =
      none := by
    by_contra hsome
    obtain ⟨more, hmore⟩ := Option.ne_none_iff_exists'.1 hsome
    obtain ⟨front, htext, hfront⟩ := afterPlain?_eq_some_iff.1 hmore
    have hopening : "you choose".toList <:+: front.map plainLetter := by
      rw [hfront]
      decide
    rcases List.append_eq_append_iff.1 htext with ⟨inside, rfl, hinside⟩ | ⟨_, rfl, -⟩
    · cases inside with
      | nil => exact h (by rwa [List.append_nil] at hopening)
      | cons y inside =>
          obtain rfl : 'y' = y := (List.cons.inj hinside).1
          obtain ⟨c, part, rfl⟩ := List.exists_cons_of_ne_nil hne
          have htail : (part ++ 'y' :: inside).map plainLetter = "ou choose ".toList :=
            (List.cons.inj hfront).2
          have hy : 'y' ∈ "ou choose ".toList := by
            rw [← htail]
            exact List.mem_map.2 ⟨'y', by simp, rfl⟩
          exact absurd hy (by decide)
    · rw [List.map_append] at h
      exact h (hopening.trans (List.prefix_append _ _).isInfix)
  rw [choiceAhead?, hplain]
  rfl

theorem choice_eq {before : List Char} (h : ¬ "you choose".toList <:+: before.map plainLetter)
    (after : List Char) :
    choice (before ++ ("you choose ".toList ++ (l.text ++ after))) =
      (l.types.map name).eraseDups := by
  have hfirst : firstIn? choiceAhead? (before ++ ("you choose ".toList ++ (l.text ++ after))) =
      some ("you choose ".toList ++ l.text) := by
    rw [firstIn?_append, firstIn?_of_some (l.choiceAhead?_text_append after)]
    intro part hpart hne
    exact choiceAhead?_eq_none hne (fun hthere => h (hthere.trans (hpart.map _).isInfix)) _
  have hnames : (l.types.map (·.name.toList)).map String.ofList = l.types.map name := by
    simp only [List.map_map, Function.comp_def, String.ofList_toList]
  rw [choice, hfirst]
  simp only [filter_words_text, hnames]

/-- Two types of a list are two names of it. -/
theorem one_lt_length_eraseDups (h : ∃ t ∈ l.types, ∃ u ∈ l.types, t ≠ u) :
    1 < ((l.types.map name).eraseDups).length := by
  obtain ⟨t, ht, u, hu, hne⟩ := h
  have hmem : ∀ v ∈ l.types, v.name ∈ (l.types.map name).eraseDups := fun v hv =>
    List.mem_eraseDups.2 (List.mem_map_of_mem hv)
  have hpair : [t.name, u.name].Nodup := List.pairwise_pair.2 (name_injective.ne hne)
  have hsubset : [t.name, u.name] ⊆ (l.types.map name).eraseDups :=
    List.cons_subset.2 ⟨hmem t ht, List.cons_subset.2 ⟨hmem u hu, List.nil_subset _⟩⟩
  exact (List.Nodup.subperm hpair hsubset).length_le

end ChoiceList

/-- Types that a wording lets choose from are those that the caster picks from, each of them once
and in the order of the wording. -/
theorem Spell.damageChoice_of_choiceList {s : Spell}
    (hkey : ∀ known ∈ knownChoices, known.1 ≠ s.normalizedKey) (l : ChoiceList)
    {before after : List Char}
    (hwording : s.wording = before ++ ("you choose ".toList ++ (l.text ++ after)))
    (hbefore : ¬ "you choose".toList <:+: before.map plainLetter)
    (htypes : ∃ t ∈ l.types, ∃ u ∈ l.types, t ≠ u) :
    s.damageChoice = ⟨(l.types.map DamageType.name).eraseDups, .caster⟩ := by
  have hunknown : knownChoices.find? (·.1 == s.normalizedKey) = none :=
    List.find?_eq_none.2 fun known hknown => by simpa using hkey known hknown
  have hchoice : choice s.wording = (l.types.map DamageType.name).eraseDups := by
    rw [hwording]
    exact l.choice_eq hbefore after
  simp only [damageChoice, hunknown, hchoice]
  exact if_pos (l.one_lt_length_eraseDups htypes)

/-- A type that is named twice is one choice, and what follows the list is not part of it. -/
theorem Spell.damageChoice_of_choiceList_twice :
    let s : Spell := { name := "Ray", description :=
      "If you  choose acid or cold, YOU choose fire,\n cold,fire,or  acid, thunder or force." }
    let l : ChoiceList := ⟨.fire, [⟨['\n', ' '], .cold, List.all_eq_true.1 rfl⟩,
      ⟨[], .fire, List.forall_mem_nil _⟩], true, [], [' ', ' '], .acid, List.forall_mem_nil _,
      List.all_eq_true.1 rfl, .inl rfl, by decide⟩
    (∀ known ∈ knownChoices, known.1 ≠ s.normalizedKey) ∧
      s.wording = "if you  choose acid or cold, ".toList ++
        ("you choose ".toList ++ (l.text ++ ", thunder or force.".toList)) ∧
      ¬ "you choose".toList <:+: "if you  choose acid or cold, ".toList.map plainLetter ∧
      (∃ t ∈ l.types, ∃ u ∈ l.types, t ≠ u) ∧
      s.damageChoice = ⟨["fire", "cold", "acid"], .caster⟩ := by
  intro s l
  have hkey : ∀ known ∈ knownChoices, known.1 ≠ s.normalizedKey := by decide +kernel
  have hwording : s.wording = "if you  choose acid or cold, ".toList ++
      ("you choose ".toList ++ (l.text ++ ", thunder or force.".toList)) := by
    decide +kernel
  have hbefore : ¬ "you choose".toList <:+:
      "if you  choose acid or cold, ".toList.map plainLetter := by
    decide +kernel
  have htypes : ∃ t ∈ l.types, ∃ u ∈ l.types, t ≠ u := by decide +kernel
  refine ⟨hkey, hwording, hbefore, htypes, ?_⟩
  exact damageChoice_of_choiceList hkey l hwording hbefore htypes

/-- A long s is an s where a choice is looked for: another "you choose" can stand before the first
one, and its list is the one that is read. -/
theorem Spell.damageChoice_long_s :
    ¬ ∀ (s : Spell) (l : ChoiceList) (before after : List Char),
      (∀ known ∈ knownChoices, known.1 ≠ s.normalizedKey) →
        s.wording = before ++ ("you choose ".toList ++ (l.text ++ after)) →
          ¬ "you choose".toList <:+: before → (∃ t ∈ l.types, ∃ u ∈ l.types, t ≠ u) →
            s.damageChoice = ⟨(l.types.map DamageType.name).eraseDups, .caster⟩ := by
  intro h
  let s : Spell := { name := "Ray", description :=
    "You choo\u017fe acid or cold. You choose fire or thunder." }
  let l : ChoiceList := ⟨.fire, [], false, [' '], [' '], .thunder, List.all_eq_true.1 rfl,
    List.all_eq_true.1 rfl, .inr (by decide), by decide⟩
  have hchoice := h s l "you choo\u017fe acid or cold. ".toList ['.'] (by decide +kernel)
    (by decide +kernel) (by decide +kernel) (by decide +kernel)
  have hfirst : s.damageChoice = ⟨["acid", "cold"], .caster⟩ := by decide +kernel
  exact absurd (hfirst.symm.trans hchoice) (by decide +kernel)

end ExpectedDamage
