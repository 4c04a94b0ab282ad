import ExpectedDamage.Proofs.Combat.Independence
import ExpectedDamage.Proofs.Library.Loading
import ExpectedDamage.Proofs.Record.Outcome
import ExpectedDamage.Session
/-!
# Runs of a session

What a step that succeeds does to a session is said once (`Moved`), and a step that fails leaves
the session as it was. So a run can be told without its failed steps (`exists_path_run`). The two
parts of a session do not mix: the context after a run is a matter of the changes of the context
alone (`context_run`), and the book of the steps alone that are about spells (`book_run_congr`).
A book that is built up in a session holds what the loading of a file gives
(`book_run_add_of_readSpells`), and only spells that have been read as a whole
(`read_of_mem_book_run`).
-/

namespace ExpectedDamage.Session

open Combat (Context)
open Record

variable {s t : Session}

/-! Steps. -/

theorem checked_eq_ok_iff {α : Type} {x : Checked α} {a : α} : checked x = .ok a ↔ x = .ok a := by
  cases x with
  | ok b => exact ⟨fun h => congrArg _ (Except.ok.inj h), fun h => congrArg _ (Checked.ok.inj h)⟩
  | refused problems => exact iff_of_false nofun nofun

/-- An index finds the place that it counts, from the start of the book or from its end. -/
theorem place?_eq_some_iff {index : Int} {place : Nat} : s.place? index = some place ↔
    place < s.book.length ∧ (index = place ∨ index = place - s.book.length) := by
  rw [place?]
  split_ifs <;> simp only [Option.some.injEq, false_iff] <;> omega

theorem spell?_eq_ok_iff {index : Int} {place : Nat} {spell : Spell} :
    s.spell? index = .ok (place, spell) ↔
      s.place? index = some place ∧ s.book[place]? = some spell := by
  have hfound : ((s.place? index).bind fun place => s.book[place]?.map fun spell =>
      (place, spell)) = some (place, spell) ↔
        s.place? index = some place ∧ s.book[place]? = some spell := by
    simp only [Option.bind_eq_some_iff, Option.map_eq_some_iff, Prod.mk.injEq]
    constructor
    · rintro ⟨_, hplace, _, hspell, rfl, rfl⟩
      exact ⟨hplace, hspell⟩
    · rintro ⟨hplace, hspell⟩
      exact ⟨place, hplace, spell, hspell, rfl, rfl⟩
  rw [← hfound, spell?]
  split
  · next found heq =>
      rw [heq]
      exact ⟨fun h => congrArg some (Except.ok.inj h), fun h => congrArg _ (Option.some.inj h)⟩
  · next heq =>
      rw [heq]
      exact iff_of_false nofun nofun

/-- What a step that succeeds does to a session. -/
inductive Moved (s : Session) : Step → Session → Prop
  | added {record : Value} {spell : Spell} (read : Spell.read record = .ok spell) :
      Moved s (.add record) { s with book := s.book ++ [spell] }
  | patched {index : Int} {changes : List (String × Value)} {place : Nat} {spell changed : Spell}
      (place_eq : s.place? index = some place) (spell_eq : s.book[place]? = some spell)
      (read : spell.withChanges changes = .ok changed) :
      Moved s (.patch index changes) { s with book := s.book.set place changed }
  | contextChanged {changes : List (String × Value)} {context : Context}
      (success : s.context.withChanges changes = .ok context) :
      Moved s (.changeContext changes) { s with context := context }
  | kept (filter : Spell.Filter) :
      Moved s (.keep filter) { s with book := filter.select s.book }
  | analyzed {index : Int} {castLevel : Option Int} {a : Spell.Analysis}
      (answer : s.analyze index castLevel = .ok a) : Moved s (.analyze index castLevel) s
  | compared {c : Spell.Comparison} (answer : s.compare = .ok c) : Moved s .compare s
  | ranked {slot limit : Int} {analyses : List Spell.Analysis}
      (answer : s.best slot limit = .ok analyses) : Moved s (.best slot limit) s

theorem next?_eq_ok_iff {step : Step} : s.next? step = .ok t ↔ s.Moved step t := by
  constructor
  · intro h
    cases step with
    | add record =>
        obtain ⟨spell, hread, h⟩ := bind_eq_ok_iff.1 h
        obtain rfl := Except.ok.inj h
        exact .added (checked_eq_ok_iff.1 hread)
    | patch index changes =>
        obtain ⟨⟨_, _⟩, hpatch, rfl⟩ := map_eq_ok_iff.1 h
        obtain ⟨⟨place, spell⟩, hspell, hpatch⟩ := bind_eq_ok_iff.1 hpatch
        obtain ⟨changed, hchanged, hpatch⟩ := bind_eq_ok_iff.1 hpatch
        obtain ⟨rfl, rfl⟩ := Prod.mk.inj (Except.ok.inj hpatch)
        obtain ⟨hplace, hspell⟩ := spell?_eq_ok_iff.1 hspell
        exact .patched hplace hspell (checked_eq_ok_iff.1 hchanged)
    | changeContext changes =>
        obtain ⟨context, hcontext, h⟩ := bind_eq_ok_iff.1 h
        obtain rfl := Except.ok.inj h
        exact .contextChanged (checked_eq_ok_iff.1 hcontext)
    | keep filter =>
        obtain rfl := Except.ok.inj h
        exact .kept filter
    | analyze index castLevel =>
        obtain ⟨a, hanswer, rfl⟩ := map_eq_ok_iff.1 h
        exact .analyzed hanswer
    | compare =>
        obtain ⟨c, hanswer, rfl⟩ := map_eq_ok_iff.1 h
        exact .compared hanswer
    | best slot limit =>
        obtain ⟨analyses, hanswer, rfl⟩ := map_eq_ok_iff.1 h
        exact .ranked hanswer
  · intro h
    cases h with
    | added hread =>
        rw [next?, add, hread]
        rfl
    | patched hplace hspell hchanged =>
        rw [next?, patch, spell?_eq_ok_iff.2 ⟨hplace, hspell⟩]
        change Prod.fst <$> (checked _ >>= _) = _
        rw [hchanged]
        rfl
    | contextChanged hcontext =>
        rw [next?, changeContext, hcontext]
        rfl
    | kept filter => rfl
    | analyzed hanswer =>
        rw [next?, hanswer]
        rfl
    | compared hanswer =>
        rw [next?, hanswer]
        rfl
    | ranked hanswer =>
        rw [next?, hanswer]
        rfl

theorem after_of_moved {step : Step} (h : s.Moved step t) : s.after step = t := by
  rw [after, next?_eq_ok_iff.2 h]

theorem after_of_error {step : Step} {fault : SessionFault} (h : s.next? step = .error fault) :
    s.after step = s := by
  rw [after, h]

/-- A step moves a session on, or fails and leaves it as it was. -/
theorem moved_or_failed (s : Session) (step : Step) :
    s.Moved step (s.after step) ∨ (∃ fault, s.next? step = .error fault) ∧ s.after step = s := by
  cases h : s.next? step with
  | ok next =>
      have hmoved := next?_eq_ok_iff.1 h
      exact .inl (after_of_moved hmoved ▸ hmoved)
  | error fault => exact .inr ⟨⟨fault, rfl⟩, after_of_error h⟩

/-- A step that asks something of a session and does nothing to it. -/
def Step.IsQuestion : Step → Prop
  | .analyze _ _ | .compare | .best _ _ => True
  | _ => False

theorem after_of_isQuestion {step : Step} (h : step.IsQuestion) : s.after step = s := by
  rcases s.moved_or_failed step with hmoved | ⟨-, hfailed⟩
  · generalize s.after step = next at hmoved ⊢
    cases hmoved with
    | analyzed | compared | ranked => rfl
    | _ => exact h.elim
  · exact hfailed

/-! Runs. -/

/-- What holds of a session and is kept by every step that succeeds holds after every run. -/
theorem run_induction {P : Session → Prop} (hs : P s)
    (hmoved : ∀ ⦃before step next⦄, P before → Moved before step next → P next)
    (steps : List Step) : P (s.run steps) := by
  induction steps generalizing s with
  | nil => exact hs
  | cons step rest ih =>
      apply ih
      rcases s.moved_or_failed step with h | ⟨-, h⟩
      · exact hmoved hs h
      · rwa [h]

/-- Steps that succeed one after the other. -/
inductive Path : Session → List Step → Session → Prop
  | done (s : Session) : Path s [] s
  | moved {s next last : Session} {step : Step} {steps : List Step} (first : s.Moved step next)
      (rest : Path next steps last) : Path s (step :: steps) last

theorem Path.run_eq {steps : List Step} (h : Path s steps t) : s.run steps = t := by
  induction h with
  | done s => rfl
  | moved first _ ih =>
      rw [run, List.foldl_cons, after_of_moved first]
      exact ih

/-- A run ends where the steps of it lead that succeed. -/
theorem exists_path_run (s : Session) (steps : List Step) :
    ∃ succeeding, succeeding.Sublist steps ∧ Path s succeeding (s.run steps) := by
  induction steps generalizing s with
  | nil => exact ⟨[], .slnil, .done s⟩
  | cons step rest ih =>
      obtain ⟨succeeding, hsublist, hpath⟩ := ih (s.after step)
      rcases s.moved_or_failed step with h | ⟨-, h⟩
      · exact ⟨step :: succeeding, hsublist.cons_cons step, .moved h hpath⟩
      · refine ⟨succeeding, hsublist.cons step, ?_⟩
        rw [h] at hpath
        rw [run, List.foldl_cons, h]
        exact hpath

/-! The context. -/

/-- The change of the context that a step asks for. -/
def Step.contextChange? : Step → Option (List (String × Value))
  | .changeContext changes => some changes
  | _ => none

theorem after_changeContext (s : Session) (changes : List (String × Value)) :
    s.after (.changeContext changes) = { s with context := s.context.step changes } := by
  cases hchanges : s.context.withChanges changes with
  | ok context => rw [after_of_moved (.contextChanged hchanges), Context.step_of_ok hchanges]
  | refused problems =>
      have hfault : s.next? (.changeContext changes) = .error (.invalid problems) := by
        rw [next?, changeContext, hchanges]
        rfl
      rw [after_of_error hfault, Context.step_of_refused hchanges]

theorem Moved.context_eq {step : Step} (h : s.Moved step t) :
    t.context = (step.contextChange?.map s.context.step).getD s.context := by
  cases h with
  | contextChanged success => exact (Context.step_of_ok success).symm
  | _ => rfl

theorem context_after (s : Session) (step : Step) : (s.after step).context =
    (step.contextChange?.map s.context.step).getD s.context := by
  rcases s.moved_or_failed step with h | ⟨-, h⟩
  · exact h.context_eq
  · cases step with
    | changeContext changes => exact congrArg Session.context (s.after_changeContext changes)
    | _ => exact congrArg Session.context h

/-- The context after a run is that of the changes of the context, whatever happens to the
book. -/
theorem context_run (s : Session) (steps : List Step) : (s.run steps).context =
    (steps.filterMap Step.contextChange?).foldl Context.step s.context := by
  induction steps generalizing s with
  | nil => rfl
  | cons step rest ih =>
      refine (ih (s.after step)).trans ?_
      rw [context_after, List.filterMap_cons]
      cases step.contextChange? with
      | none => rfl
      | some changes => rfl

/-! The book. -/

/-- A step that succeeds does the same to the book of another session with that book. -/
theorem Moved.book_after {step : Step} {next : Session} (hmoved : s.Moved step next)
    (h : s.book = t.book) : (t.after step).book = next.book := by
  have hplace (index : Int) : t.place? index = s.place? index := by rw [place?, place?, h]
  cases hmoved with
  | added read => rw [after_of_moved (.added read), h]
  | patched place_eq spell_eq read =>
      rw [after_of_moved (.patched ((hplace _).trans place_eq) (h ▸ spell_eq) read), h]
  | contextChanged =>
      rw [after_changeContext]
      exact h.symm
  | kept filter => rw [after_of_moved (.kept filter), h]
  | analyzed | compared | ranked =>
      refine (congrArg Session.book (after_of_isQuestion ?_)).trans h.symm
      trivial

/-- Sessions with the same book have the same book after a step, whatever their contexts are. -/
theorem book_after_congr (h : s.book = t.book) (step : Step) :
    (s.after step).book = (t.after step).book := by
  rcases s.moved_or_failed step with hs | ⟨-, hs⟩
  · exact (hs.book_after h).symm
  · rcases t.moved_or_failed step with ht | ⟨-, ht⟩
    · exact ht.book_after h.symm
    · rw [hs, ht, h]

theorem book_run_congr (h : s.book = t.book) (steps : List Step) :
    (s.run steps).book = (t.run steps).book := by
  induction steps generalizing s t with
  | nil => exact h
  | cons step rest ih => exact ih (book_after_congr h step)

theorem after_add (s : Session) (record : Value) : s.after (.add record) =
    { s with book := s.book ++ (Spell.read record).value?.toList } := by
  cases hread : Spell.read record with
  | ok spell => exact after_of_moved (.added hread)
  | refused problems =>
      have hfault : s.next? (.add record) = .error (.invalid problems) := by
        rw [next?, add, hread]
        rfl
      rw [after_of_error hfault]
      exact congrArg (Session.mk · s.context) (List.append_nil s.book).symm

/-- Adding records puts those behind the book that are read, in their order. -/
theorem book_run_add (s : Session) (records : List Value) :
    (s.run (records.map .add)).book =
      s.book ++ records.filterMap fun record => (Spell.read record).value? := by
  induction records generalizing s with
  | nil => exact (List.append_nil s.book).symm
  | cons record rest ih =>
      refine (ih (s.after (.add record))).trans ?_
      rw [after_add, List.filterMap_cons, List.append_assoc]
      cases (Spell.read record).value? with
      | none => rfl
      | some spell => rfl

/-- Records that a file can be loaded from give the same spells when they are added. -/
theorem book_run_add_of_readSpells {number : Nat} {records : List Value} {spells : List Spell}
    (h : Library.readSpells number records = .ok spells) (s : Session) :
    (s.run (records.map .add)).book = s.book ++ spells := by
  rw [book_run_add]
  congr 1
  have hall := Library.readSpells_eq_ok_iff.1 h
  clear h
  induction hall with
  | nil => rfl
  | cons hread _ ih =>
      rw [List.filterMap_cons, Checked.value?_eq_some_iff.2 hread]
      exact congrArg _ ih

/-- If every spell of the book was read from fields, so is every spell after a run. A spell that
is changed is read again as a whole. -/
theorem read_of_mem_book_run (hs : ∀ spell ∈ s.book, ∃ fields, Spell.readFields fields = .ok spell)
    (steps : List Step) :
    ∀ spell ∈ (s.run steps).book, ∃ fields, Spell.readFields fields = .ok spell := by
  refine run_induction (P := fun s => ∀ spell ∈ s.book, ∃ fields,
    Spell.readFields fields = .ok spell) hs ?_ steps
  intro before step next hbefore hmoved
  cases hmoved with
  | @added record spell hread =>
      refine List.forall_mem_append.2 ⟨hbefore, List.forall_mem_singleton.2 ?_⟩
      cases record with
      | object fields => exact ⟨fields, hread⟩
      | _ => exact nomatch hread
  | patched _ _ hread =>
      intro spell hmem
      rcases List.mem_or_eq_of_mem_set hmem with hmem | rfl
      · exact hbefore spell hmem
      · exact ⟨_, hread⟩
  | kept filter => exact fun spell hmem => hbefore spell (List.mem_of_mem_filter hmem)
  | _ => exact hbefore

end ExpectedDamage.Session
