import Mathlib.Data.List.Basic
import StorageMetadata.Access.Entity

/-!
# Spellings of entities

The spelling of an entity is recognized as that entity, unless the entity was kept as it is
spelled; what is kept that way has to be of no known shape to stay what it is.  `Entity.Settled`
says this of an entity, and

    ofSpelling e.spelling = e

holds of the settled entities.  Reading a text always gives a settled entity, so a text that is read
and spelled again is read as the same entity ever after.
-/

namespace StorageMetadata.Entity

/-! ### Beginnings -/

theorem isPrefixOf?_eq_some_iff {front cs rest : List Char} :
    front.isPrefixOf? cs = some rest ↔ cs = front ++ rest := by
  induction front generalizing cs with
  | nil => simp [List.isPrefixOf?]
  | cons c front ih =>
    cases cs with
    | nil => simp [List.isPrefixOf?]
    | cons d cs =>
      by_cases h : c = d
      · simp [List.isPrefixOf?, h, ih]
      · simp [List.isPrefixOf?, h, Ne.symm h]

theorem after?_eq_some_iff {start s rest : String} :
    after? start s = some rest ↔ s = start ++ rest := by
  rw [after?, Option.map_eq_some_iff]
  constructor
  · rintro ⟨cs, hcs, rfl⟩
    rw [isPrefixOf?_eq_some_iff] at hcs
    rw [← String.toList_inj, String.toList_append, String.toList_ofList]
    exact hcs
  · rintro rfl
    refine ⟨rest.toList, ?_, String.ofList_toList⟩
    rw [isPrefixOf?_eq_some_iff, String.toList_append]

/-- A text does not begin with `start` if its own first letter differs. -/
theorem after?_eq_none {start front : String} {c d : Char} (hs : start.toList.head? = some c)
    (hf : front.toList.head? = some d) (hne : c ≠ d) (rest : String) :
    after? start (front ++ rest) = none := by
  rw [Option.eq_none_iff_forall_ne_some]
  intro s hs'
  rw [after?_eq_some_iff, ← String.toList_inj, String.toList_append, String.toList_append] at hs'
  have heads := congrArg List.head? hs'
  rw [List.head?_append, List.head?_append, hs, hf] at heads
  exact hne (Option.some.inj heads).symm

/-- A text of another shape is none of the two names that stand for everybody. -/
theorem isPublic_append (front : String) {d : Char} (hf : front.toList.head? = some d)
    (hne : d ≠ 'a') (rest : String) : isPublic (front ++ rest) = false := by
  have head : (front ++ rest).toList.head? = some d := by
    rw [String.toList_append, List.head?_append, hf, Option.some_or]
  simp only [isPublic, Bool.or_eq_false_iff, decide_eq_false_iff_not]
  constructor
  all_goals
    intro h
    rw [h] at head
    exact hne (Option.some.inj head).symm

/-! ### Known shapes -/

/-- The name of a team is told from what follows the dash. -/
theorem teamAndId?_name (t : Team) (id : String) :
    teamAndId? (t.name ++ "-" ++ id) = some (t, id) := by
  have letters : (t.name.toList.all fun c => decide (c ≠ '-')) = true := by cases t <;> rfl
  have word := List.all_eq_true.1 letters
  have named : Team.ofName? (Text.lower t.name) = some t := by cases t <;> rfl
  have text : (t.name ++ "-" ++ id).toList = t.name.toList ++ '-' :: id.toList := by
    simp [String.toList_append]
  unfold teamAndId? guard
  simp only [text, List.takeWhile_append_of_pos word, List.dropWhile_append_of_pos word]
  simp [named]

/-- Is the entity spelled in a shape that is recognized? -/
def IsKnown : Entity String → Prop
  | raw _ => False
  | _ => True

theorem ofSpelling?_spelling {e : Entity String} (h : e.IsKnown) :
    ofSpelling? e.spelling = some e := by
  -- The shapes are tried in order, so each spelling has to be none of the shapes before its own.
  cases e with
  | user name =>
    cases hp : isPublic name with
    | true =>
      -- A user who stands for everybody is spelled without a beginning.
      have plain : after? "user-" name = none := by
        simp only [isPublic, Bool.or_eq_true, decide_eq_true_eq] at hp
        rcases hp with rfl | rfl <;> rfl
      simp [spelling, ofSpelling?, hp, plain]
    | false =>
      have found : after? "user-" ("user-" ++ name) = some name := after?_eq_some_iff.2 rfl
      simp [spelling, ofSpelling?, hp, found]
  | group name =>
    have other : after? "user-" ("group-" ++ name) = none := after?_eq_none rfl rfl (by decide) name
    have single := isPublic_append "group-" rfl (by decide) name
    have found : after? "group-" ("group-" ++ name) = some name := after?_eq_some_iff.2 rfl
    simp [spelling, ofSpelling?, other, single, found]
  | domain name =>
    have other : after? "user-" ("domain-" ++ name) = none :=
      after?_eq_none rfl rfl (by decide) name
    have other' : after? "group-" ("domain-" ++ name) = none :=
      after?_eq_none rfl rfl (by decide) name
    have single := isPublic_append "domain-" rfl (by decide) name
    have found : after? "domain-" ("domain-" ++ name) = some name := after?_eq_some_iff.2 rfl
    simp [spelling, ofSpelling?, other, other', single, found]
  | project team id =>
    have text : "project-" ++ team.name ++ "-" ++ id = "project-" ++ (team.name ++ "-" ++ id) := by
      simp only [String.append_assoc]
    have other : after? "user-" ("project-" ++ (team.name ++ "-" ++ id)) = none :=
      after?_eq_none rfl rfl (by decide) _
    have other' : after? "group-" ("project-" ++ (team.name ++ "-" ++ id)) = none :=
      after?_eq_none rfl rfl (by decide) _
    have other'' : after? "domain-" ("project-" ++ (team.name ++ "-" ++ id)) = none :=
      after?_eq_none rfl rfl (by decide) _
    have single := isPublic_append "project-" rfl (by decide) (team.name ++ "-" ++ id)
    have found : after? "project-" ("project-" ++ (team.name ++ "-" ++ id)) =
        some (team.name ++ "-" ++ id) := after?_eq_some_iff.2 rfl
    simp only [spelling, text, ofSpelling?, other, other', other'', single, found, teamAndId?_name]
    rfl
  | raw s => exact absurd h id

theorem isKnown_of_ofSpelling? {s : String} {e : Entity String} (h : ofSpelling? s = some e) :
    e.IsKnown := by
  unfold ofSpelling? at h
  split at h
  · cases h; trivial
  split at h
  · cases h; trivial
  split at h
  · cases h; trivial
  split at h
  · cases h; trivial
  split at h
  · obtain ⟨p, -, rfl⟩ := Option.map_eq_some_iff.1 h
    trivial
  · cases h

/-! ### Settled entities -/

/-- Is the entity the one that its spelling is read as?  An entity that was kept as it is spelled
has to be of no known shape. -/
def Settled : Entity String → Prop
  | raw s => ofSpelling? s = none
  | _ => True

theorem settled_ofSpelling (s : String) : (ofSpelling s).Settled := by
  unfold ofSpelling
  cases h : ofSpelling? s with
  | none => exact h
  | some e =>
    have known := isKnown_of_ofSpelling? h
    cases e with
    | raw s => exact absurd known id
    | _ => trivial

/-- **A settled entity is read back** from its spelling. -/
theorem ofSpelling_spelling {e : Entity String} (h : e.Settled) : ofSpelling e.spelling = e := by
  unfold ofSpelling
  cases e with
  | raw s =>
    have none : ofSpelling? (raw s).spelling = none := h
    rw [none]
    rfl
  | _ =>
    rw [ofSpelling?_spelling]
    · rfl
    · trivial

end StorageMetadata.Entity
