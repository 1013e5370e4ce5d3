import StorageMetadata.Proofs.Bucket.Comparison
import StorageMetadata.Proofs.Object.Comparison

/-!
# Equality of objects and of buckets

Records with values of the declared types are equal exactly if they agree in every field.  So
equality is reflexive, symmetric and transitive, and equal records have equal fingerprints.
-/

namespace StorageMetadata

open StorageMetadata.Resource StorageMetadata.Value

/-- **Two objects are equal exactly if they agree in every field, and so are two buckets.** -/
theorem same_iff_agree :
    IsEquality Object.same Object.fingerprint?
        (fun o => ∀ f : Object.Field, f.Declared (o.toDraft.get f))
        (fun a b => ∀ f : Object.Field, f.Agrees (a.toDraft.get f) (b.toDraft.get f)) ∧
      IsEquality Bucket.same Bucket.fingerprint?
        (fun b => ∀ f : Bucket.Field, f.Declared (b.toDraft.get f))
        (fun a b => ∀ f : Bucket.Field, f.Agrees (a.toDraft.get f) (b.toDraft.get f)) :=
  ⟨Object.isEquality_same, Bucket.isEquality_same⟩

namespace Object

/-- An object of a user, with two texts of the user's. -/
def survey : Object where
  bucket := "surveys"
  name := "survey.csv"
  size := .int 12
  owner := .entity (.user "ana@example.com")
  metadata := .map [("unit", "m"), ("team", "north")]
  contentType := .cleared
  bucket_ne_null := Value.noConfusion
  name_ne_null := Value.noConfusion

/-- The same object, with its owner as it is spelled and the texts in another order. -/
def surveyAgain : Object where
  bucket := "surveys"
  name := "survey.csv"
  size := .int 12
  owner := .entity (.raw "user-ana@example.com")
  metadata := .map [("team", "north"), ("unit", "m")]
  contentType := .cleared
  bucket_ne_null := Value.noConfusion
  name_ne_null := Value.noConfusion

theorem declared_survey (f : Field) : f.Declared (survey.toDraft.get f) := by
  cases f with
  | bucket | name => exact ⟨_, rfl⟩
  | size => exact Or.inr ⟨_, rfl, by decide⟩
  | owner => exact Or.inr ⟨.user "ana@example.com", rfl⟩
  | metadata =>
    refine Or.inr ⟨_, rfl, ?_, by decide⟩
    simp [AreTexts, IsText]
  | contentType => exact Or.inr (Or.inl rfl)
  | _ => exact Or.inl rfl

theorem declared_surveyAgain (f : Field) : f.Declared (surveyAgain.toDraft.get f) := by
  cases f with
  | owner => exact Or.inr ⟨.raw "user-ana@example.com", rfl⟩
  | metadata =>
    refine Or.inr ⟨_, rfl, ?_, by decide⟩
    simp [AreTexts, IsText]
  | bucket => exact declared_survey .bucket
  | name => exact declared_survey .name
  | size => exact declared_survey .size
  | contentType => exact declared_survey .contentType
  | _ => exact Or.inl rfl

theorem agrees_survey (f : Field) :
    f.Agrees (survey.toDraft.get f) (surveyAgain.toDraft.get f) := by
  cases f with
  | owner =>
    exact Or.inr ⟨Value.noConfusion, Value.noConfusion, .user "ana@example.com",
      .raw "user-ana@example.com", rfl, rfl, rfl⟩
  | acl => exact Or.inl ⟨rfl, rfl⟩
  | metadata =>
    refine Or.inr ⟨Value.noConfusion, Value.noConfusion, _, _, rfl, rfl, fun key => ?_⟩
    by_cases unit : "unit" = key
    · subst unit
      rfl
    · by_cases team : "team" = key
      · subst team
        rfl
      · simp [valueAt?_cons, unit, team]
  | _ => rfl

/-- Equal objects need not hold the same in every field. -/
theorem same_survey_surveyAgain :
    (∀ f : Field, f.Declared (survey.toDraft.get f)) ∧
      (∀ f : Field, f.Declared (surveyAgain.toDraft.get f)) ∧
      survey.same surveyAgain = .ok true ∧ survey.fingerprint? = surveyAgain.fingerprint? := by
  have tells := same_iff_agree.1.tells survey surveyAgain declared_survey declared_surveyAgain
  have same := tells.eq_true_iff.2 agrees_survey
  obtain ⟨print, first, second⟩ := same_iff_agree.1.fingerprint survey surveyAgain declared_survey
    declared_surveyAgain same
  exact ⟨declared_survey, declared_surveyAgain, same, first.trans second.symm⟩

end Object

end StorageMetadata
