import StorageMetadata.Proofs.Resource.Codec
import StorageMetadata.Proofs.Time.Grammar

/-!
# Which values are read as an instant

`Value.NamesInstant` lists the values of a document that name an instant: the texts that are
timestamps.  The instant is a whole number of milliseconds, the last one that is not later than what
the timestamp says.  These are read as the instant,

    readInstant field v = .ok n ↔ v.NamesInstant n,

and every other value is refused, with the field that it was at.
-/

namespace StorageMetadata

namespace Value

/-- The instant that a value names, in milliseconds. -/
inductive NamesInstant : Value → Int → Prop
  | text {s : String} {t : Int} (named : Timestamp.Names t s.toList) :
      NamesInstant (.text s) (t / 1000)

theorem namesInstant_iff {v : Value} {n : Int} : v.NamesInstant n ↔ v.instant? = some n := by
  constructor
  · rintro ⟨named⟩
    exact Timestamp.read?_eq_some_iff.2 ⟨_, named, rfl⟩
  · intro h
    cases v with
    | text s =>
      obtain ⟨t, named, rfl⟩ := Timestamp.read?_eq_some_iff.1 h
      exact .text named
    | _ => cases h

theorem exists_namesInstant_iff {v : Value} : (∃ n, v.NamesInstant n) ↔ v.instant?.isSome := by
  simp only [namesInstant_iff, Option.isSome_iff_exists]

instance (v : Value) : Decidable (∃ n, v.NamesInstant n) :=
  decidable_of_iff _ exists_namesInstant_iff.symm

end Value

namespace Resource

open StorageMetadata.Value

/-- A value is read as the instant that it names, and only then. -/
theorem readInstant_eq_ok_iff {field : String} {v : Value} {n : Int} :
    readInstant field v = .ok n ↔ v.NamesInstant n := by
  rw [namesInstant_iff]
  cases v with
  | text s =>
    rw [readInstant, instant?]
    cases Timestamp.read? s with
    | none => constructor <;> intro h <;> cases h
    | some m =>
      constructor
      · intro h
        cases h
        rfl
      · intro h
        cases h
        rfl
  | _ => constructor <;> intro h <;> cases h

/-- A field holds the instant that its entry names. -/
theorem optional_read_instant {v : Value} {n : Int} (h : v.instant? = some n) (field : String) :
    (Form.instant field).optional.read (some v) = .ok (.int n) := by
  have some : v ≠ .null := by
    rintro rfl
    cases h
  simp only [Form.optional, Form.instant, Option.getD_some, if_neg some,
    readInstant_eq_ok_iff.2 (namesInstant_iff.2 h)]
  rfl

/-- What is read as an instant is one that its entry names, and it is stamped again. -/
theorem namesInstant_of_decode (field : String) (v w : Value)
    (h : (Form.instant field).decode v = .ok w) :
    ∃ n, v.NamesInstant n ∧ (Form.instant field).normal v = .text (Timestamp.write n) := by
  obtain ⟨n, hn, -⟩ := Result.map_eq_ok_iff.1 h
  have named := readInstant_eq_ok_iff.1 hn
  refine ⟨n, named, ?_⟩
  simp only [Form.instant, timestampText, namesInstant_iff.1 named]

end Resource

end StorageMetadata
