import StorageMetadata.Proofs.Json.Reader
import StorageMetadata.Proofs.Number.Binary64
import StorageMetadata.Proofs.Number.Numeral
import StorageMetadata.Proofs.Resource.Codec

/-!
# Which values are read as an integer

`Value.StandsFor` lists the values of a document that stand for an integer: the integer itself, a
number of 64 bits with that value, and a text that is a numeral for it.  These are read as the integer,

    readInteger field v = .ok n ↔ v.StandsFor n,

and every other value is refused, with the field that it was at.  So the three ways to put an integer
into a resource come to the same.
-/

namespace StorageMetadata

namespace Value

/-- The integer that a value stands for.  Neither a truth value nor nothing stands for one. -/
inductive StandsFor : Value → Int → Prop
  | int (n : Int) : StandsFor (.int n) n
  | float {x : Binary64} {n : Int} (value : x.rational? = some (n : ℚ)) : StandsFor (.float x) n
  | text {s : String} {n : Int} (numeral : Decimal.Numeral s.toList n) : StandsFor (.text s) n

theorem standsFor_iff {v : Value} {n : Int} : v.StandsFor n ↔ v.integer? = some n := by
  constructor
  · intro h
    cases h with
    | int => rfl
    | float value => exact Binary64.toInt?_eq_some_iff.2 value
    | text numeral => exact Decimal.read?_eq_some_iff.2 numeral
  · intro h
    cases v with
    | int m =>
      cases h
      exact .int n
    | float x => exact .float (Binary64.toInt?_eq_some_iff.1 h)
    | text s => exact .text (Decimal.read?_eq_some_iff.1 h)
    | _ => cases h

theorem exists_standsFor_iff {v : Value} : (∃ n, v.StandsFor n) ↔ v.integer?.isSome := by
  simp only [standsFor_iff, Option.isSome_iff_exists]

instance (v : Value) : Decidable (∃ n, v.StandsFor n) := decidable_of_iff _ exists_standsFor_iff.symm

end Value

namespace Resource

open StorageMetadata.Value

/-- A value is read as the integer that it stands for, or refused with its field. -/
theorem readInteger_cases (field : String) (v : Value) :
    (∃ n, v.integer? = some n ∧ readInteger field v = .ok n) ∨
      (v.integer? = none ∧ ∃ cause, readInteger field v = .error (notAnInteger field v cause)) := by
  cases v with
  | int n => exact Or.inl ⟨n, rfl, rfl⟩
  | text s =>
    rw [readInteger, integer?]
    cases Decimal.read? s with
    | none => exact Or.inr ⟨rfl, _, rfl⟩
    | some n => exact Or.inl ⟨n, rfl, rfl⟩
  | float x =>
    rw [readInteger, integer?]
    cases x.toInt? with
    | none => exact Or.inr ⟨rfl, _, rfl⟩
    | some n => exact Or.inl ⟨n, rfl, rfl⟩
  | _ => exact Or.inr ⟨rfl, _, rfl⟩

theorem readInteger_eq_ok_iff {field : String} {v : Value} {n : Int} :
    readInteger field v = .ok n ↔ v.StandsFor n := by
  rw [standsFor_iff]
  constructor
  · exact Form.integer?_of_readInteger
  · intro h
    obtain ⟨m, hm, read⟩ | ⟨none, -⟩ := readInteger_cases field v
    · rw [hm] at h
      cases h
      exact read
    · rw [none] at h
      cases h

/-- What is read as an integer is one that its entry stands for, and it is written in decimal. -/
theorem standsFor_of_decode (field : String) (v w : Value)
    (h : (Form.integer field).decode v = .ok w) :
    ∃ n, v.StandsFor n ∧ (Form.integer field).normal v = .text (Decimal.write n) := by
  obtain ⟨n, hn, -⟩ := Result.map_eq_ok_iff.1 h
  have stands := readInteger_eq_ok_iff.1 hn
  refine ⟨n, stands, ?_⟩
  simp only [Form.integer, decimalText, standsFor_iff.1 stands]

/-- **What is read as an integer is what stands for one.**  Every other value of a document is refused
with its field.  What is written for an integer is read as it, and so are the integer itself and the
number of 64 bits that is equal to it, if there is one. -/
theorem readInteger_by_kind (field : String) (v : Value) :
    (∀ n, readInteger field v = .ok n ↔ v.StandsFor n) ∧
    (v.IsDocument → (∀ n, ¬v.StandsFor n) →
      ∃ cause, readInteger field v = .error (.wireFormat .integer field v cause)) ∧
    ∀ n, Decimal.Fits n →
      (∃ s, writeInteger (.int n) = .ok (.text s) ∧ readInteger field (.text s) = .ok n) ∧
      readInteger field (.int n) = .ok n ∧
      ∀ x : Binary64, x.rational? = some (n : ℚ) → readInteger field (.float x) = .ok n := by
  refine ⟨?read, ?refused, ?written⟩
  case read =>
    intro n
    exact readInteger_eq_ok_iff
  case refused =>
    intro _ other
    obtain ⟨n, stands, -⟩ | ⟨-, refused⟩ := readInteger_cases field v
    · exact absurd (standsFor_iff.2 stands) (other n)
    · exact refused
  case written =>
    intro n fits
    refine ⟨⟨Decimal.write n, rfl, ?_⟩, rfl, ?_⟩
    · rw [readInteger, Decimal.read?_write fits]
    · intro x value
      exact readInteger_eq_ok_iff.2 (.float value)

/-- A numeral with blanks, a sign, an underscore and digits of three scripts; a list with a numeral in
it, which is no numeral; and two thousand and forty-eight in three ways. -/
theorem readInteger_of_many_kinds :
    readInteger "size" (.text "\u3000-1٠_２\n") = .ok (-102) ∧
      (∃ cause, readInteger "size" (.list [.text "2048"]) =
        .error (.wireFormat .integer "size" (.list [.text "2048"]) cause)) ∧
      readInteger "size" (.text "2048") = .ok 2048 ∧ readInteger "size" (.int 2048) = .ok 2048 ∧
      readInteger "size" (.float (.finite false (2 ^ 52) (-41))) = .ok 2048 := by
  have fits : Decimal.Fits 2048 := by decide
  obtain ⟨⟨s, wrote, text⟩, int, float⟩ := (readInteger_by_kind "size" .null).2.2 2048 fits
  have document : IsDocument (.list [.text "2048"]) := .list fun v hv => by
    cases List.mem_singleton.1 hv
    exact .text _
  have other : ∀ n, ¬(Value.list [.text "2048"]).StandsFor n := by
    intro n h
    cases h
  refine ⟨((readInteger_by_kind "size" _).1 _).2 (.text ?_),
    (readInteger_by_kind "size" _).2.1 document other, ?_, int, float _ ?_⟩
  · exact ⟨['\u3000'], ['-'], ['1', '٠', '_', '２'], ['\n'], true, [1, 0, 2], rfl,
      ⟨List.all_eq_true.1 (by decide), List.all_eq_true.1 (by decide)⟩, .minus,
      .next (by decide) (.underscore (by decide) (.last (by decide))), by decide, rfl⟩
  · cases wrote
    exact text
  · norm_num [Binary64.rational?, Binary64.sign]

end Resource

end StorageMetadata
