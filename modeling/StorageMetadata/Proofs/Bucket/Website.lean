import StorageMetadata.Bucket.Resource
import StorageMetadata.Proofs.Resource.Field

/-!
# The website of a bucket

The two pages of a website share a section of a bucket's resource, which is there if at least one of
them is.  The section is seen here as one field that holds the list of both pages.  There are many
ways to say that there is no page: no section, a section that holds nothing, one without entries,
and one with entries that hold nothing.  Only the first is written.
-/

namespace StorageMetadata.Bucket

open StorageMetadata.Resource StorageMetadata.Value

/-- The section with the two pages, if there is a page. -/
def websiteSection (index missing : Value) : Option Value :=
  present (sectionOf (entry "mainPageSuffix" index ++ entry "notFoundPage" missing))

/-- What is at a key of the section with the two pages. -/
def pageAt? (index missing : Value) (key : String) : Option Value :=
  (if "mainPageSuffix" = key then present index else none).or
    (if "notFoundPage" = key then present missing else none)

@[simp] theorem pageAt?_index (index missing : Value) :
    pageAt? index missing "mainPageSuffix" = present index := by
  rw [pageAt?, if_pos rfl, if_neg (by decide), Option.or_none]

@[simp] theorem pageAt?_missing (index missing : Value) :
    pageAt? index missing "notFoundPage" = present missing := by
  rw [pageAt?, if_neg (by decide), if_pos rfl, Option.none_or]

/-- The section is missing if there is no page, and otherwise holds each page at a key of its own. -/
theorem websiteSection_cases (index missing : Value) :
    (websiteSection index missing = none ∧ index = .null ∧ missing = .null) ∨
      ∃ es, websiteSection index missing = some (.map es) ∧ (es.map Prod.fst).Nodup ∧
        (index ≠ .null ∨ missing ≠ .null) ∧ ∀ key, valueAt? key es = pageAt? index missing key := by
  have found : ∀ key, valueAt? key (entry "mainPageSuffix" index ++ entry "notFoundPage" missing) =
      pageAt? index missing key := by
    intro key
    rw [valueAt?_append, entry_eq, entry_eq, valueAt?_slotEntry, valueAt?_slotEntry]
    rfl
  by_cases hi : index = .null <;> by_cases hm : missing = .null
  · exact Or.inl ⟨by rw [hi, hm]; rfl, hi, hm⟩
  all_goals
    refine Or.inr ⟨_, ?_, ?_, ?_, found⟩
    · simp [websiteSection, entry, hi, hm, sectionOf, present]
    · simp [entry, hi, hm]
    · simp [hi, hm]

/-- A website's section with nothing but its pages. -/
def normalWebsite : Option Value → Option Value
  | some (.map es) =>
    present (sectionOf (keptEntry "mainPageSuffix" es ++ keptEntry "notFoundPage" es))
  | _ => none

/-- The pages of the website, as one field. -/
def websiteCodec : Codec where
  read s := do
    let section? := s.getD .null
    if section? = .null then return .list [.null, .null]
    return .list [← section?.field "mainPageSuffix", ← section?.field "notFoundPage"]
  write
    | .list [index, missing] => .ok (websiteSection index missing)
    | _ => fault .mistyped
  Typed v := ∃ index missing, v = .list [index, missing] ∧ Optional IsText index ∧
    Optional IsText missing
  Admits := IsMapOf fun es => Optional IsText ((valueAt? "mainPageSuffix" es).getD .null) ∧
    Optional IsText ((valueAt? "notFoundPage" es).getD .null)
  normal := normalWebsite

theorem lawful_websiteCodec : websiteCodec.Lawful where
  read_write v := by
    rintro ⟨index, missing, rfl, hi, hm⟩
    refine ⟨websiteSection index missing, rfl, ?_⟩
    -- With both pages, with either of them, and with none, the section is read as it was put.
    rcases hi with rfl | ⟨i, rfl⟩ <;> rcases hm with rfl | ⟨m, rfl⟩ <;> rfl
  write_read s v hs hr _ := by
    by_cases none : s.getD .null = .null
    · have pages : websiteCodec.read s = .ok (.list [.null, .null]) := by
        simp only [websiteCodec, if_pos none]
        rfl
      cases pages.symm.trans hr
      refine ⟨⟨.null, .null, rfl, Or.inl rfl, Or.inl rfl⟩, ?_⟩
      rcases s with _ | w
      · rfl
      · obtain rfl : w = .null := none
        rfl
    · obtain ⟨es, hes, hi, hm⟩ := hs.resolve_left none
      obtain rfl : s = some (.map es) := eq_some_of_getD hes none
      cases hr
      refine ⟨⟨_, _, rfl, hi, hm⟩, ?_⟩
      simp only [websiteCodec, websiteSection, normalWebsite, entry_eq, keptEntry, held]

end StorageMetadata.Bucket
