import StorageMetadata.Proofs.Bucket.Layout
import StorageMetadata.Proofs.Builder.Records
import StorageMetadata.Proofs.Object.Layout

/-!
# What a change of one field changes

A record that is copied with one change differs from the original in that field only, and so do the
resources, if both records can be written: away from the key of the field,

    B.change x f v = .ok y → k ≠ key f → r.at? k = s.at? k.

The two pages of a bucket's website share a key.  There the change of one page leaves the entry of
the other alone, and the section is there as long as there is a page.
-/

namespace StorageMetadata

open StorageMetadata.Resource StorageMetadata.Value

/-- What is at a key of a map. -/
def Value.at? (key : String) : Value → Option Value
  | .map es => valueAt? key es
  | _ => none

namespace Builder

variable {ι δ ρ : Type} {B : Builder ι δ ρ}

/-- Does a change of one field show at the key of that field only? -/
def Frames (B : Builder ι δ ρ) (encode : ρ → Result Value) (key : ι → String) : Prop :=
  ∀ x f v y r s, B.change x f v = .ok y → encode x = .ok r → encode y = .ok s →
    ∀ k, k ≠ key f → r.at? k = s.at? k

/-- Every field but the one that was changed is as it was. -/
theorem Copies.part_of_change (copies : B.Copies) {x y : ρ} {f : ι} {v : Value}
    (h : B.change x f v = .ok y) {g : ι} (hg : g ≠ f) : B.part y g = B.part x g := by
  rcases filled : (B.fill f v).after B.empty with ⟨e | _, d⟩
  · have refused := copies.refused x f v B.empty d e filled
    rw [h] at refused
    cases refused
  · obtain ⟨z, hz, -, there⟩ := copies.changed x f v B.empty d filled
    rw [h] at hz
    cases hz
    exact there g hg

/-- In a layout each of whose parts depends on the fields of its own, a change of one field shows at
the key of its part only. -/
theorem Copies.frames {κ : Type} {L : Layout κ} {encode : ρ → Result Value} {part : ρ → κ → Value}
    (copies : B.Copies) (slot : ι → κ)
    (writes : ∀ {x r}, encode x = .ok r → ∃ es, r = .map es ∧ L.Writes (part x) es)
    (apart : ∀ {x y f}, (∀ g, g ≠ f → B.part y g = B.part x g) →
      ∀ k, k ≠ slot f → part x k = part y k) :
    B.Frames encode fun f => L.key (slot f) := by
  intro x f v y r s changed hr hs k hk
  obtain ⟨es, rfl, writesX⟩ := writes hr
  obtain ⟨fs, rfl, writesY⟩ := writes hs
  exact writesX.valueAt?_congr writesY (apart fun g hg => copies.part_of_change changed hg) hk

end Builder

/-! ### Objects and rules -/

theorem Object.frames : Object.builder.Frames Object.encode Object.Field.key :=
  Object.lawful_builder.copies.frames id Object.writes_of_encode
    fun same k hk => (same k hk).symm

theorem CorsRule.frames : CorsRule.builder.Frames CorsRule.encode CorsRule.Field.key :=
  CorsRule.lawful_builder.copies.frames id CorsRule.writes_of_encode
    fun same k hk => (same k hk).symm

/-! ### Buckets -/

namespace Bucket

/-- The key at which a field is kept. -/
def Field.key : Field → Key
  | .name => .name
  | .id => .id
  | .selfLink => .selfLink
  | .owner => .owner
  | .etag => .etag
  | .location => .location
  | .storageClass => .storageClass
  | .versioningEnabled => .versioning
  | .indexPage | .notFoundPage => .website
  | .createTime => .timeCreated
  | .metageneration => .metageneration
  | .cors => .cors
  | .acl => .acl
  | .defaultAcl => .defaultObjectAcl

/-- The entry of a page in the section of the website. -/
def Field.page? : Field → Option String
  | .indexPage => some "mainPageSuffix"
  | .notFoundPage => some "notFoundPage"
  | _ => none

theorem part_eq_of_get_eq {x y : Bucket} {f : Field}
    (same : ∀ g, g ≠ f → y.toDraft.get g = x.toDraft.get g) (k : Key) (hk : k ≠ f.key) :
    x.toDraft.part k = y.toDraft.part k := by
  have kept : ∀ g : Field, g.key = k → x.toDraft.get g = y.toDraft.get g := by
    rintro g rfl
    exact (same g fun e => hk (congrArg Field.key e)).symm
  cases k with
  | name => exact kept .name rfl
  | id => exact kept .id rfl
  | selfLink => exact kept .selfLink rfl
  | owner => exact kept .owner rfl
  | etag => exact kept .etag rfl
  | location => exact kept .location rfl
  | storageClass => exact kept .storageClass rfl
  | versioning => exact kept .versioningEnabled rfl
  | website =>
    show Value.list [x.toDraft.get .indexPage, x.toDraft.get .notFoundPage] = _
    rw [kept .indexPage rfl, kept .notFoundPage rfl]
    rfl
  | timeCreated => exact kept .createTime rfl
  | metageneration => exact kept .metageneration rfl
  | cors => exact kept .cors rfl
  | acl => exact kept .acl rfl
  | defaultObjectAcl => exact kept .defaultAcl rfl

theorem frames : builder.Frames encode fun f => f.key.text :=
  lawful_builder.copies.frames Field.key writes_of_encode part_eq_of_get_eq

/-- What is written of the website. -/
theorem website_of_encode {b : Bucket} {r : Value} (h : b.encode = .ok r) :
    r.at? "website" = websiteSection b.indexPage b.notFoundPage := by
  obtain ⟨es, rfl, writes⟩ := writes_of_encode h
  exact (Except.ok.inj (writes.write_eq .website)).symm

theorem isSome_websiteSection (index missing : Value) :
    (websiteSection index missing).isSome ↔ index ≠ .null ∨ missing ≠ .null := by
  rcases websiteSection_cases index missing with ⟨hs, hi, hm⟩ | ⟨es, hs, -, some, -⟩
  · rw [hs]
    simp [hi, hm]
  · simp [hs, some]

theorem websiteSection_bind_at? (index missing : Value) (key : String) :
    (websiteSection index missing).bind (at? key) = pageAt? index missing key := by
  rcases websiteSection_cases index missing with ⟨hs, rfl, rfl⟩ | ⟨es, hs, -, -, found⟩
  · simp [hs, pageAt?, present]
  · rw [hs, ← found key]
    rfl

/-- A change of one page leaves the entry of the other alone. -/
theorem website_of_change {x y : Bucket} {f : Field} {v r s : Value} {page : String}
    (changed : builder.change x f v = .ok y) (hr : x.encode = .ok r) (hs : y.encode = .ok s)
    (hpage : f.page? = some page) {key : String} (hkey : key ≠ page) :
    (r.at? "website").bind (at? key) = (s.at? "website").bind (at? key) := by
  have same : ∀ g, g ≠ f → y.toDraft.get g = x.toDraft.get g :=
    fun g hg => lawful_builder.copies.part_of_change changed hg
  rw [website_of_encode hr, website_of_encode hs, websiteSection_bind_at?, websiteSection_bind_at?]
  cases f with
  | indexPage =>
    cases hpage
    have kept : y.notFoundPage = x.notFoundPage := same .notFoundPage Field.noConfusion
    simp only [pageAt?, if_neg hkey.symm, kept]
  | notFoundPage =>
    cases hpage
    have kept : y.indexPage = x.indexPage := same .indexPage Field.noConfusion
    simp only [pageAt?, if_neg hkey.symm, kept]
  | _ => cases hpage

end Bucket

/-! ### All three -/

namespace Builder

/-- **A copy is the record itself, and a change of one field changes that field alone**, in the
record and in its resource. -/
theorem copies_with_one_change :
    (Object.builder.Copies ∧ Bucket.builder.Copies ∧ CorsRule.builder.Copies) ∧
      (Object.builder.Frames Object.encode Object.Field.key ∧
        Bucket.builder.Frames Bucket.encode (fun f => f.key.text) ∧
        CorsRule.builder.Frames CorsRule.encode CorsRule.Field.key) ∧
      (∀ x f v y r s page, Bucket.builder.change x f v = .ok y → x.encode = .ok r →
        y.encode = .ok s → Bucket.Field.page? f = some page → ∀ key, key ≠ page →
          (r.at? "website").bind (at? key) = (s.at? "website").bind (at? key)) ∧
      ∀ (b : Bucket) r, b.encode = .ok r →
        ((r.at? "website").isSome ↔ b.indexPage ≠ .null ∨ b.notFoundPage ≠ .null) := by
  refine ⟨⟨Object.lawful_builder.copies, Bucket.lawful_builder.copies,
    CorsRule.lawful_builder.copies⟩, ⟨Object.frames, Bucket.frames, CorsRule.frames⟩, ?_, ?_⟩
  · intro x f v y r s page changed hr hs hpage key hkey
    exact Bucket.website_of_change changed hr hs hpage hkey
  · intro b r hr
    rw [Bucket.website_of_encode hr, Bucket.isSome_websiteSection]

/-- A bucket with both pages of a website. -/
def site : Bucket where
  name := "site"
  indexPage := "index.html"
  notFoundPage := "404.html"
  acl := some []
  name_ne_null := Value.noConfusion

/-- Taking one page away leaves the other one, and the rest of the resource. -/
theorem copies_with_one_change_site :
    ∃ y r s, Bucket.builder.change site .indexPage .null = .ok y ∧
      site.encode = .ok r ∧ y.encode = .ok s ∧ y.indexPage = .null ∧
      r.at? "acl" = s.at? "acl" ∧
      (r.at? "website").bind (at? "notFoundPage") = (s.at? "website").bind (at? "notFoundPage") ∧
      (s.at? "website").isSome := by
  obtain ⟨⟨-, copies, -⟩, ⟨-, frames, -⟩, pages, website⟩ := copies_with_one_change
  obtain ⟨y, changed, index, same⟩ := copies.changed site .indexPage .null {} {} rfl
  obtain ⟨r, hr⟩ : ∃ r, site.encode = .ok r := ⟨_, rfl⟩
  obtain ⟨s, hs⟩ : ∃ s, y.encode = .ok s := by
    cases changed
    exact ⟨_, rfl⟩
  refine ⟨y, r, s, changed, hr, hs, index, ?_, ?_, ?_⟩
  · exact frames site .indexPage .null y r s changed hr hs "acl" (by decide)
  · exact pages site .indexPage .null y r s _ changed hr hs rfl "notFoundPage" (by decide)
  · have kept : y.notFoundPage = "404.html" := same .notFoundPage Bucket.Field.noConfusion
    exact (website y s hs).2 (Or.inr (kept ▸ Value.noConfusion))

end Builder

end StorageMetadata
