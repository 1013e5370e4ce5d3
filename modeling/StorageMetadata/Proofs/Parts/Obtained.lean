import StorageMetadata.CrossOrigin.Parts
import StorageMetadata.Proofs.Builder.Records
import StorageMetadata.Proofs.Parts.Read

/-!
# No value is obtained without its mandatory parts

`Obtained lax` lists the ways in which callers come by values, drafts and records: they have plain
values and put lists and maps of them together, they make entities, grants, origins and rules, they
give the fields of a record or read it from a resource, and they call builders in any order.  Each of
these refuses to make something of nothing where a part is mandatory, so that all that is obtained is
`Whole`.

There is one exception.  A project is made of whatever is given for its identifier, and of nothing
too.  If `lax` is false, that is not done, and then nothing that is obtained lacks a part.
-/

namespace StorageMetadata

open StorageMetadata.Resource StorageMetadata.Value StorageMetadata.Result Filling

/-! ### Types of records -/

/-- The types of records. -/
inductive RecordType where
  | object
  | bucket
  | rule
  deriving DecidableEq, Repr

namespace RecordType

def Field : RecordType → Type
  | object => Object.Field
  | bucket => Bucket.Field
  | rule => CorsRule.Field

def Draft : RecordType → Type
  | object => Object.Draft
  | bucket => Bucket.Draft
  | rule => CorsRule.Draft

def Record : RecordType → Type
  | object => Object
  | bucket => Bucket
  | rule => CorsRule Value

def builder : (t : RecordType) → Builder t.Field t.Draft t.Record
  | object => Object.builder
  | bucket => Bucket.builder
  | rule => CorsRule.builder

theorem lawful : (t : RecordType) → t.builder.LawfulCopy
  | object => Object.lawful_builder
  | bucket => Bucket.lawful_builder
  | rule => CorsRule.lawful_builder

/-- A record whose fields are given one by one. -/
def ofFields : (t : RecordType) → (t.Field → Value) → Result t.Record
  | object, given => do (← Object.Draft.ofFields given).build
  | bucket, given => do (← Bucket.Draft.ofFields given).build
  | rule, given => CorsRule.ofFields given

/-- The record that a resource stands for. -/
def decode : (t : RecordType) → Value → Result t.Record
  | object, v => (Object.decode v).result
  | bucket, v => (Bucket.decode v).result
  | rule, v => (CorsRule.decode v).result

/-- A record as a value, told from others by a label. -/
def value : (t : RecordType) → Nat → t.Record → Value
  | object, label, o => .record (Object.record label o)
  | bucket, label, b => .record (Bucket.record label b)
  | rule, _, r => .rule r

end RecordType

/-! ### Ways to obtain something -/

/-- What callers may have: a value, or a draft or a record of some type. -/
inductive Item where
  | value (v : Value)
  | draft (t : RecordType) (d : t.Draft)
  | record (t : RecordType) (r : t.Record)

/-- Can callers come by the item?  The identifier of a project is nothing only if `lax` is true. -/
inductive Obtained (lax : Prop) : Item → Prop
  | atom {v : Value} : v.IsAtom → Obtained lax (.value v)
  | list {items : List Value} : (∀ v ∈ items, Obtained lax (.value v)) →
    Obtained lax (.value (.list items))
  | map {es : List (String × Value)} : (∀ e ∈ es, Obtained lax (.value e.2)) →
    Obtained lax (.value (.map es))
  | keyed {es : List (Value × Value)} : (∀ e ∈ es, Obtained lax (.value e.1)) →
    (∀ e ∈ es, Obtained lax (.value e.2)) → Obtained lax (.value (.keyed es))
  | part {v w : Value} : Obtained lax (.value v) → Part w v → Obtained lax (.value w)
  -- Constructors and factories of what is in access lists and rules.
  | entity {make : Value → Entity Value} {v : Value} {e : Entity Value} :
    make ∈ [Entity.user, Entity.group, Entity.domain, Entity.raw] → Obtained lax (.value v) →
    Entity.ofPart make v = .ok e → Obtained lax (.value (.entity e))
  | project {team : Team} {id : Value} {e : Entity Value} : (id = .null → lax) →
    Obtained lax (.value id) → Entity.ofProject team id = .ok e → Obtained lax (.value (.entity e))
  | readEntity {v : Value} {e : Entity Value} : (Entity.decode v).result = .ok e →
    Obtained lax (.value (.entity e))
  | grant {entity : Value} {role : Option Role} {g : Grant Value} : Obtained lax (.value entity) →
    Grant.ofParts entity role = .ok g → Obtained lax (.value (.grant g))
  | readGrant {v : Value} {g : Grant Value} : (Grant.decode v).result = .ok g →
    Obtained lax (.value (.grant g))
  | origin {v : Value} {o : Origin Value} : Obtained lax (.value v) → Origin.of v = .ok o →
    Obtained lax (.value (.origin o))
  | unsharedOrigin {v : Value} {o : Origin Value} : Obtained lax (.value v) →
    Origin.unshared v = .ok o → Obtained lax (.value (.origin o))
  | composedOrigin {scheme host port : Value} {o : Origin Value} :
    Origin.ofParts scheme host port = .ok o → Obtained lax (.value (.origin o))
  -- Constructors, decoders and parts of records.
  | given {t : RecordType} {given : t.Field → Value} {r : t.Record} :
    (∀ f, Obtained lax (.value (given f))) → t.ofFields given = .ok r → Obtained lax (.record t r)
  | read {t : RecordType} {es : List (String × Value)} {r : t.Record} :
    Obtained lax (.value (.map es)) → t.decode (.map es) = .ok r → Obtained lax (.record t r)
  | field {t : RecordType} {r : t.Record} (f : t.Field) : Obtained lax (.record t r) →
    Obtained lax (.value (t.builder.part r f))
  | value {t : RecordType} {r : t.Record} (label : Nat) : Obtained lax (.record t r) →
    Obtained lax (.value (t.value label r))
  | rule {r : CorsRule Value} : Obtained lax (.value (.rule r)) → Obtained lax (.record .rule r)
  -- Builders: what comes of a call may be a failure, and the draft is there all the same.
  | empty (t : RecordType) : Obtained lax (.draft t t.builder.empty)
  | copy {t : RecordType} {r : t.Record} {d : t.Draft} : Obtained lax (.record t r) →
    (t.builder.refill r).after t.builder.empty = (.ok (), d) → Obtained lax (.draft t d)
  | fill {t : RecordType} {d : t.Draft} (f : t.Field) {v : Value} : Obtained lax (.draft t d) →
    Obtained lax (.value v) → Obtained lax (.draft t ((t.builder.fill f v).after d).2)
  | finish {t : RecordType} {d : t.Draft} {r : t.Record} : Obtained lax (.draft t d) →
    (t.builder.finish.after d).1 = .ok r → Obtained lax (.record t r)
  -- Factories of drafts and records.
  | objectDraft {bucket name : Value} {d : Object.Draft} : Obtained lax (.value bucket) →
    Obtained lax (.value name) → Object.draft bucket name = .ok d → Obtained lax (.draft .object d)
  | objectOf {bucket name : Value} {o : Object} : Obtained lax (.value bucket) →
    Obtained lax (.value name) → Object.of bucket name = .ok o → Obtained lax (.record .object o)
  | bucketDraft {name : Value} {d : Bucket.Draft} : Obtained lax (.value name) →
    Bucket.draft name = .ok d → Obtained lax (.draft .bucket d)
  | bucketOf {name : Value} {b : Bucket} : Obtained lax (.value name) → Bucket.of name = .ok b →
    Obtained lax (.record .bucket b)

variable {lax : Prop}

/-- Has everything in the item its mandatory parts? -/
def Item.Whole (lax : Prop) : Item → Prop
  | .value v => v.Whole lax
  | .draft t d => ∀ f, (t.builder.get d f).Whole lax
  | .record t r => (∀ f, (t.builder.part r f).Whole lax) ∧
    ∀ f ∈ t.builder.required, t.builder.part r f ≠ .null

/-! ### What each way gives is whole -/

theorem Entity.whole_of_ofPart {make : Value → Entity Value} {v : Value} {e : Entity Value}
    (hmake : make ∈ [Entity.user, Entity.group, Entity.domain, Entity.raw]) (hv : v.Whole lax)
    (h : Entity.ofPart make v = .ok e) : Value.Whole lax (.entity e) := by
  simp only [ofPart] at h
  split at h
  · cases h
  next some =>
    cases h
    simp only [List.mem_cons, List.not_mem_nil, or_false] at hmake
    rcases hmake with rfl | rfl | rfl | rfl <;> exact whole_entity some hv

theorem Entity.whole_of_ofProject {team : Team} {id : Value} {e : Entity Value}
    (named : id = .null → lax) (hid : id.Whole lax) (h : Entity.ofProject team id = .ok e) :
    Value.Whole lax (.entity e) := by
  obtain ⟨_, -, h⟩ := bind_eq_ok_iff.1 h
  cases h
  exact whole_entity named hid

theorem Grant.whole_of_ofParts {entity : Value} {role : Option Role} {g : Grant Value}
    (hentity : entity.Whole lax) (h : Grant.ofParts entity role = .ok g) :
    Value.Whole lax (.grant g) := by
  simp only [ofParts] at h
  split at h
  · cases h
  next some =>
    cases role with
    | none => cases h
    | some role =>
      cases h
      exact whole_grant some hentity

theorem Origin.whole_of_unshared {v : Value} {o : Origin Value} (hv : v.Whole lax)
    (h : Origin.unshared v = .ok o) : Value.Whole lax (.origin o) := by
  simp only [unshared] at h
  split at h
  · cases h
  next some =>
    cases h
    exact whole_origin some hv

theorem Origin.whole_of_ofParts {scheme host port : Value} {o : Origin Value}
    (h : Origin.ofParts scheme host port = .ok o) : Value.Whole lax (.origin o) := by
  simp only [ofParts] at h
  split at h
  next s _ => exact Origin.whole_of_of (whole_text s) h
  next =>
    split at h
    · cases h
    · split at h <;> cases h

/-- What is put into a field is stored as something whole. -/
theorem whole_stored (t : RecordType) (f : t.Field) {v w : Value} (hv : v.Whole lax)
    (h : t.builder.stored f v = .ok w) : w.Whole lax := by
  have sequence : (sequence? v).map ofList? = .ok w → w.Whole lax := by
    intro h
    obtain ⟨items?, hitems, rfl⟩ := map_eq_ok_iff.1 h
    exact whole_sequence? hv hitems
  have some : ∀ e : Failure Value, (if v = .null then .error e else .ok v : Result Value) = .ok w →
      w.Whole lax := by
    intro e h
    split at h
    · cases h
    · cases h
      exact hv
  have asIs : (.ok v : Result Value) = .ok w → w.Whole lax := by
    intro h
    cases h
    exact hv
  have clears : (.ok (clearable v) : Result Value) = .ok w → w.Whole lax := by
    intro h
    cases h
    exact whole_clearable hv
  cases t with
  | object =>
    cases f with
    | bucket | name => exact some _ h
    | acl => exact sequence h
    | metadata => exact whole_mapValue hv h
    | cacheControl | contentType | contentEncoding | contentDisposition => exact clears h
    | contentLanguage | md5 | crc32c => exact clears h
    | _ => exact asIs h
  | bucket =>
    cases f with
    | name => exact some _ h
    | cors | acl | defaultAcl => exact sequence h
    | _ => exact asIs h
  | rule =>
    cases f with
    | maxAge => exact asIs h
    | _ => exact sequence h

/-- **One call on a builder**, whatever comes of it, leaves the draft with whole fields. -/
theorem whole_fill (t : RecordType) (f : t.Field) {d : t.Draft} {v : Value}
    (hd : ∀ g, (t.builder.get d g).Whole lax) (hv : v.Whole lax) :
    ∀ g, (t.builder.get ((t.builder.fill f v).after d).2 g).Whole lax := by
  intro g
  have puts := t.lawful.puts f v
  by_cases hg : g = f
  · subst hg
    rw [puts.get_after_self]
    cases hs : t.builder.stored g v with
    | error e => exact hd g
    | ok w => exact whole_stored t g hv hs
  · rw [puts.get_after_of_ne d hg]
    exact hd g

theorem whole_empty (t : RecordType) : ∀ f, (t.builder.get t.builder.empty f).Whole lax := by
  intro f
  rw [t.lawful.get_empty]
  exact whole_null

theorem whole_copy {t : RecordType} {r : t.Record} {d : t.Draft}
    (hr : ∀ f, (t.builder.part r f).Whole lax)
    (h : (t.builder.refill r).after t.builder.empty = (.ok (), d)) :
    ∀ f, (t.builder.get d f).Whole lax := by
  intro f
  obtain ⟨d', hd, fields⟩ := t.lawful.refills r
  rw [h] at hd
  cases hd
  rw [fields f]
  exact hr f

/-- A record that is built has the fields of the draft. -/
theorem whole_finish {t : RecordType} {d : t.Draft} {r : t.Record}
    (hd : ∀ f, (t.builder.get d f).Whole lax) (h : (t.builder.finish.after d).1 = .ok r) :
    ∀ f, (t.builder.part r f).Whole lax := by
  intro f
  have finishes := t.lawful.finishes d
  unfold Builder.Finishes at finishes
  split at finishes
  · rw [finishes] at h
    cases h
  · obtain ⟨s, hs, parts⟩ := finishes
    rw [hs] at h
    cases h
    rw [parts f]
    exact hd f

/-! ### Fields that are given, and fields that are read -/

theorem Object.whole_ofFields {given : Field → Value} {d : Draft}
    (hgiven : ∀ f, (given f).Whole lax) (h : Draft.ofFields given = .ok d) (f : Field) :
    (d.get f).Whole lax := by
  simp only [Draft.ofFields] at h
  split at h
  · cases h
  · split at h
    · cases h
    · obtain ⟨acl, hacl, h⟩ := bind_eq_ok_iff.1 h
      obtain ⟨metadata, hmetadata, h⟩ := bind_eq_ok_iff.1 h
      cases h
      cases f with
      | acl => exact whole_sequence? (hgiven .acl) hacl
      | metadata => exact whole_mapValue (hgiven .metadata) hmetadata
      | _ => exact hgiven _

theorem Bucket.whole_ofFields {given : Field → Value} {d : Draft}
    (hgiven : ∀ f, (given f).Whole lax) (h : Draft.ofFields given = .ok d) (f : Field) :
    (d.get f).Whole lax := by
  unfold Draft.ofFields at h
  split at h
  · cases h
  · obtain ⟨cors, hcors, h⟩ := bind_eq_ok_iff.1 h
    obtain ⟨acl, hacl, h⟩ := bind_eq_ok_iff.1 h
    obtain ⟨defaultAcl, hdefaultAcl, h⟩ := bind_eq_ok_iff.1 h
    cases h
    cases f with
    | cors => exact whole_sequence? (hgiven .cors) hcors
    | acl => exact whole_sequence? (hgiven .acl) hacl
    | defaultAcl => exact whole_sequence? (hgiven .defaultAcl) hdefaultAcl
    | _ => exact hgiven _

theorem CorsRule.whole_ofFields {given : Field → Value} {r : CorsRule Value}
    (hgiven : ∀ f, (given f).Whole lax) (h : CorsRule.ofFields given = .ok r) (f : Field) :
    (r.get f).Whole lax := by
  obtain ⟨methods, hmethods, h⟩ := bind_eq_ok_iff.1 h
  obtain ⟨origins, horigins, h⟩ := bind_eq_ok_iff.1 h
  obtain ⟨headers, hheaders, h⟩ := bind_eq_ok_iff.1 h
  cases h
  cases f with
  | maxAge => exact hgiven .maxAge
  | methods => exact whole_sequence? (hgiven .methods) hmethods
  | origins => exact whole_sequence? (hgiven .origins) horigins
  | responseHeaders => exact whole_sequence? (hgiven .responseHeaders) hheaders

theorem whole_ofFields {t : RecordType} {given : t.Field → Value} {r : t.Record}
    (hgiven : ∀ f, (given f).Whole lax) (h : t.ofFields given = .ok r) :
    ∀ f, (t.builder.part r f).Whole lax := by
  cases t with
  | object =>
    obtain ⟨d, hd, h⟩ := bind_eq_ok_iff.1 h
    obtain rfl := Object.toDraft_of_build h
    exact Object.whole_ofFields hgiven hd
  | bucket =>
    obtain ⟨d, hd, h⟩ := bind_eq_ok_iff.1 h
    obtain rfl := Bucket.toDraft_of_build h
    exact Bucket.whole_ofFields hgiven hd
  | rule => exact CorsRule.whole_ofFields hgiven h

theorem whole_decode {t : RecordType} {es : List (String × Value)} {r : t.Record}
    (whole : Value.Whole lax (.map es)) (h : t.decode (.map es) = .ok r) :
    ∀ f, (t.builder.part r f).Whole lax := by
  cases t with
  | object => exact Object.whole_of_decode whole h
  | bucket => exact Bucket.whole_of_decode whole h
  | rule =>
    intro f
    exact (CorsRule.whole_of_decode whole h).of_part (.rule r f)

/-! ### Factories -/

theorem whole_set {t : RecordType} {f : t.Field} {v : Value} {d d' : t.Draft}
    (hd : ∀ g, (t.builder.get d g).Whole lax) (hv : v.Whole lax)
    (h : (t.builder.fill f v).draft d = .ok d') : ∀ g, (t.builder.get d' g).Whole lax := by
  have filled := whole_fill t f hd hv
  rw [draft_eq_ok_iff.1 h] at filled
  exact filled

theorem whole_bucketName {v : Value} (hv : v.Whole lax) : (Object.bucketName v).Whole lax := by
  unfold Object.bucketName
  split
  · exact hv.of_part (.bucket rfl)
  · exact hv

theorem whole_objectDraft {bucket name : Value} {d : Object.Draft} (hbucket : bucket.Whole lax)
    (hname : name.Whole lax) (h : Object.draft bucket name = .ok d) :
    (Item.draft .object d).Whole lax := by
  obtain ⟨first, hfirst, h⟩ := bind_eq_ok_iff.1 h
  have begun : (Item.draft .object first).Whole lax :=
    whole_set (whole_empty .object) (whole_bucketName hbucket) hfirst
  exact whole_set begun hname h

theorem whole_bucketDraft {name : Value} {d : Bucket.Draft} (hname : name.Whole lax)
    (h : Bucket.draft name = .ok d) : (Item.draft .bucket d).Whole lax :=
  whole_set (whole_empty .bucket) hname h

theorem RecordType.whole_value (t : RecordType) (label : Nat) {r : t.Record}
    (h : (Item.record t r).Whole lax) : (t.value label r).Whole lax := by
  cases t with
  | object =>
    refine whole_iff.2 ⟨?_, fun w part => ?_⟩
    · intro name kind
      cases kind
    · cases part with
      | bucket kind => cases kind
  | bucket =>
    refine whole_iff.2 ⟨?_, fun w part => ?_⟩
    · intro name kind
      cases kind
      exact r.name_ne_null
    · cases part with
      | bucket kind =>
        cases kind
        exact h.1 .name
  | rule => exact whole_rule h.1

/-- **All that is obtained is whole.** -/
theorem whole_of_obtained {item : Item} (h : Obtained lax item) : item.Whole lax := by
  induction h with
  | atom h => exact whole_of_isAtom h
  | list _ ih => exact whole_list ih
  | map _ ih => exact whole_map ih
  | keyed _ _ keys values => exact whole_keyed keys values
  | part _ part ih => exact ih.of_part part
  | entity make _ h ih => exact Entity.whole_of_ofPart make ih h
  | project named _ h ih => exact Entity.whole_of_ofProject named ih h
  | readEntity h =>
    obtain ⟨s, -, rfl⟩ := Entity.decode_eq_ok_iff.1 h
    exact Entity.whole_ofSpelling s
  | grant _ h ih => exact Grant.whole_of_ofParts ih h
  | readGrant h => exact Grant.whole_of_decode h
  | origin _ h ih => exact Origin.whole_of_of ih h
  | unsharedOrigin _ h ih => exact Origin.whole_of_unshared ih h
  | composedOrigin h => exact Origin.whole_of_ofParts h
  | @given t _ r _ h ih => exact ⟨whole_ofFields ih h, t.lawful.part_ne_null r⟩
  | @read t _ r _ h ih => exact ⟨whole_decode ih h, t.lawful.part_ne_null r⟩
  | field f _ ih => exact ih.1 f
  | @value t _ label _ ih => exact t.whole_value label ih
  | @rule r _ ih =>
    exact ⟨fun f => ih.of_part (.rule r f), CorsRule.lawful_builder.part_ne_null r⟩
  | empty t => exact whole_empty t
  | copy _ h ih => exact whole_copy ih.1 h
  | fill f _ _ hd hv => exact whole_fill _ f hd hv
  | @finish t _ r _ h ih => exact ⟨whole_finish ih h, t.lawful.part_ne_null r⟩
  | objectDraft _ _ h hbucket hname => exact whole_objectDraft hbucket hname h
  | @objectOf _ _ o _ _ h hbucket hname =>
    obtain ⟨d, hd, h⟩ := bind_eq_ok_iff.1 h
    obtain rfl := Object.toDraft_of_build h
    exact ⟨whole_objectDraft hbucket hname hd, Object.lawful_builder.part_ne_null o⟩
  | bucketDraft _ h ih => exact whole_bucketDraft ih h
  | @bucketOf _ b _ h ih =>
    obtain ⟨d, hd, h⟩ := bind_eq_ok_iff.1 h
    obtain rfl := Bucket.toDraft_of_build h
    exact ⟨whole_bucketDraft ih hd, Bucket.lawful_builder.part_ne_null b⟩

end StorageMetadata
