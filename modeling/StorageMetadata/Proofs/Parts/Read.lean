import StorageMetadata.Proofs.Bucket.Layout
import StorageMetadata.Proofs.Object.Layout
import StorageMetadata.Proofs.Parts.Whole

/-!
# Reading whole records

What is read from the values of a whole resource is whole: the entities, grants and origins that are
made on the way have their parts, since they are made from texts, or fail to be made.  So a form or
a codec `Keeps` whole values whole, and with it the objects, buckets and rules that are read field by
field.
-/

namespace StorageMetadata

open StorageMetadata.Resource StorageMetadata.Value

variable {lax : Prop}

namespace Resource

/-- Is what the form reads from a whole value whole? -/
def Form.Keeps (lax : Prop) (F : Form) : Prop :=
  ∀ w v, Whole lax w → F.decode w = .ok v → Whole lax v

/-- Is what the codec reads whole, if a whole value or none is at the key? -/
def Codec.Keeps (lax : Prop) (C : Codec) : Prop :=
  ∀ s v, Whole lax (s.getD .null) → C.read s = .ok v → Whole lax v

theorem keeps_asIs (P : Value → Prop) : (Form.asIs P).Keeps lax := by
  intro w v hw h
  cases h
  exact hw

theorem keeps_integer (key : String) : (Form.integer key).Keeps lax := by
  intro w v _ h
  obtain ⟨n, -, rfl⟩ := Result.map_eq_ok_iff.1 h
  exact whole_of_isAtom trivial

theorem keeps_instant (key : String) : (Form.instant key).Keeps lax := by
  intro w v _ h
  obtain ⟨n, -, rfl⟩ := Result.map_eq_ok_iff.1 h
  exact whole_of_isAtom trivial

theorem keeps_list {F : Form} (h : F.Keeps lax) : F.list.Keeps lax := by
  intro w v hw hv
  obtain ⟨items, hitems, hv⟩ := Result.bind_eq_ok_iff.1 hv
  obtain ⟨xs, hxs, hv⟩ := Result.bind_eq_ok_iff.1 hv
  cases hv
  refine whole_list fun x hx => ?_
  obtain ⟨item, hitem, read⟩ := Result.exists_of_mem_mapM hxs x hx
  exact h item x (whole_of_items hw hitems item hitem) read

theorem keeps_required (key : String) : (Codec.required key).Keeps lax := by
  intro s v hs h
  obtain ⟨rfl, -⟩ := (required_read_eq_ok_iff key).1 h
  exact hs

theorem keeps_optional {F : Form} (h : F.Keeps lax) : F.optional.Keeps lax := by
  intro s v hs hv
  simp only [Form.optional] at hv
  split at hv
  · cases hv
    exact whole_null
  · exact h _ v hs hv

theorem keeps_within {F : Form} (h : F.Keeps lax) (inner : String) : (F.within inner).Keeps lax := by
  intro s v hs hv
  simp only [Form.within] at hv
  split at hv
  · cases hv
    exact whole_null
  · obtain ⟨w, hw, hv⟩ := Result.bind_eq_ok_iff.1 hv
    exact keeps_optional h (some w) v (whole_of_field hs hw) hv

theorem keeps_clearable : Codec.clearable.Keeps lax := by
  intro s v hs h
  cases h
  cases s with
  | none => exact whole_null
  | some w => exact whole_clearable hs

/-- What is read key by key from a whole map is whole. -/
theorem Layout.Reads.whole {κ : Type} {L : Layout κ} {es : List (String × Value)} {part : κ → Value}
    (h : L.Reads es part) (keeps : ∀ k, (L.codec k).Keeps lax) (whole : Whole lax (.map es))
    (k : κ) : Whole lax (part k) :=
  keeps k _ _ (whole_valueAt? whole _) (h k)

end Resource

/-! ### Entities and grants -/

theorem Entity.whole_ofSpelling (s : String) :
    Whole lax (.entity ((Entity.ofSpelling s).map .text)) := by
  cases Entity.ofSpelling s with
  | project team id => exact whole_entity (fun none => nomatch none) (whole_text id)
  | user t | group t | domain t | raw t => exact whole_entity Value.noConfusion (whole_text t)

theorem Entity.keeps_form : Entity.form.Keeps lax := by
  intro w v _ h
  obtain ⟨e, he, rfl⟩ := Result.map_eq_ok_iff.1 h
  obtain ⟨s, -, rfl⟩ := Entity.decode_eq_ok_iff.1 he
  exact Entity.whole_ofSpelling s

theorem Grant.whole_of_decode {v : Value} {g : Grant Value} (h : (Grant.decode v).result = .ok g) :
    Whole lax (.grant g) := by
  simp only [decode, Traced.result_bind, Traced.result_liftM, Traced.result_pure,
    Result.bind_eq_ok_iff, Entity.decode_eq_ok_iff] at h
  obtain ⟨_, -, _, -, _, ⟨s, -, rfl⟩, role, -, h⟩ := h
  cases h
  exact whole_grant Value.noConfusion (Entity.whole_ofSpelling s)

theorem Grant.keeps_form : Grant.form.Keeps lax := by
  intro w v _ h
  obtain ⟨g, hg, rfl⟩ := Result.map_eq_ok_iff.1 h
  exact Grant.whole_of_decode hg

/-! ### Origins and rules -/

theorem Origin.whole_of_of {v : Value} {o : Origin Value} (hv : Whole lax v)
    (h : Origin.of v = .ok o) : Whole lax (.origin o) := by
  cases v with
  | null => cases h
  | _ =>
    cases h
    exact whole_origin Value.noConfusion hv

theorem CorsRule.whole_mapItems {read : Value → Result Value} {items? read? : Option (List Value)}
    (keeps : ∀ v w, Whole lax v → read v = .ok w → Whole lax w)
    (whole : Whole lax (ofList? items?)) (h : mapItems read items? = .ok read?) :
    Whole lax (ofList? read?) := by
  cases items? with
  | none =>
    cases h
    exact whole_null
  | some items =>
    obtain ⟨xs, hxs, rfl⟩ := Result.map_eq_ok_iff.1 h
    refine whole_list fun x hx => ?_
    obtain ⟨item, hitem, read⟩ := Result.exists_of_mem_mapM hxs x hx
    exact keeps item x (whole.of_part (.item hitem)) read

theorem CorsRule.whole_of_decode {v : Value} {r : CorsRule Value} (whole : Whole lax v)
    (h : (CorsRule.decode v).result = .ok r) : Whole lax (.rule r) := by
  simp only [decode, Traced.result_bind, Traced.result_liftM, Traced.result_remark,
    Traced.result_pure, Result.bind_eq_ok_iff, Except.ok.injEq] at h
  obtain ⟨maxAge, hage, method, hmethod, names, hnames, methods, hmethods, origin, horigin, values,
    hvalues, origins, horigins, header, hheader, headers, hheaders, _, -, rfl⟩ := h
  have methodKept : ∀ v w, Whole lax v → (Method.read v).map Value.method = .ok w → Whole lax w := by
    intro v w _ h
    obtain ⟨m, -, rfl⟩ := Result.map_eq_ok_iff.1 h
    exact whole_of_isAtom trivial
  have originKept : ∀ v w, Whole lax v → (Origin.of v).map Value.origin = .ok w → Whole lax w := by
    intro v w hv h
    obtain ⟨o, ho, rfl⟩ := Result.map_eq_ok_iff.1 h
    exact Origin.whole_of_of hv ho
  refine whole_rule fun f => ?_
  cases f with
  | maxAge => exact whole_of_field whole hage
  | methods =>
    exact whole_mapItems methodKept (whole_sequence? (whole_of_field whole hmethod) hnames) hmethods
  | origins =>
    exact whole_mapItems originKept (whole_sequence? (whole_of_field whole horigin) hvalues) horigins
  | responseHeaders => exact whole_sequence? (whole_of_field whole hheader) hheaders

theorem CorsRule.keeps_form : CorsRule.form.Keeps lax := by
  intro w v hw h
  obtain ⟨r, hr, rfl⟩ := Result.map_eq_ok_iff.1 h
  exact CorsRule.whole_of_decode hw hr

/-! ### Objects -/

theorem Object.keeps_metadataForm : Object.metadataForm.Keeps lax := by
  intro w v hw h
  exact whole_toMap hw h

theorem Object.Field.keeps_codec : ∀ f : Object.Field, f.codec.Keeps lax
  | .bucket | .name => keeps_required _
  | .id | .selfLink | .mediaLink | .etag | .componentCount => keeps_optional (keeps_asIs _)
  | .generation | .metageneration | .size => keeps_optional (keeps_integer _)
  | .deleteTime | .updateTime => keeps_optional (keeps_instant _)
  | .owner => keeps_within Entity.keeps_form _
  | .acl => keeps_optional (keeps_list Grant.keeps_form)
  | .metadata => keeps_optional Object.keeps_metadataForm
  | .cacheControl | .contentType | .contentEncoding | .contentDisposition => keeps_clearable
  | .contentLanguage | .md5 | .crc32c => keeps_clearable

theorem Object.whole_of_decode {es : List (String × Value)} {o : Object}
    (whole : Whole lax (.map es)) (h : (Object.decode (.map es)).result = .ok o) (f : Field) :
    Whole lax (o.toDraft.get f) :=
  (decode_map_eq_ok_iff.1 h).whole Field.keeps_codec whole f

/-! ### Buckets -/

theorem Bucket.keeps_websiteCodec : websiteCodec.Keeps lax := by
  intro s v hs h
  simp only [websiteCodec] at h
  split at h
  · cases h
    refine whole_list fun v hv => ?_
    simp only [List.mem_cons, List.not_mem_nil, or_false, or_self] at hv
    rw [hv]
    exact whole_null
  · obtain ⟨index, hindex, h⟩ := Result.bind_eq_ok_iff.1 h
    obtain ⟨missing, hmissing, h⟩ := Result.bind_eq_ok_iff.1 h
    cases h
    refine whole_list fun v hv => ?_
    rcases List.mem_pair.1 hv with rfl | rfl
    · exact whole_of_field hs hindex
    · exact whole_of_field hs hmissing

theorem Bucket.Key.keeps_codec : ∀ k : Bucket.Key, k.codec.Keeps lax
  | .name => keeps_required _
  | .id | .selfLink | .etag | .location | .storageClass => keeps_optional (keeps_asIs _)
  | .owner => keeps_within Entity.keeps_form _
  | .versioning => keeps_within (keeps_asIs _) _
  | .website => Bucket.keeps_websiteCodec
  | .timeCreated => keeps_optional (keeps_instant _)
  | .metageneration => keeps_optional (keeps_integer _)
  | .cors => keeps_optional (keeps_list CorsRule.keeps_form)
  | .acl | .defaultObjectAcl => keeps_optional (keeps_list Grant.keeps_form)

theorem Bucket.whole_of_decode {es : List (String × Value)} {b : Bucket}
    (whole : Whole lax (.map es)) (h : (Bucket.decode (.map es)).result = .ok b) (f : Field) :
    Whole lax (b.toDraft.get f) := by
  have parts := (decode_map_eq_ok_iff.1 h).whole Key.keeps_codec whole
  have pages : ∀ v ∈ [b.indexPage, b.notFoundPage], Whole lax v :=
    fun v hv => (parts .website).of_part (.item hv)
  cases f with
  | name => exact parts .name
  | id => exact parts .id
  | selfLink => exact parts .selfLink
  | owner => exact parts .owner
  | etag => exact parts .etag
  | location => exact parts .location
  | storageClass => exact parts .storageClass
  | versioningEnabled => exact parts .versioning
  | indexPage => exact pages _ List.mem_cons_self
  | notFoundPage => exact pages _ (List.mem_cons_of_mem _ List.mem_cons_self)
  | createTime => exact parts .timeCreated
  | metageneration => exact parts .metageneration
  | cors => exact parts .cors
  | acl => exact parts .acl
  | defaultAcl => exact parts .defaultObjectAcl

end StorageMetadata
