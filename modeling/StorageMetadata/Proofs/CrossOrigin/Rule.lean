import StorageMetadata.Access.Resource
import StorageMetadata.CrossOrigin.Draft
import StorageMetadata.Proofs.Resource.Field
import StorageMetadata.Proofs.Value.Equality

/-!
# Cross-origin rules in a resource

A rule is a record of four fields, laid out in an entry of a bucket's resource: an integer, and
three lists, of names of methods, of texts of origins and of texts, each of which may be missing.
Reading one and writing it again changes the names of the methods to capitals and leaves out what
holds nothing or is under another key.

An origin that is read is looked up, so that `*` gives the shared one.  Whether it is the shared one
is not written (`encode_lookedUp`), and a rule that is written is read back as the rule with all its
origins looked up.
-/

namespace StorageMetadata

open StorageMetadata.Resource

namespace Value

def IsMethod (v : Value) : Prop := ∃ m, v = .method m

/-- Is the value an origin with a text, whether or not it was looked up? -/
def IsOrigin (v : Value) : Prop := ∃ s shared, v = .origin ⟨.text s, shared⟩

/-- Is the value an origin that was looked up by its text? -/
def IsLookedUp (v : Value) : Prop := ∃ s, v = .origin ⟨.text s, s = anyOrigin⟩

/-- The origin that is found when an origin's text is looked up. -/
def lookedUp : Value → Value
  | .origin ⟨.text s, _⟩ => .origin ⟨.text s, s = anyOrigin⟩
  | v => v

/-- The name of a method as it is written. -/
def capitals : Value → Value
  | .text s => .text (Text.upper s)
  | v => v

theorem shown_lookedUp (v : Value) : v.lookedUp.shown = v.shown := by
  unfold lookedUp
  split <;> rfl

theorem IsMethod.same_self {v : Value} (h : v.IsMethod) : same v v = .ok true := by
  obtain ⟨m, rfl⟩ := h
  show Except.ok (decide (m = m)) = _
  rw [decide_eq_true rfl]

theorem IsOrigin.same_lookedUp {v : Value} (h : v.IsOrigin) : same v.lookedUp v = .ok true := by
  obtain ⟨s, shared, rfl⟩ := h
  show same (.text s) (.text s) = _
  exact IsText.same_self ⟨s, rfl⟩

end Value

/-! ### Methods -/

namespace Method

open StorageMetadata.Value

theorem ofName?_name (m : Method) : ofName? m.name = some m := by cases m <;> decide

/-- A method is found by a text whose upper case is its name. -/
theorem name_of_ofName? {s : String} {m : Method} (h : ofName? s = some m) :
    m.name = Text.upper s := by
  unfold ofName? at h
  have found := List.find?_some h
  exact of_decide_eq_true found

/-- A method, written as its name. -/
def form : Form where
  decode v := (read v).map .method
  encode := content
  Typed := IsMethod
  Admits := IsText
  normal := capitals

theorem lawful_form : form.Lawful where
  ne_null v := by
    rintro ⟨m, rfl⟩
    exact Value.noConfusion
  decode_encode v := by
    rintro ⟨m, rfl⟩
    refine ⟨.text m.name, rfl, Value.noConfusion, ?_⟩
    simp only [form, read, ofName?_name]
    rfl
  encode_decode w v hw hr _ := by
    obtain ⟨s, rfl⟩ := hw
    obtain ⟨m, hm, rfl⟩ := Result.map_eq_ok_iff.1 hr
    refine ⟨⟨m, rfl⟩, ?_⟩
    simp only [read] at hm
    split at hm
    next h =>
      cases hm
      simp only [form, content, capitals, name_of_ofName? h]
    next => cases hm

end Method

/-! ### Origins -/

namespace Origin

open StorageMetadata.Value

/-- An origin that was looked up, written as its text. -/
def form : Form where
  decode v := (Origin.of v).map .origin
  encode v := v.shown.map .text
  Typed := IsLookedUp
  Admits := IsText
  normal := id

theorem lawful_form : form.Lawful where
  ne_null v := by
    rintro ⟨s, rfl⟩
    exact Value.noConfusion
  decode_encode v := by
    rintro ⟨s, rfl⟩
    exact ⟨.text s, rfl, Value.noConfusion, rfl⟩
  encode_decode w v hw hr _ := by
    obtain ⟨s, rfl⟩ := hw
    cases hr
    exact ⟨⟨s, rfl⟩, rfl⟩

end Origin

/-! ### Rules -/

namespace CorsRule

open StorageMetadata.Value

namespace Field

def key : Field → String
  | .maxAge => "maxAgeSeconds"
  | .methods => "method"
  | .origins => "origin"
  | .responseHeaders => "responseHeader"

def Kind : Field → Value → Prop
  | .maxAge => Optional IsInteger
  | .methods => Optional (IsListOf IsMethod)
  | .origins => Optional (IsListOf IsOrigin)
  | .responseHeaders => Optional (IsListOf IsText)

/-- The values that an entry of a bucket's resource may have at the key of a field, besides nothing.
-/
def Admits : Field → Value → Prop
  | .maxAge => IsInteger
  | _ => IsListOf IsText

def codec : Field → Codec
  | .maxAge => (Form.asIs IsInteger).optional
  | .methods => Method.form.list.optional
  | .origins => Origin.form.list.optional
  | .responseHeaders => (Form.asIs IsText).list.optional

end Field

/-- The fields of a rule in the order in which they are written. -/
def layout : Layout Field where
  fields := Field.all
  mem_fields f := by cases f <;> decide
  key := Field.key
  nodup_keys := by decide
  codec := Field.codec

theorem lawful_layout : layout.Lawful
  | .maxAge => Form.lawful_optional Form.lawful_number
  | .methods => Form.lawful_optional (Form.lawful_list Method.lawful_form fun _ => trivial)
  | .origins => Form.lawful_optional (Form.lawful_list Origin.lawful_form fun _ => trivial)
  | .responseHeaders => Form.lawful_optional (Form.lawful_list Form.lawful_text fun _ => trivial)

theorem ranged (r : CorsRule Value) (f : Field) : (layout.codec f).Ranged (r.get f) := by
  cases f <;> trivial

theorem mapItems_eq (f : Value → Result Value) (items? : Option (List Value)) :
    mapItems f items? = items?.mapM fun items => List.mapM f items := by
  cases items? <;> rfl

/-- A rule is read from a map field by field. -/
theorem decode_map_eq_ok_iff {es : List (String × Value)} {r : CorsRule Value} :
    (decode (.map es)).result = .ok r ↔ layout.Reads es r.get := by
  -- The two steps of reading a list are taken together.
  have parts : (decode (.map es)).result = .ok r ↔
      ∃ methods, Method.form.readItems (valueAt? "method" es) = .ok methods ∧
      ∃ origins, Origin.form.readItems (valueAt? "origin" es) = .ok origins ∧
      ∃ headers, (Form.asIs IsText).readItems (valueAt? "responseHeader" es) = .ok headers ∧
        CorsRule.mk ((valueAt? "maxAgeSeconds" es).getD .null) methods origins headers = r := by
    rw [Form.asIs_readItems]
    simp only [decode, Traced.result_bind, Traced.result_liftM, Traced.result_remark,
      Traced.result_pure, Value.field, Form.readItems, mapItems_eq, Result.bind_eq_ok_iff,
      Except.ok.injEq, exists_eq_left']
    constructor
    · rintro ⟨names, hn, methods, hm, values, hv, origins, ho, headers, hh, _, -, rfl⟩
      exact ⟨methods, ⟨names, hn, hm⟩, origins, ⟨values, hv, ho⟩, headers, hh, rfl⟩
    · rintro ⟨methods, ⟨names, hn, hm⟩, origins, ⟨values, hv, ho⟩, headers, hh, rfl⟩
      exact ⟨names, hn, methods, hm, values, hv, origins, ho, headers, hh, (), trivial, rfl⟩
  rw [parts]
  constructor
  · rintro ⟨methods, hm, origins, ho, headers, hh, rfl⟩ f
    cases f with
    | maxAge => exact asIs_optional_read _ _
    | methods => exact Form.readItems_eq_ok_iff.1 hm
    | origins => exact Form.readItems_eq_ok_iff.1 ho
    | responseHeaders => exact Form.readItems_eq_ok_iff.1 hh
  · intro reads
    refine ⟨r.methods, Form.readItems_eq_ok_iff.2 (reads .methods), r.origins,
      Form.readItems_eq_ok_iff.2 (reads .origins), r.responseHeaders,
      Form.readItems_eq_ok_iff.2 (reads .responseHeaders), ?_⟩
    have age : (valueAt? "maxAgeSeconds" es).getD .null = r.maxAge :=
      Except.ok.inj ((asIs_optional_read _ _).symm.trans (reads .maxAge))
    rw [age]

theorem listEntry_eq (key : String) (items? : Option (List Value)) :
    listEntry key items? = slotEntry key (items?.map .list) := by
  cases items? <;> rfl

theorem written {F : Form} {items? : Option (List Value)} {s : Option Value}
    (h : F.list.optional.write (ofList? items?) = .ok s) :
    ∃ items', mapItems F.encode items? = .ok items' ∧ items'.map .list = s := by
  rw [Form.list_optional_write, Result.map_eq_ok_iff] at h
  rw [mapItems_eq]
  exact h

theorem encode_of_writes {r : CorsRule Value} {es : List (String × Value)}
    (h : layout.Writes r.get es) : r.encode = .ok (.map es) := by
  obtain ⟨slot, hslot, rfl⟩ := h
  have age : present r.maxAge = slot .maxAge :=
    Except.ok.inj ((asIs_optional_write _ _).symm.trans (hslot .maxAge))
  obtain ⟨methods, hm, sm⟩ := written (hslot .methods)
  obtain ⟨origins, ho, so⟩ := written (hslot .origins)
  have headers : r.responseHeaders.map .list = slot .responseHeaders :=
    Except.ok.inj ((Form.asIs_list_optional_write _ _).symm.trans (hslot .responseHeaders))
  refine Result.bind_eq_ok_iff.2 ⟨methods, hm, Result.bind_eq_ok_iff.2 ⟨origins, ho, ?_⟩⟩
  rw [entry_eq, listEntry_eq, listEntry_eq, listEntry_eq, age, sm, so, headers]
  simp [layout, Layout.entries, Field.all, Field.key, pure, Except.pure]

/-- A rule that can be written is written field by field. -/
theorem writes_of_encode {r : CorsRule Value} {v : Value} (h : r.encode = .ok v) :
    ∃ es, v = .map es ∧ layout.Writes r.get es := by
  have encoded := h
  obtain ⟨methods, hm, h⟩ := Result.bind_eq_ok_iff.1 h
  obtain ⟨origins, ho, -⟩ := Result.bind_eq_ok_iff.1 h
  rw [mapItems_eq] at hm ho
  have each : ∀ f, ∃ s, (layout.codec f).write (r.get f) = .ok s := by
    intro f
    cases f with
    | maxAge => exact exists_write_asIs _ _
    | methods =>
      exact ⟨_, (Method.form.list_optional_write _).trans (Result.map_eq_ok_iff.2 ⟨_, hm, rfl⟩)⟩
    | origins =>
      exact ⟨_, (Origin.form.list_optional_write _).trans (Result.map_eq_ok_iff.2 ⟨_, ho, rfl⟩)⟩
    | responseHeaders => exact ⟨_, Form.asIs_list_optional_write _ _⟩
  obtain ⟨es, writes⟩ := Layout.exists_writes each
  exact ⟨es, Except.ok.inj (encoded.symm.trans (encode_of_writes writes)), writes⟩

/-- Has an entry of a bucket's resource only values of the right kinds at the keys of a rule? -/
def Admits (es : List (String × Value)) : Prop :=
  ∀ f : Field, Optional f.Admits ((valueAt? f.key es).getD .null)

/-- A rule in a resource with the names of its methods in capitals, and with nothing but its keys
that hold something. -/
def normal : Value → Value
  | .map es => .map (keptEntry "maxAgeSeconds" es ++ changedEntry "method" (mapList capitals) es ++
      keptEntry "origin" es ++ keptEntry "responseHeader" es)
  | w => w

theorem layout_normal (es : List (String × Value)) :
    Value.map (layout.normal es) = normal (.map es) := by
  simp [normal, layout, Layout.normal, Layout.entries, Field.all, Field.key, Field.codec, keptEntry,
    changedEntry, Form.optional, Form.asIs, Form.list, Method.form, Origin.form, mapList_id]

/-- A rule whose origins were looked up, written as a map. -/
def form : Form where
  decode v := (decode v).result.map .rule
  encode := Value.encode
  Typed v := ∃ r : CorsRule Value, v = .rule r ∧ layout.Typed r.get
  Admits := IsMapOf Admits
  normal := normal

theorem lawful_form : form.Lawful where
  ne_null v := by
    rintro ⟨r, rfl, -⟩
    exact Value.noConfusion
  decode_encode v := by
    rintro ⟨r, rfl, typed⟩
    obtain ⟨es, writes, reads⟩ := Layout.exists_writes_reads lawful_layout typed
    refine ⟨.map es, encode_of_writes writes, Value.noConfusion, ?_⟩
    exact Result.map_eq_ok_iff.2 ⟨r, decode_map_eq_ok_iff.2 reads, rfl⟩
  encode_decode w v hw hr _ := by
    obtain ⟨es, rfl, admits⟩ := hw
    obtain ⟨r, hr', rfl⟩ := Result.map_eq_ok_iff.1 hr
    have reads := decode_map_eq_ok_iff.1 hr'
    have admits' : layout.Admits es := by
      intro f
      have h := admits f
      cases f <;> exact h
    obtain ⟨typed, writes⟩ := Layout.typed_and_writes_normal lawful_layout admits' reads (ranged r)
    refine ⟨⟨r, rfl, typed⟩, ?_⟩
    show r.encode = .ok (normal (.map es))
    rw [encode_of_writes writes, layout_normal]

theorem lawful_list : form.list.Lawful := Form.lawful_list lawful_form fun _ => trivial

/-! ### Looking up the origins of a rule -/

/-- The rule with all its origins looked up. -/
def lookedUp (r : CorsRule Value) : CorsRule Value :=
  { r with origins := r.origins.map (List.map Value.lookedUp) }

/-- Whether an origin is the shared one is not written. -/
theorem encode_lookedUp (r : CorsRule Value) : r.lookedUp.encode = r.encode := by
  have same : mapItems (fun v => v.shown.map .text) r.lookedUp.origins =
      mapItems (fun v => v.shown.map .text) r.origins := by
    unfold lookedUp
    cases r.origins with
    | none => rfl
    | some items =>
      simp only [mapItems, Option.map_some, List.mapM_map, Function.comp_def, shown_lookedUp]
  unfold encode
  rw [same]
  rfl

theorem typed_lookedUp {r : CorsRule Value} (h : ∀ f : Field, f.Kind (r.get f)) :
    layout.Typed r.lookedUp.get := by
  intro f
  cases f with
  | maxAge => exact h .maxAge
  | methods => exact h .methods
  | responseHeaders => exact h .responseHeaders
  | origins =>
    refine Optional.listOf_map (h .origins) ?_
    rintro _ ⟨s, shared, rfl⟩
    exact ⟨s, rfl⟩

/-- Looking up the origins of a rule gives a rule that stands for the same. -/
theorem same_lookedUp {r : CorsRule Value} (h : ∀ f : Field, f.Kind (r.get f)) :
    same (.rule r.lookedUp) (.rule r) = .ok true := by
  have age : same r.maxAge r.maxAge = .ok true :=
    Optional.same_self (h .maxAge) fun _ => IsInteger.same_self
  have methods : sameSequence r.methods r.methods = .ok true :=
    sameSequence_self (h .methods) fun _ => IsMethod.same_self
  have origins : sameSequence r.lookedUp.origins r.origins = .ok true :=
    sameSequence_map (h .origins) fun _ => IsOrigin.same_lookedUp
  have headers : sameSequence r.responseHeaders r.responseHeaders = .ok true :=
    sameSequence_self (h .responseHeaders) fun _ => IsText.same_self
  show sameRule ⟨r.maxAge, r.methods, r.lookedUp.origins, r.responseHeaders⟩ r = _
  simp only [sameRule, age, methods, origins, headers]
  rfl

end CorsRule

namespace Value

/-- Is the value a rule with fields of their kinds? -/
def IsRule (v : Value) : Prop :=
  ∃ r : CorsRule Value, v = .rule r ∧ ∀ f : CorsRule.Field, f.Kind (r.get f)

def ruleLookedUp : Value → Value
  | .rule r => .rule r.lookedUp
  | v => v

end Value

end StorageMetadata
