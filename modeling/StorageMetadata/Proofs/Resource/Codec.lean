import StorageMetadata.Proofs.Result
import StorageMetadata.Proofs.Value.Kinds
import StorageMetadata.Resource.Entry
import StorageMetadata.Resource.Instant
import StorageMetadata.Resource.Integer

/-!
# Forms and codecs

A field of a record is kept under one key of a resource.  A `Codec` says how: what is read from
what is at the key, what is put there, which values the field holds if it is of its type, which
values a resource may have at the key, and what is at the key of the resource in normal form.  Two
laws make a codec `Lawful`: what was put at the key is read back,

    Typed v → write v = .ok s → read s = .ok v,

and what was read is put back in normal form,

    read s = .ok v → write v = .ok (normal s).

Most codecs come from a `Form`, which is the same for a value that is there: an integer is a text of
digits, an instant a timestamp, a list a list with items of a form.  `Form.optional` leaves the key
out for a field that holds nothing, and reads nothing from a key that is missing or holds nothing.
-/

namespace StorageMetadata.Resource

open StorageMetadata.Value

/-! ### What is at a key -/

/-- The value, if it is one: nothing is none. -/
def present (v : Value) : Option Value := if v = .null then none else some v

/-- What is at a key, where nothing counts as a missing key. -/
def held (s : Option Value) : Option Value := present (s.getD .null)

theorem present_of_ne {v : Value} (h : v ≠ .null) : present v = some v := if_neg h

@[simp] theorem getD_present (v : Value) : (present v).getD .null = v := by
  unfold present
  split
  next h => exact h.symm
  next => rfl

theorem present_injective : Function.Injective present := by
  intro v w h
  rw [← getD_present v, ← getD_present w, h]

theorem eq_some_of_getD {s : Option Value} {v : Value} (h : s.getD .null = v)
    (some : s.getD .null ≠ .null) : s = .some v := by
  cases s with
  | none => exact absurd rfl some
  | some w => exact congrArg _ h

/-! ### Forms -/

/-- How a value of a record is written in a resource. -/
structure Form where
  decode : Value → Result Value
  encode : Value → Result Value
  /-- Is the value of a record of the form's type? -/
  Typed : Value → Prop
  /-- Is the value of a resource one that may stand there? -/
  Admits : Value → Prop
  /-- Can the value that was read be written at all? -/
  Ranged : Value → Prop := fun _ => True
  /-- The value of a resource in normal form. -/
  normal : Value → Value

/-- Reading undoes writing, and what was read is written in normal form. -/
structure Form.Lawful (F : Form) : Prop where
  ne_null : ∀ v, F.Typed v → v ≠ .null
  decode_encode : ∀ v, F.Typed v → ∃ w, F.encode v = .ok w ∧ w ≠ .null ∧ F.decode w = .ok v
  encode_decode : ∀ w v, F.Admits w → F.decode w = .ok v → F.Ranged v →
    F.Typed v ∧ F.encode v = .ok (F.normal w)

namespace Form

/-- A value of a kind, written as it is. -/
def asIs (P : Value → Prop) : Form where
  decode := .ok
  encode := .ok
  Typed := P
  Admits := P
  normal := id

theorem lawful_asIs {P : Value → Prop} (h : ∀ v, P v → v ≠ .null) : (asIs P).Lawful where
  ne_null := h
  decode_encode v hv := ⟨v, rfl, h v hv, rfl⟩
  encode_decode w v hw hr _ := by
    cases hr
    exact ⟨hw, rfl⟩

theorem lawful_text : (asIs IsText).Lawful := lawful_asIs fun _ h => h.ne_null

theorem lawful_flag : (asIs IsFlag).Lawful := lawful_asIs fun _ h => h.ne_null

theorem lawful_number : (asIs IsInteger).Lawful := lawful_asIs fun _ h => h.ne_null

def integer (key : String) : Form where
  decode v := (readInteger key v).map .int
  encode := writeInteger
  Typed := IsFitting
  Admits := IsNumeral
  normal := decimalText

theorem integer?_of_readInteger {key : String} {w : Value} {n : Int}
    (h : readInteger key w = .ok n) : w.integer? = some n := by
  unfold readInteger at h
  split at h
  · cases h; rfl
  · split at h
    next hs => cases h; exact hs
    next => cases h
  · split at h
    next hx => cases h; exact hx
    next => cases h
  · cases h
  · cases h

theorem lawful_integer (key : String) : (integer key).Lawful where
  ne_null v := by
    rintro ⟨n, rfl, -⟩
    exact Value.noConfusion
  decode_encode v := by
    rintro ⟨n, rfl, fits⟩
    refine ⟨.text (Decimal.write n), rfl, Value.noConfusion, ?_⟩
    simp only [integer, readInteger, Decimal.read?_write fits]
    rfl
  encode_decode w v hw hr _ := by
    obtain ⟨n, hn, rfl⟩ := Result.map_eq_ok_iff.1 hr
    have stands := integer?_of_readInteger hn
    refine ⟨⟨n, rfl, fits_of_integer? hw stands⟩, ?_⟩
    simp only [integer, decimalText, stands, writeInteger_int]

def instant (key : String) : Form where
  decode v := (readInstant key v).map .int
  encode v := (writeInstant key v).map .text
  Typed := IsInstant
  Admits := IsText
  Ranged v := ∀ n, v = .int n → Timestamp.InRange n
  normal := timestampText

theorem lawful_instant (key : String) : (instant key).Lawful where
  ne_null v := by
    rintro ⟨n, rfl, -⟩
    exact Value.noConfusion
  decode_encode v := by
    rintro ⟨n, rfl, range⟩
    refine ⟨.text (Timestamp.write n), ?_, Value.noConfusion, ?_⟩
    · simp only [instant, writeInstant_int, if_pos range]
      rfl
    · simp only [instant, readInstant, Timestamp.read?_write range]
      rfl
  encode_decode w v hw hr range := by
    obtain ⟨n, hn, rfl⟩ := Result.map_eq_ok_iff.1 hr
    obtain ⟨s, rfl⟩ := hw
    have inside := range n rfl
    have stands : Timestamp.read? s = some n := by
      simp only [readInstant] at hn
      split at hn
      next hs => cases hn; exact hs
      next => cases hn
    refine ⟨⟨n, rfl, inside⟩, ?_⟩
    simp only [instant, timestampText, instant?, stands, writeInstant_int, if_pos inside]
    rfl

def list (F : Form) : Form where
  decode v := do return .list (← (← v.items).mapM F.decode)
  encode
    | .list xs => do return .list (← xs.mapM F.encode)
    | _ => fault .mistyped
  Typed := IsListOf F.Typed
  Admits := IsListOf F.Admits
  normal := mapList F.normal

/-- A list is lawful if its items are; all of them have to be writable. -/
theorem lawful_list {F : Form} (h : F.Lawful) (writable : ∀ v, F.Ranged v) : F.list.Lawful where
  ne_null v := by
    rintro ⟨xs, rfl, -⟩
    exact Value.noConfusion
  decode_encode v := by
    rintro ⟨xs, rfl, hxs⟩
    obtain ⟨ws, hw, hr⟩ := Result.mapM_mapM_of_inverse F.encode F.decode
      fun x hx => (h.decode_encode x (hxs x hx)).imp fun _ hy => ⟨hy.1, hy.2.2⟩
    refine ⟨.list ws, ?_, Value.noConfusion, ?_⟩
    · simp only [list, hw]
      rfl
    · simp only [list, items]
      show (ws.mapM F.decode >>= fun xs => pure (Value.list xs)) = _
      rw [hr]
      rfl
  encode_decode w v := by
    rintro ⟨ws, rfl, hws⟩ hr _
    obtain ⟨items, hitems, hr⟩ := Result.bind_eq_ok_iff.1 hr
    cases hitems
    obtain ⟨xs, hxs, hr⟩ := Result.bind_eq_ok_iff.1 hr
    cases hr
    obtain ⟨hP, hw⟩ := Result.mapM_of_normal hxs fun w hw x hx =>
      h.encode_decode w x (hws w hw) hx (writable x)
    refine ⟨⟨xs, rfl, hP⟩, ?_⟩
    simp only [list, hw]
    rfl

end Form

/-! ### Codecs -/

/-- How a field of a record is kept under a key of a resource. -/
structure Codec where
  /-- The value of the field, from what is at the key. -/
  read : Option Value → Result Value
  /-- What is put at the key, if anything is. -/
  write : Value → Result (Option Value)
  /-- Is the value of the field of its type? -/
  Typed : Value → Prop
  /-- Is the value one that a resource may have at the key, besides nothing? -/
  Admits : Value → Prop
  /-- Can the value that was read be written at all? -/
  Ranged : Value → Prop := fun _ => True
  /-- What is at the key of the resource in normal form. -/
  normal : Option Value → Option Value

namespace Codec

/-- May this be at the key: no entry, an entry with nothing in it, or an admitted value? -/
def AdmitsAt (C : Codec) (s : Option Value) : Prop := Optional C.Admits (s.getD .null)

/-- What was put at the key is read back, and what was read is put back in normal form. -/
structure Lawful (C : Codec) : Prop where
  read_write : ∀ v, C.Typed v → ∃ s, C.write v = .ok s ∧ C.read s = .ok v
  write_read : ∀ s v, C.AdmitsAt s → C.read s = .ok v → C.Ranged v →
    C.Typed v ∧ C.write v = .ok (C.normal s)

/-- A field that has to be there. -/
def required (key : String) : Codec where
  read s := if s.getD .null = .null then .error (.missingField key) else .ok (s.getD .null)
  write v := .ok (present v)
  Typed := IsText
  Admits := IsText
  normal := held

theorem lawful_required (key : String) : (required key).Lawful where
  read_write v hv := by
    refine ⟨present v, rfl, ?_⟩
    simp only [required, getD_present, if_neg hv.ne_null]
  write_read s v hs hr _ := by
    simp only [required] at hr
    split at hr
    · cases hr
    next some =>
      cases hr
      exact ⟨hs.resolve_left some, rfl⟩

end Codec

/-- A field of a form that may be missing. -/
def Form.optional (F : Form) : Codec where
  read s := if s.getD .null = .null then .ok .null else F.decode (s.getD .null)
  write v := if v = .null then .ok none else (F.encode v).map some
  Typed := Optional F.Typed
  Admits := F.Admits
  Ranged := F.Ranged
  normal s := (held s).map F.normal

theorem Form.lawful_optional {F : Form} (h : F.Lawful) : F.optional.Lawful where
  read_write v := by
    rintro (rfl | hv)
    · exact ⟨none, rfl, rfl⟩
    · obtain ⟨w, hw, hne, hr⟩ := h.decode_encode v hv
      refine ⟨some w, ?_, ?_⟩
      · simp only [optional, if_neg (h.ne_null v hv), hw]
        rfl
      · simp only [optional, Option.getD_some, if_neg hne, hr]
  write_read s v hs hr range := by
    simp only [optional] at hr
    split at hr
    next none =>
      cases hr
      refine ⟨Or.inl rfl, ?_⟩
      simp only [optional, held, none]
      rfl
    next some =>
      obtain ⟨hv, hw⟩ := h.encode_decode _ v (hs.resolve_left some) hr range
      refine ⟨Or.inr hv, ?_⟩
      simp only [optional, held, present_of_ne some, if_neg (h.ne_null v hv), hw]
      rfl

/-- A field of a form that is kept a level deeper, at a key of a section that may be missing too. -/
def Form.within (F : Form) (inner : String) : Codec where
  read s :=
    if s.getD .null = .null then .ok .null else do
      F.optional.read (some (← (s.getD .null).field inner))
  write v := (F.optional.write v).map (Option.map fun w => .map [(inner, w)])
  Typed := Optional F.Typed
  Admits := IsMapOf fun es => F.optional.AdmitsAt (valueAt? inner es)
  Ranged := F.Ranged
  normal
    | some (.map es) => (F.optional.normal (valueAt? inner es)).map fun w => .map [(inner, w)]
    | _ => none

theorem Form.lawful_within {F : Form} (h : F.Lawful) (inner : String) :
    (F.within inner).Lawful where
  read_write v := by
    rintro (rfl | hv)
    · exact ⟨none, rfl, rfl⟩
    · obtain ⟨w, hw, hne, hr⟩ := h.decode_encode v hv
      have written : F.optional.write v = .ok (some w) := by
        simp only [optional, if_neg (h.ne_null v hv), hw]
        rfl
      have there : (Value.map [(inner, w)]).field inner = .ok w := by
        simp [field, valueAt?_cons]
      refine ⟨some (.map [(inner, w)]), ?_, ?_⟩
      · simp only [within, written]
        rfl
      · simp only [within, Option.getD_some, there]
        show F.optional.read (some w) = .ok v
        simp only [optional, Option.getD_some, if_neg hne, hr]
  write_read s v hs hr range := by
    simp only [within] at hr
    split at hr
    next none =>
      cases hr
      refine ⟨Or.inl rfl, ?_⟩
      rcases s with _ | w
      · rfl
      · obtain rfl : w = .null := none
        rfl
    next some =>
      obtain ⟨es, hes, admits⟩ := hs.resolve_left some
      obtain rfl : s = .some (.map es) := eq_some_of_getD hes some
      -- Inside of the section, the field is read and put as one that may be missing.
      obtain ⟨hv, hw⟩ := (lawful_optional h).write_read (valueAt? inner es) v admits hr range
      refine ⟨hv, ?_⟩
      simp only [within, hw]
      rfl

/-- A field with three states: no entry, an entry with nothing in it, and a value. -/
def Codec.clearable : Codec where
  read s := .ok (match s with
    | none => .null
    | some v => Resource.clearable v)
  write
    | .null => .ok none
    | .cleared => .ok (some .null)
    | v => .ok (some v)
  Typed := IsClearable
  Admits := IsText
  normal := id

theorem Codec.lawful_clearable : Codec.clearable.Lawful where
  read_write v := by
    rintro (rfl | rfl | ⟨s, rfl⟩)
    · exact ⟨none, rfl, rfl⟩
    · exact ⟨some .null, rfl, rfl⟩
    · exact ⟨some (.text s), rfl, rfl⟩
  write_read s v hs hr _ := by
    cases hr
    cases s with
    | none => exact ⟨Or.inl rfl, rfl⟩
    | some w =>
      rcases hs with rfl | ⟨t, rfl⟩
      · exact ⟨Or.inr (Or.inl rfl), rfl⟩
      · exact ⟨Or.inr (Or.inr ⟨t, rfl⟩), rfl⟩

/-- What is put into a field with three states is written, nothing as an entry with nothing in it. -/
theorem Codec.clearable_write (v : Value) :
    Codec.clearable.write (Resource.clearable v) = .ok (some (collapse v)) := by
  cases v <;> rfl

end StorageMetadata.Resource
