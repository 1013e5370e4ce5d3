import StorageMetadata.Proofs.Number.Decimal
import StorageMetadata.Proofs.Time.Timestamp
import StorageMetadata.Value.Equality

/-!
# Kinds of values

A field of a record and an entry of a resource hold values of few kinds.  The predicates here name
them: a text, a truth value, an integer, a list with items of a kind, a map with entries of a kind.
Most fields may also hold nothing, which `Optional` adds to a kind.

A number in a resource is an integer of at most `Decimal.maxDigits` digits, a text, or a number of
64 bits.  `Binary64.InFormat` says that the last has a significand and an exponent of the format;
an integer of that size has far fewer digits than are read (`Binary64.fits_of_toInt?`).
-/

namespace StorageMetadata

namespace Binary64

/-- Are the significand and the exponent of a finite number within the bounds of the format? -/
def InFormat : Binary64 → Prop
  | .finite _ m e => m < 2 ^ 53 ∧ leastExponent ≤ e ∧ e ≤ greatestExponent
  | _ => True

theorem natAbs_signed (negative : Bool) (n : Nat) : (signed negative n).natAbs = n := by
  cases negative <;> simp [signed]

/-- The integer that a number of 64 bits is equal to has few enough digits to be read back. -/
theorem fits_of_toInt? {x : Binary64} {n : Int} (hx : x.InFormat) (h : x.toInt? = some n) :
    Decimal.Fits n := by
  cases x with
  | infinite _ => cases h
  | nan _ => cases h
  | finite negative m e =>
    obtain ⟨hm, -, he⟩ := hx
    simp only [toInt?] at h
    split at h
    · cases h
      have exponent : 53 + e.toNat ≤ Decimal.maxDigits := by
        simp only [greatestExponent] at he
        simp only [Decimal.maxDigits]
        omega
      rw [Decimal.fits_iff, natAbs_signed]
      calc numerator m e / denominator e ≤ m * 2 ^ e.toNat := Nat.div_le_self _ _
        _ < 2 ^ 53 * 2 ^ e.toNat := Nat.mul_lt_mul_of_pos_right hm (Nat.two_pow_pos _)
        _ = 2 ^ (53 + e.toNat) := (Nat.pow_add 2 53 _).symm
        _ ≤ 10 ^ (53 + e.toNat) := Nat.pow_le_pow_left (by decide) _
        _ ≤ 10 ^ Decimal.maxDigits := Nat.pow_le_pow_right (by decide) exponent
    · cases h

end Binary64

namespace Value

/-- Is the value nothing or of the given kind? -/
def Optional (P : Value → Prop) (v : Value) : Prop := v = .null ∨ P v

def IsText (v : Value) : Prop := ∃ s, v = .text s

def IsFlag (v : Value) : Prop := ∃ b, v = .bool b

def IsInteger (v : Value) : Prop := ∃ n, v = .int n

/-- Is the value an integer that can be read back when it is written? -/
def IsFitting (v : Value) : Prop := ∃ n, v = .int n ∧ Decimal.Fits n

/-- Is the value an instant that has a timestamp? -/
def IsInstant (v : Value) : Prop := ∃ n, v = .int n ∧ Timestamp.InRange n

/-- Is the value one that stands for a number in a resource: a text or a number? -/
def IsNumeral : Value → Prop
  | .text _ => True
  | .int n => Decimal.Fits n
  | .float x => x.InFormat
  | _ => False

/-- Is the value one of the three states of a field that can be cleared: nothing, the marker of a
cleared field, or a text? -/
def IsClearable (v : Value) : Prop := v = .null ∨ v = .cleared ∨ IsText v

def IsListOf (P : Value → Prop) (v : Value) : Prop := ∃ items, v = .list items ∧ ∀ w ∈ items, P w

/-- Is the value a map with texts for keys and entries of the given kind? -/
def IsMapOf (P : List (String × Value) → Prop) (v : Value) : Prop := ∃ es, v = .map es ∧ P es

def AreTexts (es : List (String × Value)) : Prop := ∀ e ∈ es, IsText e.2

/-- The integer that a value of a resource stands for, if it stands for one. -/
def integer? : Value → Option Int
  | .int n => some n
  | .text s => Decimal.read? s
  | .float x => x.toInt?
  | _ => none

/-- The instant that a value of a resource stands for, if it stands for one. -/
def instant? : Value → Option Int
  | .text s => Timestamp.read? s
  | _ => none

def decimalText (v : Value) : Value := match v.integer? with
  | some n => .text (Decimal.write n)
  | none => v

def timestampText (v : Value) : Value := match v.instant? with
  | some n => .text (Timestamp.write n)
  | none => v

def mapList (f : Value → Value) : Value → Value
  | .list items => .list (items.map f)
  | v => v

@[simp] theorem mapList_id : mapList id = id := by
  funext v
  cases v with
  | list items => rw [mapList, List.map_id]; rfl
  | _ => rfl

theorem fits_of_integer? {v : Value} {n : Int} (hv : v.IsNumeral) (h : v.integer? = some n) :
    Decimal.Fits n := by
  cases v with
  | int m => cases h; exact hv
  | text s => exact Decimal.fits_of_read? h
  | float x => exact Binary64.fits_of_toInt? hv h
  | _ => cases h

theorem IsText.ne_null {v : Value} (h : v.IsText) : v ≠ .null := by
  obtain ⟨s, rfl⟩ := h
  exact Value.noConfusion

theorem IsFlag.ne_null {v : Value} (h : v.IsFlag) : v ≠ .null := by
  obtain ⟨b, rfl⟩ := h
  exact Value.noConfusion

theorem IsInteger.ne_null {v : Value} (h : v.IsInteger) : v ≠ .null := by
  obtain ⟨n, rfl⟩ := h
  exact Value.noConfusion

theorem Optional.imp {P Q : Value → Prop} {v : Value} (h : Optional P v) (hPQ : ∀ w, P w → Q w) :
    Optional Q v :=
  Or.imp_right (hPQ v) h

theorem IsListOf.imp {P Q : Value → Prop} {v : Value} (h : IsListOf P v) (hPQ : ∀ w, P w → Q w) :
    IsListOf Q v := by
  obtain ⟨items, rfl, each⟩ := h
  exact ⟨items, rfl, fun w hw => hPQ w (each w hw)⟩

theorem Optional.forall_mem {P : Value → Prop} {items : List Value}
    (h : Optional (IsListOf P) (ofList? (some items))) : ∀ v ∈ items, P v := by
  obtain ⟨_, he, each⟩ := h.resolve_left Value.noConfusion
  cases he
  exact each

theorem Optional.listOf_map {P Q : Value → Prop} {f : Value → Value} {items? : Option (List Value)}
    (h : Optional (IsListOf P) (ofList? items?)) (hf : ∀ v, P v → Q (f v)) :
    Optional (IsListOf Q) (ofList? (items?.map (List.map f))) := by
  cases items? with
  | none => exact Or.inl rfl
  | some items =>
    refine Or.inr ⟨items.map f, rfl, ?_⟩
    intro w hw
    obtain ⟨v, hv, rfl⟩ := List.mem_map.1 hw
    exact hf v (h.forall_mem v hv)

/-- Does nothing stand anywhere inside the value?  Only values of a document are looked at. -/
inductive NullFree : Value → Prop
  | bool (b : Bool) : NullFree (.bool b)
  | int (n : Int) : NullFree (.int n)
  | float (x : Binary64) : NullFree (.float x)
  | text (s : String) : NullFree (.text s)
  | list {items : List Value} : (∀ v ∈ items, NullFree v) → NullFree (.list items)
  | map {es : List (String × Value)} : (∀ e ∈ es, NullFree e.2) → NullFree (.map es)

end Value

end StorageMetadata
