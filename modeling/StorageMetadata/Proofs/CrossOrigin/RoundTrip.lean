import StorageMetadata.Proofs.Builder.Records
import StorageMetadata.Proofs.CrossOrigin.Rule
import StorageMetadata.Proofs.Resource.Comparison

/-!
# Rules are read back

A rule whose fields hold values of their kinds is written as an entry of a bucket's resource, and
the entry is read as the rule with its origins looked up, which is equal to it:

    ∃ w, r.encode = .ok w ∧ (decode w).result = .ok r.lookedUp.

Whatever a rule was read from, `*` is the one shared origin in it, and it still is in a copy of the
rule.  The other way round, an entry that was read is written with the values that it has at the
keys of a rule, nothing left out and nothing moved, but for the names of the methods, which come out
in capitals; what holds nothing and what is at other keys is gone.  That is read as the same rule.
-/

namespace StorageMetadata

open StorageMetadata.Resource StorageMetadata.Value

/-- Is the value an origin that is the shared one exactly if its text stands for every origin? -/
def Value.IsInterned (v : Value) : Prop :=
  ∃ o : Origin Value, v = .origin o ∧ (o.shared = true ↔ o.value = .text anyOrigin)

/-- Looking an origin up gives the shared one for `*` and no other text. -/
theorem Origin.isInterned_of_of {v : Value} {o : Origin Value} (h : Origin.of v = .ok o) :
    (Value.origin o).IsInterned := by
  refine ⟨o, rfl, ?_⟩
  cases v with
  | null => cases h
  | text s =>
    cases h
    rw [decide_eq_true_iff, Value.text.injEq]
  | _ =>
    cases h
    exact ⟨fun shared => absurd shared Bool.false_ne_true, fun text => Value.noConfusion text⟩

namespace CorsRule

/-! ### Origins of a rule -/

/-- Is every origin for `*` among those of the rule the shared one, and is no other? -/
def Interns (r : CorsRule Value) : Prop := ∀ v ∈ r.origins.getD [], v.IsInterned

/-- The origins of a rule that was read were looked up one by one, whatever the resource. -/
theorem interns_of_decode {v : Value} {r : CorsRule Value} (h : (decode v).result = .ok r) :
    r.Interns := by
  simp only [decode, Traced.result_bind, Traced.result_liftM, Traced.result_remark,
    Traced.result_pure, Result.bind_eq_ok_iff] at h
  obtain ⟨_, -, _, -, _, -, _, -, _, -, values?, -, origins?, found, _, -, _, -, _, -, built⟩ := h
  cases built
  intro x hx
  cases values? with
  | none =>
    cases found
    exact absurd hx List.not_mem_nil
  | some values =>
    obtain ⟨origins, read, rfl⟩ := Result.map_eq_ok_iff.1 found
    obtain ⟨w, -, hw⟩ := Result.exists_of_mem_mapM read x hx
    obtain ⟨o, ho, rfl⟩ := Result.map_eq_ok_iff.1 hw
    exact Origin.isInterned_of_of ho

/-- A copy of a rule has the fields of the rule as they are. -/
theorem copy_eq (r : CorsRule Value) : r.copy = .ok r.toDraft := by
  obtain ⟨d, hd, fields⟩ := lawful_builder.refills r
  obtain rfl : d = r.toDraft := congrArg Draft.mk (ext_of_get fields)
  exact Filling.draft_eq_ok_iff.2 hd

/-! ### Entries that were read -/

/-- What becomes of a value at the key of a field: the names of methods are put in capitals. -/
def Field.rewritten : Field → Value → Value
  | .methods => mapList capitals
  | _ => id

theorem Field.codec_normal (f : Field) (s : Option Value) :
    f.codec.normal s = (held s).map f.rewritten := by
  cases f with
  | methods => rfl
  | origins => exact congrArg (fun g => (held s).map g) mapList_id
  | responseHeaders => exact congrArg (fun g => (held s).map g) mapList_id
  | maxAge => rfl

/-- An entry that was read is written in normal form, which is read as the same rule. -/
theorem encode_of_decode_map {es : List (String × Value)} {r : CorsRule Value} (schema : Admits es)
    (read : (decode (.map es)).result = .ok r) :
    r.encode = .ok (.map (layout.normal es)) ∧
      (decode (.map (layout.normal es))).result = .ok r := by
  have admits : layout.Admits es := by
    intro f
    have h := schema f
    cases f <;> exact h
  have reads := decode_map_eq_ok_iff.1 read
  obtain ⟨-, writes⟩ := Layout.typed_and_writes_normal lawful_layout admits reads (ranged r)
  exact ⟨encode_of_writes writes,
    decode_map_eq_ok_iff.2 (Layout.reads_normal lawful_layout admits reads (ranged r))⟩

/-- **A rule is read back as an equal one, `*` is always the shared origin in a rule that was read, and
an entry that was read is written with its methods in capitals and is otherwise what it was**, without
what holds nothing and what is at keys of no field.  A copy of a rule that was read is that rule. -/
theorem decode_encode_rule :
    (∀ r : CorsRule Value, (∀ f : Field, f.Kind (r.get f)) →
      ∃ w, r.encode = .ok w ∧ (decode w).result = .ok r.lookedUp ∧
        same (.rule r.lookedUp) (.rule r) = .ok true) ∧
    (∀ (v : Value) (r : CorsRule Value), (decode v).result = .ok r →
      r.Interns ∧ ∃ d, r.copy = .ok d ∧ d.build = r ∧ d.build.Interns) ∧
    ∀ (es : List (String × Value)) (r : CorsRule Value), Admits es →
      (decode (.map es)).result = .ok r →
      ∃ fs, r.encode = .ok (.map fs) ∧ (fs.map Prod.fst).Nodup ∧
        (∀ f : Field, valueAt? f.key fs = (held (valueAt? f.key es)).map f.rewritten) ∧
        (∀ key, (∀ f : Field, f.key ≠ key) → valueAt? key fs = none) ∧
        (decode (.map fs)).result = .ok r := by
  refine ⟨fun r kinds => ?_, fun v r read => ?_, fun es r schema read => ?_⟩
  · obtain ⟨es, writes, reads⟩ := Layout.exists_writes_reads lawful_layout (typed_lookedUp kinds)
    refine ⟨.map es, ?_, decode_map_eq_ok_iff.2 reads, same_lookedUp kinds⟩
    rw [← encode_lookedUp]
    exact encode_of_writes writes
  · have interns := interns_of_decode read
    exact ⟨interns, r.toDraft, copy_eq r, rfl, interns⟩
  · obtain ⟨written, again⟩ := encode_of_decode_map schema read
    refine ⟨layout.normal es, written, layout.nodup_entries _, fun f => ?_, fun key unknown => ?_,
      again⟩
    · rw [← Field.codec_normal]
      exact layout.valueAt?_entries _ f
    · exact layout.valueAt?_flatMap_of_ne _ fun f _ => unknown f

/-- A rule with an origin for `*` that was not looked up, and with an empty list. -/
def preflight : CorsRule Value where
  maxAge := .int 3600
  methods := some [.method .options, .method .get, .method .get]
  origins := some [.origin ⟨"*", false⟩, .origin ⟨"https://example.com", false⟩]
  responseHeaders := some []

theorem kind_preflight (f : Field) : f.Kind (preflight.get f) := by
  cases f with
  | maxAge => exact Or.inr ⟨_, rfl⟩
  | methods => exact Or.inr ⟨_, rfl, by simp [IsMethod]⟩
  | origins => exact Or.inr ⟨_, rfl, by simp [IsOrigin]⟩
  | responseHeaders => exact Or.inr ⟨[], rfl, by simp⟩

/-- An entry with a method twice, in small letters and with a letter that is not of ASCII, and with
two keys that come to nothing. -/
def receivedEntry : List (String × Value) := [
  ("method", .list ["get", "GET", "opt\u0131ons"]), ("maxAgeSeconds", .null),
  ("origin", .list ["*", "*"]), ("kind", "rule")
]

/-- The rule that it is read as. -/
def receivedRule : CorsRule Value where
  maxAge := .null
  methods := some [.method .get, .method .get, .method .options]
  origins := some [.origin ⟨"*", true⟩, .origin ⟨"*", true⟩]

theorem admits_receivedEntry : Admits receivedEntry := by
  intro f
  cases f with
  | methods => exact Or.inr ⟨_, rfl, by simp [IsText]⟩
  | origins => exact Or.inr ⟨_, rfl, by simp [IsText]⟩
  | _ => exact Or.inl rfl

/-- There are rules and entries of the kinds that are asked for. -/
theorem decode_encode_preflight :
    ((∀ f : Field, f.Kind (preflight.get f)) ∧
      ∃ w, preflight.encode = .ok w ∧ (decode w).result = .ok preflight.lookedUp ∧
        same (.rule preflight.lookedUp) (.rule preflight) = .ok true) ∧
    (Admits receivedEntry ∧ (decode (.map receivedEntry)).result = .ok receivedRule ∧
      receivedRule.Interns ∧ ∃ fs, receivedRule.encode = .ok (.map fs) ∧
        valueAt? "method" fs = some (.list ["GET", "GET", "OPTIONS"]) ∧
        valueAt? "kind" fs = none) := by
  have read : (decode (.map receivedEntry)).result = .ok receivedRule := rfl
  obtain ⟨fs, written, -, kept, other, -⟩ :=
    decode_encode_rule.2.2 receivedEntry receivedRule admits_receivedEntry read
  refine ⟨⟨kind_preflight, decode_encode_rule.1 preflight kind_preflight⟩, admits_receivedEntry,
    read, (decode_encode_rule.2.1 _ _ read).1, fs, written, kept .methods, other "kind" ?_⟩
  intro f
  cases f <;> decide

end CorsRule

end StorageMetadata
