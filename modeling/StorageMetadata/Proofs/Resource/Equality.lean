import StorageMetadata.Proofs.Resource.Comparison

/-!
# Equality of records

Records are compared by their resources.  If the codecs of a layout distinguish the values that the
fields may hold, a comparison of two records tells whether they agree in every field, so it is an
equality of records: reflexive, symmetric and transitive.
-/

namespace StorageMetadata.Resource

open StorageMetadata.Value

/-- Is the comparison of records an equality among those that are declared, with the meaning that
two of them agree, and have equal records equal fingerprints? -/
structure IsEquality {ρ : Type} (same : ρ → ρ → Result Bool) (fingerprint? : ρ → Option Fingerprint)
    (Declared : ρ → Prop) (Agree : ρ → ρ → Prop) : Prop where
  tells : ∀ a b, Declared a → Declared b → Tells (same a b) (Agree a b)
  refl : ∀ a, Declared a → same a a = .ok true
  symm : ∀ a b, Declared a → Declared b → same a b = .ok true → same b a = .ok true
  trans : ∀ a b c, Declared a → Declared b → Declared c →
    same a b = .ok true → same b c = .ok true → same a c = .ok true
  fingerprint : ∀ a b, Declared a → Declared b → same a b = .ok true →
    ∃ f, fingerprint? a = some f ∧ fingerprint? b = some f

/-- If a comparison tells whether records agree, it has the laws that agreeing has. -/
theorem isEquality_of_tells {ρ : Type} {same : ρ → ρ → Result Bool}
    {fingerprint? : ρ → Option Fingerprint} {Declared : ρ → Prop} {Agree : ρ → ρ → Prop}
    (tells : ∀ a b, Declared a → Declared b → Tells (same a b) (Agree a b))
    (refl : ∀ a, Declared a → Agree a a) (symm : ∀ a b, Agree a b → Agree b a)
    (trans : ∀ a b c, Agree a b → Agree b c → Agree a c)
    (fingerprint : ∀ a b, Declared a → Agree a b →
      ∃ f, fingerprint? a = some f ∧ fingerprint? b = some f) :
    IsEquality same fingerprint? Declared Agree where
  tells := tells
  refl a ha := (tells a a ha ha).eq_true_iff.2 (refl a ha)
  symm a b ha hb h :=
    (tells b a hb ha).eq_true_iff.2 (symm a b ((tells a b ha hb).eq_true_iff.1 h))
  trans a b c ha hb hc h h' :=
    (tells a c ha hc).eq_true_iff.2
      (trans a b c ((tells a b ha hb).eq_true_iff.1 h) ((tells b c hb hc).eq_true_iff.1 h'))
  fingerprint a b ha hb h := fingerprint a b ha ((tells a b ha hb).eq_true_iff.1 h)

namespace Layout

variable {κ ρ : Type} {L : Layout κ} {D : κ → Value → Prop} {R : κ → Value → Value → Prop}
  {encode : ρ → Result Value}

/-- Records that are written key by key are told apart key by key. -/
theorem tells_encode (part : ρ → κ → Value) (h : ∀ k, (L.codec k).Distinguishes (D k) (R k))
    (encodes : ∀ {x es}, L.Writes (part x) es → encode x = .ok (.map es)) {x y : ρ}
    (hx : ∀ k, D k (part x k)) (hy : ∀ k, D k (part y k)) :
    Tells (do (← encode x).same (← encode y)) (∀ k, R k (part x k) (part y k)) := by
  obtain ⟨es, writesX⟩ := exists_writes fun k => (h k).exists_write _ (hx k)
  obtain ⟨fs, writesY⟩ := exists_writes fun k => (h k).exists_write _ (hy k)
  rw [encodes writesX, encodes writesY]
  exact writesX.tells h hx hy writesY

end Layout

end StorageMetadata.Resource
