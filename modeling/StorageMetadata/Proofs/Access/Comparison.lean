import StorageMetadata.Proofs.Access.Grant
import StorageMetadata.Proofs.Resource.Comparison

/-!
# Comparing entities and grants

Entities are compared by their spellings.  Two entities of different kinds may be spelled alike,
since an entity that is kept as it is spelled may be spelled like one of a known shape.  Grants are
compared by the spellings of their entities and by their roles.
-/

namespace StorageMetadata

open StorageMetadata.Resource

namespace Value

/-- Is the value an entity with texts for its parts? -/
def IsEntityOfTexts (v : Value) : Prop := ∃ e : Entity String, v = .entity (e.map .text)

/-- Is the value a grant to such an entity? -/
def IsGrantOfTexts (v : Value) : Prop :=
  ∃ (e : Entity String) (role : Role), v = .grant ⟨.entity (e.map .text), role⟩

theorem IsEntity.ofTexts {v : Value} (h : v.IsEntity) : v.IsEntityOfTexts :=
  h.imp fun _ he => he.1

theorem IsGrant.ofTexts {v : Value} (h : v.IsGrant) : v.IsGrantOfTexts := by
  obtain ⟨e, role, he, -⟩ := h
  exact ⟨e, role, he⟩

/-- Are both values entities, spelled alike? -/
def SpelledAlike (v w : Value) : Prop :=
  ∃ e f : Entity String, v = .entity (e.map .text) ∧ w = .entity (f.map .text) ∧
    e.spelling = f.spelling

/-- Do both values give the same role to entities that are spelled alike? -/
def GrantedAlike (v w : Value) : Prop :=
  ∃ (e f : Entity String) (role : Role), v = .grant ⟨.entity (e.map .text), role⟩ ∧
    w = .grant ⟨.entity (f.map .text), role⟩ ∧ e.spelling = f.spelling

end Value

open StorageMetadata.Value

theorem Role.name_injective : Function.Injective Role.name := by
  intro r q h
  cases r <;> cases q <;> first | rfl | exact absurd h (by decide)

namespace Entity

theorem map_text_injective : Function.Injective (Entity.map Value.text) := by
  intro e f h
  cases e <;> cases f <;> cases h <;> rfl

theorem spelledAlike_iff {e f : Entity String} :
    SpelledAlike (.entity (e.map .text)) (.entity (f.map .text)) ↔ e.spelling = f.spelling := by
  constructor
  · rintro ⟨e', f', he, hf, same⟩
    obtain rfl := map_text_injective (Value.entity.inj he)
    obtain rfl := map_text_injective (Value.entity.inj hf)
    exact same
  · exact fun same => ⟨e, f, rfl, rfl, same⟩

theorem equivalenceOn_spelledAlike : EquivalenceOn IsEntityOfTexts SpelledAlike where
  refl := by
    rintro _ ⟨e, rfl⟩
    exact spelledAlike_iff.2 rfl
  symm := by
    rintro _ _ ⟨e, f, rfl, rfl, same⟩
    exact spelledAlike_iff.2 same.symm
  trans := by
    rintro _ _ _ ⟨e, f, rfl, rfl, same⟩ ⟨f', g, hf, rfl, same'⟩
    obtain rfl := map_text_injective (Value.entity.inj hf)
    exact spelledAlike_iff.2 (same.trans same')

/-- Entities are told apart by their spellings. -/
theorem distinguishes_form : form.Distinguishes IsEntityOfTexts SpelledAlike where
  ne_null := by
    rintro _ ⟨e, rfl⟩
    exact Value.noConfusion
  exists_encode := by
    rintro _ ⟨e, rfl⟩
    exact ⟨_, encode_map_text e⟩
  tells := by
    rintro _ _ s t ⟨e, rfl⟩ ⟨f, rfl⟩ hs ht
    cases (encode_map_text e).symm.trans hs
    cases (encode_map_text f).symm.trans ht
    exact Tells.ok_decide.congr spelledAlike_iff.symm
  equivalence := equivalenceOn_spelledAlike

end Entity

namespace Grant

theorem grantedAlike_iff {e f : Entity String} {r q : Role} :
    GrantedAlike (.grant ⟨.entity (e.map .text), r⟩) (.grant ⟨.entity (f.map .text), q⟩) ↔
      e.spelling = f.spelling ∧ r = q := by
  constructor
  · rintro ⟨e', f', role, he, hf, same⟩
    simp only [Value.grant.injEq, Grant.mk.injEq, Value.entity.injEq] at he hf
    obtain ⟨he, rfl⟩ := he
    obtain ⟨hf, rfl⟩ := hf
    obtain rfl := Entity.map_text_injective he
    obtain rfl := Entity.map_text_injective hf
    exact ⟨same, rfl⟩
  · rintro ⟨same, rfl⟩
    exact ⟨e, f, r, rfl, rfl, same⟩

theorem equivalenceOn_grantedAlike : EquivalenceOn IsGrantOfTexts GrantedAlike where
  refl := by
    rintro _ ⟨e, role, rfl⟩
    exact grantedAlike_iff.2 ⟨rfl, rfl⟩
  symm := by
    rintro _ _ ⟨e, f, role, rfl, rfl, same⟩
    exact grantedAlike_iff.2 ⟨same.symm, rfl⟩
  trans := by
    rintro _ _ _ ⟨e, f, role, rfl, rfl, same⟩ ⟨f', g, role', hf, rfl, same'⟩
    obtain ⟨same'', rfl⟩ := grantedAlike_iff.1 ⟨f', g, role', hf, rfl, same'⟩
    exact grantedAlike_iff.2 ⟨same.trans same'', rfl⟩

theorem encodeItem_eq (e : Entity String) (role : Role) :
    encodeItem (.grant ⟨.entity (e.map .text), role⟩) =
      .ok (.map [("entity", .text e.spelling), ("role", .text role.name)]) := by
  simp only [encodeItem, encode, Value.encode, Entity.encode_map_text]
  rfl

/-- Grants are told apart by the spellings of their entities and by their roles. -/
theorem distinguishes_form : form.Distinguishes IsGrantOfTexts GrantedAlike where
  ne_null := by
    rintro _ ⟨e, role, rfl⟩
    exact Value.noConfusion
  exists_encode := by
    rintro _ ⟨e, role, rfl⟩
    exact ⟨_, encodeItem_eq e role⟩
  tells := by
    rintro _ _ s t ⟨e, r, rfl⟩ ⟨f, q, rfl⟩ hs ht
    cases (encodeItem_eq e r).symm.trans hs
    cases (encodeItem_eq f q).symm.trans ht
    have entity : Tells (same (.text e.spelling) (.text f.spelling)) (e.spelling = f.spelling) :=
      Tells.ok_decide
    have role : Tells (same (.text r.name) (.text q.name)) (r.name = q.name) := Tells.ok_decide
    have both := entity.and (role.and (Tells.ok_true trivial))
    refine Tells.congr both ?_
    rw [grantedAlike_iff, and_true, Role.name_injective.eq_iff]
  equivalence := equivalenceOn_grantedAlike

end Grant

end StorageMetadata
