import StorageMetadata.Failure

/-!
# Notices

While a resource is read, remarks are made about what is found; they are kept in the order in
which they are made, up to a failure if there is one.  A `Traced` computation is the remarks
together with the result, and the result of a sequence of computations does not depend on the
remarks:

    (x >>= f).result = x.result >>= fun a => (f a).result.
-/

namespace StorageMetadata

/-- A remark. -/
inductive Notice where
  /-- An entity of no known shape is kept as it is spelled. -/
  | unrecognizedEntity (spelling : String)
  | decodedRule (rule : CorsRule Value)
  | decodedObject (bucket name : Value)
  | decodedBucket (name : Value)
  | loaded (path : Path)

namespace Notice

/-- The channel on which the remark is made. -/
def channel : Notice → String
  | .unrecognizedEntity _ => "storagekit.core.acl"
  | .decodedRule _ => "storagekit.core.cors"
  | .decodedObject .. => "storagekit.core.blob_info"
  | .decodedBucket _ => "storagekit.core.bucket_info"
  | .loaded _ => "storagekit.loading"

/-- The remark in words. -/
def message : Notice → String
  | .unrecognizedEntity s => "Unrecognized ACL entity " ++ Text.quoted s ++ ", keeping raw value"
  | .decodedRule r => "Decoded CORS rule " ++ Value.ruleLiteral r
  | .decodedObject bucket name =>
    "Decoded object resource gs://" ++ bucket.display ++ "/" ++ name.display
  | .decodedBucket name => "Decoded bucket resource " ++ name.display
  | .loaded path => "Loaded resource file " ++ path.write

end Notice

/-- A computation that may fail, with the remarks that it made. -/
structure Traced (α : Type) where
  notices : List Notice
  result : Result α

namespace Traced

/-- A computation that makes no remark. -/
def lift {α : Type} (r : Result α) : Traced α := ⟨[], r⟩

/-- Makes one remark. -/
def remark (n : Notice) : Traced Unit := ⟨[n], .ok ()⟩

/-- One computation after another; a failure ends them. -/
def andThen {α β : Type} (x : Traced α) (f : α → Traced β) : Traced β :=
  match x.result with
  | .ok a => ⟨x.notices ++ (f a).notices, (f a).result⟩
  | .error e => ⟨x.notices, .error e⟩

instance : Monad Traced where
  pure a := ⟨[], .ok a⟩
  bind := andThen

instance : MonadLift Result Traced := ⟨lift⟩

@[simp] theorem result_pure {α : Type} (a : α) : (pure a : Traced α).result = .ok a := rfl

@[simp] theorem result_lift {α : Type} (r : Result α) : (lift r).result = r := rfl

@[simp] theorem result_monadLift {α : Type} (r : Result α) :
    (MonadLift.monadLift r : Traced α).result = r := rfl

@[simp] theorem result_remark (n : Notice) : (remark n).result = .ok () := rfl

@[simp] theorem result_bind {α β : Type} (x : Traced α) (f : α → Traced β) :
    (x >>= f).result = x.result >>= fun a => (f a).result := by
  show (andThen x f).result = _
  unfold andThen
  cases h : x.result <;> rfl

instance : LawfulMonad Traced := LawfulMonad.mk' _
  (fun x => by
    obtain ⟨ns, r⟩ := x
    cases r with
    | error e => rfl
    | ok a => show Traced.mk (ns ++ []) _ = _; rw [List.append_nil]; rfl)
  (fun a f => rfl)
  (fun x f g => by
    obtain ⟨ns, r⟩ := x
    cases r with
    | error e => rfl
    | ok a =>
      show andThen ⟨ns ++ (f a).notices, (f a).result⟩ g =
        ⟨ns ++ (andThen (f a) g).notices, (andThen (f a) g).result⟩
      unfold andThen
      cases (f a).result <;> simp)

end Traced

end StorageMetadata
