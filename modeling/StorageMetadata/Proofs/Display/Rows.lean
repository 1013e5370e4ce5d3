import StorageMetadata.Display.Table
import StorageMetadata.Proofs.Json.Reader
import StorageMetadata.Proofs.Object.Restatement

/-!
# The rows of an object

The table of an object has the twelve rows of `contents`, then one row for the access list if there
is one, and then a row for each of the user's texts.  What a row says is stated by what it shows
(`Shows`), not by how its cells are made.  The texts are sorted by their keys, and keys are different,
so there is one order for them (`sortedEntries_perm`).  That is why objects that look the same from
outside have the same table, whatever order their texts are in.
-/

namespace StorageMetadata.Display

open StorageMetadata.Value StorageMetadata.Resource StorageMetadata.Result

/-! ### The order of the user's texts -/

theorem sortedEntries_spec {es : List (String × Value)} (h : (es.map Prod.fst).Nodup) :
    (sortedEntries es).Perm es ∧ (sortedEntries es).Pairwise fun a b => a.1 < b.1 := by
  have perm : (sortedEntries es).Perm es := List.mergeSort_perm es _
  have nodup : ((sortedEntries es).map Prod.fst).Nodup := (perm.map Prod.fst).nodup_iff.2 h
  have sorted : (sortedEntries es).Pairwise fun a b => decide (a.1 ≤ b.1) = true := by
    refine List.pairwise_mergeSort (fun a b c hab hbc => ?_) (fun a b => ?_) es
    · exact decide_eq_true (String.le_trans (of_decide_eq_true hab) (of_decide_eq_true hbc))
    · rw [Bool.or_eq_true, decide_eq_true_eq, decide_eq_true_eq]
      exact String.le_total a.1 b.1
  refine ⟨perm, sorted.imp₂ (fun a b hab hne => ?_) (List.pairwise_map.1 nodup)⟩
  -- Keys in order that are different are strictly in order.
  apply String.not_le.1
  intro hba
  exact hne (String.le_antisymm (of_decide_eq_true hab) hba)

/-- There is one order for entries with different keys. -/
theorem sortedEntries_perm {es fs : List (String × Value)} (h : (es.map Prod.fst).Nodup)
    (perm : es.Perm fs) : sortedEntries es = sortedEntries fs := by
  have h' : (fs.map Prod.fst).Nodup := (perm.map Prod.fst).nodup_iff.1 h
  obtain ⟨permE, sortedE⟩ := sortedEntries_spec h
  obtain ⟨permF, sortedF⟩ := sortedEntries_spec h'
  refine List.Perm.eq_of_pairwise (fun a b _ _ hab hba => ?_) sortedE sortedF
    (permE.trans (perm.trans permF.symm))
  exact absurd hab (String.lt_asymm hba)

/-! ### Objects that look the same -/

/-- Objects that hold the same in every field, as far as it is seen, have the same table. -/
theorem objectTable_congr (console : Console) {o p : Object}
    (seen : ∀ f : Object.Field, f.SeenAs (o.toDraft.get f) (p.toDraft.get f))
    (keys : ∀ es, o.metadata = .map es → (es.map Prod.fst).Nodup) :
    objectTable console o = objectTable console p := by
  have acl : o.acl = p.acl := ofList?_injective (seen .acl)
  have metadata : metadataRows o.metadata = metadataRows p.metadata := by
    rcases seen .metadata with ⟨ho, hp⟩ | ⟨-, -, es, fs, ho, hp, perm⟩
    · rw [show o.metadata = .null from ho, show p.metadata = .null from hp]
    · rw [show o.metadata = .map es from ho, show p.metadata = .map fs from hp]
      simp only [metadataRows, sortedEntries_perm (keys es ho) perm]
  have contentType : o.view .contentType = p.view .contentType := seen .contentType
  have contentEncoding : o.view .contentEncoding = p.view .contentEncoding := seen .contentEncoding
  have cacheControl : o.view .cacheControl = p.view .cacheControl := seen .cacheControl
  have md5 : o.view .md5 = p.view .md5 := seen .md5
  have crc32c : o.view .crc32c = p.view .crc32c := seen .crc32c
  simp only [objectTable, acl, metadata, contentType, contentEncoding, cacheControl, md5, crc32c,
    show o.bucket = p.bucket from seen .bucket, show o.name = p.name from seen .name,
    show o.size = p.size from seen .size, show o.generation = p.generation from seen .generation,
    show o.metageneration = p.metageneration from seen .metageneration,
    show o.updateTime = p.updateTime from seen .updateTime,
    show o.owner = p.owner from seen .owner]

/-! ### What stands in a table -/

/-- Does the cell show a value that may be missing?  Nothing is shown as a dash, and anything else by
its text, which no marks are looked for in. -/
inductive Shows : Value → Cell → Prop
  | missing : Shows .null .dash
  | text {v : Value} {s : String} : v ≠ .null → v.shown = .ok s → Shows v (.literal s)

/-- The headings of the rows that every object has, and what there is to the right of each. -/
def contents (o : Object) : List (String × (Cell → Prop)) := [
  ("Bucket", fun c => c = .plain o.bucket),
  ("Name", fun c => c = .plain o.name),
  ("Size", fun c => ∃ s, sizeText o.size = .ok s ∧ c = .plain (.text s)),
  ("Content type", Shows (o.view .contentType)),
  ("Content encoding", Shows (o.view .contentEncoding)),
  ("Cache control", Shows (o.view .cacheControl)),
  ("Generation", Shows o.generation),
  ("Metageneration", Shows o.metageneration),
  ("MD5", Shows (o.view .md5)),
  ("CRC32C", Shows (o.view .crc32c)),
  ("Updated", fun c => ∃ s, timeText o.updateTime = .ok s ∧ c = .plain (.text s)),
  ("Owner", Shows o.owner)]

/-- Is this a row with a heading and with what there is to be to the right of it? -/
def IsRow (content : String × (Cell → Prop)) (cells : List Cell) : Prop :=
  ∃ c, cells = [.plain (.text content.1), c] ∧ content.2 c

theorem row_eq_ok_iff {heading : String} {cell : Result Cell} {cells : List Cell} :
    row heading cell = .ok cells ↔ ∃ c, cell = .ok c ∧ cells = [.plain (.text heading), c] := by
  rw [row, bind_eq_ok_iff]
  constructor
  · rintro ⟨c, hc, ⟨⟩⟩
    exact ⟨c, hc, rfl⟩
  · rintro ⟨c, hc, rfl⟩
    exact ⟨c, hc, rfl⟩

theorem shows_of_optionalCell {v : Value} {c : Cell} (h : optionalCell v = .ok c) : Shows v c := by
  unfold optionalCell at h
  split at h
  next missing =>
    cases h
    exact missing ▸ .missing
  next present =>
    obtain ⟨s, shown, rfl⟩ := map_eq_ok_iff.1 h
    exact .text present shown

theorem eq_of_plainCell {console : Console} {v : Value} {c : Cell}
    (h : plainCell console v = .ok c) : c = .plain v := by
  unfold plainCell at h
  split at h
  next => exact (Except.ok.inj h).symm
  next => cases h

theorem exists_of_map_textCell {text : Result String} {c : Cell}
    (h : text.map textCell = .ok c) : ∃ s, text = .ok s ∧ c = .plain (.text s) := by
  obtain ⟨s, shown, rfl⟩ := map_eq_ok_iff.1 h
  exact ⟨s, shown, rfl⟩

/-- A row that is made of a cell that shows what it has to is as it has to be. -/
theorem isRow_of_row {heading : String} {cell : Result Cell} {P : Cell → Prop} {cells : List Cell}
    (h : row heading cell = .ok cells) (shows : ∀ c, cell = .ok c → P c) :
    IsRow (heading, P) cells := by
  obtain ⟨c, hc, rfl⟩ := row_eq_ok_iff.1 h
  exact ⟨c, rfl, shows c hc⟩

/-- A table is made of three parts. -/
theorem exists_parts_of_objectTable {console : Console} {o : Object} {t : Table}
    (h : objectTable console o = .ok t) :
    t.columns = ["Field", "Value"] ∧ ∃ fields grants texts, t.rows = fields ++ grants ++ texts ∧
      List.Forall₂ IsRow (contents o) fields ∧ aclRows o.acl = .ok grants ∧
      metadataRows o.metadata = .ok texts := by
  obtain ⟨fields, hfields, h⟩ := bind_eq_ok_iff.1 h
  obtain ⟨grants, hgrants, h⟩ := bind_eq_ok_iff.1 h
  obtain ⟨texts, htexts, h⟩ := bind_eq_ok_iff.1 h
  cases h
  have optional : ∀ (heading : String) (v : Value) (cells : List Cell),
      row heading (optionalCell v) = .ok cells → IsRow (heading, Shows v) cells :=
    fun _ _ _ h => isRow_of_row h fun _ => shows_of_optionalCell
  have fieldRows : List.Forall₂ IsRow (contents o) fields := by
    have made : List.Forall₂ (fun (r : Result (List Cell)) cells => r = .ok cells) _ fields :=
      forall₂_of_mapM hfields
    refine forall₂_trans (R := fun content r => ∀ cells, r = .ok cells → IsRow content cells)
      (fun _ _ cells shows => shows cells) ?_ made
    exact .cons (fun _ bucket => isRow_of_row bucket fun _ => eq_of_plainCell) <|
      .cons (fun _ name => isRow_of_row name fun _ => eq_of_plainCell) <|
      .cons (fun _ size => isRow_of_row size fun _ => exists_of_map_textCell) <|
      .cons (optional _ _) <| .cons (optional _ _) <| .cons (optional _ _) <|
      .cons (optional _ _) <| .cons (optional _ _) <| .cons (optional _ _) <|
      .cons (optional _ _) <|
      .cons (fun _ updated => isRow_of_row updated fun _ => exists_of_map_textCell) <|
      .cons (optional _ _) .nil
  exact ⟨rfl, fields, grants, texts, rfl, fieldRows, hgrants, htexts⟩

/-! ### Access lists -/

/-- Is this how a grant of a resource is shown? -/
def ShowsGrant (v : Value) (text : String) : Prop :=
  ∃ es s role, v = .map es ∧ valueAt? "entity" es = some (.text s) ∧
    valueAt? "role" es = some (.text (Role.name role)) ∧
    text = (Entity.ofSpelling s).spelling ++ ":" ++ role.name

/-- Are these the rows for what a resource has for an access list: none, or one with its grants in
order? -/
def ShowsGrants (v : Value) (rows : List (List Cell)) : Prop :=
  v = .null ∧ rows = [] ∨ ∃ entries texts, v = .list entries ∧
    List.Forall₂ ShowsGrant entries texts ∧
    rows = [[.plain "ACL", .literal (", ".intercalate texts)]]

theorem shown_map_text (e : Entity String) :
    (Value.entity (e.map .text)).shown = .ok e.spelling := by
  cases e <;> rfl

theorem showsGrant_of_decode {v w : Value} {text : String} (item : IsMapOf (fun _ => True) v)
    (read : Grant.form.decode v = .ok w) (shown : grantText w = .ok text) : ShowsGrant v text := by
  obtain ⟨es, rfl, -⟩ := item
  obtain ⟨g, hg, rfl⟩ := map_eq_ok_iff.1 read
  obtain ⟨s, role, entity, hrole, rfl⟩ := Grant.decode_map_eq_ok_iff.1 hg
  simp only [grantText, shown_map_text] at shown
  cases shown
  exact ⟨es, s, role, rfl, entity, hrole, rfl⟩

theorem showsGrants_of_read {s : Option Value} {acl : Option (List Value)} {rows : List (List Cell)}
    (shape : Optional (IsListOf (IsMapOf fun _ => True)) (s.getD .null))
    (read : Grant.form.list.optional.read s = .ok (ofList? acl)) (shown : aclRows acl = .ok rows) :
    ShowsGrants (s.getD .null) rows := by
  rcases shape with none | ⟨entries, list, maps⟩
  · simp only [Form.optional, if_pos none] at read
    cases acl with
    | none =>
      cases shown
      exact Or.inl ⟨none, rfl⟩
    | some items => cases read
  · simp only [Form.optional, list, reduceCtorEq, if_false] at read
    obtain ⟨_, hentries, read⟩ := bind_eq_ok_iff.1 read
    cases hentries
    obtain ⟨items, hitems, read⟩ := bind_eq_ok_iff.1 read
    obtain rfl : acl = some items := ofList?_injective (Except.ok.inj read).symm
    obtain ⟨cells, hcells, ⟨⟩⟩ := bind_eq_ok_iff.1 shown
    obtain ⟨c, hc, rfl⟩ := row_eq_ok_iff.1 hcells
    obtain ⟨texts, htexts, ⟨⟩⟩ := bind_eq_ok_iff.1 hc
    have read := (List.forall₂_and_left entries items).2 ⟨maps, forall₂_of_mapM hitems⟩
    have spelled : List.Forall₂ ShowsGrant entries texts := by
      refine forall₂_trans (fun v w text hv hw => ?_) read (forall₂_of_mapM htexts)
      exact showsGrant_of_decode hv.1 hv.2 hw
    exact Or.inr ⟨entries, texts, list, spelled, rfl⟩

/-! ### The user's texts -/

/-- Are these the rows for what a resource has for the user's texts: none, or one for each key, the
keys strictly in order? -/
def ShowsTexts (v : Value) (rows : List (List Cell)) : Prop :=
  v = .null ∧ rows = [] ∨ ∃ entries sorted, v = .map entries ∧ sorted.Perm entries ∧
    (sorted.Pairwise fun a b => a.1 < b.1) ∧
    List.Forall₂ (fun e cells => IsRow ("metadata." ++ e.1, Shows e.2) cells) sorted rows

theorem showsTexts_of_metadataRows {v : Value} {rows : List (List Cell)}
    (shape : Optional (IsMapOf fun es => (es.map Prod.fst).Nodup) v)
    (shown : metadataRows v = .ok rows) : ShowsTexts v rows := by
  rcases shape with rfl | ⟨entries, rfl, nodup⟩
  · cases shown
    exact Or.inl ⟨rfl, rfl⟩
  · obtain ⟨perm, sorted⟩ := sortedEntries_spec nodup
    refine Or.inr ⟨entries, sortedEntries entries, rfl, perm, sorted, ?_⟩
    exact (forall₂_of_mapM shown).imp fun e cells h => isRow_of_row h fun _ => shows_of_optionalCell

/-- **Entries with keys of any kind are shown too, each of them once.**  They are in the order that
sorting puts them in. -/
theorem exists_perm_of_metadataRows_keyed {entries : List (Value × Value)} {rows : List (List Cell)}
    (shown : metadataRows (.keyed entries) = .ok rows) : ∃ sorted, sorted.Perm entries ∧
      List.Forall₂ (fun e cells => ∃ key, e.1.shown = .ok key ∧
        IsRow ("metadata." ++ key, Shows e.2) cells) sorted rows := by
  obtain ⟨sorted, hsorted, shown⟩ := bind_eq_ok_iff.1 shown
  refine ⟨sorted, ?_, (forall₂_of_mapM shown).imp fun e cells h => ?_⟩
  · unfold sortedKeyed at hsorted
    split at hsorted
    · cases hsorted
    · cases hsorted
      exact Sorting.sort_perm _ entries
  · obtain ⟨key, hkey, h⟩ := bind_eq_ok_iff.1 h
    exact ⟨key, hkey, isRow_of_row h fun _ => shows_of_optionalCell⟩

/-! ### The whole table -/

/-- Is this the table for a resource and the object that is read from it: the twelve rows of every
object, a row for the access list if there is one, and a row for each of the user's texts? -/
structure IsTableOf (es : List (String × Value)) (o : Object) (t : Table) : Prop where
  columns : t.columns = ["Field", "Value"]
  rows : ∃ fields grants texts, t.rows = fields ++ grants ++ texts ∧
    List.Forall₂ IsRow (contents o) fields ∧
    ShowsGrants ((valueAt? "acl" es).getD .null) grants ∧
    ShowsTexts ((valueAt? "metadata" es).getD .null) texts

/-- What a resource has for the user's texts is kept as it is, if it is a map. -/
theorem metadata_of_decode {es : List (String × Value)} {o : Object}
    {P : List (String × Value) → Prop}
    (shape : Optional (IsMapOf P) ((valueAt? "metadata" es).getD .null))
    (read : (Object.decode (.map es)).result = .ok o) :
    o.metadata = (valueAt? "metadata" es).getD .null := by
  have codec : Object.metadataForm.optional.read (valueAt? "metadata" es) = .ok o.metadata :=
    Object.decode_map_eq_ok_iff.1 read .metadata
  rcases shape with none | ⟨texts, map, -⟩
  · simp only [Form.optional, if_pos none, Except.ok.injEq] at codec
    rw [none, codec]
  · simp only [Form.optional, map, reduceCtorEq, if_false, Object.metadataForm, toMap_map,
      Except.ok.injEq] at codec
    rw [map, codec]

theorem isTableOf_of_objectTable {console : Console} {es : List (String × Value)} {o : Object} {t : Table}
    (acl : Optional (IsListOf (IsMapOf fun _ => True)) ((valueAt? "acl" es).getD .null))
    (metadata : Optional (IsMapOf fun es => (es.map Prod.fst).Nodup)
      ((valueAt? "metadata" es).getD .null))
    (read : (Object.decode (.map es)).result = .ok o)
    (shown : objectTable console o = .ok t) :
    IsTableOf es o t := by
  obtain ⟨columns, fields, grants, texts, rows, headed, hgrants, htexts⟩ :=
    exists_parts_of_objectTable shown
  rw [metadata_of_decode metadata read] at htexts
  exact ⟨columns, fields, grants, texts, rows, headed,
    showsGrants_of_read acl (Object.decode_map_eq_ok_iff.1 read .acl) hgrants,
    showsTexts_of_metadataRows metadata htexts⟩

end StorageMetadata.Display
