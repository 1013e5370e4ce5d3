import StorageMetadata.Proofs.Command.Restatement
import StorageMetadata.Proofs.Number.Overflow

/-!
# Sizes beyond the numbers

A size is shown by way of a number of 64 bits, and an integer that is read may be beyond those:

    sizeText (.int n) = .error (.stray .outOfRange)   if   leastInfinite ≤ |n|.

An object with such a size is read, but showing it is a crash.  A smaller size is always shown, and
then it makes no difference to what else there is to show.
-/

namespace StorageMetadata

namespace Display

open StorageMetadata.Result

/-! ### The text of a size -/

/-- **An integer short of the infinities is shown.** -/
theorem exists_sizeText_of_lt {n : Int} (h : n.natAbs < Binary64.leastInfinite) :
    ∃ s, sizeText (.int n) = .ok s := by
  obtain ⟨m, e, finite⟩ := Binary64.exists_ofInt_of_lt h
  have read : sizeNumber (.int n) = .ok (.finite (decide (n < 0)) m e) := by
    simp only [sizeNumber, Value.toInt?, finite]
  rw [sizeText, if_neg Value.noConfusion, read]
  exact ⟨_, rfl⟩

/-- **A larger one is out of range.** -/
theorem sizeText_of_le {n : Int} (h : Binary64.leastInfinite ≤ n.natAbs) :
    sizeText (.int n) = .error (.stray .outOfRange) := by
  have read : sizeNumber (.int n) = fault .outOfRange := by
    simp only [sizeNumber, Value.toInt?, Binary64.ofInt_of_le h]
  rw [sizeText, if_neg Value.noConfusion, read]
  rfl

/-- **An integer is shown exactly if it is short of the infinities.** -/
theorem exists_sizeText_iff {n : Int} :
    (∃ s, sizeText (.int n) = .ok s) ↔ n.natAbs < Binary64.leastInfinite := by
  refine ⟨?_, exists_sizeText_of_lt⟩
  rintro ⟨s, shown⟩
  by_contra large
  rw [sizeText_of_le (Nat.not_lt.1 large)] at shown
  cases shown

/-! ### The table of an object -/

/-- The rows for the fields of an object that stand below its size. -/
def rowsBelowSize (o : Object) : List (Result (List Cell)) := [
  row "Content type" (optionalCell (o.view .contentType)),
  row "Content encoding" (optionalCell (o.view .contentEncoding)),
  row "Cache control" (optionalCell (o.view .cacheControl)),
  row "Generation" (optionalCell o.generation),
  row "Metageneration" (optionalCell o.metageneration),
  row "MD5" (optionalCell (o.view .md5)),
  row "CRC32C" (optionalCell (o.view .crc32c)),
  row "Updated" ((timeText o.updateTime).map textCell),
  row "Owner" (optionalCell o.owner)]

/-- The table is made from the top: the bucket, the name, the size, and what is below them. -/
theorem objectTable_eq (console : Console) (o : Object) :
    objectTable console o = (do
      let bucket ← plainCell console o.bucket
      let name ← plainCell console o.name
      let size ← sizeText o.size
      let below ← (rowsBelowSize o).mapM id
      let grants ← aclRows o.acl
      let metadata ← metadataRows o.metadata
      return {
        columns := ["Field", "Value"]
        rows := ([textCell "Bucket", bucket] :: [textCell "Name", name] ::
          [textCell "Size", textCell size] :: below) ++ grants ++ metadata }) := by
  show (List.mapM id (_ :: _ :: _ :: rowsBelowSize o) >>= _) = _
  rw [List.mapM_cons, List.mapM_cons, List.mapM_cons, id, id, id]
  cases plainCell console o.bucket with
  | error f => rfl
  | ok bucket =>
    cases plainCell console o.name with
    | error f => rfl
    | ok name =>
      cases sizeText o.size with
      | error f => rfl
      | ok size =>
        cases (rowsBelowSize o).mapM id <;> rfl

/-- The object with no size. -/
def withoutSize (o : Object) : Object := { o with size := .null }

/-- The table with another row for the size. -/
def Table.withSize (s : String) (t : Table) : Table :=
  { t with rows := t.rows.set 2 [.plain "Size", .plain (.text s)] }

/-- **A size that can be shown makes no difference to a table but in its own row.** -/
theorem objectTable_of_shown {console : Console} {o : Object} {s : String}
    (h : sizeText o.size = .ok s) :
    objectTable console o = (objectTable console (withoutSize o)).map (Table.withSize s) := by
  have none : sizeText (withoutSize o).size = .ok "-" := rfl
  have below : rowsBelowSize (withoutSize o) = rowsBelowSize o := rfl
  rw [objectTable_eq, objectTable_eq, h, none, below]
  show _ = Except.map _ (plainCell console o.bucket >>= fun _ => plainCell console o.name >>= fun _ =>
    Except.ok "-" >>= fun _ => _ >>= fun _ => aclRows o.acl >>= fun _ =>
      metadataRows o.metadata >>= fun _ => _)
  cases plainCell console o.bucket with
  | error f => rfl
  | ok bucket =>
    cases plainCell console o.name with
    | error f => rfl
    | ok name =>
      cases (rowsBelowSize o).mapM id with
      | error f => rfl
      | ok below =>
        cases aclRows o.acl with
        | error f => rfl
        | ok grants => cases metadataRows o.metadata <;> rfl

/-- A size that cannot be shown is what the table fails for, unless the bucket or the name is. -/
theorem exists_objectTable_eq_error {console : Console} {o : Object} {f : Failure Value}
    (h : sizeText o.size = .error f) : ∃ g, objectTable console o = .error g ∧
      (console.takes o.bucket = .ok () → console.takes o.name = .ok () → g = f) := by
  rw [objectTable_eq, h]
  cases bucket : plainCell console o.bucket with
  | error g =>
    refine ⟨g, rfl, fun taken _ => ?_⟩
    obtain ⟨c, shown⟩ := exists_plainCell_iff.2 taken
    cases bucket.symm.trans shown
  | ok c =>
    cases name : plainCell console o.name with
    | error g =>
      refine ⟨g, rfl, fun _ taken => ?_⟩
      obtain ⟨c, shown⟩ := exists_plainCell_iff.2 taken
      cases name.symm.trans shown
    | ok d => exact ⟨f, rfl, fun _ _ => rfl⟩

end Display

namespace Command

open StorageMetadata.Display StorageMetadata.Result StorageMetadata.Resource StorageMetadata.Value

/-! ### Showing an object -/

/-- What can go wrong once the table of an object was made: drawing it, and then putting out the
address. -/
def FailsAfter (around : Surroundings) (withUrl : Bool) (o : Object) (t : Table)
    (f : Failure Value) : Prop :=
  (∃ g, around.console.draw t = .error g ∧ f = .stray g) ∨
    (∃ u, around.console.draw t = .ok u) ∧ withUrl ∧
      putOut around.console.print
        ((Endpoint.ofEnvironment around.environment).objectUrl o.bucket o.name) = .error f

theorem failure?_putOut_ok {α : Type} (out : α → Except Fault Unit) (a : α) :
    failure? (putOut out (.ok a)) = match out a with
      | .ok _ => none
      | .error g => some (.stray g) := by
  show failure? (match out a with | .ok _ => _ | .error g => _) = _
  cases out a <;> rfl

/-- Showing an object fails with what its table fails with, or with what comes after. -/
theorem failure?_showObject_iff {around : Surroundings} {withUrl : Bool} {o : Object}
    {f : Failure Value} : (showObject around withUrl o).failure? = some f ↔
      objectTable around.console o = .error f ∨
        ∃ t, objectTable around.console o = .ok t ∧ FailsAfter around withUrl o t f := by
  rw [failure?_showObject]
  cases objectTable around.console o with
  | error g =>
    constructor
    · intro h
      exact Or.inl (congrArg Except.error (Option.some.inj h))
    · rintro (h | ⟨t, h, -⟩)
      · exact congrArg some (Except.error.inj h)
      · cases h
  | ok t =>
    rw [failure?_putOut_ok]
    cases drawing : around.console.draw t with
    | error g =>
      simp [FailsAfter, drawing, eq_comm]
    | ok u =>
      cases withUrl <;> simp [FailsAfter, drawing, failure?_eq_some_iff]

/-- Once a resource is decoded, a command crashes for nothing but what showing it fails with. -/
theorem Outcome.isCrash_ofResult_iff {notices : List Notice} {showing : Showing}
    {f : Failure Value} :
    (ofResult notices (.ok showing)).IsCrash f ↔ showing.failure? = some f := by
  constructor
  · rintro ⟨-, -, crash⟩
    exact crash
  · intro fails
    simp only [ofResult, fails]
    exact ⟨rfl, rfl, rfl⟩

/-! ### Objects that were read -/

theorem readInteger_write {n : Int} (fits : Decimal.Fits n) :
    readInteger "size" (.text (Decimal.write n)) = .ok n := by
  rw [readInteger, Decimal.read?_write fits]

/-- The size of an object that was read is an integer, if there is one. -/
theorem size_of_decode {es : List (String × Value)} {o : Object}
    (decoded : (Object.decode (.map es)).result = .ok o) :
    o.size = .null ∨ ∃ n, o.size = .int n := by
  have read : (Form.integer "size").optional.read (valueAt? "size" es) = .ok o.size :=
    Object.decode_map_eq_ok_iff.1 decoded .size
  simp only [Form.optional, Form.integer] at read
  split at read
  next => exact Or.inl (Except.ok.inj read).symm
  next =>
    obtain ⟨n, -, hn⟩ := Result.map_eq_ok_iff.1 read
    exact Or.inr ⟨n, hn.symm⟩

/-- The size of an object that was read is shown if it is no integer beyond the numbers. -/
theorem exists_sizeText_of_decode {es : List (String × Value)} {o : Object}
    (decoded : (Object.decode (.map es)).result = .ok o)
    (short : ∀ n, o.size = .int n → n.natAbs < Binary64.leastInfinite) :
    ∃ s, sizeText o.size = .ok s := by
  rcases size_of_decode decoded with none | ⟨n, size⟩
  · rw [none]
    exact ⟨_, rfl⟩
  · rw [size]
    exact exists_sizeText_of_lt (short n size)

section

variable {around : Surroundings} {path : String} {es : List (String × Value)} {o : Object}
  (loaded : (Source.load around.levels around.read (Path.ofString path)).result = .ok (.map es))
  (decoded : (Object.decode (.map es)).result = .ok o)
include loaded decoded

/-- What is found for an object that was read is what comes of showing it. -/
theorem found_object (withUrl : Bool) :
    found around (.object withUrl) path = .ok (showObject around withUrl o) := by
  rw [found_of_load loaded]
  exact inspect_object_eq_ok_iff.2 ⟨o, decoded, rfl⟩

/-- The command for an object that was read crashes for what showing the object fails with. -/
theorem isCrash_iff_of_decode (verbose withUrl : Bool) (f : Failure Value) :
    (run around (.inspect verbose (.object withUrl) path)).IsCrash f ↔
      (showObject around withUrl o).failure? = some f := by
  obtain ⟨notices, hrun⟩ := exists_run_eq around (.object withUrl) path verbose
  rw [hrun, found_object loaded decoded, Outcome.isCrash_ofResult_iff]

/-- Without a table the command for an object that was read shows nothing. -/
theorem shown_of_objectTable_eq_error (verbose withUrl : Bool) {f : Failure Value}
    (h : objectTable around.console o = .error f) :
    (run around (.inspect verbose (.object withUrl) path)).shown = {} := by
  obtain ⟨notices, hrun⟩ := exists_run_eq around (.object withUrl) path verbose
  rw [hrun, found_object loaded decoded, showObject_of_objectTable_eq_error h]
  rfl

/-- **The size of an object is what a command crashes for exactly if it is beyond the numbers.**  Such
a size is read like any other, and nothing is shown.  Every other size is shown, in a row of a table
that is otherwise the one of the object with no size; so the command crashes for nothing but what
keeps that one from being made, and what goes wrong after the table is made. -/
theorem run_object_of_size (verbose withUrl : Bool) :
    (∀ n : Int, Decimal.Fits n → readInteger "size" (.text (Decimal.write n)) = .ok n) ∧
    (∀ n : Int, (∃ s, sizeText (.int n) = .ok s) ↔ n.natAbs < Binary64.leastInfinite) ∧
    (o.size = .null ∨ ∃ n, o.size = .int n) ∧
    (∀ n, o.size = .int n → Binary64.leastInfinite ≤ n.natAbs →
      sizeText o.size = .error (.stray .outOfRange) ∧
      (run around (.inspect verbose (.object withUrl) path)).shown = {} ∧
      ∃ f, (run around (.inspect verbose (.object withUrl) path)).IsCrash f ∧
        (IsText o.bucket → IsText o.name → f = .stray .outOfRange)) ∧
    ((∀ n, o.size = .int n → n.natAbs < Binary64.leastInfinite) →
      (∃ s, sizeText o.size = .ok s ∧ objectTable around.console o =
        (objectTable around.console (withoutSize o)).map (Table.withSize s)) ∧
      ∀ f, (run around (.inspect verbose (.object withUrl) path)).IsCrash f ↔
        objectTable around.console (withoutSize o) = .error f ∨
          ∃ t, objectTable around.console o = .ok t ∧ FailsAfter around withUrl o t f) := by
  have crash := isCrash_iff_of_decode loaded decoded verbose withUrl
  refine ⟨fun n => readInteger_write, fun n => exists_sizeText_iff, size_of_decode decoded, ?beyond,
    ?short⟩
  case beyond =>
    intro n size large
    have fails : sizeText o.size = .error (.stray .outOfRange) := by
      rw [size]
      exact sizeText_of_le large
    obtain ⟨f, table, same⟩ := @exists_objectTable_eq_error around.console o _ fails
    refine ⟨fails, shown_of_objectTable_eq_error loaded decoded verbose withUrl table, f,
      (crash f).2 (failure?_showObject_iff.2 (Or.inl table)), ?_⟩
    rintro ⟨b, bucket⟩ ⟨n, name⟩
    exact same (bucket ▸ around.console.takes_text b) (name ▸ around.console.takes_text n)
  case short =>
    intro small
    obtain ⟨s, shown⟩ := exists_sizeText_of_decode decoded small
    have table := @objectTable_of_shown around.console _ _ shown
    refine ⟨⟨s, shown, table⟩, fun f => (crash f).trans (failure?_showObject_iff.trans ?_)⟩
    refine or_congr_left ?_
    rw [table]
    cases objectTable around.console (withoutSize o) with
    | error g => exact Iff.rfl
    | ok t => exact ⟨fun h => (nomatch h), fun h => (nomatch h)⟩

end

/-! ### A file for every size -/

/-- A file with an object of this size. -/
def sizedFile (size : String) : String :=
  "\x7b\"bucket\":\"b\",\"name\":\"n\",\"size\":\"" ++ size ++ "\"\x7d"

/-- What the file holds. -/
def sized (size : String) : List (String × Value) :=
  [("bucket", "b"), ("name", "n"), ("size", .text size)]

theorem plain_write (n : Int) : Json.Plain (Decimal.write n).toList := by
  intro c hc
  rcases Decimal.mem_write hc with rfl | digit
  · decide
  · refine ⟨?_, ?_, ?_⟩
    · rintro rfl
      cases digit
    · rintro rfl
      cases digit
    · have first : '0' ≤ c := by
        simp only [Char.isDigit, Bool.and_eq_true, decide_eq_true_eq] at digit
        exact digit.1
      exact Nat.not_le.2 ((show 0x1f < '0'.toNat by decide).trans_le first)

theorem countP_opens_write (n : Int) : (Decimal.write n).toList.countP Json.opens = 0 := by
  refine List.countP_eq_zero.2 fun c hc => ?_
  rcases Decimal.mem_write hc with rfl | digit
  · decide
  · rintro opens
    simp only [Json.opens, Bool.or_eq_true, decide_eq_true_eq] at opens
    rcases opens with rfl | rfl <;> cases digit

/-- A file with a size whose characters stand for themselves is loaded. -/
theorem load_sizedFile {size : String} (plain : Json.Plain size.toList)
    (flat : size.toList.countP Json.opens = 0) :
    (Source.load 900 (diskOf (sizedFile size)) (Path.ofString "object.json")).result =
      .ok (.map (sized size)) := by
  have text : (sizedFile size).toList = "\x7b\"bucket\":\"b\",\"name\":\"n\",\"size\":\"".toList ++
      (size.toList ++ ['"', '\x7d']) := by
    have parts : ∀ front back : String,
        (front ++ size ++ back).toList = front.toList ++ (size.toList ++ back.toList) := by simp
    have last : "\"\x7d".toList = ['"', '\x7d'] := by decide
    exact (parts _ _).trans (by rw [last])
  have lines : Text.normalizeNewlines (sizedFile size).toList = (sizedFile size).toList := by
    refine Text.normalizeNewlines_eq_self fun cr => ?_
    rw [text, List.mem_append, List.mem_append] at cr
    rcases cr with cr | cr | cr
    · exact absurd cr (by decide)
    · exact (plain _ cr).2.2 (by decide)
    · exact absurd cr (by decide)
  have spelled : Json.Spells (.map (sized size)) (sizedFile size).toList := by
    have each : ∀ e ∈ [("bucket", "b"), ("name", "n"), ("size", size)],
        Json.Plain e.1.toList ∧ Json.Plain e.2.toList := by
      simp only [List.forall_mem_cons]
      exact ⟨⟨by decide, by decide⟩, ⟨by decide, by decide⟩, ⟨by decide, plain⟩, by simp⟩
    have map : Json.Spells (.map (sized size)) _ :=
      Json.spells_texts (List.cons_ne_nil _ _) (by simp) each
    rw [text]
    simpa [Json.commas, Json.Member.chars, Json.Member.ofText] using map
  have few : (sizedFile size).toList.countP Json.opens ≤ 900 := by
    rw [text, List.countP_append, List.countP_append, flat]
    decide
  refine load_diskOf ?_
  rw [lines]
  exact Json.read_of_spells_of_le spelled few

/-- The object in a file has the size that is read from its text. -/
theorem exists_decode_sized {size : String} {n : Int}
    (read : readInteger "size" (.text size) = .ok n) :
    ∃ o, (Object.decode (.map (sized size))).result = .ok o ∧ o.bucket = "b" ∧ o.name = "n" ∧
      o.size = .int n := by
  have legible : failure? (Object.decode (.map (sized size))).result = none := by
    rw [Object.failure?_decode, List.findSome?_eq_none_iff]
    intro f _
    cases f with
    | size =>
      show failure? ((readInteger "size" (.text size)).map Value.int) = none
      rw [read]
      rfl
    | _ => rfl
  obtain ⟨o, decoded⟩ := failure?_eq_none_iff.1 legible
  have reads := Object.decode_map_eq_ok_iff.1 decoded
  refine ⟨o, decoded, ?_, ?_, ?_⟩
  · exact (Except.ok.inj (reads .bucket)).symm
  · exact (Except.ok.inj (reads .name)).symm
  · have size : (readInteger "size" (.text size)).map Value.int = .ok o.size := reads .size
    rw [read] at size
    exact (Except.ok.inj size).symm

/-- A size of 313 digits, more than there are in any number of 64 bits. -/
def hugeSize : Int := (10 ^ 52) ^ 6

theorem natAbs_hugeSize : hugeSize.natAbs = (10 ^ 52) ^ 6 := Int.natAbs_pow _ 6

theorem fits_hugeSize : Decimal.Fits hugeSize := by
  rw [Decimal.fits_iff, natAbs_hugeSize, ← pow_mul]
  exact pow_lt_pow_right₀ (by decide) (by decide)

theorem leastInfinite_le_hugeSize : Binary64.leastInfinite ≤ hugeSize.natAbs := by
  rw [natAbs_hugeSize]
  calc Binary64.leastInfinite ≤ 2 ^ 1024 := Binary64.leastInfinite_bounds.2
    _ ≤ 2 ^ (171 * 6) := pow_le_pow_right₀ (by decide) (by decide)
    _ = (2 ^ 171) ^ 6 := pow_mul 2 171 6
    _ ≤ (10 ^ 52) ^ 6 := Nat.pow_le_pow_left (by decide) 6

theorem load_hugeFile : (Source.load 900 (diskOf (sizedFile (Decimal.write hugeSize)))
    (Path.ofString "object.json")).result = .ok (.map (sized (Decimal.write hugeSize))) :=
  load_sizedFile (plain_write hugeSize) (countP_opens_write hugeSize)

/-- The object in a file of this size is read, and showing it is a crash. -/
theorem run_hugeFile : ∃ o,
    (Object.decode (.map (sized (Decimal.write hugeSize)))).result = .ok o ∧ o.size = .int hugeSize ∧
      (run (bare (diskOf (sizedFile (Decimal.write hugeSize))))
        (.inspect false (.object false) "object.json")).IsCrash (.stray .outOfRange) := by
  obtain ⟨o, decoded, bucket, name, size⟩ := exists_decode_sized (readInteger_write fits_hugeSize)
  have loaded : (Source.load (bare (diskOf (sizedFile (Decimal.write hugeSize)))).levels
      (bare (diskOf (sizedFile (Decimal.write hugeSize)))).read (Path.ofString "object.json")).result =
      .ok (.map (sized (Decimal.write hugeSize))) := load_hugeFile
  obtain ⟨-, -, -, beyond, -⟩ := run_object_of_size loaded decoded false false
  obtain ⟨-, -, f, crash, same⟩ := beyond hugeSize size leastInfinite_le_hugeSize
  rw [same ⟨"b", bucket⟩ ⟨"n", name⟩] at crash
  exact ⟨o, decoded, size, crash⟩

/-- Not every size that is read is shown. -/
theorem readInteger_unshown : ¬∀ (v : Value) (n : Int), readInteger "size" v = .ok n →
    ∃ s, sizeText (.int n) = .ok s := by
  intro shows
  obtain ⟨s, shown⟩ := shows _ hugeSize (readInteger_write fits_hugeSize)
  rw [sizeText_of_le leastInfinite_le_hugeSize] at shown
  cases shown

end Command

end StorageMetadata
