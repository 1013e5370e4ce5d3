import StorageMetadata.Proofs.Command.Outcome
import StorageMetadata.Proofs.Display.Rows
import StorageMetadata.Proofs.Json.Spelling

/-!
# Showing an object does not depend on how its file is written

Two files may hold texts of resources that say the same of an object: with other blanks, with entries
in another order and with entries that nothing reads.  What comes of the command that shows an object
is then the same for both, whether it succeeds or fails (`Outcome.Agrees`).  If it succeeds, the table
is laid out as `IsTableOf` says.
-/

namespace StorageMetadata.Source

open StorageMetadata.Value

/-- A file that can be loaded and holds a text of a map is loaded as that map. -/
theorem load_of_spells {levels : Nat} {read : Path → Except Fault ByteArray} {path : Path}
    {cs : List Char} {es : List (String × Value)} {r : Value} (holds : Holds read path cs)
    (spelled : Json.Spells (.map es) cs) (loads : (load levels read path).result = .ok r) :
    (load levels read path).result = .ok (.map es) := by
  rw [result_load_of_holds holds] at loads ⊢
  rcases Json.read_of_spells spelled levels with document | ⟨rest, deep⟩
  · exact resource_of_read document
  · have failed : parsed path cs (.error ⟨.tooDeep, rest⟩) = .error (.stray .tooDeep) := rfl
    rw [resource_of_check_error (Json.check_of_tooDeep deep) failed] at loads
    cases loads

end StorageMetadata.Source

namespace StorageMetadata.Command

open StorageMetadata.Value StorageMetadata.Resource StorageMetadata.Result StorageMetadata.Display

/-- Are these outcomes the same to the user, apart from remarks? -/
structure Outcome.Agrees (a b : Outcome) : Prop where
  exitCode : a.exitCode = b.exitCode
  shown : a.shown = b.shown
  errors : a.errors = b.errors
  crash : a.crash? = b.crash?

/-! ### Two documents -/

section

variable {es fs : List (String × Value)} (same : Object.Restates es fs)

include same

theorem isListOf_of_restates :
    Optional (IsListOf (IsMapOf fun _ => True)) ((valueAt? "acl" es).getD .null) := by
  rcases same .acl with ⟨none, -⟩ | ⟨-, -, xs, ys, list, -, each⟩
  · exact Or.inl none
  · have maps : List.Forall₂ (fun v _ => IsMapOf (fun _ => True) v ∧ True) xs ys := by
      refine each.imp ?_
      rintro v w ⟨gs, _, rfl, -, -⟩
      exact ⟨⟨gs, rfl, trivial⟩, trivial⟩
    exact Or.inr ⟨xs, list, ((List.forall₂_and_left xs ys).1 maps).1⟩

theorem isMapOf_of_restates (document : IsDocument (.map es)) :
    Optional (IsMapOf fun texts => (texts.map Prod.fst).Nodup)
      ((valueAt? "metadata" es).getD .null) := by
  rcases same .metadata with ⟨none, -⟩ | ⟨some, -, texts, _, map, -, -⟩
  · exact Or.inl none
  · refine Or.inr ⟨texts, map, ?_⟩
    cases isDocument_of_valueAt? document (eq_some_of_getD map some) with
    | map nodup _ => exact nodup

/-- Objects that are read from resources that say the same are shown alike. -/
theorem inspect_restated (document : IsDocument (.map es)) (around : Surroundings)
    (withUrl : Bool) :
    (inspect around (.map es) (.object withUrl)).result =
      (inspect around (.map fs) (.object withUrl)).result := by
  simp only [inspect, Traced.result_bind, Traced.result_pure]
  have read := Object.decode_restated same
  cases ho : (Object.decode (.map es)).result with
  | error f =>
    rw [ho] at read
    cases hp : (Object.decode (.map fs)).result with
    | error g =>
      rw [hp] at read
      cases read
      rfl
    | ok p =>
      rw [hp] at read
      cases read
  | ok o =>
    rw [ho] at read
    cases hp : (Object.decode (.map fs)).result with
    | error g =>
      rw [hp] at read
      cases read
    | ok p =>
      rw [hp] at read
      cases read with
      | ok seen =>
        have keys : ∀ texts, o.metadata = .map texts → (texts.map Prod.fst).Nodup := by
          intro texts kept
          have shape := isMapOf_of_restates same document
          rw [← metadata_of_decode shape ho, kept] at shape
          obtain ⟨_, ⟨⟩, nodup⟩ := shape.resolve_left Value.noConfusion
          exact nodup
        have table := objectTable_congr around.console seen keys
        have bucket : o.bucket = p.bucket := seen .bucket
        have name : o.name = p.name := seen .name
        show Except.ok (showObject around withUrl o) = Except.ok (showObject around withUrl p)
        rw [showObject, showObject, table, bucket, name]

end

/-! ### Two files -/

section

variable {around around₁ around₂ : Surroundings} {subject : Subject} {path path₁ path₂ : String}

/-- A command comes to what a resource shows, once that is loaded. -/
theorem found_of_load {r : Value}
    (loads : (Source.load around.levels around.read (Path.ofString path)).result = .ok r) :
    found around subject path = (inspect around r subject).result := by
  rw [found, loads]
  rfl

theorem agrees_of_found (h : found around₁ subject path₁ = found around₂ subject path₂)
    (verbose₁ verbose₂ : Bool) :
    (run around₁ (.inspect verbose₁ subject path₁)).Agrees
      (run around₂ (.inspect verbose₂ subject path₂)) := by
  obtain ⟨notices₁, hrun₁⟩ := exists_run_eq around₁ subject path₁ verbose₁
  obtain ⟨notices₂, hrun₂⟩ := exists_run_eq around₂ subject path₂ verbose₂
  rw [hrun₁, hrun₂, h]
  cases found around₂ subject path₂ with
  | ok showing => exact ⟨rfl, rfl, rfl, rfl⟩
  | error f =>
    by_cases accounted : f.isAccountedFor
    · simp only [Outcome.ofResult, if_pos accounted]
      exact ⟨rfl, rfl, rfl, rfl⟩
    · simp only [Outcome.ofResult, if_neg accounted]
      exact ⟨rfl, rfl, rfl, rfl⟩

/-- A command that succeeds has nothing to fail with. -/
theorem Outcome.exists_of_exitCode {notices : List Notice} {r : Result Showing}
    (h : (ofResult notices r).exitCode = 0) :
    r = .ok { shown := (ofResult notices r).shown } := by
  cases r with
  | ok showing =>
    obtain ⟨shown, failure⟩ := showing
    cases failure with
    | none => rfl
    | some f => cases h
  | error f =>
    by_cases accounted : f.isAccountedFor
    · simp only [ofResult, if_pos accounted] at h
      cases h
    · simp only [ofResult, if_neg accounted] at h
      cases h

/-- A command that succeeds shows what it found. -/
theorem found_of_exitCode {verbose : Bool}
    (h : (run around (.inspect verbose subject path)).exitCode = 0) :
    found around subject path =
      .ok { shown := (run around (.inspect verbose subject path)).shown } := by
  obtain ⟨notices, hrun⟩ := exists_run_eq around subject path verbose
  rw [hrun] at h ⊢
  exact Outcome.exists_of_exitCode h

/-- A table that was shown is the one that was made. -/
theorem exists_table_of_showTable {console : Console} {table : Result Table}
    (h : (showTable console table).failure? = none) : ∃ t, table = .ok t ∧
      showTable console table = { shown := { table? := some t } } := by
  rw [failure?_showTable, failure?_eq_none_iff] at h
  obtain ⟨t, ht⟩ := h
  obtain ⟨t', made, last⟩ := bind_eq_ok_iff.1 ht
  obtain rfl : t' = t := by
    split at last
    · exact Except.ok.inj last
    · cases last
  exact ⟨t', made, by rw [showTable, ht]⟩

/-- What is shown of an object is its table, and perhaps its address. -/
theorem exists_table_of_showObject {withUrl : Bool} {o : Object}
    (h : (showObject around withUrl o).failure? = none) : ∃ t,
      (showObject around withUrl o).shown.table? = some t ∧
        objectTable around.console o = .ok t := by
  have table : (showTable around.console (objectTable around.console o)).failure? = none := by
    rw [failure?_showTable]
    rw [failure?_showObject, Option.or_eq_none_iff] at h
    exact h.1
  obtain ⟨t, made, shown⟩ := exists_table_of_showTable table
  refine ⟨t, ?_, made⟩
  unfold showObject
  rw [shown]
  cases withUrl <;> rfl

end

/-- **What is shown of an object does not depend on how its file is written.**  Take two files that
are loaded as resources that say the same: there may be other entries that nothing reads, entries in
another order, and entries with nothing in them where others are missing.  What comes of showing them
is the same.  If it is shown, the table has the rows of every object, one for the access list if there
is one, and one for each of the user's texts in the order of their keys.  As for blanks, a file that
can be loaded and holds a text of a resource is loaded as that resource, wherever the text has
blanks. -/
theorem run_restated {around₁ around₂ : Surroundings} {path₁ path₂ : String}
    {es fs : List (String × Value)} (console : around₁.console = around₂.console)
    (environment : around₁.environment = around₂.environment)
    (load₁ : (Source.load around₁.levels around₁.read (Path.ofString path₁)).result =
      .ok (.map es))
    (load₂ : (Source.load around₂.levels around₂.read (Path.ofString path₂)).result =
      .ok (.map fs))
    (same : Object.Restates es fs) (withUrl verbose₁ verbose₂ : Bool) :
    (run around₁ (.inspect verbose₁ (.object withUrl) path₁)).Agrees
        (run around₂ (.inspect verbose₂ (.object withUrl) path₂)) ∧
      ((run around₁ (.inspect verbose₁ (.object withUrl) path₁)).exitCode = 0 →
        ∃ o t, (Object.decode (.map es)).result = .ok o ∧
          (run around₁ (.inspect verbose₁ (.object withUrl) path₁)).shown.table? = some t ∧
          IsTableOf es o t) ∧
      ∀ (levels : Nat) (read : Path → Except Fault ByteArray) (path : Path) (cs : List Char)
        (gs : List (String × Value)) (r : Value), Source.Holds read path cs →
          Json.Spells (.map gs) cs → (Source.load levels read path).result = .ok r →
            r = .map gs := by
  obtain ⟨_, ⟨⟩, document⟩ := exists_document_of_load load₁
  refine ⟨agrees_of_found ?_ verbose₁ verbose₂, fun success => ?_, ?_⟩
  · have showing : ∀ o, showObject around₁ withUrl o = showObject around₂ withUrl o := by
      intro o
      rw [showObject, showObject, console, environment]
    rw [found_of_load load₁, found_of_load load₂, inspect_restated same document]
    simp only [inspect, showing]
  · have found := found_of_exitCode success
    rw [found_of_load load₁] at found
    obtain ⟨o, read, shows⟩ := inspect_object_eq_ok_iff.1 found
    obtain ⟨t, ht, table⟩ := exists_table_of_showObject (congrArg Showing.failure? shows)
    rw [shows] at ht
    exact ⟨o, t, read, ht, isTableOf_of_objectTable (isListOf_of_restates same)
      (isMapOf_of_restates same document) read table⟩
  · intro levels read path cs gs r holds spelled loads
    rw [Source.load_of_spells holds spelled loads] at loads
    exact (Except.ok.inj loads).symm

/-! ### One object in two files -/

/-- A resource on one line. -/
def compactFile : String :=
  "\x7b\"bucket\":\"b\",\"name\":\"n\",\"md5Hash\":null," ++
    "\"metadata\":\x7b\"k\":\"2\",\"a\":\"1\"\x7d," ++
    "\"acl\":[\x7b\"entity\":\"allUsers\",\"role\":\"READER\"\x7d]\x7d"

/-- The same resource, with what nothing reads, on several lines and in another order. -/
def spaciousFile : String :=
  "\x7b \"kind\": 1,\n  \"acl\": [ \x7b \"role\": \"READER\", \"id\": [], " ++
    "\"entity\": \"allUsers\" \x7d ],\n" ++
    "  \"metadata\": \x7b \"a\": \"1\", \"k\": \"2\" \x7d,\n" ++
    "  \"name\": \"n\",\n  \"bucket\": \"b\"\n\x7d\n"

/-- What the files hold. -/
def compact : List (String × Value) := [
  ("bucket", "b"), ("name", "n"), ("md5Hash", .null), ("metadata", .map [("k", "2"), ("a", "1")]),
  ("acl", .list [.map [("entity", "allUsers"), ("role", "READER")]])]

def spacious : List (String × Value) := [
  ("kind", .int 1),
  ("acl", .list [.map [("role", "READER"), ("id", .list []), ("entity", "allUsers")]]),
  ("metadata", .map [("a", "1"), ("k", "2")]), ("name", "n"), ("bucket", "b")]

/-- A place where every path leads to a text. -/
def diskOf (text : String) (_ : Path) : Except Fault ByteArray := .ok text.toUTF8

theorem holds_diskOf (text : String) : Source.Holds (diskOf text) (Path.ofString "object.json")
    (Text.normalizeNewlines text.toList) :=
  ⟨by decide, text, rfl, rfl⟩

theorem load_diskOf {text : String} {es : List (String × Value)} {levels : Nat}
    (document : Json.read levels (Text.normalizeNewlines text.toList) = .ok (.map es)) :
    (Source.load levels (diskOf text) (Path.ofString "object.json")).result = .ok (.map es) := by
  rw [Source.result_load_of_holds (holds_diskOf text), Source.resource_of_read document]

theorem restates_compact_spacious : Object.Restates compact spacious := by
  intro f
  cases f with
  | bucket | name => exact Or.inr ⟨Value.noConfusion, Value.noConfusion, rfl⟩
  | acl =>
    refine Or.inr ⟨Value.noConfusion, Value.noConfusion, _, _, rfl, rfl, .cons ?_ .nil⟩
    refine ⟨_, _, rfl, rfl, ?_⟩
    simp [valueAt?_cons]
  | metadata =>
    exact Or.inr ⟨Value.noConfusion, Value.noConfusion, _, _, rfl, rfl, List.Perm.swap _ _ []⟩
  | _ => exact Or.inl ⟨rfl, rfl⟩

theorem exists_table_compact : ∃ o t, (Object.decode (.map compact)).result = .ok o ∧
    objectTable plainConsole o = .ok t := by
  have sorted : sortedEntries [("k", .text "2"), ("a", .text "1")] =
      [("a", .text "1"), ("k", .text "2")] :=
    (sortedEntries_perm (by decide) (List.Perm.swap _ _ [])).trans
      (List.mergeSort_of_pairwise (by decide))
  have texts : metadataRows (.map [("k", "2"), ("a", "1")]) =
      .ok [[textCell "metadata.a", .literal "1"], [textCell "metadata.k", .literal "2"]] := by
    rw [metadataRows, sorted]
    rfl
  -- The other parts of the table are computed; the order of the texts is not.
  exact ⟨_, _, rfl, bind_eq_ok_iff.2 ⟨_, rfl, bind_eq_ok_iff.2 ⟨_, rfl, bind_eq_ok_iff.2
    ⟨_, texts, rfl⟩⟩⟩⟩

theorem exists_shown_compact (read : Path → Except Fault ByteArray) : ∃ shown,
    (inspect (bare read) (.map compact) (.object false)).result = .ok { shown } := by
  obtain ⟨o, t, decoded, table⟩ := exists_table_compact
  refine ⟨{ table? := some t }, inspect_object_eq_ok_iff.2 ⟨o, decoded, ?_⟩⟩
  show showTable plainConsole (objectTable plainConsole o) = _
  rw [table]
  rfl

/-- A text with blanks around its tokens. -/
def airyFile : String := "\x7b\n  \"name\" : \"n\"\n\x7d\n"

/-- What it spells. -/
def airy : List (String × Value) := [("name", "n")]

theorem spells_airyFile :
    Json.Spells (.map airy) (Text.normalizeNewlines airyFile.toList) := by
  let entry : Json.Member := {
    key := "name", name := ['\n', ' ', ' '] ++ '"' :: ("name".toList ++ ['"']) ++ [' '],
    value := "n", text := [' '] ++ '"' :: ("n".toList ++ ['"']) ++ ['\n'] }
  have name : Json.Spells (.text "name") entry.name :=
    .blank (by decide) (.scalar (Json.isScalar_of_plain (by decide))) (by decide)
  have text : Json.Spells (.text "n") entry.text :=
    .blank (by decide) (.scalar (Json.isScalar_of_plain (by decide))) (by decide)
  have map : Json.Spells (.map airy)
      ('\x7b' :: Json.commas ([entry].map Json.Member.chars) ++ ['\x7d']) := by
    refine .map (List.cons_ne_nil entry []) (by simp) ?_ ?_
    · simpa using name
    · simpa using text
  have whole : Text.normalizeNewlines airyFile.toList =
      [] ++ ('\x7b' :: Json.commas ([entry].map Json.Member.chars) ++ ['\x7d']) ++ ['\n'] := by
    decide
  rw [whole]
  exact .blank (by decide) map (by decide)

theorem load_compactFile : (Source.load 900 (diskOf compactFile) (Path.ofString "object.json")).result =
    .ok (.map compact) :=
  load_diskOf (by cbv)

theorem load_spaciousFile :
    (Source.load 900 (diskOf spaciousFile) (Path.ofString "object.json")).result =
      .ok (.map spacious) :=
  load_diskOf (by cbv)

theorem load_airyFile : (Source.load 900 (diskOf airyFile) (Path.ofString "object.json")).result =
    .ok (.map airy) :=
  load_diskOf (by cbv)

/-- The two files are shown alike, with a row for the access list and the texts in order; and the
third is loaded as what it spells. -/
theorem run_compact_spacious :
    (run (bare (diskOf compactFile)) (.inspect false (.object false) "object.json")).Agrees
      (run (bare (diskOf spaciousFile)) (.inspect true (.object false) "object.json")) ∧
    (∃ o t, (Object.decode (.map compact)).result = .ok o ∧
      (run (bare (diskOf compactFile))
        (.inspect false (.object false) "object.json")).shown.table? = some t ∧
      IsTableOf compact o t) ∧
    ∃ r, (Source.load 900 (diskOf airyFile) (Path.ofString "object.json")).result = .ok r ∧
      r = .map airy := by
  have console : (bare (diskOf compactFile)).console = (bare (diskOf spaciousFile)).console := rfl
  obtain ⟨agrees, shown, spelled⟩ := run_restated console rfl load_compactFile load_spaciousFile
    restates_compact_spacious false false true
  refine ⟨agrees, shown ?_, _, load_airyFile,
    spelled _ _ _ _ _ _ (holds_diskOf _) spells_airyFile load_airyFile⟩
  obtain ⟨notices, hrun⟩ := exists_run_eq (bare (diskOf compactFile)) (.object false)
    "object.json" false
  obtain ⟨way, found⟩ := exists_shown_compact (diskOf compactFile)
  have loads : (Source.load (bare (diskOf compactFile)).levels (bare (diskOf compactFile)).read
    (Path.ofString "object.json")).result = .ok (.map compact) := load_compactFile
  rw [hrun, found_of_load loads, found]
  rfl

end StorageMetadata.Command
