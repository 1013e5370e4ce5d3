import StorageMetadata.Proofs.Json.Form
import StorageMetadata.Proofs.Result
import StorageMetadata.Source.Load

/-!
# What comes of loading a file

`Loads` says what comes of loading the file at a path, in terms of the path, the octets there, and
the text that they encode.  There is a rule for each way that loading ends:

    (load levels read path).result = r ↔ Loads levels read path r.

A resource is a map in the document that the file holds.  A failure of loading names the path, and a
line if the file holds a text that is no document.  But there are four ways to fail that nothing
accounts for: a null character in the path, octets that encode no text, and a document with an
integer that is too long or with too many lists and maps within each other.

The last rule is for files that are beyond what is said here.  They hold a map, one of whose texts has
half of a pair of code units on its own, and what comes of that is left open.
-/

namespace StorageMetadata.Source

open StorageMetadata.Value

/-- Is `cs` the text of the file at a path, with every line ended by a line feed? -/
def Holds (read : Path → Except Fault ByteArray) (path : Path) (cs : List Char) : Prop :=
  '\x00' ∉ path.write.toList ∧
    ∃ s : String, read path = .ok s.toUTF8 ∧ cs = Text.normalizeNewlines s.toList

/-- What comes of loading the file at a path, where `levels` lists and maps may stand within each
other. -/
inductive Loads (levels : Nat) (read : Path → Except Fault ByteArray) (path : Path) :
    Result Value → Prop
  | resource {cs : List Char} {es : List (String × Value)} : Holds read path cs →
    Json.read levels cs = .ok (.map es) → IsDocument (.map es) →
    Loads levels read path (.ok (.map es))
  | unreadable {f : Fault} : '\x00' ∉ path.write.toList → read path = .error f →
    Loads levels read path (.error (.load (.unreadable f) path none))
  /-- The line is the one on which the unread end of the text begins. -/
  | notADocument {before rest : List Char} {p : Json.Problem} : Holds read path (before ++ rest) →
    Json.check levels (before ++ rest) = .error ⟨p, rest⟩ → p.IsForm →
    Loads levels read path
      (.error (.load (.notADocument p) path (some ((before.count '\n' + 1 : Nat) : Int))))
  | notAMap {cs : List Char} {v : Value} : Holds read path cs → Json.check levels cs = .ok v →
    (∀ es, v ≠ .map es) →
    kindName v ∈ ["NoneType", "bool", "int", "float", "str", "list"] →
    Loads levels read path (.error (.load (.notAMap (kindName v)) path none))
  | nullCharacter : '\x00' ∈ path.write.toList →
    Loads levels read path (.error (.stray .malformed))
  | undecodable {octets : ByteArray} : '\x00' ∉ path.write.toList → read path = .ok octets →
    (∀ s : String, octets ≠ s.toUTF8) → Loads levels read path (.error (.stray .undecodable))
  | longInteger {cs rest : List Char} : Holds read path cs →
    Json.check levels cs = .error ⟨.tooManyDigits, rest⟩ → rest <:+ cs → Json.BeginsLong rest →
    Loads levels read path (.error (.stray .malformed))
  | tooDeep {cs rest : List Char} : Holds read path cs →
    Json.check levels cs = .error ⟨.tooDeep, rest⟩ → levels < cs.countP Json.opens →
    Loads levels read path (.error (.stray .tooDeep))
  /-- The text has the form of a map, with an escape for half of a pair in it. -/
  | loneHalf {cs rest : List Char} {es : List (String × Value)} : Holds read path cs →
    Json.check levels cs = .ok (.map es) → Json.read levels cs = .error ⟨.loneHalf, rest⟩ →
    rest <:+ cs → Json.BeginsHalf rest → Loads levels read path (.error (.stray .loneHalf))

/-! ### The steps -/

theorem fromUTF8?_eq_some_iff {octets : ByteArray} {s : String} :
    String.fromUTF8? octets = some s ↔ octets = s.toUTF8 := by
  unfold String.fromUTF8?
  constructor
  · intro h
    split at h
    next valid =>
      cases h
      rfl
    next => cases h
  · rintro rfl
    exact dif_pos s.isValidUTF8

variable {read : Path → Except Fault ByteArray} {path : Path}

theorem octets_of_null (h : '\x00' ∈ path.write.toList) :
    octets read path = .error (.stray .malformed) :=
  if_pos h

theorem octets_of_read {found : ByteArray} (h : '\x00' ∉ path.write.toList)
    (hread : read path = .ok found) : octets read path = .ok found := by
  rw [octets, if_neg h, hread]

theorem octets_of_fault {f : Fault} (h : '\x00' ∉ path.write.toList)
    (hread : read path = .error f) : octets read path = .error (.load (.unreadable f) path none) := by
  rw [octets, if_neg h, hread]

theorem decodeText_toUTF8 (s : String) :
    decodeText s.toUTF8 = .ok (Text.normalizeNewlines s.toList) := by
  rw [decodeText, fromUTF8?_eq_some_iff.2 rfl]

theorem decodeText_of_undecodable {octets : ByteArray} (h : ∀ s : String, octets ≠ s.toUTF8) :
    decodeText octets = .error (.stray .undecodable) := by
  have none : String.fromUTF8? octets = none :=
    Option.eq_none_iff_forall_ne_some.2 fun s hs => h s (fromUTF8?_eq_some_iff.1 hs)
  rw [decodeText, none]
  rfl

theorem parsed_of_form {cs rest : List Char} {p : Json.Problem} (form : p.IsForm) :
    parsed path cs (.error ⟨p, rest⟩) =
      .error (.load (.notADocument p) path (some (Text.lineAt cs rest : Nat))) := by
  cases p with
  | tooManyDigits | tooDeep | loneHalf => exact absurd form (by decide)
  | _ => rfl

section

variable {levels : Nat} {cs : List Char}

/-- A text that has not the form of a document is not read any further. -/
theorem resource_of_check_error {t : Json.Trouble} {f : Failure Value}
    (stopped : Json.check levels cs = .error t) (fails : parsed path cs (.error t) = .error f) :
    resource levels path cs = .error f := by
  rw [resource, stopped, fails]
  rfl

theorem resource_of_not_map {v : Value} (form : Json.check levels cs = .ok v)
    (h : ∀ es, v ≠ .map es) :
    resource levels path cs = .error (.load (.notAMap (kindName v)) path none) := by
  rw [resource, form]
  cases v with
  | map es => exact absurd rfl (h es)
  | _ => rfl

theorem resource_of_map {es : List (String × Value)} (form : Json.check levels cs = .ok (.map es)) :
    resource levels path cs = parsed path cs (Json.read levels cs) := by
  rw [resource, form]
  rfl

/-- A text of a map is the resource that it is read as. -/
theorem resource_of_read {es : List (String × Value)}
    (document : Json.read levels cs = .ok (.map es)) :
    resource levels path cs = .ok (.map es) := by
  rw [resource_of_map (Json.check_of_read document), document]
  rfl

end

/-- A place in a text is on the line after the line feeds before it. -/
theorem lineAt_append (before rest : List Char) :
    Text.lineAt (before ++ rest) rest = before.count '\n' + 1 := by
  rw [Text.lineAt, List.count_append]
  omega

theorem kindName_mem {v : Value} (document : IsDocument v) (h : ∀ es, v ≠ .map es) :
    kindName v ∈ ["NoneType", "bool", "int", "float", "str", "list"] := by
  cases document with
  | map => exact absurd rfl (h _)
  | _ => simp [kindName]

variable {levels : Nat}

/-- Loading reads and decodes a file, and takes the resource that it holds. -/
theorem result_load (levels : Nat) (read : Path → Except Fault ByteArray) (path : Path) :
    (load levels read path).result =
      (octets read path >>= fun found => decodeText found >>= fun cs => resource levels path cs) := by
  have last : ∀ x : Result Value, (x >>= fun v => Except.ok () >>= fun _ => .ok v) = x := by
    intro x
    cases x <;> rfl
  simp only [load, Traced.result_bind, Traced.result_liftM, Traced.result_remark,
    Traced.result_pure, last]

theorem result_load_of_holds {cs : List Char} (h : Holds read path cs) :
    (load levels read path).result = resource levels path cs := by
  obtain ⟨hpath, s, hread, rfl⟩ := h
  rw [result_load, octets_of_read hpath hread]
  show (decodeText s.toUTF8 >>= fun cs => resource levels path cs) = _
  rw [decodeText_toUTF8]
  rfl

/-! ### The rules -/

/-- Loading comes to what the rules say. -/
theorem Loads.result_load {r : Result Value} (h : Loads levels read path r) :
    (load levels read path).result = r := by
  cases h with
  | resource holds document _ => rw [result_load_of_holds holds, resource_of_read document]
  | unreadable hpath hread =>
    rw [Source.result_load, octets_of_fault hpath hread]
    rfl
  | notADocument holds stopped form =>
    rw [result_load_of_holds holds, resource_of_check_error stopped (parsed_of_form form),
      lineAt_append]
  | notAMap holds document other _ =>
    rw [result_load_of_holds holds, resource_of_not_map document other]
  | nullCharacter hpath =>
    rw [Source.result_load, octets_of_null hpath]
    rfl
  | undecodable hpath hread notText =>
    rw [Source.result_load, octets_of_read hpath hread]
    show (decodeText _ >>= fun cs => Source.resource levels path cs) = _
    rw [decodeText_of_undecodable notText]
    rfl
  | longInteger holds stopped _ _ =>
    rw [result_load_of_holds holds, resource_of_check_error stopped rfl]
  | tooDeep holds stopped _ =>
    rw [result_load_of_holds holds, resource_of_check_error stopped rfl]
  | loneHalf holds form stopped _ _ =>
    rw [result_load_of_holds holds, resource_of_map form, stopped]
    rfl

/-- A text that has the form of a map is read as one, or it has half of a pair on its own. -/
theorem exists_loads_of_map {cs : List Char} {es : List (String × Value)}
    (holds : Holds read path cs) (form : Json.check levels cs = .ok (.map es)) :
    ∃ r, Loads levels read path r := by
  obtain ⟨documents, stops⟩ := Json.readWith_spec none levels cs
  rcases Json.read_of_check form with document | ⟨rest, stopped⟩
  · exact ⟨_, .resource holds document (documents _ document)⟩
  · have stop := stops _ stopped
    exact ⟨_, .loneHalf holds form stopped stop.suffix (stop.alone rfl).2⟩

/-- A text that is there is a document, or reading it stops for a reason that is there. -/
theorem exists_loads_of_holds {cs : List Char} (holds : Holds read path cs) :
    ∃ r, Loads levels read path r := by
  obtain ⟨documents, stops⟩ := Json.readWith_spec (some '\ufffd') levels cs
  cases found : Json.check levels cs with
  | ok v =>
    have document := documents v found
    by_cases isMap : ∃ es, v = .map es
    · obtain ⟨es, rfl⟩ := isMap
      exact exists_loads_of_map holds found
    · have other : ∀ es, v ≠ .map es := not_exists.1 isMap
      exact ⟨_, .notAMap holds found other (kindName_mem document other)⟩
  | error t =>
    obtain ⟨p, rest⟩ := t
    have stop := stops ⟨p, rest⟩ found
    by_cases form : p.IsForm
    · obtain ⟨before, rfl⟩ := stop.suffix
      exact ⟨_, .notADocument holds found form⟩
    · simp only [Json.Problem.IsForm, not_not, List.mem_cons, List.not_mem_nil, or_false] at form
      rcases form with rfl | rfl | rfl
      · exact ⟨_, .longInteger holds found stop.suffix (stop.long rfl)⟩
      · exact ⟨_, .tooDeep holds found (stop.deep rfl)⟩
      · exact absurd found (Json.check_ne_loneHalf levels cs rest)

/-- Some rule applies, whatever is at a path. -/
theorem exists_loads (levels : Nat) (read : Path → Except Fault ByteArray) (path : Path) :
    ∃ r, Loads levels read path r := by
  by_cases hpath : '\x00' ∈ path.write.toList
  · exact ⟨_, .nullCharacter hpath⟩
  · cases hread : read path with
    | error f => exact ⟨_, .unreadable hpath hread⟩
    | ok octets =>
      by_cases text : ∃ s : String, octets = s.toUTF8
      · obtain ⟨s, rfl⟩ := text
        exact exists_loads_of_holds ⟨hpath, s, hread, rfl⟩
      · exact ⟨_, .undecodable hpath hread (not_exists.1 text)⟩

/-- What loading comes to follows from one of the rules. -/
theorem loads_of_result_load {r : Result Value} (h : (load levels read path).result = r) :
    Loads levels read path r := by
  obtain ⟨r', loads⟩ := exists_loads levels read path
  rwa [← h, loads.result_load]

end StorageMetadata.Source
