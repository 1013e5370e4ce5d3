import StorageMetadata.Proofs.Access.Grant

/-!
# The shapes of spellings

`Entity.Spells` lists the shapes that are recognized, with the entity that a text of each shape
stands for.  What is recognized is exactly what has a shape,

    ofSpelling? s = some e ↔ Spells s e.

A text that is read and spelled again mostly comes out as it was.  `Entity.Respelled` lists the
exceptions: the two users who stand for everybody lose their `user-`, and the word for a team loses
its capitals.

The word for a team is compared in lower case.  Beyond ASCII there is one character whose lower case
is a letter of ASCII, the sign of the unit kelvin, and no team has a `k` in its name; so the word is
the team's name in letters of ASCII.
-/

namespace StorageMetadata

open StorageMetadata.Value

/-! ### Letter case -/

namespace Text

theorem lowerCase_eq_toLower {c : Char} (h : c.toNat ≠ 0x212a) : lowerCase c = c.toLower := by
  have table : ∀ i : Fin 26, Char.ofNat (i.val + 65 + 32) = (Char.ofNat (i.val + 65)).toLower := by
    decide
  unfold lowerCase
  by_cases hc : 'A' ≤ c ∧ c ≤ 'Z'
  · have low : 65 ≤ c.toNat := hc.1
    have high : c.toNat ≤ 90 := hc.2
    have found := table ⟨c.toNat - 65, by omega⟩
    simp only [Nat.sub_add_cancel low, Char.ofNat_toNat] at found
    rw [if_pos hc, found]
  · have plain : c.toLower = c := dif_neg hc
    rw [if_neg hc, if_neg h, plain]

theorem lowerCase_eq_iff {c d : Char} (hk : d ≠ 'k') (hd : d.toNat ≠ 0x212a) :
    lowerCase c = d ↔ c.toLower = d := by
  by_cases hc : c.toNat = 0x212a
  · obtain rfl : c = Char.ofNat 0x212a := by rw [← hc, Char.ofNat_toNat]
    constructor
    · rintro rfl
      exact absurd (by decide) hk
    · rintro rfl
      exact absurd (by decide) hd
  · rw [lowerCase_eq_toLower hc]

theorem map_lowerCase_eq_iff {cs ds : List Char} (h : ∀ d ∈ ds, d ≠ 'k' ∧ d.toNat ≠ 0x212a) :
    cs.map lowerCase = ds ↔ cs.map Char.toLower = ds := by
  induction cs generalizing ds with
  | nil => rfl
  | cons c cs ih =>
    cases ds with
    | nil => simp
    | cons d ds =>
      obtain ⟨⟨hk, hd⟩, rest⟩ := List.forall_mem_cons.1 h
      simp only [List.map_cons, List.cons.injEq, lowerCase_eq_iff hk hd, ih rest]

end Text

theorem Team.ofName?_eq_some_iff {s : String} {t : Team} : ofName? s = some t ↔ s = t.name := by
  constructor
  · intro h
    have found := List.find?_some h
    exact (of_decide_eq_true found).symm
  · rintro rfl
    cases t <;> rfl

namespace Entity

/-! ### Teams and identifiers -/

/-- Is the word the name of the team, up to the case of its letters of ASCII? -/
def NamesTeam (word : String) (t : Team) : Prop := word.toList.map Char.toLower = t.name.toList

theorem ofName?_lower_eq_some_iff {word : String} {t : Team} :
    Team.ofName? (Text.lower word) = some t ↔ NamesTeam word t := by
  have word : (t.name.toList.all fun d => decide (d ≠ 'k' ∧ d.toNat ≠ 0x212a)) = true := by
    cases t <;> rfl
  have letters : ∀ d ∈ t.name.toList, d ≠ 'k' ∧ d.toNat ≠ 0x212a :=
    fun d hd => of_decide_eq_true (List.all_eq_true.1 word d hd)
  rw [Team.ofName?_eq_some_iff, ← String.toList_inj, Text.lower, String.toList_ofList,
    Text.map_lowerCase_eq_iff letters]
  rfl

theorem NamesTeam.dash_notMem {word : String} {t : Team} (h : NamesTeam word t) :
    '-' ∉ word.toList := by
  intro hm
  have found : '-'.toLower ∈ t.name.toList := h ▸ List.mem_map_of_mem hm
  revert found
  cases t <;> decide

/-- The word for a team ends at the first dash, since no team has a dash in its name. -/
theorem teamAndId?_eq_some_iff {s : String} {t : Team} {id : String} :
    teamAndId? s = some (t, id) ↔ ∃ word, NamesTeam word t ∧ s = word ++ "-" ++ id := by
  constructor
  · intro h
    unfold teamAndId? guard at h
    simp only [Option.bind_eq_bind, Option.bind_eq_some_iff, Option.pure_def, Option.some.injEq,
      Prod.mk.injEq] at h
    obtain ⟨_, hrest, team, hteam, rfl, rfl⟩ := h
    have found : s.toList.dropWhile (fun c => decide (c ≠ '-')) ≠ [] := by
      intro none
      rw [if_neg (not_not.2 none)] at hrest
      cases hrest
    refine ⟨String.ofList (s.toList.takeWhile fun c => decide (c ≠ '-')),
      ofName?_lower_eq_some_iff.1 hteam, ?_⟩
    obtain ⟨c, rest, hc⟩ := List.exists_cons_of_ne_nil found
    have dash : c = '-' := by
      have first := List.head_dropWhile_not (fun c => decide (c ≠ '-')) found
      simp only [hc, List.head_cons, decide_eq_false_iff_not, not_not] at first
      exact first
    have whole := List.takeWhile_append_dropWhile (p := fun c => decide (c ≠ '-')) (l := s.toList)
    rw [hc, dash] at whole
    rw [← String.toList_inj]
    simp only [String.toList_append, String.toList_ofList, hc, List.tail_cons, List.append_assoc]
    exact whole.symm
  · rintro ⟨word, names, rfl⟩
    have letters : ∀ c ∈ word.toList, (decide (c ≠ '-')) = true := by
      intro c hc
      exact decide_eq_true fun h => names.dash_notMem (h ▸ hc)
    have text : (word ++ "-" ++ id).toList = word.toList ++ '-' :: id.toList := by
      simp [String.toList_append]
    have named := ofName?_lower_eq_some_iff.2 names
    unfold teamAndId? guard
    simp only [text, List.takeWhile_append_of_pos letters, List.dropWhile_append_of_pos letters]
    simp [named]

/-! ### Shapes -/

/-- The entity that a text of a known shape stands for.  The identifier of a project is everything
after the word for the team and a dash. -/
inductive Spells : String → Entity String → Prop
  | user (name : String) : Spells ("user-" ++ name) (.user name)
  | everybody : Spells "allUsers" (.user "allUsers")
  | everybodyKnown : Spells "allAuthenticatedUsers" (.user "allAuthenticatedUsers")
  | group (name : String) : Spells ("group-" ++ name) (.group name)
  | domain (name : String) : Spells ("domain-" ++ name) (.domain name)
  | project {word : String} {team : Team} (names : NamesTeam word team) (id : String) :
    Spells ("project-" ++ word ++ "-" ++ id) (.project team id)

/-- What a text becomes that is read and spelled again, where that is another text. -/
inductive Respelled : String → String → Prop
  | everybody : Respelled "user-allUsers" "allUsers"
  | everybodyKnown : Respelled "user-allAuthenticatedUsers" "allAuthenticatedUsers"
  | team {word : String} {team : Team} (names : NamesTeam word team) (capitals : word ≠ team.name)
    (id : String) :
    Respelled ("project-" ++ word ++ "-" ++ id) ("project-" ++ team.name ++ "-" ++ id)

theorem isPublic_iff {s : String} :
    isPublic s = true ↔ s = "allUsers" ∨ s = "allAuthenticatedUsers" := by
  simp only [isPublic, Bool.or_eq_true, decide_eq_true_eq]
  rfl

theorem spells_of_ofSpelling? {s : String} {e : Entity String} (h : ofSpelling? s = some e) :
    Spells s e := by
  unfold ofSpelling? at h
  split at h
  next name found =>
    cases h
    rw [after?_eq_some_iff.1 found]
    exact .user name
  split at h
  next found =>
    cases h
    rcases isPublic_iff.1 found with rfl | rfl
    · exact .everybody
    · exact .everybodyKnown
  split at h
  next name found =>
    cases h
    rw [after?_eq_some_iff.1 found]
    exact .group name
  split at h
  next name found =>
    cases h
    rw [after?_eq_some_iff.1 found]
    exact .domain name
  split at h
  next rest found =>
    obtain ⟨⟨team, id⟩, parts, rfl⟩ := Option.map_eq_some_iff.1 h
    obtain ⟨word, names, rfl⟩ := teamAndId?_eq_some_iff.1 parts
    rw [after?_eq_some_iff.1 found, ← String.append_assoc, ← String.append_assoc]
    exact .project names id
  next => cases h

theorem ofSpelling?_of_spells {s : String} {e : Entity String} (h : Spells s e) :
    ofSpelling? s = some e := by
  cases h with
  | user name =>
    have found : after? "user-" ("user-" ++ name) = some name := after?_eq_some_iff.2 rfl
    simp [ofSpelling?, found]
  | everybody => exact ofSpelling?_spelling (e := .user "allUsers") trivial
  | everybodyKnown => exact ofSpelling?_spelling (e := .user "allAuthenticatedUsers") trivial
  | group name => exact ofSpelling?_spelling (e := .group name) trivial
  | domain name => exact ofSpelling?_spelling (e := .domain name) trivial
  | @project word team names id =>
    have text : "project-" ++ word ++ "-" ++ id = "project-" ++ (word ++ "-" ++ id) := by
      simp only [String.append_assoc]
    have user : after? "user-" ("project-" ++ (word ++ "-" ++ id)) = none :=
      after?_eq_none rfl rfl (by decide) _
    have group : after? "group-" ("project-" ++ (word ++ "-" ++ id)) = none :=
      after?_eq_none rfl rfl (by decide) _
    have domain : after? "domain-" ("project-" ++ (word ++ "-" ++ id)) = none :=
      after?_eq_none rfl rfl (by decide) _
    have single := isPublic_append "project-" rfl (by decide) (word ++ "-" ++ id)
    have found : after? "project-" ("project-" ++ (word ++ "-" ++ id)) = some (word ++ "-" ++ id) :=
      after?_eq_some_iff.2 rfl
    have parts : teamAndId? (word ++ "-" ++ id) = some (team, id) :=
      teamAndId?_eq_some_iff.2 ⟨word, names, rfl⟩
    rw [text]
    simp [ofSpelling?, user, group, domain, single, found, parts]

theorem ofSpelling?_eq_some_iff {s : String} {e : Entity String} :
    ofSpelling? s = some e ↔ Spells s e :=
  ⟨spells_of_ofSpelling?, ofSpelling?_of_spells⟩

theorem ofSpelling_of_spells {s : String} {e : Entity String} (h : Spells s e) :
    ofSpelling s = e := by
  rw [ofSpelling, ofSpelling?_eq_some_iff.2 h]
  rfl

/-! ### Spelling again -/

theorem spelling_ofSpelling_of_respelled {s u : String} (h : Respelled s u) :
    (ofSpelling s).spelling = u ∧ u ≠ s := by
  cases h with
  | everybody =>
    have read : ofSpelling "user-allUsers" = .user "allUsers" := ofSpelling_of_spells (.user "allUsers")
    rw [read]
    exact ⟨rfl, by decide⟩
  | everybodyKnown =>
    have read : ofSpelling "user-allAuthenticatedUsers" = .user "allAuthenticatedUsers" :=
      ofSpelling_of_spells (.user "allAuthenticatedUsers")
    rw [read]
    exact ⟨rfl, by decide⟩
  | team names capitals id =>
    rw [ofSpelling_of_spells (.project names id)]
    refine ⟨rfl, fun same => capitals ?_⟩
    rw [← String.toList_inj] at same ⊢
    simp only [String.toList_append, List.append_cancel_right_eq, List.append_cancel_left_eq] at same
    exact same.symm

theorem respelled_of_spelling_ne {s : String} (h : (ofSpelling s).spelling ≠ s) :
    Respelled s (ofSpelling s).spelling := by
  cases hs : ofSpelling? s with
  | none =>
    rw [ofSpelling, hs] at h
    exact absurd rfl h
  | some e =>
    have spells := spells_of_ofSpelling? hs
    rw [ofSpelling_of_spells spells] at h ⊢
    cases spells with
    | user name =>
      cases hp : isPublic name with
      | false => simp [spelling, hp] at h
      | true =>
        rcases isPublic_iff.1 hp with rfl | rfl
        · exact .everybody
        · exact .everybodyKnown
    | everybody => exact absurd rfl h
    | everybodyKnown => exact absurd rfl h
    | group name => exact absurd rfl h
    | domain name => exact absurd rfl h
    | @project word team names id =>
      refine .team names ?_ id
      rintro rfl
      exact h rfl

/-- A text comes out as another one exactly in the cases that `Respelled` lists. -/
theorem respelled_iff {s u : String} :
    Respelled s u ↔ (ofSpelling s).spelling = u ∧ u ≠ s := by
  constructor
  · exact spelling_ofSpelling_of_respelled
  · rintro ⟨rfl, changed⟩
    exact respelled_of_spelling_ne changed

/-! ### Entities and their texts -/

theorem settled_of_isKnown {e : Entity String} (h : e.IsKnown) : e.Settled := by
  cases e with
  | raw s => exact absurd h id
  | _ => trivial

theorem decode_text (s : String) : (decode (.text s)).result = .ok ((ofSpelling s).map .text) :=
  decode_eq_ok_iff.2 ⟨s, rfl, rfl⟩

/-- An entity that is written is read as the entity that it stands for. -/
theorem decode_spelling {e : Entity String} (h : e.Settled) :
    (decode (.text e.spelling)).result = .ok (e.map .text) := by
  rw [decode_text, ofSpelling_spelling h]

theorem same_map_text {e : Entity String} (h : e.Settled) :
    same (.entity (e.map .text)) (.entity (e.map .text)) = .ok true :=
  IsEntity.same_self ⟨e, rfl, h⟩

theorem eq_of_spelling_eq {e f : Entity String} (he : e.IsKnown) (hf : f.IsKnown)
    (h : e.spelling = f.spelling) : e = f := by
  rw [← ofSpelling_spelling (settled_of_isKnown he), h, ofSpelling_spelling (settled_of_isKnown hf)]

/-- A text that is kept as it is spelled is read as that exactly if it has no known shape. -/
theorem same_raw_iff {s : String} :
    same (.entity ((ofSpelling s).map .text)) (.entity (.raw (.text s))) = .ok true ↔
      ∀ e, ¬ Spells s e := by
  cases hs : ofSpelling? s with
  | none =>
    have kept : ofSpelling s = .raw s := by
      rw [ofSpelling, hs]
      rfl
    rw [kept]
    refine ⟨fun _ e spells => ?_, fun _ => same_map_text (e := .raw s) hs⟩
    rw [ofSpelling?_of_spells spells] at hs
    cases hs
  | some e =>
    have spells := spells_of_ofSpelling? hs
    rw [ofSpelling_of_spells spells]
    constructor
    · intro h
      cases spells <;> cases h
    · intro h
      exact absurd spells (h e)

/-- **A text that spells an entity, and an entity that is spelled.**  Every text is read as an
entity, which is spelled as that text again but for the cases of `Respelled`, and read again as the
same entity.  A user, a group, a domain or a team of a project is read back from its spelling, and
so no two of them are spelled alike.  An entity that is kept as it is spelled is read back exactly
if its text has none of the known shapes. -/
theorem decode_encode_spelling :
    (∀ s : String, ∃ e t, (decode (.text s)).result = .ok e ∧ encode e = .ok (.text t) ∧
      (∀ u, Respelled s u ↔ t = u ∧ u ≠ s) ∧
      (decode (.text t)).result = .ok e ∧ same (.entity e) (.entity e) = .ok true) ∧
    (∀ e : Entity String, e.IsKnown → ∃ w, encode (e.map .text) = .ok w ∧
      (decode w).result = .ok (e.map .text) ∧
      same (.entity (e.map .text)) (.entity (e.map .text)) = .ok true) ∧
    (∀ e f : Entity String, e.IsKnown → f.IsKnown →
      encode (e.map .text) = encode (f.map .text) → e = f) ∧
    (∀ s : String, ∃ w e, encode (.raw (.text s)) = .ok w ∧ (decode w).result = .ok e ∧
      (same (.entity e) (.entity (.raw (.text s))) = .ok true ↔ ∀ f, ¬ Spells s f)) := by
  refine ⟨fun s => ?_, fun e known => ?_, fun e f he hf same => ?_, fun s => ?_⟩
  · have settled := settled_ofSpelling s
    exact ⟨_, _, decode_text s, encode_map_text _, fun u => respelled_iff,
      decode_spelling settled, same_map_text settled⟩
  · have settled := settled_of_isKnown known
    exact ⟨_, encode_map_text e, decode_spelling settled, same_map_text settled⟩
  · rw [encode_map_text, encode_map_text] at same
    exact eq_of_spelling_eq he hf (Value.text.inj (Except.ok.inj same))
  · exact ⟨_, _, rfl, decode_text s, same_raw_iff⟩

/-- The word for a team comes out in lower case, whatever the identifier of the project is. -/
theorem decode_encode_capitals :
    ∃ e, (decode (.text "project-OWNERS-12-3")).result = .ok e ∧
      encode e = .ok (.text "project-owners-12-3") := by
  have respelled : Respelled "project-OWNERS-12-3" "project-owners-12-3" := by
    have capitals : NamesTeam "OWNERS" .owners := rfl
    exact .team capitals (by decide) "12-3"
  obtain ⟨e, t, read, written, again, -⟩ := decode_encode_spelling.1 "project-OWNERS-12-3"
  obtain ⟨rfl, -⟩ := (again _).1 respelled
  exact ⟨e, read, written⟩

end Entity

end StorageMetadata
