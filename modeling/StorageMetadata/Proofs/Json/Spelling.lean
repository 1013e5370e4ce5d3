import StorageMetadata.Proofs.Json.Scalar

/-!
# The texts of a document

A document can be written in many ways: between its tokens, and around the whole, blanks may stand
wherever one likes.  `Spells v cs` says that `cs` is a text of the document `v` in which no map has a
key twice.  Every such text is read as that document,

    Spells v cs → read levels cs = .ok v,

unless it has more lists and maps within each other than are read.  So it does not matter to the
reader where there are blanks, and how many.
-/

namespace StorageMetadata.Json

open StorageMetadata.Text

/-! ### How a document is written -/

/-- Are these characters that may stand between the parts of a document? -/
def Blank (cs : List Char) : Prop := ∀ c ∈ cs, isSpace c = true

instance (cs : List Char) : Decidable (Blank cs) := List.decidableBAll _ cs

/-- Texts with commas between them. -/
def commas : List (List Char) → List Char
  | [] => []
  | [cs] => cs
  | cs :: more => cs ++ ',' :: commas more

/-- An entry of a map with the texts of its key and its value. -/
structure Member where
  key : String
  name : List Char
  value : Value
  text : List Char

/-- The text of an entry. -/
def Member.chars (m : Member) : List Char := m.name ++ ':' :: m.text

/-- Is this a text of the document?  There may be blanks around it and around each of its parts, and
every key of a map stands there once. -/
inductive Spells : Value → List Char → Prop
  | scalar {v : Value} {cs : List Char} : IsScalar cs v → Spells v cs
  | blank {v : Value} {front cs back : List Char} : Blank front → Spells v cs → Blank back →
    Spells v (front ++ cs ++ back)
  | emptyList {inside : List Char} : Blank inside → Spells (.list []) ('[' :: inside ++ [']'])
  | list {parts : List (Value × List Char)} : parts ≠ [] → (∀ p ∈ parts, Spells p.1 p.2) →
    Spells (.list (parts.map Prod.fst)) ('[' :: commas (parts.map Prod.snd) ++ [']'])
  | emptyMap {inside : List Char} : Blank inside → Spells (.map []) ('\x7b' :: inside ++ ['\x7d'])
  | map {parts : List Member} : parts ≠ [] → (parts.map Member.key).Nodup →
    (∀ m ∈ parts, Spells (.text m.key) m.name) → (∀ m ∈ parts, Spells m.value m.text) →
    Spells (.map (parts.map fun m => (m.key, m.value)))
      ('\x7b' :: commas (parts.map Member.chars) ++ ['\x7d'])

/-! ### Blanks -/

theorem skipSpace_append {front : List Char} (h : Blank front) (cs : List Char) :
    skipSpace (front ++ cs) = skipSpace cs :=
  List.dropWhile_append_of_pos h

theorem skipSpace_cons {c : Char} (h : isSpace c = false) (cs : List Char) :
    skipSpace (c :: cs) = c :: cs := by
  rw [skipSpace, List.dropWhile_cons_of_neg (by rw [h]; exact Bool.false_ne_true)]

theorem mem_followers_of_isSpace {c : Char} (h : isSpace c = true) : c ∈ followers := by
  simp only [isSpace, Bool.or_eq_true, decide_eq_true_eq] at h
  rcases h with ((rfl | rfl) | rfl) | rfl <;> decide

theorem Ends.append {back k : List Char} (hk : Ends k) (h : Blank back) : Ends (back ++ k) := by
  cases back with
  | nil => exact hk
  | cons c rest => exact ends_cons (mem_followers_of_isSpace (h c List.mem_cons_self)) _

/-! ### Lists and maps -/

variable {k : List Char}

/-- Has a step read the value and left `k`, apart from blanks, or else come to too many lists and
maps within each other? -/
def ReadsAs (v : Value) (k : List Char) (x : Step (Value × List Char)) : Prop :=
  (∃ after, x = .ok (v, after) ∧ skipSpace after = skipSpace k) ∨ ∃ rest, x = .error ⟨.tooDeep, rest⟩

/-- Is the text read as the value, wherever it may stand? -/
def Reads (v : Value) (cs : List Char) : Prop :=
  ∀ (fuel levels : Nat) (k : List Char), cs.length ≤ fuel → Ends k →
    ReadsAs v k (value none fuel levels (skipSpace (cs ++ k)))

theorem reads_of_scalar {v : Value} {cs : List Char} (h : IsScalar cs v) : Reads v cs := by
  intro fuel levels k le hk
  cases cs with
  | nil => cases h
  | cons c rest =>
    obtain ⟨n, rfl⟩ : ∃ n, fuel = n + 1 := ⟨fuel - 1, by simp only [List.length_cons] at le; omega⟩
    refine Or.inl ⟨k, ?_, rfl⟩
    rw [List.cons_append, skipSpace_cons (isSpace_of_scalar h), ← List.cons_append]
    exact value_of_scalar h hk n levels

theorem reads_of_blank {v : Value} {front cs back : List Char} (hfront : Blank front)
    (h : Reads v cs) (hback : Blank back) : Reads v (front ++ cs ++ back) := by
  intro fuel levels k le hk
  have le' : cs.length ≤ fuel := by
    simp only [List.length_append] at le
    omega
  have inner := h fuel levels (back ++ k) le' (hk.append hback)
  rw [List.append_assoc, List.append_assoc, skipSpace_append hfront]
  simpa only [ReadsAs, skipSpace_append hback] using inner

/-- No text of a value begins with what closes a list. -/
theorem not_closes_of_reads {v : Value} {cs : List Char} (h : Reads v cs) (hk : Ends k)
    (rest : List Char) : skipSpace (cs ++ k) ≠ ']' :: rest := by
  intro closes
  have found := h cs.length 0 k (Nat.le_refl _) hk
  have stopped : value none cs.length 0 (']' :: rest) = .error ⟨.value, ']' :: rest⟩ := by
    cases cs.length <;> rfl
  rw [closes, stopped] at found
  rcases found with ⟨_, ⟨⟩, -⟩ | ⟨_, ⟨⟩⟩

section

variable {n levels : Nat} {cs after rest : List Char} {v : Value}

theorem items_last {before : List Value} (h : value none n levels cs = .ok (v, after))
    (closed : skipSpace after = ']' :: rest) :
    items none (n + 1) levels before cs = .ok (.list (v :: before).reverse, rest) := by
  rw [items, h]
  dsimp only [bind, Except.bind]
  rw [closed]
  rfl

theorem items_more {before : List Value} (h : value none n levels cs = .ok (v, after))
    (comma : skipSpace after = ',' :: rest) :
    items none (n + 1) levels before cs = items none n levels (v :: before) (skipSpace rest) := by
  rw [items, h]
  dsimp only [bind, Except.bind]
  rw [comma]
  rfl

theorem items_error {before : List Value} {t : Trouble} (h : value none n levels cs = .error t) :
    items none (n + 1) levels before cs = .error t := by
  rw [items, h]
  rfl

/-- Is this the text of a key, and of the value after it? -/
structure Enters (key : String) (cs inside : List Char) : Prop where
  exists_name : ∃ name after, cs = '"' :: name ∧ string none ('"' :: name) name = .ok (key, after) ∧
    ∃ rest, skipSpace after = ':' :: rest ∧ skipSpace rest = inside

variable {key : String} {inside : List Char} {before : List (String × Value)}

theorem members_eq (h : Enters key cs inside) :
    members none (n + 1) levels before cs = (do
      let (v, after) ← value none n levels inside
      let entries := putEntry key v before
      match skipSpace after with
      | '\x7d' :: after => .ok (.map entries, after)
      | ',' :: after => members none n levels entries (skipSpace after)
      | after => .error ⟨.comma, after⟩) := by
  obtain ⟨name, after, rfl, hname, rest, colon, rfl⟩ := h
  rw [members, hname]
  dsimp only [bind, Except.bind]
  rw [colon]
  rfl

theorem members_last (h : Enters key cs inside) (hv : value none n levels inside = .ok (v, after))
    (closed : skipSpace after = '\x7d' :: rest) :
    members none (n + 1) levels before cs = .ok (.map (putEntry key v before), rest) := by
  rw [members_eq h, hv]
  dsimp only [bind, Except.bind]
  rw [closed]
  rfl

theorem members_more (h : Enters key cs inside) (hv : value none n levels inside = .ok (v, after))
    (comma : skipSpace after = ',' :: rest) :
    members none (n + 1) levels before cs =
      members none n levels (putEntry key v before) (skipSpace rest) := by
  rw [members_eq h, hv]
  dsimp only [bind, Except.bind]
  rw [comma]
  rfl

theorem members_error (h : Enters key cs inside) {t : Trouble}
    (hv : value none n levels inside = .error t) : members none (n + 1) levels before cs = .error t := by
  rw [members_eq h, hv]
  rfl

end

theorem items_of_reads : ∀ {parts : List (Value × List Char)}, parts ≠ [] →
    (∀ p ∈ parts, Reads p.1 p.2) → ∀ (fuel levels : Nat) (before : List Value),
      (commas (parts.map Prod.snd)).length < fuel →
        ReadsAs (.list (before.reverse ++ parts.map Prod.fst)) k
          (items none fuel levels before
            (skipSpace (commas (parts.map Prod.snd) ++ ']' :: k))) := by
  intro parts
  induction parts with
  | nil => intro none; exact absurd rfl none
  | cons p rest ih =>
    intro _ h fuel levels before lt
    obtain ⟨n, rfl⟩ : ∃ n, fuel = n + 1 := ⟨fuel - 1, by omega⟩
    have first : Reads p.1 p.2 := h p List.mem_cons_self
    cases rest with
    | nil =>
      have le : p.2.length ≤ n := Nat.le_of_lt_succ lt
      rcases first n levels (']' :: k) le (ends_cons (by decide) k) with
        ⟨after, found, left⟩ | ⟨t, deep⟩
      · refine Or.inl ⟨k, ?_, rfl⟩
        rw [List.map_cons, List.map_nil, List.map_cons, List.map_nil, commas,
          items_last found (left.trans (skipSpace_cons (by decide) k)), List.reverse_cons]
      · exact Or.inr ⟨t, items_error deep⟩
    | cons q rest =>
      obtain ⟨more, hmore⟩ : ∃ more, more = commas ((q :: rest).map Prod.snd) := ⟨_, rfl⟩
      have text : commas ((p :: q :: rest).map Prod.snd) = p.2 ++ ',' :: more := by
        rw [hmore]
        rfl
      rw [text, List.length_append, List.length_cons] at lt
      rw [text, List.append_assoc, List.cons_append]
      rcases first n levels (',' :: (more ++ ']' :: k)) (by omega) (ends_cons (by decide) _) with
        ⟨after, found, left⟩ | ⟨t, deep⟩
      · rw [items_more found (left.trans (skipSpace_cons (by decide) _))]
        have others := ih (List.cons_ne_nil q rest) (fun p hp => h p (List.mem_cons_of_mem _ hp))
          n levels (p.1 :: before) (by rw [← hmore]; omega)
        rwa [← hmore, List.reverse_cons, List.append_assoc] at others
      · exact Or.inr ⟨t, items_error deep⟩

/-- A key is the text between two quotes, perhaps with blanks around them. -/
theorem name_of_spells {v : Value} {name : List Char} (h : Spells v name) {key : String}
    (isKey : v = .text key) : ∀ k, ∃ rest after, skipSpace (name ++ k) = '"' :: rest ∧
      string none ('"' :: rest) rest = .ok (key, after) ∧ skipSpace after = skipSpace k := by
  induction h with
  | @scalar v cs h =>
    subst isKey
    intro k
    cases cs with
    | nil => cases h
    | cons c rest =>
      obtain rfl := quote_of_scalar h
      obtain ⟨⟨x, after⟩, hx, h⟩ := bind_eq_ok h
      cases h
      refine ⟨rest ++ k, k, ?_, string_append hx, rfl⟩
      rw [List.cons_append, skipSpace_cons (by decide)]
  | @blank v front cs back hfront _ hback ih =>
    intro k
    obtain ⟨rest, after, start, found, left⟩ := ih isKey (back ++ k)
    refine ⟨rest, after, ?_, found, left.trans (skipSpace_append hback k)⟩
    rw [List.append_assoc, List.append_assoc, skipSpace_append hfront, start]
  | emptyList | list | emptyMap | map => cases isKey

theorem putEntry_of_new {key : String} {v : Value} {es : List (String × Value)}
    (h : key ∉ es.map Prod.fst) : putEntry key v es = es ++ [(key, v)] := by
  induction es with
  | nil => rfl
  | cons e rest ih =>
    obtain ⟨k, w⟩ := e
    rw [List.map_cons, List.mem_cons, not_or] at h
    rw [putEntry, if_neg (Ne.symm h.1), ih h.2, List.cons_append]

/-- An entry of a map can be read: its key, and then its value. -/
structure Member.Reads (m : Member) : Prop where
  name : ∀ k, ∃ rest after, skipSpace (m.name ++ k) = '"' :: rest ∧
    string none ('"' :: rest) rest = .ok (m.key, after) ∧ skipSpace after = skipSpace k
  value : Json.Reads m.value m.text

theorem enters_of_reads {m : Member} (h : m.Reads) (k : List Char) :
    Enters m.key (skipSpace (m.chars ++ k)) (skipSpace (m.text ++ k)) := by
  obtain ⟨rest, after, start, found, left⟩ := h.name (':' :: (m.text ++ k))
  refine ⟨rest, after, ?_, found, m.text ++ k, left.trans (skipSpace_cons (by decide) _), rfl⟩
  rw [Member.chars, List.append_assoc, List.cons_append, start]

theorem members_of_reads : ∀ {parts : List Member}, parts ≠ [] →
    (∀ m ∈ parts, m.Reads) → ∀ (fuel levels : Nat) (before : List (String × Value)),
      (before.map Prod.fst ++ parts.map Member.key).Nodup →
      (commas (parts.map Member.chars)).length < fuel →
        ReadsAs (.map (before ++ parts.map fun m => (m.key, m.value))) k
          (members none fuel levels before
            (skipSpace (commas (parts.map Member.chars) ++ '\x7d' :: k))) := by
  intro parts
  induction parts with
  | nil => intro none; exact absurd rfl none
  | cons m rest ih =>
    intro _ h fuel levels before nodup lt
    obtain ⟨n, rfl⟩ : ∃ n, fuel = n + 1 := ⟨fuel - 1, by omega⟩
    have first : m.Reads := h m List.mem_cons_self
    have new : putEntry m.key m.value before = before ++ [(m.key, m.value)] := by
      refine putEntry_of_new fun there => ?_
      exact (List.nodup_append.1 nodup).2.2 _ there _ List.mem_cons_self rfl
    cases rest with
    | nil =>
      have le : m.text.length ≤ n := by
        have : m.chars.length < n + 1 := lt
        simp only [Member.chars, List.length_append, List.length_cons] at this
        omega
      have enters := enters_of_reads first ('\x7d' :: k)
      rcases first.value n levels ('\x7d' :: k) le (ends_cons (by decide) k) with
        ⟨after, found, left⟩ | ⟨t, deep⟩
      · refine Or.inl ⟨k, ?_, rfl⟩
        rw [List.map_cons, List.map_nil, List.map_cons, List.map_nil, commas,
          members_last enters found (left.trans (skipSpace_cons (by decide) k)), new]
      · exact Or.inr ⟨t, members_error enters deep⟩
    | cons q rest =>
      obtain ⟨more, hmore⟩ : ∃ more, more = commas ((q :: rest).map Member.chars) := ⟨_, rfl⟩
      have text : commas ((m :: q :: rest).map Member.chars) = m.chars ++ ',' :: more := by
        rw [hmore]
        rfl
      have longer : m.text.length < m.chars.length := by
        simp only [Member.chars, List.length_append, List.length_cons]
        omega
      rw [text, List.length_append, List.length_cons] at lt
      rw [text, List.append_assoc, List.cons_append]
      have enters := enters_of_reads first (',' :: (more ++ '\x7d' :: k))
      rcases first.value n levels (',' :: (more ++ '\x7d' :: k)) (by omega)
        (ends_cons (by decide) _) with ⟨after, found, left⟩ | ⟨t, deep⟩
      · rw [members_more enters found (left.trans (skipSpace_cons (by decide) _)), new]
        have nodup' : ((before ++ [(m.key, m.value)]).map Prod.fst ++
            (q :: rest).map Member.key).Nodup := by
          rw [List.map_append, List.append_assoc]
          exact nodup
        have others := ih (List.cons_ne_nil q rest) (fun p hp => h p (List.mem_cons_of_mem _ hp))
          n levels (before ++ [(m.key, m.value)]) nodup' (by rw [← hmore]; omega)
        rwa [← hmore, List.append_assoc] at others
      · exact Or.inr ⟨t, members_error enters deep⟩

/-! ### Documents -/

section

variable {n levels : Nat} {rest after : List Char}

theorem value_list_eq (levels : Nat) (rest : List Char) :
    value none (n + 1) levels ('[' :: rest) = match levels, skipSpace rest with
      | 0, _ => .error ⟨.tooDeep, '[' :: rest⟩
      | _ + 1, ']' :: after => .ok (.list [], after)
      | inner + 1, inside => items none n inner [] inside := rfl

theorem value_map_eq (levels : Nat) (rest : List Char) :
    value none (n + 1) levels ('\x7b' :: rest) = match levels, skipSpace rest with
      | 0, _ => .error ⟨.tooDeep, '\x7b' :: rest⟩
      | _ + 1, '\x7d' :: after => .ok (.map [], after)
      | inner + 1, inside => members none n inner [] inside := rfl

theorem value_list (h : ∀ after, skipSpace rest ≠ ']' :: after) :
    value none (n + 1) (levels + 1) ('[' :: rest) = items none n levels [] (skipSpace rest) := by
  rw [value_list_eq]
  split
  next zero => cases zero
  next closed => exact absurd closed (h _)
  next inner level _ =>
    cases level
    rfl

theorem value_map (h : ∀ after, skipSpace rest ≠ '\x7d' :: after) :
    value none (n + 1) (levels + 1) ('\x7b' :: rest) = members none n levels [] (skipSpace rest) := by
  rw [value_map_eq]
  split
  next zero => cases zero
  next closed => exact absurd closed (h _)
  next inner level _ =>
    cases level
    rfl

end

theorem exists_commas (cs : List Char) (more : List (List Char)) {c : Char} (h : c ∈ followers)
    (k : List Char) : ∃ tail, Ends tail ∧ commas (cs :: more) ++ c :: k = cs ++ tail := by
  cases more with
  | nil => exact ⟨c :: k, ends_cons h k, rfl⟩
  | cons next more =>
    refine ⟨',' :: (commas (next :: more) ++ c :: k), ends_cons (by decide) _, ?_⟩
    rw [commas, List.append_assoc, List.cons_append]
    exact List.cons_ne_nil next more

/-- What begins with a bracket is read from there on. -/
theorem reads_of_bracket {v : Value} {c : Char} {inside : List Char} (hc : isSpace c = false)
    (h : ∀ (n levels : Nat) (k : List Char), inside.length ≤ n →
      ReadsAs v k (value none (n + 1) levels (c :: (inside ++ k)))) : Reads v (c :: inside) := by
  intro fuel levels k le _
  rw [List.length_cons] at le
  obtain ⟨n, rfl⟩ : ∃ n, fuel = n + 1 := ⟨fuel - 1, by omega⟩
  rw [List.cons_append, skipSpace_cons hc]
  exact h n levels k (by omega)

theorem reads_of_emptyList {inside : List Char} (blank : Blank inside) :
    Reads (.list []) ('[' :: (inside ++ [']'])) := by
  refine reads_of_bracket (by decide) fun n levels k _ => ?_
  rw [value_list_eq, List.append_assoc, skipSpace_append blank, List.singleton_append,
    skipSpace_cons (by decide)]
  cases levels with
  | zero => exact Or.inr ⟨_, rfl⟩
  | succ levels => exact Or.inl ⟨k, rfl, rfl⟩

theorem reads_of_emptyMap {inside : List Char} (blank : Blank inside) :
    Reads (.map []) ('\x7b' :: (inside ++ ['\x7d'])) := by
  refine reads_of_bracket (by decide) fun n levels k _ => ?_
  rw [value_map_eq, List.append_assoc, skipSpace_append blank, List.singleton_append,
    skipSpace_cons (by decide)]
  cases levels with
  | zero => exact Or.inr ⟨_, rfl⟩
  | succ levels => exact Or.inl ⟨k, rfl, rfl⟩

theorem reads_of_list {parts : List (Value × List Char)} (some : parts ≠ [])
    (each : ∀ p ∈ parts, Reads p.1 p.2) :
    Reads (.list (parts.map Prod.fst)) ('[' :: (commas (parts.map Prod.snd) ++ [']'])) := by
  refine reads_of_bracket (by decide) fun n levels k le => ?_
  rw [List.length_append, List.length_singleton] at le
  rw [List.append_assoc]
  cases levels with
  | zero => exact Or.inr ⟨_, value_list_eq 0 _⟩
  | succ levels =>
    obtain ⟨p, rest, rfl⟩ := List.exists_cons_of_ne_nil some
    obtain ⟨tail, htail, text⟩ := exists_commas p.2 (rest.map Prod.snd) (c := ']') (by decide) k
    -- The first item is not the end of the list.
    have open_ : ∀ after, skipSpace (commas ((p :: rest).map Prod.snd) ++ ([']'] ++ k)) ≠
        ']' :: after := by
      intro after
      have := not_closes_of_reads (each p List.mem_cons_self) htail after
      rwa [← text] at this
    rw [value_list open_]
    exact items_of_reads some each n levels [] (by omega)

theorem reads_of_map {parts : List Member} (some : parts ≠ [])
    (nodup : (parts.map Member.key).Nodup) (each : ∀ m ∈ parts, m.Reads) :
    Reads (.map (parts.map fun m => (m.key, m.value)))
      ('\x7b' :: (commas (parts.map Member.chars) ++ ['\x7d'])) := by
  refine reads_of_bracket (by decide) fun n levels k le => ?_
  rw [List.length_append, List.length_singleton] at le
  rw [List.append_assoc]
  cases levels with
  | zero => exact Or.inr ⟨_, value_map_eq 0 _⟩
  | succ levels =>
    obtain ⟨m, rest, rfl⟩ := List.exists_cons_of_ne_nil some
    obtain ⟨tail, -, text⟩ :=
      exists_commas m.chars (rest.map Member.chars) (c := '\x7d') (by decide) k
    -- The first key is not the end of the map.
    have open_ : ∀ after, skipSpace (commas ((m :: rest).map Member.chars) ++ (['\x7d'] ++ k)) ≠
        '\x7d' :: after := by
      intro after closed
      obtain ⟨name, _, start, -⟩ := enters_of_reads (each m List.mem_cons_self) tail
      rw [← text] at start
      cases start.symm.trans closed
    rw [value_map open_]
    exact members_of_reads some each n levels [] (by simpa using nodup) (by omega)

/-- **Every text of a document is read as the document, wherever it may stand.** -/
theorem reads_of_spells {v : Value} {cs : List Char} (h : Spells v cs) : Reads v cs := by
  induction h with
  | scalar h => exact reads_of_scalar h
  | blank hfront _ hback ih => exact reads_of_blank hfront ih hback
  | emptyList blank => exact reads_of_emptyList blank
  | list some _ ih => exact reads_of_list some ih
  | emptyMap blank => exact reads_of_emptyMap blank
  | map some nodup names _ _ ih =>
    exact reads_of_map some nodup fun m hm => ⟨name_of_spells (names m hm) rfl, ih m hm⟩

/-- **Every text of a document is read as the document**, unless it has more lists and maps within
each other than are read. -/
theorem read_of_spells {v : Value} {cs : List Char} (h : Spells v cs) (levels : Nat) :
    read levels cs = .ok v ∨ ∃ rest, read levels cs = .error ⟨.tooDeep, rest⟩ := by
  have found := reads_of_spells h (cs.length + 1) levels [] (Nat.le_succ _)
    (fun _ _ none => nomatch none)
  rw [List.append_nil] at found
  have noMark : cs.head? ≠ some '\ufeff' := by
    intro mark
    obtain ⟨rest, rfl⟩ := List.head?_eq_some_iff.1 mark
    have stopped : value none (('\ufeff' :: rest).length + 1) levels
        (skipSpace ('\ufeff' :: rest)) = .error ⟨.value, '\ufeff' :: rest⟩ := rfl
    rw [stopped] at found
    rcases found with ⟨_, ⟨⟩, -⟩ | ⟨_, ⟨⟩⟩
  rw [read, readWith, if_neg noMark]
  rcases found with ⟨after, found, left⟩ | ⟨rest, deep⟩
  · refine Or.inl ?_
    rw [found]
    dsimp only [bind, Except.bind]
    rw [left]
    rfl
  · refine Or.inr ⟨rest, ?_⟩
    rw [deep]
    rfl

/-- In a text with few brackets the lists and maps are not too deep within each other. -/
theorem read_of_spells_of_le {v : Value} {cs : List Char} (h : Spells v cs) {levels : Nat}
    (few : cs.countP opens ≤ levels) : read levels cs = .ok v := by
  rcases read_of_spells h levels with document | ⟨rest, deep⟩
  · exact document
  · exact absurd (((readWith_spec none levels cs).2 _ deep).deep rfl) (Nat.not_lt.2 few)

/-! ### Maps of texts -/

/-- An entry with a text, as it is written without blanks. -/
def Member.ofText (key s : String) : Member where
  key := key
  name := '"' :: (key.toList ++ ['"'])
  value := .text s
  text := '"' :: (s.toList ++ ['"'])

/-- A map of texts is written entry by entry, where every character stands for itself. -/
theorem spells_texts {texts : List (String × String)} (some : texts ≠ [])
    (nodup : (texts.map Prod.fst).Nodup)
    (plain : ∀ e ∈ texts, Plain e.1.toList ∧ Plain e.2.toList) :
    Spells (.map (texts.map fun e => (e.1, .text e.2)))
      ('\x7b' :: commas (texts.map fun e => (Member.ofText e.1 e.2).chars) ++ ['\x7d']) := by
  obtain ⟨parts, hparts⟩ : ∃ parts, parts = texts.map fun e => Member.ofText e.1 e.2 := ⟨_, rfl⟩
  have each : ∀ m ∈ parts, Spells (.text m.key) m.name ∧ Spells m.value m.text := by
    intro m hm
    rw [hparts] at hm
    obtain ⟨e, he, rfl⟩ := List.mem_map.1 hm
    exact ⟨.scalar (isScalar_of_plain (plain e he).1), .scalar (isScalar_of_plain (plain e he).2)⟩
  have keys : parts.map Member.key = texts.map Prod.fst := by
    rw [hparts, List.map_map]
    rfl
  have whole := Spells.map (by rwa [hparts, ne_eq, List.map_eq_nil_iff]) (keys ▸ nodup)
    (fun m hm => (each m hm).1) (fun m hm => (each m hm).2)
  rwa [hparts, List.map_map, List.map_map] at whole

end StorageMetadata.Json
