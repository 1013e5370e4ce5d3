import StorageMetadata.Value.Basic
import StorageMetadata.Number.Shortest
import StorageMetadata.Text.Quoted

/-!
# Values in messages

A value has two texts.  `literal` shows it so that its kind can be told: texts are quoted, lists
and maps are in brackets, a value of the domain names its parts.  `display` is for reading: a text
stands for itself, a method is its name, an origin or an entity is its spelling; anything else is
shown by its literal.

Not every value can be shown for reading: an origin, and an entity that is kept as it is spelled,
are their texts and so have to have one.  `isShowable` tells which values can be; of the others
`display` shows what it can.
-/

namespace StorageMetadata

open StorageMetadata.Text

namespace Value

/-- The pieces in one line with a comma between two. -/
def commaSeparated (pieces : List String) : String := ", ".intercalate pieces

/-- The name and the word of a constant. -/
def constantLiteral (kind name word : String) : String :=
  "<" ++ kind ++ "." ++ name ++ ": " ++ quoted word ++ ">"

/-- The literal of a fixed sequence: a single item has a comma of its own. -/
def sequenceLiteral : List String → String
  | [] => "()"
  | [x] => "(" ++ x ++ ",)"
  | xs => "(" ++ commaSeparated xs ++ ")"

/-- The literal of a map with entries of the given literals. -/
def mapLiteral (entries : List String) : String := "\x7b" ++ commaSeparated entries ++ "\x7d"

/-- The literal of a team. -/
def teamLiteral (t : Team) : String := constantLiteral "ProjectRole" t.capitals t.name

/-- The literal of a role. -/
def roleLiteral (r : Role) : String := constantLiteral "Role" r.name r.name

/-- The two texts of a value. -/
inductive Style where
  /-- Shows the kind of the value. -/
  | literal
  /-- Shows what the value stands for, where it stands for a text. -/
  | display

mutual

/-- The text of a value in the given style; what is inside a list, a map or a record is always
shown by its literal. -/
def write (style : Style) : Value → String
  | .null => "None"
  | .bool b => if b then "True" else "False"
  | .int n => Decimal.write n
  | .float x => x.write
  | .text s => match style with
    | .literal => quoted s
    | .display => s
  | .list items => "[" ++ commaSeparated (literals items) ++ "]"
  | .map entries => mapLiteral (entryLiterals entries)
  | .keyed entries => mapLiteral (keyedLiterals entries)
  | .cleared => match style with
    | .literal => "CLEARED"
    | .display => "_Cleared.CLEARED"
  | .method m => match style with
    | .literal => constantLiteral "HttpMethod" m.name m.name
    | .display => m.name
  | .origin o => writeOrigin style o
  | .entity e => writeEntity style e
  | .grant g => grantLiteral g
  | .rule r => ruleLiteral r
  | .record r => r.literal
  | .draft _ => "<draft>"
termination_by structural v => v

/-- The literals of the items of a list. -/
def literals : List Value → List String
  | [] => []
  | v :: rest => write .literal v :: literals rest

/-- The literals of the entries of a map. -/
def entryLiterals : List (String × Value) → List String
  | [] => []
  | e :: rest => entryLiteral e :: entryLiterals rest

/-- The literal of an entry. -/
def entryLiteral : String × Value → String
  | (key, v) => quoted key ++ ": " ++ write .literal v

/-- The literals of the entries of a map with keys of any kind. -/
def keyedLiterals : List (Value × Value) → List String
  | [] => []
  | e :: rest => keyedLiteral e :: keyedLiterals rest

/-- The literal of an entry whose key is of any kind. -/
def keyedLiteral : Value × Value → String
  | (key, v) => write .literal key ++ ": " ++ write .literal v

/-- The text of an origin. -/
def writeOrigin (style : Style) : Origin Value → String
  | ⟨v, _⟩ => match style with
    | .literal => "Origin(value=" ++ write .literal v ++ ")"
    | .display => write .display v

/-- The text of an entity. -/
def writeEntity (style : Style) : Entity Value → String
  | .user v => match style, v with
    | .literal, v => "User(value=" ++ write .literal v ++ ")"
    | .display, .text s => (Entity.user s).spelling
    | .display, v => "user-" ++ write .display v
  | .group v => match style with
    | .literal => "Group(value=" ++ write .literal v ++ ")"
    | .display => "group-" ++ write .display v
  | .domain v => match style with
    | .literal => "Domain(value=" ++ write .literal v ++ ")"
    | .display => "domain-" ++ write .display v
  | .project t v => match style with
    | .literal => "Project(value=" ++ quoted (t.name ++ "-" ++ write .display v) ++
        ", project_role=" ++ teamLiteral t ++ ", project_id=" ++ write .literal v ++ ")"
    | .display => "project-" ++ t.name ++ "-" ++ write .display v
  | .raw v => match style with
    | .literal => "RawEntity(value=" ++ write .literal v ++ ")"
    | .display => write .display v

/-- The literal of a grant. -/
def grantLiteral : Grant Value → String
  | ⟨v, r⟩ => "Acl(entity=" ++ write .literal v ++ ", role=" ++ roleLiteral r ++ ")"

/-- The literal of a rule. -/
def ruleLiteral : CorsRule Value → String
  | ⟨maxAge, methods, origins, responseHeaders⟩ =>
    "Cors(max_age_seconds=" ++ write .literal maxAge ++ ", methods=" ++ sequence methods ++
      ", origins=" ++ sequence origins ++ ", response_headers=" ++ sequence responseHeaders ++ ")"

/-- The literal of a sequence that may be missing. -/
def sequence : Option (List Value) → String
  | none => "None"
  | some items => sequenceLiteral (literals items)

end

/-- The text that shows the kind of a value. -/
def literal (v : Value) : String := write .literal v

/-- The text of a value for reading. -/
def display (v : Value) : String := write .display v

mutual

/-- Can the value be shown for reading? -/
def isShowable : Value → Bool
  | .origin o => o.value.text?.isSome
  | .entity e => isShowableEntity e
  | _ => true
termination_by structural v => v

/-- Can the entity be spelled? -/
def isShowableEntity : Entity Value → Bool
  | .user v => isShowable v
  | .group v => isShowable v
  | .domain v => isShowable v
  | .project _ v => isShowable v
  | .raw v => v.text?.isSome

end

@[simp] theorem display_text (s : String) : display (.text s) = s := rfl

@[simp] theorem literal_text (s : String) : literal (.text s) = quoted s := rfl

end Value

end StorageMetadata
