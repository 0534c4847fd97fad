import FormScaffold.Text.Letters

/-!
# The catalog of field kinds

A form has fields of six kinds.  Each kind has an identifier, which templates,
manifests and the command line use, and a name for people.
-/

namespace FormScaffold

/-- The kinds of form field that a project can choose from. -/
inductive FieldKind where
  | text
  | select
  | textarea
  | checkbox
  | datePicker
  | comboSelect
  deriving DecidableEq, Repr

namespace FieldKind

/-- All kinds, in the order in which they are offered. -/
def catalog : List FieldKind :=
  [text, select, textarea, checkbox, datePicker, comboSelect]

theorem mem_catalog (k : FieldKind) : k ∈ catalog := by
  cases k <;> decide

def id : FieldKind → Text
  | text => "text".toList
  | select => "select".toList
  | textarea => "textarea".toList
  | checkbox => "checkbox".toList
  | datePicker => "date-picker".toList
  | comboSelect => "combo-select".toList

theorem id_injective {k l : FieldKind} (h : k.id = l.id) : k = l := by
  revert h; cases k <;> cases l <;> decide

def displayName : FieldKind → Text
  | text => "Text".toList
  | select => "Select".toList
  | textarea => "Textarea".toList
  | checkbox => "Checkbox".toList
  | datePicker => "Date Picker".toList
  | comboSelect => "Combo Select".toList

def ofId? (s : Text) : Option FieldKind := catalog.find? (fun k => k.id == s)

theorem ofId?_id (k : FieldKind) : ofId? k.id = some k := by
  cases k <;> decide

/-- The kind with this identifier, the case of ASCII letters set aside. -/
def ofIdAnyCase? (s : Text) : Option FieldKind :=
  catalog.find? (fun k => Text.sameButCase k.id s)

/-- The kind that a person wrote: white space around it, capital letters and
underscores in place of hyphens are allowed. -/
def parse? (s : Text) : Option FieldKind :=
  ofId? ((Text.lower (Text.trim s)).map (fun c => if c = '_' then '-' else c))

def idList (kinds : List FieldKind) : Text :=
  List.intercalate ", ".toList (kinds.map id)

def unknownMessage (s : Text) : Text :=
  "Unknown field '".toList ++ s ++ "'. Known fields: ".toList ++ idList catalog

/-- The kinds that are in the catalog and not among the chosen ones. -/
def unchosen (chosen : List FieldKind) : List FieldKind :=
  catalog.filter (fun k => !chosen.contains k)

end FieldKind
end FormScaffold
