import FilterQuery.Descriptor.Basic
import FilterQuery.Text.LetterCase

/-!
# Searches

A search key names several fields at once, with underscores between them.  The search asks whether
the value occurs in any one of them, without regard to case: it becomes one fragment per field, the
first of which opens a group that the others continue.

* `SearchMode.split?`: the mode of a search key, and its fields.
* `SearchMode.expand`: the fragments of a search.
-/

namespace FilterQuery

/-- Where in a field the value of a search has to occur. -/
inductive SearchMode where
  | contains
  | startsWith
  deriving DecidableEq, Repr

namespace SearchMode

/-- The modes, in the order in which a key is tried for them. -/
def all : List SearchMode :=
  [.startsWith, .contains]

/-- The letters that a search key opens with. -/
def tag : SearchMode → Text
  | .contains => "search_".toList
  | .startsWith => "searchsw_".toList

/-- The name of a mode, which is also the name of the comparison in its fragments. -/
def name : SearchMode → Text
  | .contains => "Contains".toList
  | .startsWith => "StartsWith".toList

/-- The expression that asks whether the value occurs in a field. -/
def template (mode : SearchMode) (field : Text) : Text :=
  field ++ ".ToLower().".toList ++ mode.name ++ "(@0)".toList

/-- The first of some modes that a key opens with, and the fields after it. -/
def splitIn? (modes : List SearchMode) (key : Text) : Option (SearchMode × Text) :=
  modes.findSome? fun mode => (mode.tag.isPrefixOf? key).map fun fields => (mode, fields)

/-- The mode of a search key, and the text that names its fields. -/
def split? (key : Text) : Option (SearchMode × Text) :=
  splitIn? all key

/-- The fragment of one field. -/
def fragment (mode : SearchMode) (operation : Operation) (term field : Text) : Descriptor :=
  .fragment operation (mode.template (Text.capitalize field)) term

/-- The fragments of some fields: the first opens a group, the others continue it. -/
def group (mode : SearchMode) (term : Text) : List Text → List Descriptor
  | [] => []
  | first :: others =>
    mode.fragment .sql term first :: others.map (mode.fragment .sqlUnion term)

/-- The fragments of a search for a value.  Underscores that separate nothing are ignored. -/
def expand (mode : SearchMode) (fields value : Text) : List Descriptor :=
  mode.group (Text.lowercase value) (Text.words '_' fields)

end SearchMode

end FilterQuery
