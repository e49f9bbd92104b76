import FilterQuery.Percent
import FilterQuery.Search
import FilterQuery.Settings.Basic
import FilterQuery.Shortcode
import FilterQuery.Traced

/-!
# From parameters to descriptors

A parameter is a key and a value, the value percent-encoded.  What becomes of it is decided by its
key alone, which plays one of six roles.  The parameters that are found by name come first: they are
never conditions, whatever their names look like.  Then a shortcode and a search are recognised, so
that any property can be asked for, even one whose name is reserved.  Of the other keys the reserved
ones are left out, and the rest ask for equality.

* `Settings.role`: the role of a key.
* `Role.descriptors`, `Role.event`: what a parameter contributes in a role, and what is recorded.
* `Settings.describe`, `Settings.describeAll`: the descriptors of one parameter and of many.
-/

namespace FilterQuery

/-- What the key of a parameter says about it. -/
inductive Role where
  /-- The key is empty. -/
  | unnamed
  /-- The parameter is one of those that are found by name. -/
  | control
  /-- The key opens with a shortcode, and the rest of it is a property. -/
  | condition (code : Shortcode) (property : Text)
  /-- The key asks for a search in some fields. -/
  | search (mode : SearchMode) (fields : Text)
  /-- The key is reserved, or has to do with paging. -/
  | reserved
  /-- The key is a property that has to equal the value. -/
  | equality
  deriving DecidableEq, Repr

namespace Role

/-- The descriptors of a parameter in its role; the value is no longer encoded. -/
def descriptors (role : Role) (key value : Text) : List Descriptor :=
  match role with
  | .condition code property => [.field property code.operation code.transform value]
  | .search mode fields => mode.expand fields value
  | .equality => [.field key .eq none value]
  | .unnamed | .control | .reserved => []

/-- What is recorded of a parameter in its role that has contributed so many descriptors. -/
def event (role : Role) (key : Text) (count : Nat) : Event :=
  match role with
  | .unnamed => .unnamedSkipped
  | .control => .controlSkipped key
  | .condition code _ => .shortcodeResolved key code.operation
  | .search mode fields => .searchExpanded mode fields count
  | .reserved => .reservedSkipped key
  | .equality => .equalityAssumed key

end Role

namespace Settings

/-- The role of a key. -/
def role (settings : Settings) (key : Text) : Role :=
  if key.isEmpty then
    .unnamed
  else if settings.isNamedControl key then
    .control
  else
    match Shortcode.split? key, SearchMode.split? key with
    | some (code, property), _ => .condition code property
    | none, some (mode, fields) => .search mode fields
    | none, none => if settings.isControl key then .reserved else .equality

/-- The descriptors of a parameter. -/
def describe (settings : Settings) (key rawValue : Text) : Traced (List Descriptor) := do
  let role := settings.role key
  let descriptors := role.descriptors key (Percent.decode rawValue)
  Traced.record (role.event key descriptors.length)
  return descriptors

/-- The descriptors of parameters, in their order. -/
def describeAll (settings : Settings) : List (Text × Text) → Traced (List Descriptor)
  | [] => return []
  | (key, value) :: others => do
    let first ← settings.describe key value
    let more ← settings.describeAll others
    return first ++ more

end Settings

/-- The fragments of a search by itself. -/
def SearchMode.search (mode : SearchMode) (fields value : Text) : Traced (List Descriptor) := do
  let fragments := mode.expand fields value
  Traced.record (.searchExpanded mode fields fragments.length)
  return fragments

end FilterQuery
