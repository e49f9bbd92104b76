import FilterQuery.Text.Basic

/-!
# Descriptors

A descriptor is one condition of a filter in the form in which it is sent.  There are two kinds.  A
field condition compares a property with a value.  A fragment is a small expression of its own, in
which the value is bound where the expression says `@0`; the fragments of one search form a group,
opened by `sql` and continued by `sqlUnion`.
-/

namespace FilterQuery

/-- How a descriptor compares, or how a fragment joins the ones before it. -/
inductive Operation where
  | startsWith
  | contains
  | endsWith
  | eq
  | ne
  | gt
  | ge
  | lt
  | le
  /-- A fragment that opens a group. -/
  | sql
  /-- A fragment that is one more alternative of the group before it. -/
  | sqlUnion
  deriving DecidableEq, Repr

namespace Operation

/-- All operations. -/
def all : List Operation :=
  [.startsWith, .contains, .endsWith, .eq, .ne, .gt, .ge, .lt, .le, .sql, .sqlUnion]

/-- The name under which an operation is sent. -/
def name : Operation → Text
  | .startsWith => "StartsWith".toList
  | .contains => "Contains".toList
  | .endsWith => "EndsWith".toList
  | .eq => "Eq".toList
  | .ne => "Ne".toList
  | .gt => "Gt".toList
  | .ge => "Ge".toList
  | .lt => "Lt".toList
  | .le => "Le".toList
  | .sql => "Sql".toList
  | .sqlUnion => "SqlUnion".toList

/-- The operation of a name. -/
def ofName? (name : Text) : Option Operation :=
  all.find? fun operation => operation.name = name

/-- A name leads back to its operation, so no two operations share one. -/
@[simp] theorem ofName?_name (operation : Operation) : ofName? operation.name = some operation := by
  cases operation <;> decide

end Operation

/-- What is done to both sides before they are compared. -/
inductive Transform where
  | lower
  | upper
  | trim
  deriving DecidableEq, Repr

namespace Transform

/-- All transforms. -/
def all : List Transform :=
  [.lower, .upper, .trim]

/-- The name under which a transform is sent. -/
def name : Transform → Text
  | .lower => "Lower".toList
  | .upper => "Upper".toList
  | .trim => "Trim".toList

/-- The transform of a name. -/
def ofName? (name : Text) : Option Transform :=
  all.find? fun transform => transform.name = name

/-- A name leads back to its transform. -/
@[simp] theorem ofName?_name (transform : Transform) : ofName? transform.name = some transform := by
  cases transform <;> decide

end Transform

/-- One condition of a filter. -/
structure Descriptor where
  property : Option Text
  operation : Operation
  transform : Option Transform
  value : Text
  sql : Option Text
  deriving DecidableEq, Repr

namespace Descriptor

/-- The condition that a property compares with a value. -/
def field (property : Text) (operation : Operation) (transform : Option Transform) (value : Text) :
    Descriptor :=
  ⟨some property, operation, transform, value, none⟩

/-- The condition that an expression holds of a value. -/
def fragment (operation : Operation) (sql value : Text) : Descriptor :=
  ⟨none, operation, none, value, some sql⟩

end Descriptor

end FilterQuery
