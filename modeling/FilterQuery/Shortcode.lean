import FilterQuery.Descriptor.Basic
import FilterQuery.Utf8

/-!
# Shortcodes

A key may open with a shortcode, a few letters and an underscore that say how the property named by
the rest of the key is compared: `sw_name` asks for names that start with the value, `swl_name` for
the same without regard to case.  Every shortcode ends at its first underscore, so no one of them
hides another.

* `Shortcode.table`: all shortcodes.
* `Shortcode.split?`: the shortcode of a key, and the property.
-/

namespace FilterQuery

/-- A shortcode: the letters that a key opens with, underscore included, and what they mean. -/
structure Shortcode where
  tag : Text
  operation : Operation
  transform : Option Transform
  deriving DecidableEq, Repr

namespace Shortcode

/-- The shortcodes. -/
def table : List Shortcode :=
  [⟨"swl_".toList, .startsWith, some .lower⟩,
    ⟨"swu_".toList, .startsWith, some .upper⟩,
    ⟨"swt_".toList, .startsWith, some .trim⟩,
    ⟨"sw_".toList, .startsWith, none⟩,
    ⟨"cl_".toList, .contains, some .lower⟩,
    ⟨"cu_".toList, .contains, some .upper⟩,
    ⟨"ct_".toList, .contains, some .trim⟩,
    ⟨"c_".toList, .contains, none⟩,
    ⟨"ewl_".toList, .endsWith, some .lower⟩,
    ⟨"ewu_".toList, .endsWith, some .upper⟩,
    ⟨"ewt_".toList, .endsWith, some .trim⟩,
    ⟨"ew_".toList, .endsWith, none⟩,
    ⟨"eql_".toList, .eq, some .lower⟩,
    ⟨"equ_".toList, .eq, some .upper⟩,
    ⟨"eqt_".toList, .eq, some .trim⟩,
    ⟨"eq_".toList, .eq, none⟩,
    ⟨"nel_".toList, .ne, some .lower⟩,
    ⟨"neu_".toList, .ne, some .upper⟩,
    ⟨"net_".toList, .ne, some .trim⟩,
    ⟨"ne_".toList, .ne, none⟩,
    ⟨"gt_".toList, .gt, none⟩,
    ⟨"ge_".toList, .ge, none⟩,
    ⟨"lt_".toList, .lt, none⟩,
    ⟨"le_".toList, .le, none⟩]

/-- What follows the tag of a shortcode, where a key opens with it. -/
def property? (code : Shortcode) (key : Text) : Option Text :=
  code.tag.isPrefixOf? key

/-- The first of some shortcodes that a key opens with, and the property after it. -/
def splitIn? (codes : List Shortcode) (key : Text) : Option (Shortcode × Text) :=
  codes.findSome? fun code => (code.property? key).map fun property => (code, property)

/-- The shortcode that a key opens with, and the property after it. -/
def split? (key : Text) : Option (Shortcode × Text) :=
  splitIn? table key

/-- How many bytes of a key the shortcode takes. -/
def tagBytes (code : Shortcode) : Nat :=
  (Utf8.encode code.tag).length

/-- Every shortcode ends at its first underscore. -/
theorem cut_tag : ∀ code ∈ table, (Text.cut '_' code.tag).2 = some [] := by
  decide

end Shortcode

end FilterQuery
