import FilterQuery.Proofs.Text.Tags
import FilterQuery.Shortcode

/-!
# A key says which shortcode it opens with

The letters of a shortcode are a tag, so no key opens with two of them and the order of the table
plays no part.  Whatever follows the tag is the property, even where it opens with a tag itself, or
is empty.

* `Shortcode.eq_of_tag_eq`: no two shortcodes share a tag.
* `Shortcode.split?_eq_some_iff`, `Shortcode.split?_eq_none_iff`: how a key is split.
* `Shortcode.splitIn?_eq_split?`: the order of the table plays no part.
* `Shortcode.drop_tagBytes`: the bytes behind a shortcode are those of the property.
-/

namespace FilterQuery.Shortcode

variable {code : Shortcode} {key property : Text}

theorem eq_of_tag_eq : ∀ code ∈ table, ∀ other ∈ table, code.tag = other.tag → code = other := by
  decide

/-- A key is split into a shortcode of the table and a property exactly when it is the tag of the
one and the text of the other. -/
theorem split?_eq_some_iff :
    split? key = some (code, property) ↔ code ∈ table ∧ code.tag ++ property = key :=
  Text.findSome?_tag_eq_some_iff cut_tag eq_of_tag_eq

theorem split?_eq_none_iff : split? key = none ↔ ∀ code ∈ table, ¬ code.tag <+: key :=
  Text.findSome?_tag_eq_none_iff

theorem isSome_split?_iff : (split? key).isSome = true ↔
    ∃ tag rest, Text.Opens key tag rest ∧ tag ∈ table.map Shortcode.tag :=
  Text.isSome_findSome?_tag_iff cut_tag

theorem splitIn?_eq_split? {codes : List Shortcode} (h : codes.Perm table) (key : Text) :
    splitIn? codes key = split? key :=
  Text.findSome?_tag_congr cut_tag eq_of_tag_eq fun _ => h.mem_iff

/-- A key is cut between two characters when the bytes of its shortcode are taken off. -/
theorem drop_tagBytes (code : Shortcode) (property : Text) :
    (Utf8.encode (code.tag ++ property)).drop code.tagBytes = Utf8.encode property := by
  rw [Utf8.encode_append, tagBytes, List.drop_left]

end FilterQuery.Shortcode
