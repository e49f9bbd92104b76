import FilterQuery.Json.Printer
import FilterQuery.Proofs.Json.Strings

/-!
# The writer keeps to the grammar

What the writer makes of a value is one of the texts that stand for it, and has no control
characters: those that occur in a string are escaped, and none is used between the tokens.  Both
follow for arrays and objects once they hold of what is inside, so it is enough to look at the
words, the strings and the numbers of a value.

* `IsWritten`: a value whose text is one of its texts, without control characters.
* `isWritten_array`, `isWritten_object`: from the inside to the outside.
-/

namespace FilterQuery.Json

/-- What is written for a value stands for it, and has no control characters. -/
structure IsWritten (value : Json) : Prop where
  spells : Spells .kept value (render value)
  le : ∀ c ∈ render value, ' ' ≤ c

theorem isWritten_null : IsWritten .null :=
  ⟨rfl, by simp [render]⟩

theorem isWritten_string (text : Text) : IsWritten (.string text) :=
  ⟨Quoted.spellsString_write text, fun _ h => Quoted.le_of_mem_write h⟩

/-- A text between two characters that are no control characters. -/
theorem le_of_mem_bracketed {text : Text} {front back c : Char} (hf : ' ' ≤ front)
    (hb : ' ' ≤ back) (h : ∀ d ∈ text, ' ' ≤ d) (hc : c ∈ front :: text ++ [back]) : ' ' ≤ c := by
  rw [List.cons_append, List.mem_cons, List.mem_append, List.mem_singleton] at hc
  rcases hc with rfl | hc | rfl
  · exact hf
  · exact h c hc
  · exact hb

/-- Two texts without control characters and a character between them that is none. -/
theorem le_of_mem_separated {front back : Text} {mark c : Char} (hm : ' ' ≤ mark)
    (hf : ∀ d ∈ front, ' ' ≤ d) (hb : ∀ d ∈ back, ' ' ≤ d) (hc : c ∈ front ++ mark :: back) :
    ' ' ≤ c := by
  rw [List.mem_append, List.mem_cons] at hc
  rcases hc with hc | rfl | hc
  · exact hf c hc
  · exact hm
  · exact hb c hc

/-! ## Arrays -/

theorem renderItems_cons_cons (item next : Json) (others : List Json) :
    renderItems (item :: next :: others) = render item ++ ',' :: renderItems (next :: others) := rfl

theorem spellsItems_renderItems {items : List Json}
    (h : ∀ item ∈ items, Spells .kept item (render item)) :
    SpellsItems .kept items (renderItems items) := by
  induction items with
  | nil => exact isSpacing_nil
  | cons item others ih =>
    have hitem := Padded.of_kind (h item List.mem_cons_self)
    cases others with
    | nil => exact hitem
    | cons next more =>
      have hothers := ih fun other hm => h other (List.mem_cons_of_mem _ hm)
      exact ⟨_, _, hitem, hothers, renderItems_cons_cons item next more⟩

theorem le_of_mem_renderItems {items : List Json}
    (h : ∀ item ∈ items, ∀ c ∈ render item, ' ' ≤ c) : ∀ c ∈ renderItems items, ' ' ≤ c := by
  induction items with
  | nil => simp [renderItems]
  | cons item others ih =>
    have hitem := h item List.mem_cons_self
    cases others with
    | nil => exact hitem
    | cons next more =>
      have hothers := ih fun other hm => h other (List.mem_cons_of_mem _ hm)
      rw [renderItems_cons_cons]
      exact fun c => le_of_mem_separated (by decide) hitem hothers

theorem isWritten_array {items : List Json} (h : ∀ item ∈ items, IsWritten item) :
    IsWritten (.array items) where
  spells := ⟨_, spellsItems_renderItems fun item hm => (h item hm).spells, rfl⟩
  le := by
    have hitems := le_of_mem_renderItems fun item hm => (h item hm).le
    exact fun c => le_of_mem_bracketed (by decide) (by decide) hitems

/-! ## Objects -/

/-- The text of a member. -/
def renderMember (member : Text × Json) : Text :=
  Quoted.write member.1 ++ ':' :: render member.2

theorem renderMembers_cons_cons (member next : Text × Json) (others : List (Text × Json)) :
    renderMembers (member :: next :: others) =
      renderMember member ++ ',' :: renderMembers (next :: others) := rfl

theorem spellsMember_renderMember {member : Text × Json}
    (h : Spells .kept member.2 (render member.2)) :
    IsMember .kept member.1 (Spells .kept member.2) (renderMember member) :=
  ⟨_, _, .of_kind (Quoted.spellsString_write member.1), .of_kind h, rfl⟩

theorem spellsMembers_renderMembers {members : List (Text × Json)}
    (h : ∀ member ∈ members, Spells .kept member.2 (render member.2)) :
    SpellsMembers .kept members (renderMembers members) := by
  induction members with
  | nil => exact isSpacing_nil
  | cons member others ih =>
    have hmember := spellsMember_renderMember (h member List.mem_cons_self)
    cases others with
    | nil => exact hmember
    | cons next more =>
      have hothers := ih fun other hm => h other (List.mem_cons_of_mem _ hm)
      exact ⟨_, _, hmember, hothers, renderMembers_cons_cons member next more⟩

theorem le_of_mem_renderMembers {members : List (Text × Json)}
    (h : ∀ member ∈ members, ∀ c ∈ render member.2, ' ' ≤ c) :
    ∀ c ∈ renderMembers members, ' ' ≤ c := by
  induction members with
  | nil => simp [renderMembers]
  | cons member others ih =>
    have hmember : ∀ c ∈ renderMember member, ' ' ≤ c := fun c =>
      le_of_mem_separated (by decide) (fun _ => Quoted.le_of_mem_write)
        (h member List.mem_cons_self)
    cases others with
    | nil => exact hmember
    | cons next more =>
      have hothers := ih fun other hm => h other (List.mem_cons_of_mem _ hm)
      rw [renderMembers_cons_cons]
      exact fun c => le_of_mem_separated (by decide) hmember hothers

theorem isWritten_object {members : List (Text × Json)}
    (h : ∀ member ∈ members, IsWritten member.2) : IsWritten (.object members) where
  spells := ⟨_, spellsMembers_renderMembers fun member hm => (h member hm).spells, rfl⟩
  le := by
    have hmembers := le_of_mem_renderMembers fun member hm => (h member hm).le
    exact fun c => le_of_mem_bracketed (by decide) (by decide) hmembers

end FilterQuery.Json
