import FilterQuery.Proofs.Parameter.Roles
import Mathlib.Data.List.SplitBy

/-!
# Searches form groups

A search sends one fragment for each field that it names.  The first opens a group and the others
are alternatives of it, and nothing but their order says where one group ends and the next begins.
So a fragment that continues a group has to stand right behind a fragment of the same search, and no
search may leave its first fragment out.  Cut in front of each descriptor that does not continue,
the descriptors fall into blocks, and these are just what the parameters contribute one by one.

* `Descriptor.OfOneKind`: a descriptor is a field condition or a fragment in all of its parts.
* `Descriptor.Continues`: a fragment is one more alternative for the one before it.
* `Descriptor.blocks`, `Descriptor.isGroup`: the blocks, and those that are groups.
* `Settings.searches`: the keys of searches that name a field.
* `Settings.Contributes`: what a parameter can contribute.
* `Settings.blocks_describeAll`: the blocks are what the parameters contribute.
* `Settings.searches_form_groups`: all of it together.
-/

namespace FilterQuery

/-! ## Fragments -/

namespace SearchMode

/-- The part of a template behind the field. -/
def ending (mode : SearchMode) : Text :=
  mode.template []

theorem template_eq_append (mode : SearchMode) (field : Text) :
    mode.template field = field ++ mode.ending := by
  simp [ending, template]

/-- An expression says how it compares. -/
theorem eq_of_ending_suffix {mode other : SearchMode} {text : Text} (h : mode.ending <:+ text)
    (hother : other.ending <:+ text) : mode = other := by
  have hapart : ∀ mode ∈ all, ∀ other ∈ all, mode.ending <:+ other.ending → mode = other := by
    decide
  rcases List.suffix_or_suffix_of_suffix h hother with hsuffix | hsuffix
  · exact hapart mode mode.mem_all other other.mem_all hsuffix
  · exact (hapart other other.mem_all mode mode.mem_all hsuffix).symm

end SearchMode

namespace Descriptor

/-- An expression compares in a mode when it is one of the templates of this mode. -/
def Compares (mode : SearchMode) (descriptor : Descriptor) : Prop :=
  ∃ field, descriptor.sql = some (mode.template field)

/-- No expression compares in two modes. -/
theorem Compares.unique {mode other : SearchMode} {descriptor : Descriptor}
    (h : descriptor.Compares mode) (hother : descriptor.Compares other) : mode = other := by
  obtain ⟨field, hsql⟩ := h
  obtain ⟨field', hsql'⟩ := hother
  rw [hsql, Option.some.injEq, SearchMode.template_eq_append,
    SearchMode.template_eq_append] at hsql'
  exact SearchMode.eq_of_ending_suffix ⟨field, hsql'⟩ (List.suffix_append field' _)

/-- A descriptor is a fragment or a field condition in all of its parts. -/
structure OfOneKind (descriptor : Descriptor) : Prop where
  operation_iff : descriptor.sql.isSome ↔
    descriptor.operation = .sql ∨ descriptor.operation = .sqlUnion
  property_iff : descriptor.sql.isSome ↔ descriptor.property = none
  transform_eq : descriptor.sql.isSome → descriptor.transform = none
  mode : descriptor.sql.isSome → ∃! mode, descriptor.Compares mode

/-- A fragment is one more alternative for the fragment before it: it compares the same value in the
same way. -/
structure Continues (before descriptor : Descriptor) : Prop where
  operation : before.operation = .sql ∨ before.operation = .sqlUnion
  value_eq : before.value = descriptor.value
  mode : ∃ mode, before.Compares mode ∧ descriptor.Compares mode

theorem ofOneKind_field {property value : Text} {operation : Operation}
    {transform : Option Transform} (hsql : operation ≠ .sql) (hunion : operation ≠ .sqlUnion) :
    (field property operation transform value).OfOneKind where
  operation_iff := by simp [field, hsql, hunion]
  property_iff := by simp [field]
  transform_eq := by simp [field]
  mode := by simp [field]

theorem compares_fragment (mode : SearchMode) (operation : Operation) (term field : Text) :
    (mode.fragment operation term field).Compares mode :=
  ⟨Text.capitalize field, rfl⟩

theorem ofOneKind_fragment (mode : SearchMode) {operation : Operation} (term field : Text)
    (h : operation = .sql ∨ operation = .sqlUnion) :
    (mode.fragment operation term field).OfOneKind where
  operation_iff := iff_of_true rfl h
  property_iff := iff_of_true rfl rfl
  transform_eq _ := rfl
  mode _ := ⟨mode, compares_fragment mode operation term field,
    fun _ hother => hother.unique (compares_fragment mode operation term field)⟩

/-! ## Blocks -/

/-- Descriptors cut into blocks, in front of each one that does not continue. -/
def blocks (descriptors : List Descriptor) : List (List Descriptor) :=
  descriptors.splitBy fun _ next => next.operation == .sqlUnion

/-- A block is a descriptor that does not continue with all those behind it that do. -/
def IsBlock (block : List Descriptor) : Prop :=
  ∃ first others, block = first :: others ∧ first.operation ≠ .sqlUnion ∧
    ∀ other ∈ others, other.operation = .sqlUnion

/-- Whether a block is a group: one descriptor opens it, and all others continue it. -/
def isGroup : List Descriptor → Bool
  | [] => false
  | first :: others => first.operation == .sql && others.all (·.operation == .sqlUnion)

theorem isEmpty_eq_false_of_isGroup {block : List Descriptor} (h : isGroup block = true) :
    block.isEmpty = false := by
  cases block with
  | nil => simp [isGroup] at h
  | cons first others => rfl

/-- A block is followed by another where that does not continue. -/
theorem blocks_append {front back : List Descriptor}
    (h : ∀ next ∈ back.head?, next.operation ≠ .sqlUnion) :
    blocks (front ++ back) = blocks front ++ blocks back :=
  List.splitBy_append fun _ _ next hnext => beq_eq_false_iff_ne.mpr (h next hnext)

/-- A block is not cut. -/
theorem IsBlock.blocks_eq {block : List Descriptor} (h : IsBlock block) :
    blocks block = [block] := by
  obtain ⟨first, others, rfl, -, hothers⟩ := h
  refine List.splitBy_of_isChain (List.cons_ne_nil _ _) (List.Pairwise.isChain ?_)
  have hunion : ∀ other ∈ others, (other.operation == .sqlUnion) = true :=
    fun other hmem => beq_iff_eq.mpr (hothers other hmem)
  exact List.pairwise_cons.mpr
    ⟨hunion, List.pairwise_of_forall_mem_list fun _ _ other hmem => hunion other hmem⟩

end Descriptor

namespace SearchMode

variable {mode : SearchMode} {term : Text} {fields : List Text}

/-! ## The group of a search -/

theorem exists_of_mem_group {descriptor : Descriptor} (h : descriptor ∈ mode.group term fields) :
    ∃ operation field, (operation = .sql ∨ operation = .sqlUnion) ∧
      descriptor = mode.fragment operation term field := by
  cases fields with
  | nil => simp [group] at h
  | cons first others =>
    rw [group, List.mem_cons, List.mem_map] at h
    rcases h with rfl | ⟨field, -, rfl⟩
    · exact ⟨.sql, first, Or.inl rfl, rfl⟩
    · exact ⟨.sqlUnion, field, Or.inr rfl, rfl⟩

/-- Any fragment of a search can stand behind any other. -/
theorem isChain_group (mode : SearchMode) (term : Text) (fields : List Text) :
    (mode.group term fields).IsChain Descriptor.Continues := by
  refine List.Pairwise.isChain (List.pairwise_of_forall_mem_list ?_)
  intro before hbefore descriptor hdescriptor
  obtain ⟨operation, field, hoperation, rfl⟩ := exists_of_mem_group hbefore
  obtain ⟨operation', field', -, rfl⟩ := exists_of_mem_group hdescriptor
  exact ⟨hoperation, rfl, mode, Descriptor.compares_fragment mode operation term field,
    Descriptor.compares_fragment mode operation' term field'⟩

theorem operation_of_mem_map {other : Descriptor}
    (h : other ∈ fields.map (mode.fragment .sqlUnion term)) : other.operation = .sqlUnion := by
  obtain ⟨field, -, rfl⟩ := List.mem_map.mp h
  rfl

/-- A search has one fragment for each field, in the order of the fields. -/
theorem map_sql_group (mode : SearchMode) (term : Text) (fields : List Text) :
    (mode.group term fields).map Descriptor.sql =
      fields.map fun field => some (mode.template (Text.capitalize field)) := by
  cases fields with
  | nil => rfl
  | cons first others =>
    rw [group, List.map_cons, List.map_cons, List.map_map]
    rfl

end SearchMode

/-! ## What a parameter contributes -/

namespace Settings

variable {settings : Settings} {key : Text} {made : List Descriptor}

/-- Whether a key searches: it is not the name of a control, and the tag of a search is followed by
the name of a field. -/
def searches (settings : Settings) (key : Text) : Bool :=
  !settings.isNamedControl key &&
    (SearchMode.split? key).any fun found => !(Text.words '_' found.2).isEmpty

theorem searches_iff : settings.searches key = true ↔
    ∃ mode names, settings.role key = .search mode names ∧ Text.words '_' names ≠ [] := by
  rw [searches, Bool.and_eq_true, Option.any_eq_true, Bool.not_eq_true',
    Bool.eq_false_iff, Ne, isNamedControl_iff]
  constructor
  · rintro ⟨hcontrol, ⟨mode, names⟩, hsplit, hwords⟩
    have hkey := SearchMode.split?_eq_some_iff.mp hsplit
    exact ⟨mode, names, role_eq_iff.mpr (.search hcontrol hkey), by simpa using hwords⟩
  · rintro ⟨mode, names, hrole, hwords⟩
    cases role_eq_iff.mp hrole with
    | search hcontrol hkey =>
      exact ⟨hcontrol, (mode, names), SearchMode.split?_eq_some_iff.mpr hkey, by simpa using hwords⟩

/-- What a parameter with a certain key can contribute. -/
inductive Contributes (settings : Settings) (key : Text) : List Descriptor → Prop
  | nothing (h : settings.searches key = false) : Contributes settings key []
  | condition {property value : Text} {operation : Operation} {transform : Option Transform}
      (h : settings.searches key = false) (hsql : operation ≠ .sql)
      (hunion : operation ≠ .sqlUnion) :
      Contributes settings key [.field property operation transform value]
  | search {mode : SearchMode} {names term first : Text} {others : List Text}
      (h : settings.searches key = true) (hkey : mode.tag ++ names = key)
      (hwords : Text.words '_' names = first :: others) :
      Contributes settings key (mode.group term (Text.words '_' names))

theorem operation_ne_of_mem_table :
    ∀ code ∈ Shortcode.table, code.operation ≠ .sql ∧ code.operation ≠ .sqlUnion := by
  decide

theorem contributes_describe (settings : Settings) (key rawValue : Text) :
    settings.Contributes key (settings.describe key rawValue).value := by
  rw [value_describe]
  have hsearches : (∀ mode names, settings.role key ≠ .search mode names) →
      settings.searches key = false := by
    intro hrole
    rw [Bool.eq_false_iff, Ne, searches_iff]
    rintro ⟨mode, names, hsearch, -⟩
    exact hrole mode names hsearch
  cases hrole : settings.role key with
  | unnamed | control | reserved => exact .nothing (hsearches (by simp [hrole]))
  | equality => exact .condition (hsearches (by simp [hrole])) (by decide) (by decide)
  | condition code property =>
    cases role_eq_iff.mp hrole with
    | condition _ hcode _ =>
      obtain ⟨hsql, hunion⟩ := operation_ne_of_mem_table code hcode
      exact .condition (hsearches (by simp [hrole])) hsql hunion
  | search mode names =>
    rw [Role.descriptors, SearchMode.expand]
    cases hwords : Text.words '_' names with
    | nil =>
      refine .nothing ?_
      rw [Bool.eq_false_iff, Ne, searches_iff, hrole]
      rintro ⟨_, _, heq, hne⟩
      cases heq
      exact hne hwords
    | cons first others =>
      cases role_eq_iff.mp hrole with
      | search _ hkey =>
        rw [← hwords]
        exact .search (searches_iff.mpr ⟨mode, names, hrole, by simp [hwords]⟩) hkey hwords

namespace Contributes

theorem ofOneKind (h : settings.Contributes key made) :
    ∀ descriptor ∈ made, descriptor.OfOneKind := by
  intro descriptor hmem
  cases h with
  | nothing => simp at hmem
  | condition _ hsql hunion =>
    obtain rfl := List.mem_singleton.mp hmem
    exact Descriptor.ofOneKind_field hsql hunion
  | search =>
    obtain ⟨operation, field, hoperation, rfl⟩ := SearchMode.exists_of_mem_group hmem
    exact Descriptor.ofOneKind_fragment _ _ _ hoperation

theorem isChain (h : settings.Contributes key made) : made.IsChain Descriptor.Continues := by
  cases h with
  | nothing => exact .nil
  | condition => exact .singleton _
  | search => exact SearchMode.isChain_group _ _ _

/-- All that a parameter contributes is one block. -/
theorem eq_nil_or_isBlock (h : settings.Contributes key made) :
    made = [] ∨ Descriptor.IsBlock made := by
  cases h with
  | nothing => exact Or.inl rfl
  | condition _ _ hunion => exact Or.inr ⟨_, [], rfl, hunion, by simp⟩
  | search _ _ hwords =>
    have hopens : Operation.sql ≠ .sqlUnion := by decide
    rw [hwords]
    exact Or.inr ⟨_, _, rfl, hopens, fun _ => SearchMode.operation_of_mem_map⟩

/-- A parameter never begins in the middle of a group. -/
theorem head_operation (h : settings.Contributes key made) :
    ∀ first ∈ made.head?, first.operation ≠ .sqlUnion := by
  intro first hfirst
  rcases h.eq_nil_or_isBlock with rfl | ⟨_, others, rfl, hunion, -⟩
  · simp at hfirst
  · obtain rfl := Option.some.inj hfirst
    exact hunion

theorem blocks_eq (h : settings.Contributes key made) :
    Descriptor.blocks made = [made].filter fun block => !block.isEmpty := by
  rcases h.eq_nil_or_isBlock with rfl | hblock
  · rfl
  · rw [hblock.blocks_eq]
    obtain ⟨first, others, rfl, -⟩ := hblock
    rfl

/-- It is a group exactly when the key searches. -/
theorem isGroup_eq (h : settings.Contributes key made) :
    Descriptor.isGroup made = settings.searches key := by
  cases h with
  | nothing h => exact h.symm
  | condition h hsql => simp [h, Descriptor.isGroup, Descriptor.field, hsql]
  | search h _ hwords =>
    rw [hwords, h, SearchMode.group, Descriptor.isGroup, Bool.and_eq_true, List.all_eq_true]
    exact ⟨rfl, fun other hmem => beq_iff_eq.mpr (SearchMode.operation_of_mem_map hmem)⟩

end Contributes

/-! ## What all parameters contribute -/

/-- The descriptors of parameters do not begin in the middle of a group either. -/
theorem head_describeAll (settings : Settings) (params : List (Text × Text)) :
    ∀ first ∈ (settings.describeAll params).value.head?, first.operation ≠ .sqlUnion := by
  rw [value_describeAll]
  induction params with
  | nil => simp
  | cons param others ih =>
    intro first hfirst
    have hmade := settings.contributes_describe param.1 param.2
    rw [List.flatMap_cons, List.head?_append] at hfirst
    rcases Option.or_eq_some_iff.mp hfirst with hfirst | ⟨-, hfirst⟩
    · exact hmade.head_operation first hfirst
    · exact ih first hfirst

/-- **What continues does continue what it stands behind.** -/
theorem isChain_describeAll (settings : Settings) (params : List (Text × Text)) :
    (settings.describeAll params).value.IsChain fun before descriptor =>
      descriptor.operation = .sqlUnion → before.Continues descriptor := by
  induction params with
  | nil => exact .nil
  | cons param others ih =>
    have hhead := settings.head_describeAll others
    rw [value_describeAll] at ih hhead ⊢
    rw [List.flatMap_cons, List.isChain_append]
    refine ⟨?_, ih, fun before _ first hfirst hunion => absurd hunion (hhead first hfirst)⟩
    exact (settings.contributes_describe param.1 param.2).isChain.imp fun _ _ h _ => h

/-- **The blocks are what the parameters contribute**, one after another. -/
theorem blocks_describeAll (settings : Settings) (params : List (Text × Text)) :
    Descriptor.blocks (settings.describeAll params).value =
      (params.map fun param => (settings.describe param.1 param.2).value).filter
        fun block => !block.isEmpty := by
  induction params with
  | nil => rfl
  | cons param others ih =>
    have hhead := settings.head_describeAll others
    rw [value_describeAll] at ih hhead ⊢
    rw [List.flatMap_cons, Descriptor.blocks_append hhead, ih,
      (settings.contributes_describe param.1 param.2).blocks_eq, ← List.filter_append]
    rfl

theorem isBlock_of_mem_blocks {params : List (Text × Text)} {block : List Descriptor}
    (h : block ∈ Descriptor.blocks (settings.describeAll params).value) :
    Descriptor.IsBlock block := by
  rw [blocks_describeAll, List.mem_filter, List.mem_map] at h
  obtain ⟨⟨param, -, rfl⟩, hne⟩ := h
  rcases (settings.contributes_describe param.1 param.2).eq_nil_or_isBlock with hnil | hblock
  · simp [hnil] at hne
  · exact hblock

/-- The groups among them are what the searches contribute. -/
theorem groups_describeAll (settings : Settings) (params : List (Text × Text)) :
    (Descriptor.blocks (settings.describeAll params).value).filter Descriptor.isGroup =
      (params.filter fun param => settings.searches param.1).map
        fun param => (settings.describe param.1 param.2).value := by
  rw [blocks_describeAll, List.filter_filter, List.filter_map]
  refine congrArg (List.map _) (List.filter_congr fun param _ => ?_)
  have hgroup := (settings.contributes_describe param.1 param.2).isGroup_eq
  rw [Function.comp_apply, hgroup]
  cases hsearches : settings.searches param.1 with
  | false => rfl
  | true =>
    rw [hsearches] at hgroup
    rw [Descriptor.isEmpty_eq_false_of_isGroup hgroup]
    rfl

/-- A descriptor that continues has one before it, and continues that. -/
theorem continues_of_eq_append {params : List (Text × Text)} {front back : List Descriptor}
    {descriptor : Descriptor}
    (h : (settings.describeAll params).value = front ++ descriptor :: back)
    (hunion : descriptor.operation = .sqlUnion) :
    ∃ before ∈ front.getLast?, before.Continues descriptor := by
  have hhead := settings.head_describeAll params
  have hchain := settings.isChain_describeAll params
  rw [h] at hhead hchain
  rcases List.eq_nil_or_concat front with rfl | ⟨others, before, rfl⟩
  · exact absurd hunion (hhead descriptor rfl)
  · rw [List.concat_eq_append] at hchain ⊢
    rw [List.isChain_append] at hchain
    refine ⟨before, List.getLast?_concat, ?_⟩
    exact hchain.2.2 before List.getLast?_concat descriptor rfl hunion

/-- A search contributes one fragment for each field that its key names, in their order. -/
theorem map_sql_describe_of_searches (h : settings.searches key = true) (rawValue : Text) :
    ∃ (mode : SearchMode) (names : Text), mode.tag ++ names = key ∧
      (settings.describe key rawValue).value.map Descriptor.sql =
        (Text.words '_' names).map fun field => some (mode.template (Text.capitalize field)) := by
  have hmade := settings.contributes_describe key rawValue
  generalize (settings.describe key rawValue).value = made at hmade
  cases hmade with
  | nothing hnot | condition hnot => simp [h] at hnot
  | search _ hkey => exact ⟨_, _, hkey, SearchMode.map_sql_group _ _ _⟩

/-- Any other parameter contributes at most one field condition. -/
theorem describe_of_not_searches (h : settings.searches key = false) (rawValue : Text) :
    (settings.describe key rawValue).value = [] ∨
      ∃ descriptor, (settings.describe key rawValue).value = [descriptor] ∧
        descriptor.property.isSome := by
  have hmade := settings.contributes_describe key rawValue
  generalize (settings.describe key rawValue).value = made at hmade
  cases hmade with
  | nothing => exact Or.inl rfl
  | condition => exact Or.inr ⟨_, rfl, rfl⟩
  | search hsearches => simp [h] at hsearches

/-- **Searches form groups, and nothing else does.**  Every descriptor is a fragment or a field
condition in all of its parts.  One that continues stands right behind a fragment that compares the
same value in the same way.  Cut into blocks, the descriptors are what the parameters contribute, in
their order, those that contribute nothing apart.  The groups among the blocks belong to the keys
that search, and have one fragment for each field that the key names; any other block is one field
condition. -/
theorem searches_form_groups (settings : Settings) (params : List (Text × Text)) :
    (∀ descriptor ∈ (settings.describeAll params).value, descriptor.OfOneKind) ∧
    (∀ front descriptor back,
      (settings.describeAll params).value = front ++ descriptor :: back →
      descriptor.operation = .sqlUnion →
      ∃ before ∈ front.getLast?, before.Continues descriptor) ∧
    (Descriptor.blocks (settings.describeAll params).value).flatten =
      (settings.describeAll params).value ∧
    (∀ block ∈ Descriptor.blocks (settings.describeAll params).value,
      Descriptor.IsBlock block) ∧
    Descriptor.blocks (settings.describeAll params).value =
      (params.map fun param => (settings.describe param.1 param.2).value).filter
        (fun block => !block.isEmpty) ∧
    (Descriptor.blocks (settings.describeAll params).value).filter Descriptor.isGroup =
      (params.filter fun param => settings.searches param.1).map
        (fun param => (settings.describe param.1 param.2).value) ∧
    (∀ param ∈ params, settings.searches param.1 = true →
      ∃ (mode : SearchMode) (names : Text), mode.tag ++ names = param.1 ∧
        (settings.describe param.1 param.2).value.map Descriptor.sql =
          (Text.words '_' names).map fun field => some (mode.template (Text.capitalize field))) ∧
    ∀ param ∈ params, settings.searches param.1 = false →
      (settings.describe param.1 param.2).value = [] ∨
        ∃ descriptor, (settings.describe param.1 param.2).value = [descriptor] ∧
          descriptor.property.isSome := by
  refine ⟨?_, fun _ _ _ => continues_of_eq_append, List.flatten_splitBy _ _,
    fun _ => isBlock_of_mem_blocks, settings.blocks_describeAll params,
    settings.groups_describeAll params, fun param _ h => map_sql_describe_of_searches h param.2,
    fun param _ h => describe_of_not_searches h param.2⟩
  intro descriptor hmem
  rw [value_describeAll, List.mem_flatMap] at hmem
  obtain ⟨param, -, hmade⟩ := hmem
  exact (settings.contributes_describe param.1 param.2).ofOneKind descriptor hmade

/-- Two searches side by side, the first with underscores that separate nothing, among a control
that is named like a search, a search that names no field and a plain condition. -/
theorem searches_form_groups_side_by_side :
    let settings : Settings := { topKey := "search_top".toList }
    let params :=
      [("search__a__b".toList, "X".toList), ("search_top".toList, "1".toList),
        ("searchsw_c".toList, "Y".toList), ("search__".toList, "z".toList),
        ("d".toList, "W".toList)]
    let first := Descriptor.fragment .sql "A.ToLower().Contains(@0)".toList "x".toList
    let second := Descriptor.fragment .sqlUnion "B.ToLower().Contains(@0)".toList "x".toList
    let third := Descriptor.fragment .sql "C.ToLower().StartsWith(@0)".toList "y".toList
    let fourth := Descriptor.field "d".toList .eq none "W".toList
    (settings.describeAll params).value = [first] ++ second :: [third, fourth] ∧
    second.operation = .sqlUnion ∧
    first.Continues second ∧
    Descriptor.blocks (settings.describeAll params).value = [[first, second], [third], [fourth]] ∧
    (Descriptor.blocks (settings.describeAll params).value).filter Descriptor.isGroup =
      [[first, second], [third]] ∧
    settings.searches "searchsw_c".toList = true ∧
    (∃ (mode : SearchMode) (names : Text), mode.tag ++ names = "searchsw_c".toList ∧
      [third].map Descriptor.sql =
        (Text.words '_' names).map fun field => some (mode.template (Text.capitalize field))) ∧
    settings.searches "d".toList = false ∧
    fourth.property.isSome := by
  intro settings params first second third fourth
  have hmade : (settings.describeAll params).value = [first] ++ second :: [third, fourth] := by
    decide +kernel
  have hsearches : settings.searches "searchsw_c".toList = true := by decide +kernel
  have hplain : settings.searches "d".toList = false := by decide +kernel
  have hthird : (settings.describe "searchsw_c".toList "Y".toList).value = [third] := by
    decide +kernel
  have hfourth : (settings.describe "d".toList "W".toList).value = [fourth] := by decide +kernel
  obtain ⟨-, hcontinues, -, -, hblocks, hgroups, hfields, hconditions⟩ :=
    settings.searches_form_groups params
  obtain ⟨before, hbefore, hfirst⟩ := hcontinues _ _ _ hmade rfl
  obtain rfl : first = before := Option.some.inj hbefore
  have hnames := hfields ("searchsw_c".toList, "Y".toList) (by simp [params]) hsearches
  rw [hthird] at hnames
  have hcondition := hconditions ("d".toList, "W".toList) (by simp [params]) hplain
  rw [hfourth] at hcondition
  obtain ⟨descriptor, hdescriptor, hproperty⟩ := hcondition.resolve_left (by simp)
  obtain rfl : fourth = descriptor := List.singleton_inj.mp hdescriptor
  refine ⟨hmade, rfl, hfirst, ?_, ?_, hsearches, hnames, hplain, hproperty⟩
  · rw [hblocks]
    decide +kernel
  · rw [hgroups]
    decide +kernel

end Settings

end FilterQuery
