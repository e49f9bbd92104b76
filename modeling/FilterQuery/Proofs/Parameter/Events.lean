import FilterQuery.Proofs.Parameter.Roles
import FilterQuery.Proofs.Text.Count
import Mathlib.Algebra.GroupWithZero.Nat
import Mathlib.Data.List.Forall2

/-!
# Events account for the parameters

While parameters are described, each of them leaves just one event, so the record tells their keys
back in their order.  It also tells what became of them, to a reader who sees no more of an event
than its level, its words and its details: a parameter that is traced has made one descriptor, one
that was expanded has made as many as its event says, and with any other event a parameter has ended
in nothing.

* `Event.key?`: the key that an event is about.
* `Event.expanded`: the number in the field `expanded` of an event.
* `Event.Accounts`: what an event says of the descriptors beside it.
* `Settings.IsShare`: the event and the descriptors of one parameter.
* `Settings.exists_shares`: those of many, one parameter after another.
* `Settings.events_account_for_parameters`: all of it together.
-/

namespace FilterQuery

/-! ## What an event says -/

namespace Event

/-- The key of the parameter that an event is about.  The event of a search has it in two parts. -/
def key? : Event → Option Text
  | .unnamedSkipped => some []
  | .searchExpanded mode fields _ => some (mode.tag ++ fields)
  | .controlSkipped key | .reservedSkipped key | .shortcodeResolved key _ | .equalityAssumed key
  | .nullSkipped key | .nestedSkipped key | .numberRejected key _ => some key
  | .shapeIgnored _ | .queryBuilt _ => none

/-- The number in the field `expanded` of an event, or zero where it has no such field. -/
def expanded (event : Event) : Nat :=
  match event.details.lookup "expanded".toList with
  | some digits => Text.digitsValue digits
  | none => 0

theorem expanded_searchExpanded (mode : SearchMode) (fields : Text) (count : Nat) :
    (searchExpanded mode fields count).expanded = count := by
  obtain ⟨-, -, hvalue⟩ := Text.isNumeral_iff.mp (Text.isNumeral_ofNat count)
  exact hvalue

/-- What an event says of the descriptors that its parameter has contributed. -/
inductive Accounts (event : Event) : List Descriptor → Prop
  /-- A parameter that is traced has contributed one descriptor. -/
  | traced (hlevel : event.level = .trace)
      (hmessage : event.message = "Resolved shortcode".toList ∨
        event.message = "No shortcode, using implicit equality".toList)
      (hexpanded : event.expanded = 0) (descriptor : Descriptor) : Accounts event [descriptor]
  /-- A parameter that was expanded has contributed as many descriptors as the event says. -/
  | expanded (hlevel : event.level = .debug)
      (hmessage : event.message = "Expanded search key".toList)
      {descriptors : List Descriptor}
      (hfield : ("expanded".toList, Text.ofNat descriptors.length) ∈ event.details)
      (hexpanded : event.expanded = descriptors.length) : Accounts event descriptors
  /-- A parameter with any other event has contributed nothing. -/
  | skipped (hlevel : event.level = .debug)
      (hmessage : event.message ≠ "Expanded search key".toList)
      (hexpanded : event.expanded = 0) : Accounts event []

theorem Accounts.length_eq {event : Event} {descriptors : List Descriptor}
    (h : event.Accounts descriptors) :
    descriptors.length = (if event.level = .trace then 1 else 0) + event.expanded := by
  cases h with
  | traced hlevel _ hexpanded descriptor => simp [hlevel, hexpanded]
  | expanded hlevel _ _ hexpanded => simp [hlevel, hexpanded]
  | skipped hlevel _ hexpanded => simp [hlevel, hexpanded]

end Event

/-! ## One parameter -/

/-- **In each role the event accounts for the descriptors.** -/
theorem Role.accounts_event (role : Role) (key value : Text) :
    (role.event key (role.descriptors key value).length).Accounts
      (role.descriptors key value) := by
  cases role with
  | unnamed =>
    have hwords : "Skipping parameter with empty key".toList ≠ "Expanded search key".toList := by
      decide
    exact .skipped rfl hwords rfl
  | control =>
    have hwords : "Skipping ordering or paging control".toList ≠ "Expanded search key".toList := by
      decide
    exact .skipped rfl hwords rfl
  | reserved =>
    have hwords : "Skipping reserved or paging parameter".toList ≠
      "Expanded search key".toList := by decide
    exact .skipped rfl hwords rfl
  | condition code property => exact .traced rfl (Or.inl rfl) rfl _
  | equality => exact .traced rfl (Or.inr rfl) rfl _
  | search mode fields =>
    refine .expanded rfl rfl ?_ (Event.expanded_searchExpanded mode fields _)
    exact List.mem_cons_of_mem _ (List.mem_cons_of_mem _ List.mem_cons_self)

namespace Settings

theorem HasRole.key?_event {settings : Settings} {key : Text} {role : Role}
    (h : settings.HasRole key role) (count : Nat) : (role.event key count).key? = some key := by
  cases h with
  | unnamed hkey => rw [hkey]; rfl
  | search _ hkey => exact congrArg some hkey
  | control | condition | reserved | equality => rfl

/-- The event and the descriptors of a parameter. -/
structure IsShare (settings : Settings) (param : Text × Text)
    (share : Event × List Descriptor) : Prop where
  describe_eq : settings.describe param.1 param.2 = ⟨share.2, [share.1]⟩
  key?_eq : share.1.key? = some param.1
  accounts : share.1.Accounts share.2

theorem exists_isShare (settings : Settings) (param : Text × Text) :
    ∃ share, settings.IsShare param share :=
  ⟨(_, _), rfl, (settings.hasRole_role param.1).key?_event _,
    (settings.role param.1).accounts_event param.1 (Percent.decode param.2)⟩

/-! ## All parameters -/

/-- **The events and the descriptors of parameters** are those of one after another. -/
theorem exists_shares (settings : Settings) (params : List (Text × Text)) :
    ∃ shares, List.Forall₂ settings.IsShare params shares ∧
      settings.describeAll params = ⟨shares.flatMap Prod.snd, shares.map Prod.fst⟩ := by
  induction params with
  | nil => exact ⟨[], .nil, rfl⟩
  | cons param others ih =>
    obtain ⟨share, hshare⟩ := settings.exists_isShare param
    obtain ⟨shares, hshares, hothers⟩ := ih
    refine ⟨share :: shares, .cons hshare hshares, ?_⟩
    obtain ⟨key, value⟩ := param
    rw [describeAll, hshare.describe_eq, hothers]
    ext1
    · rfl
    · rw [Traced.events_bind, Traced.events_bind, Traced.events_pure, List.append_nil]
      rfl

/-- The events tell the keys of the parameters. -/
theorem map_key?_shares {settings : Settings} {params : List (Text × Text)}
    {shares : List (Event × List Descriptor)} (h : List.Forall₂ settings.IsShare params shares) :
    (shares.map Prod.fst).map Event.key? = params.map fun param => some param.1 := by
  induction h with
  | nil => rfl
  | cons hshare _ ih => rw [List.map_cons, List.map_cons, List.map_cons, hshare.key?_eq, ih]

theorem length_flatMap_shares {settings : Settings} {params : List (Text × Text)}
    {shares : List (Event × List Descriptor)} (h : List.Forall₂ settings.IsShare params shares) :
    (shares.flatMap Prod.snd).length =
      (shares.map Prod.fst).countP (fun event => event.level = .trace) +
        ((shares.map Prod.fst).map Event.expanded).sum := by
  induction h with
  | nil => rfl
  | @cons param share params shares hshare _ ih =>
    rw [List.flatMap_cons, List.length_append, ih, hshare.accounts.length_eq, List.map_cons,
      List.map_cons, List.sum_cons, List.countP_cons]
    simp only [decide_eq_true_eq]
    omega

/-- **Events account for every parameter.**  Parameters are described one after another, each with
one event and with the descriptors that this event accounts for: one where the event is traced, as
many as the event says where a search was expanded, and none where a parameter was left out for any
other reason.  The events tell the keys of the parameters in their order.  So there are as many
descriptors as there are events that are traced and as the fields `expanded` say together. -/
theorem events_account_for_parameters (settings : Settings) (params : List (Text × Text)) :
    (∃ shares : List (Event × List Descriptor),
      List.Forall₂ (fun param share =>
        settings.describe param.1 param.2 = ⟨share.2, [share.1]⟩ ∧ share.1.Accounts share.2)
        params shares ∧
      (settings.describeAll params).events = shares.map Prod.fst ∧
      (settings.describeAll params).value = shares.flatMap Prod.snd) ∧
    (settings.describeAll params).events.map Event.key? =
      params.map (fun param => some param.1) ∧
    (settings.describeAll params).value.length =
      (settings.describeAll params).events.countP (fun event => event.level = .trace) +
        ((settings.describeAll params).events.map Event.expanded).sum := by
  obtain ⟨shares, hshares, hall⟩ := settings.exists_shares params
  rw [hall]
  exact ⟨⟨shares, hshares.imp fun _ _ h => ⟨h.describe_eq, h.accounts⟩, rfl, rfl⟩,
    map_key?_shares hshares, length_flatMap_shares hshares⟩

end Settings

end FilterQuery
