import FilterQuery.Failure
import FilterQuery.Json.Reader

/-!
# Reading settings

Settings are read from a JSON text.  They are given by name, as an object, or in order, as an array.
What is not given keeps its standard value; in an object, members of other names are skipped.  A
name that is given twice is refused before its second value is looked at, and an array must not have
more values than there are settings.

The text is read once from the left, so the fault that is reported is the first one.  Only when the
whole text has been read are the settings checked.

* `Settings.ofJson`: the settings of a text, usable or not.
* `Settings.load`: the same, with the check.
-/

namespace FilterQuery.Settings

open Json

/-- Reads the value of one setting. -/
def readSetting (settings : Settings) (setting : Setting) (text : Text) :
    Except Fault (Settings × Text) :=
  match setting with
  | .reservedMark => do
    let (mark, rest) ← readChar text
    .ok ({ settings with reservedMark := mark }, rest)
  | .pagingKeys => do
    let (keys, rest) ← readStrings text
    .ok ({ settings with pagingKeys := keys }, rest)
  | named => do
    let (name, rest) ← readString text
    .ok (settings.rename named name, rest)

/-! ## Settings in order -/

/-- Reads the bracket after the last value of an array. -/
def readClose (text : Text) : Except Fault Text :=
  match dropSpace text with
  | [] => .error .ended
  | ']' :: rest => .ok rest
  | _ => .error .malformed

/-- Reads the values of an array, one for each of the settings that are left. -/
def readInOrder (settings : Settings) (first : Bool) :
    List Setting → Text → Except Fault (Settings × Text)
  | [], text => do .ok (settings, ← readClose text)
  | setting :: others, text => do
    match ← turn ']' first text with
    | .close rest => .ok (settings, rest)
    | .item rest =>
      let (settings, rest) ← readSetting settings setting rest
      readInOrder settings false others rest

/-! ## Settings by name -/

/-- Settings that are being read, with those that have been given already. -/
structure Draft where
  settings : Settings
  given : List Setting
  deriving DecidableEq, Repr

/-- Reads one member of an object. -/
def readNamed (draft : Draft) (text : Text) : Except Fault (Draft × Text) := do
  let (key, rest) ← readKey .kept text
  match Setting.ofName? key with
  | some setting =>
    if setting ∈ draft.given then
      .error .mismatched
    else
      let (settings, rest) ← readSetting draft.settings setting (← readColon rest)
      .ok (⟨settings, setting :: draft.given⟩, rest)
  | none =>
    let (_, rest) ← read .skipped (← readColon rest)
    .ok (draft, rest)

/-! ## A whole text -/

/-- Reads settings off the front of a text. -/
def readSettings (text : Text) : Except Fault (Settings × Text) :=
  match dropSpace text with
  | '[' :: rest => readInOrder standard true Setting.all rest
  | '{' :: rest => do
    let (draft, rest) ← readItems '}' readNamed (rest.length + 1) true ⟨standard, []⟩ rest
    .ok (draft.settings, rest)
  | text => .error (mismatch text)

/-- The settings that a text gives, whether they can be used or not. -/
def ofJson (text : Text) : Except Fault Settings := do
  let (settings, rest) ← readSettings text
  readEnd rest
  .ok settings

/-- The settings that a text gives, where they can be read and used. -/
def load (text : Text) : Except Failure Settings :=
  match ofJson text with
  | .error fault => .error (.unreadable fault)
  | .ok settings =>
    match settings.check with
    | .error failure => .error failure
    | .ok () => .ok settings

end FilterQuery.Settings
