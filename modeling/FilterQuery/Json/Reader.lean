import FilterQuery.Json.Basic
import FilterQuery.Json.Quoted

/-!
# Reading JSON

A reader takes a value off the front of a text and gives the rest.  Arrays and objects share one
loop, `readItems`: it stops at the closing bracket, asks for a comma before every item but the
first, and hands the items to a reader that builds up a state.

Values nest, and the depth of the recursion is bounded by a number of steps that is given.  The
length of the text is always enough, because every value takes at least one character.

* `Json.read`: one value off the front of a text.
* `Json.parse`: a text that is one value.
* `Json.mismatch`: the fault of a value of the wrong kind.
-/

namespace FilterQuery.Json

/-! ## Items between brackets -/

/-- What comes next between two brackets. -/
inductive Turn where
  /-- An item; it starts at `rest`. -/
  | item (rest : Text)
  /-- The closing bracket; `rest` follows it. -/
  | close (rest : Text)
  deriving DecidableEq, Repr

/-- Finds out what comes next before the bracket `close`, where `first` says that no item has been
read yet. -/
def turn (close : Char) (first : Bool) (text : Text) : Except Fault Turn :=
  match dropSpace text with
  | [] => .error .ended
  | c :: rest =>
    if c = close then .ok (.close rest)
    else if first then .ok (.item (c :: rest))
    else if c = ',' then .ok (.item rest)
    else .error .malformed

/-- Reads the items up to the bracket `close`, each of which changes a state. -/
def readItems {σ : Type} (close : Char) (readItem : σ → Text → Except Fault (σ × Text)) :
    Nat → Bool → σ → Text → Except Fault (σ × Text)
  | 0, _, _, _ => .error .ended
  | steps + 1, first, state, text => do
    match ← turn close first text with
    | .close rest => .ok (state, rest)
    | .item rest =>
      let (state, rest) ← readItem state rest
      readItems close readItem steps false state rest

/-- Reads one more item and puts it in front of those read before it. -/
def readOneMore {α : Type} (readItem : Text → Except Fault (α × Text)) (items : List α)
    (text : Text) : Except Fault (List α × Text) := do
  let (item, rest) ← readItem text
  .ok (item :: items, rest)

/-- Reads an array from behind its opening bracket, given a reader of its items. -/
def readArray {α : Type} (readItem : Text → Except Fault (α × Text)) (steps : Nat) (text : Text) :
    Except Fault (List α × Text) := do
  let (items, rest) ← readItems ']' (readOneMore readItem) steps true [] text
  .ok (items.reverse, rest)

/-- Reads the key of a member. -/
def readKey (use : Use) (text : Text) : Except Fault (Text × Text) :=
  match dropSpace text with
  | [] => .error .ended
  | '"' :: rest => Quoted.read use rest
  | _ => .error .malformed

/-- Reads the colon between a key and its value. -/
def readColon (text : Text) : Except Fault Text :=
  match dropSpace text with
  | [] => .error .ended
  | ':' :: rest => .ok rest
  | _ => .error .malformed

/-- Reads one more member of an object, given a reader of its value. -/
def readMember (use : Use) (readValue : Text → Except Fault (Json × Text))
    (members : List (Text × Json)) (text : Text) : Except Fault (List (Text × Json) × Text) := do
  let (key, rest) ← readKey use text
  let (value, rest) ← readValue (← readColon rest)
  .ok (putMember key value members, rest)

/-! ## Values -/

/-- The value of a number.  A skipped number has none to look at. -/
def numberOf (use : Use) (numeral : Numeral) : Except Fault Number :=
  match use with
  | .skipped => .ok (.integer 0)
  | .kept =>
    match Number.ofNumeral? numeral with
    | some value => .ok value
    | none => .error .malformed

/-- Reads a value that is a word, a number or nothing of the kind. -/
def readScalar (use : Use) : Text → Except Fault (Json × Text)
  | [] => .error .ended
  | 'n' :: rest => do .ok (.null, ← readWord "ull".toList rest)
  | 't' :: rest => do .ok (.bool true, ← readWord "rue".toList rest)
  | 'f' :: rest => do .ok (.bool false, ← readWord "alse".toList rest)
  | '"' :: rest => do
    let (text, rest) ← Quoted.read use rest
    .ok (.string text, rest)
  | c :: rest =>
    if c = '-' || c.isDigit then do
      let (numeral, rest) ← Numeral.read use (c :: rest)
      .ok (.number (← numberOf use numeral), rest)
    else
      .error .malformed

/-- Reads a value that nests, and is long, in at most so many steps. -/
def readWithin (use : Use) : Nat → Text → Except Fault (Json × Text)
  | 0, _ => .error .ended
  | steps + 1, text =>
    match dropSpace text with
    | '[' :: rest => do
      let (items, rest) ← readArray (readWithin use steps) (steps + 1) rest
      .ok (.array items, rest)
    | '{' :: rest => do
      let (members, rest) ←
        readItems '}' (readMember use (readWithin use steps)) (steps + 1) true [] rest
      .ok (.object members, rest)
    | text => readScalar use text

/-- Reads one value off the front of a text. -/
def read (use : Use) (text : Text) : Except Fault (Json × Text) :=
  readWithin use (text.length + 1) text

/-- Refuses anything but white space. -/
def readEnd (text : Text) : Except Fault Unit :=
  match dropSpace text with
  | [] => .ok ()
  | _ => .error .malformed

/-- The value that a text is. -/
def parse (text : Text) : Except Fault Json := do
  let (value, rest) ← read .kept text
  readEnd rest
  .ok value

/-! ## Values of one kind -/

/-- The fault of a value of the wrong kind.  A word, a number or a string is read to its end first,
so a fault inside it comes before its kind; an array or an object is refused at its bracket. -/
def mismatch (text : Text) : Fault :=
  match dropSpace text with
  | '[' :: _ => .mismatched
  | '{' :: _ => .mismatched
  | text =>
    match readScalar .kept text with
    | .ok _ => .mismatched
    | .error fault => fault

/-- Reads a string. -/
def readString (text : Text) : Except Fault (Text × Text) :=
  match dropSpace text with
  | '"' :: rest => Quoted.read .kept rest
  | text => .error (mismatch text)

/-- Reads an array of strings. -/
def readStrings (text : Text) : Except Fault (List Text × Text) :=
  match dropSpace text with
  | '[' :: rest => readArray readString (rest.length + 1) rest
  | text => .error (mismatch text)

/-- Reads a string of one character. -/
def readChar (text : Text) : Except Fault (Char × Text) := do
  match ← readString text with
  | ([c], rest) => .ok (c, rest)
  | _ => .error .mismatched

end FilterQuery.Json
