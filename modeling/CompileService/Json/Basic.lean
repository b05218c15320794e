import CompileService.Number.Shortest
import CompileService.Text.Quoted

/-!
# JSON values

`Json` is what a request body or a setting in JSON form reads as, and what a reply is made of.
Integers and numbers with a fraction or exponent stay apart, text may hold surrogates, and an
object lists its fields in the order of their first mention.

* `Json.put` enters a field: the last value given for a name is the one that counts.
* `Json.isSendable` says that a value can be sent: no surrogate and no infinite or undefined number.
* `Json.withoutReserved` is a value without the fields of reserved names, at any depth.
* `Json.shown` is the notation of a value inside a message: `None`, `True`, `['a', 1]`.
-/

namespace CompileService

/-- A JSON value. -/
inductive Json where
  | null
  | bool (b : Bool)
  | int (n : Int)
  | float (x : Binary64)
  | text (t : Text)
  | list (items : List Json)
  | object (fields : List (Text × Json))
deriving Inhabited

namespace Json

/-- Enters a field of an object; an earlier value of the same name is replaced in its place. -/
def put (name : Text) (value : Json) : List (Text × Json) → List (Text × Json)
  | [] => [(name, value)]
  | (n, v) :: rest => if n = name then (n, value) :: rest else (n, v) :: put name value rest

/-- The value of a field. -/
def field? (name : Text) (fields : List (Text × Json)) : Option Json := fields.lookup name

/-- An object with fields named by string constants. -/
def record (fields : List (String × Json)) : Json :=
  .object (fields.map fun (name, value) => (lit name, value))

/-- A text given by a string constant. -/
def word (s : String) : Json := .text (lit s)

/-- Whether a text can be encoded. -/
def isEncodable (t : Text) : Bool := t.all fun c => !c.isSurrogate

mutual

/-- Whether a value can be written as the bytes of a reply. -/
def isSendable : Json → Bool
  | .float x => x.isFinite
  | .text t => isEncodable t
  | .list items => allSendable items
  | .object fields => fieldsSendable fields
  | _ => true

/-- Whether all values of a list can be written. -/
def allSendable : List Json → Bool
  | [] => true
  | v :: rest => v.isSendable && allSendable rest

/-- Whether all names and values of an object can be written. -/
def fieldsSendable : List (Text × Json) → Bool
  | [] => true
  | (name, v) :: rest => isEncodable name && v.isSendable && fieldsSendable rest

end

/-- Whether a field's name is reserved for bookkeeping: such names begin with `_sa`. -/
def isReserved (name : Text) : Bool := (lit "_sa").isPrefixOf name

mutual

/-- A value as it is sent back to its sender: without the fields of reserved names. -/
def withoutReserved : Json → Json
  | .list items => .list (itemsWithoutReserved items)
  | .object fields => .object (fieldsWithoutReserved fields)
  | v => v

/-- The values of a list, each without its fields of reserved names. -/
def itemsWithoutReserved : List Json → List Json
  | [] => []
  | v :: rest => v.withoutReserved :: itemsWithoutReserved rest

/-- The fields of an object whose names are not reserved, with their values. -/
def fieldsWithoutReserved : List (Text × Json) → List (Text × Json)
  | [] => []
  | (name, v) :: rest =>
    if isReserved name then fieldsWithoutReserved rest
    else (name, v.withoutReserved) :: fieldsWithoutReserved rest

end

mutual

/-- A value in the notation of messages. -/
def shown : Json → Text
  | .null => lit "None"
  | .bool b => lit (if b then "True" else "False")
  | .int n => Text.ofInt n
  | .float x => x.shown
  | .text t => t.quoted
  | .list items => lit "[" ++ shownItems items ++ lit "]"
  | .object fields => lit "\x7b" ++ shownFields fields ++ lit "\x7d"

/-- The values of a list with commas between them. -/
def shownItems : List Json → Text
  | [] => []
  | [v] => v.shown
  | v :: w :: rest => v.shown ++ lit ", " ++ shownItems (w :: rest)

/-- The fields of an object with commas between them. -/
def shownFields : List (Text × Json) → Text
  | [] => []
  | [(name, v)] => name.quoted ++ lit ": " ++ v.shown
  | (name, v) :: w :: rest => name.quoted ++ lit ": " ++ v.shown ++ lit ", " ++ shownFields (w :: rest)

end

/-- A value as a message shows it by itself: a text stands there without quotes. -/
def plain : Json → Text
  | .text t => t
  | v => v.shown

end Json

end CompileService
