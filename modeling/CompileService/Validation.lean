import CompileService.Json.Basic

/-!
# Validation faults

What is wrong with a command or with a setting, and where: a fault has a kind, the place of the
value at fault and the value itself. `ValidationFault.kind.type` is the short name by which a client
tells the kinds apart and `ValidationFault.kind.message` the sentence for a reader.
-/

namespace CompileService

/-- A step on the way to a value. -/
inductive Place where
  | name (t : Text)
  | index (n : Nat)
deriving DecidableEq

/-- The kinds of faults. -/
inductive FaultKind where
  | missing
  | extraForbidden
  | notText
  | notList
  | notInteger
  | integerText
  | integerSize
  | integerFraction
  | notNumber
  | numberText
  | notFinite
  | notObject
  /-- None of the expected words, which are named in a row. -/
  | notAmong (expected : Text)
  /-- The object does not say which command it is. -/
  | tagMissing
  /-- The object says that it is a command that there is not. -/
  | tagUnknown (tag expected : Text)
deriving DecidableEq

namespace FaultKind

/-- The short name of a kind. -/
def type : FaultKind → String
  | .missing => "missing"
  | .extraForbidden => "extra_forbidden"
  | .notText => "string_type"
  | .notList => "list_type"
  | .notInteger => "int_type"
  | .integerText => "int_parsing"
  | .integerSize => "int_parsing_size"
  | .integerFraction => "int_from_float"
  | .notNumber => "float_type"
  | .numberText => "float_parsing"
  | .notFinite => "finite_number"
  | .notObject => "model_attributes_type"
  | .notAmong _ => "literal_error"
  | .tagMissing => "union_tag_not_found"
  | .tagUnknown .. => "union_tag_invalid"

/-- The field that tells the commands apart, quoted. -/
def discriminator : Text := lit "'command'"

/-- The sentence for a reader. -/
def message : FaultKind → Text
  | .missing => lit "Field required"
  | .extraForbidden => lit "Extra inputs are not permitted"
  | .notText => lit "Input should be a valid string"
  | .notList => lit "Input should be a valid list"
  | .notInteger => lit "Input should be a valid integer"
  | .integerText => lit "Input should be a valid integer, unable to parse string as an integer"
  | .integerSize => lit "Unable to parse input string as an integer, exceeded maximum size"
  | .integerFraction => lit "Input should be a valid integer, got a number with a fractional part"
  | .notNumber => lit "Input should be a valid number"
  | .numberText => lit "Input should be a valid number, unable to parse string as a number"
  | .notFinite => lit "Input should be a finite number"
  | .notObject => lit "Input should be a valid dictionary or object to extract fields from"
  | .notAmong expected => lit "Input should be " ++ expected
  | .tagMissing => lit "Unable to extract tag using discriminator " ++ discriminator
  | .tagUnknown tag expected =>
    lit "Input tag '" ++ tag ++ lit "' found using " ++ discriminator ++
      lit " does not match any of the expected tags: " ++ expected

/-- More about a fault, where its kind has more to say. -/
def context : FaultKind → Option Json
  | .notAmong expected => some (.record [("expected", .text expected)])
  | .tagMissing => some (.record [("discriminator", .text discriminator)])
  | .tagUnknown tag expected =>
    some (.record [("discriminator", .text discriminator), ("tag", .text tag),
      ("expected_tags", .text expected)])
  | _ => none

end FaultKind

/-- Something wrong with an input. -/
structure ValidationFault where
  kind : FaultKind
  place : List Place
  /-- The value at fault; for a missing field and a wrong tag the whole object. -/
  input : Json

end CompileService
