import CompileService.Proofs.Response
import CompileService.Proofs.Wire.Pruning

/-!
# Answers read back

The tag of an answer says which fields it has, and the fields say the rest. So an answer can be read
back from its wire form, and no two answers have the same one. The greatest depth of a reply is far
below the deepest answer, so nothing of it is cut off.

* `Json.HasField`: a field of a name, at whatever depth.
* `Severity.ofName?`, `Diagnostic.ofJson?`, `Response.ofJson?`: reading by the tag and the fields.
* `Response.toJson_faithful`: the wire form of an answer is the whole of it, and is read back as the
  answer.
-/

namespace CompileService

namespace Json

/-! ## Fields by name -/

/-- The value of a field of an object. -/
def valueOf? (name : String) : Json → Option Json
  | .object fields => field? (lit name) fields
  | _ => none

def text? : Json → Option Text
  | .text t => some t
  | _ => none

def int? : Json → Option Int
  | .int n => some n
  | _ => none

def items? : Json → Option (List Json)
  | .list items => some items
  | _ => none

/-- The text in a field of an object. -/
def textOf? (name : String) (v : Json) : Option Text := (v.valueOf? name).bind text?

/-- The fields of an object with string constants for names are told apart by the constants. -/
theorem valueOf?_record (name : String) (fields : List (String × Json)) :
    (record fields).valueOf? name = fields.lookup name := by
  show (fields.map fun field => (lit field.1, field.2)).lookup (lit name) = _
  induction fields with
  | nil => rfl
  | cons field more ih =>
      rw [List.map_cons, lookup_cons, lookup_cons, ih]
      by_cases same : field.1 = name
      · rw [if_pos same, if_pos (congrArg lit same)]
      · rw [if_neg same, if_neg fun both => same (lit_injective both)]

/-- A field of the name is in a value, whether in the value itself or in one that lies in it. -/
inductive HasField (name : Text) : Json → Prop where
  | named {fields : List (Text × Json)} : name ∈ fields.map Prod.fst →
      HasField name (.object fields)
  | inField {fields : List (Text × Json)} {field : Text × Json} : field ∈ fields →
      HasField name field.2 → HasField name (.object fields)
  | inItem {items : List Json} {v : Json} : v ∈ items → HasField name v →
      HasField name (.list items)

section
variable {name : Text}

theorem hasField_list {items : List Json} :
    HasField name (.list items) ↔ ∃ v ∈ items, HasField name v := by
  constructor
  · intro there
    cases there with
    | inItem mem inside => exact ⟨_, mem, inside⟩
  · rintro ⟨v, mem, inside⟩
    exact .inItem mem inside

theorem hasField_object {fields : List (Text × Json)} : HasField name (.object fields) ↔
    name ∈ fields.map Prod.fst ∨ ∃ field ∈ fields, HasField name field.2 := by
  constructor
  · intro there
    cases there with
    | named mem => exact .inl mem
    | inField mem inside => exact .inr ⟨_, mem, inside⟩
  · rintro (mem | ⟨field, mem, inside⟩)
    · exact .named mem
    · exact .inField mem inside

theorem not_hasField_text (t : Text) : ¬ HasField name (.text t) := by
  intro there
  cases there

theorem not_hasField_int (n : Int) : ¬ HasField name (.int n) := by
  intro there
  cases there

end

/-- An object has no field of a name if the names of its fields are other ones and no value of them
has such a field. -/
theorem not_hasField_record {name : String} {fields : List (String × Json)}
    (other : name ∉ fields.map Prod.fst) (free : ∀ field ∈ fields, ¬ HasField (lit name) field.2) :
    ¬ HasField (lit name) (record fields) := by
  rw [record, hasField_object]
  rintro (mem | ⟨field, mem, inside⟩)
  · rw [List.map_map] at mem
    obtain ⟨field, among, same⟩ := List.mem_map.1 mem
    exact other (List.mem_map.2 ⟨field, among, lit_injective same⟩)
  · obtain ⟨source, among, rfl⟩ := List.mem_map.1 mem
    exact free source among inside

/-- Values that are read back one by one are read back in a row. -/
theorem mapM_map {α : Type} (encode : α → Json) (decode : Json → Option α)
    (back : ∀ a, decode (encode a) = some a) (l : List α) :
    (l.map encode).mapM decode = some l := by
  induction l with
  | nil => rfl
  | cons a more ih => simp [back, ih]

end Json

theorem Value.fits_text (levels : Nat) (t : Text) : Fits levels (.text t) := by
  cases levels <;> simp [Fits, parts]

theorem Value.fits_recordOf {levels : Nat} {name : String} {fields : List (String × Value)}
    (each : ∀ field ∈ fields, Fits levels field.2) : Fits (levels + 1) (recordOf name fields) := by
  intro u part
  obtain ⟨field, mem, rfl⟩ := List.mem_map.1 part
  obtain ⟨source, among, rfl⟩ := List.mem_map.1 mem
  exact each source among

/-! ## Reading -/

/-- The severity of a name. -/
def Severity.ofName? (t : Text) : Option Severity :=
  [.warning, .error].find? fun severity => lit (name severity) = t

theorem Severity.ofName?_name (s : Severity) : ofName? (lit s.name) = some s := by
  cases s <;> decide

/-- The kind of answer that has a tag. -/
def ResponseKind.ofName? (t : Text) : Option ResponseKind :=
  [.moduleList, .moduleFound, .moduleNotFound, .checkOk, .checkFailed, .compileOk, .compileFailed,
    .toolchainUnavailable].find? fun kind => lit (name kind) = t

theorem ResponseKind.ofName?_name (kind : ResponseKind) : ofName? (lit kind.name) = some kind := by
  cases kind <;> decide

/-- Reads a diagnostic. -/
def Diagnostic.ofJson? (v : Json) : Option Diagnostic :=
  if v.textOf? "_type" = some (lit "Diagnostic") then do
    let severity ← Severity.ofName? (← v.textOf? "severity")
    let line ← (v.valueOf? "line").bind Json.int?
    return ⟨severity, line, ← v.textOf? "text"⟩
  else none

/-- Reads an answer: the tag says which fields there are. -/
def Response.ofJson? (v : Json) : Option Response := do
  match ← ResponseKind.ofName? (← v.textOf? "_type") with
  | .moduleList =>
    let items ← (v.valueOf? "modules").bind Json.items?
    return .moduleList (← v.textOf? "scope") (← items.mapM Json.text?)
  | .moduleFound => return .moduleFound (← v.textOf? "name") (← v.textOf? "content")
  | .moduleNotFound => return .moduleNotFound (← v.textOf? "name")
  | .checkOk => return .checkOk (← v.textOf? "id")
  | .checkFailed =>
    let items ← (v.valueOf? "diagnostics").bind Json.items?
    return .checkFailed (← items.mapM Diagnostic.ofJson?) (← v.textOf? "raw_output")
  | .compileOk => return .compileOk (← v.textOf? "id")
  | .compileFailed => return .compileFailed (← v.textOf? "raw_output")
  | .toolchainUnavailable => return .toolchainUnavailable (← v.textOf? "reason")

/-! ## Diagnostics -/

namespace Diagnostic

variable (d : Diagnostic)

theorem toJson_toValue {depth maxDepth : Int} (within : depth < maxDepth) :
    d.toValue.toJson depth maxDepth = Json.record [("_type", .text (lit "Diagnostic")),
      ("severity", .text (lit d.severity.name)), ("line", .int d.line), ("text", .text d.text)] := by
  have severity : d.severity.toValue.toJson (depth + 1) maxDepth = .text (lit d.severity.name) := by
    rw [Severity.toValue, Value.toJson, if_neg (by omega)]
  have line : (Value.int d.line).toJson (depth + 1) maxDepth = .int d.line := by
    rw [Value.toJson, if_neg (by omega)]
  have text : (Value.text d.text).toJson (depth + 1) maxDepth = .text d.text := by
    rw [Value.toJson, if_neg (by omega)]
  rw [toValue, Value.toJson_recordOf (by omega) (by simp)]
  simp [severity, line, text]

theorem ofJson?_toJson {depth maxDepth : Int} (within : depth < maxDepth) :
    ofJson? (d.toValue.toJson depth maxDepth) = some d := by
  rw [toJson_toValue d within]
  simp [ofJson?, Json.textOf?, Json.valueOf?_record, lookup_cons, Json.text?, Json.int?,
    Severity.ofName?_name]

theorem not_hasField_toJson {depth maxDepth : Int} (within : depth < maxDepth) :
    ¬ (d.toValue.toJson depth maxDepth).HasField (lit "_truncated") := by
  rw [toJson_toValue d within]
  refine Json.not_hasField_record (by simp) ?_
  simp [Json.not_hasField_text, Json.not_hasField_int]

end Diagnostic

/-! ## Answers -/

namespace Response

/-- The object that an answer becomes. -/
theorem toJson_eq (r : Response) : r.toJson = Json.record (("_type", .text (lit r.kind.name)) ::
    r.fields.map fun field => (field.1, field.2.toJson 1 Value.replyDepth)) := by
  have fresh : ("_type" :: r.fields.map Prod.fst).Nodup := by
    cases r <;> simp [fields]
  exact Value.toJson_recordOf (by decide) fresh

theorem toJson_text (t : Text) : (Value.text t).toJson 1 Value.replyDepth = .text t := rfl

theorem toJson_texts (ts : List Text) :
    (Value.texts ts).toJson 1 Value.replyDepth = .list (ts.map .text) := by
  show Json.list (Value.itemsToJson 2 Value.replyDepth (ts.map .text)) = _
  rw [Value.itemsToJson_eq_map, List.map_map]
  rfl

theorem toJson_diagnostics (ds : List Diagnostic) :
    (Value.list (ds.map Diagnostic.toValue)).toJson 1 Value.replyDepth =
      .list (ds.map fun d => d.toValue.toJson 2 Value.replyDepth) := by
  show Json.list (Value.itemsToJson 2 Value.replyDepth (ds.map Diagnostic.toValue)) = _
  rw [Value.itemsToJson_eq_map, List.map_map]
  rfl

theorem ofJson?_toJson (r : Response) : ofJson? r.toJson = some r := by
  have texts (ts : List Text) : (ts.map Json.text).mapM Json.text? = some ts :=
    Json.mapM_map Json.text Json.text? (fun _ => rfl) ts
  have diagnostics (ds : List Diagnostic) :
      (ds.map fun d => d.toValue.toJson 2 Value.replyDepth).mapM Diagnostic.ofJson? = some ds :=
    Json.mapM_map _ _ (fun d => d.ofJson?_toJson (by decide)) ds
  rw [toJson_eq]
  cases r <;>
    simp [ofJson?, Json.textOf?, Json.valueOf?_record, lookup_cons, Json.text?, Json.items?, kind,
      ResponseKind.ofName?_name, fields, toJson_text, toJson_texts, toJson_diagnostics, texts,
      diagnostics]

theorem not_hasField_toJson (r : Response) : ¬ r.toJson.HasField (lit "_truncated") := by
  rw [toJson_eq]
  refine Json.not_hasField_record (by cases r <;> simp [fields]) ?_
  have diagnostic (d : Diagnostic) :
      ¬ (d.toValue.toJson 2 Value.replyDepth).HasField (lit "_truncated") :=
    d.not_hasField_toJson (by decide)
  cases r <;>
    simp [fields, toJson_text, toJson_texts, toJson_diagnostics, Json.not_hasField_text,
      Json.hasField_list, diagnostic]

/-- The deepest answer is a record with a list of diagnostics, which are records themselves. -/
theorem fits_toValue (r : Response) : Value.Fits 3 r.toValue := by
  have diagnostic (d : Diagnostic) : Value.Fits 1 d.toValue :=
    Value.fits_recordOf (by simp [Severity.toValue, Value.Fits, Value.parts])
  refine Value.fits_recordOf ?_
  cases r with
  | moduleList scope modules =>
      have names : Value.Fits 2 (Value.texts modules) := by
        intro u mem
        obtain ⟨name, -, rfl⟩ := List.mem_map.1 mem
        exact Value.fits_text 1 name
      simp [fields, Value.fits_text, names]
  | checkFailed diagnostics rawOutput =>
      have messages : Value.Fits 2 (.list (diagnostics.map Diagnostic.toValue)) := by
        intro u mem
        obtain ⟨d, -, rfl⟩ := List.mem_map.1 mem
        exact diagnostic d
      simp [fields, Value.fits_text, messages]
  | _ => simp [fields, Value.fits_text]

/-- The wire form of an answer is the whole of it and has no mark of something cut off; it is read
back as the answer, so different answers have different wire forms. -/
theorem toJson_faithful :
    (∀ r : Response, r.toJson = r.toValue.whole ∧ ¬ r.toJson.HasField (lit "_truncated") ∧
      ofJson? r.toJson = some r) ∧
    Function.Injective toJson := by
  refine ⟨fun r => ⟨?_, r.not_hasField_toJson, r.ofJson?_toJson⟩, ?_⟩
  · exact Value.toJson_of_fits r.fits_toValue (by decide)
  · intro a b same
    apply Option.some.inj
    rw [← ofJson?_toJson a, ← ofJson?_toJson b, same]

end Response

end CompileService
