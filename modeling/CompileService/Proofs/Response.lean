import CompileService.Proofs.Text.Utf8
import CompileService.Wire

/-!
# Which answers can be sent

The names of records and fields can always be sent, and the nesting of an answer stays far from the
greatest depth. So only the texts that an answer carries decide.

* `Value.toJson_recordOf`: the object that a record becomes.
* `Response.texts`: what an answer carries.
* `Response.isSendable_toJson`: an answer can be sent exactly if its texts are encodable.
-/

namespace CompileService

theorem Json.isEncodable_iff {t : Text} : Json.isEncodable t = true ↔ t.Encodable := by
  simp [Json.isEncodable, Text.Encodable]

/-- Different constants are different texts. -/
theorem lit_injective {a b : String} (same : lit a = lit b) : a = b := by
  refine String.toList_inj.1 (List.map_inj_right ?_ |>.1 same)
  intro c d points
  exact Char.ext (UInt32.toNat_inj.1 (congrArg CodePoint.val points))

namespace Value

/-- Values in a row can be sent exactly if each one can. -/
theorem allSendable_itemsToJson {depth maxDepth : Int} {items : List Value} :
    Json.allSendable (itemsToJson depth maxDepth items) = true ↔
      ∀ v ∈ items, (v.toJson depth maxDepth).isSendable = true := by
  induction items with
  | nil => simp [itemsToJson, Json.allSendable]
  | cons v rest ih => simp [itemsToJson, Json.allSendable, ih]

/-- A text that does not lie too deep can be sent exactly if it is encodable. -/
theorem isSendable_text {depth maxDepth : Int} (within : depth ≤ maxDepth) {t : Text} :
    ((Value.text t).toJson depth maxDepth).isSendable = true ↔ t.Encodable := by
  rw [toJson, if_neg (by omega), Json.isSendable, Json.isEncodable_iff]

theorem isSendable_texts {depth maxDepth : Int} (within : depth < maxDepth) {ts : List Text} :
    ((texts ts).toJson depth maxDepth).isSendable = true ↔ ∀ t ∈ ts, t.Encodable := by
  rw [texts, toJson, if_neg (by omega), Json.isSendable, allSendable_itemsToJson, List.forall_mem_map]
  exact forall₂_congr fun t _ => isSendable_text (by omega)

theorem put_of_fresh {name : Text} {value : Json} {done : List (Text × Json)}
    (fresh : name ∉ done.map Prod.fst) : Json.put name value done = done ++ [(name, value)] := by
  induction done with
  | nil => rfl
  | cons entry more ih =>
      rw [List.map_cons, List.mem_cons, not_or] at fresh
      rw [Json.put, if_neg (Ne.symm fresh.1), ih fresh.2, List.cons_append]

/-- Fields with names of their own come after those before them. -/
theorem fieldsToJson_of_fresh {depth maxDepth : Int} {done : List (Text × Json)}
    {fields : List (Text × Value)}
    (fresh : (done.map Prod.fst ++ fields.map Prod.fst).Nodup) :
    fieldsToJson depth maxDepth done fields =
      done ++ fields.map fun field => (field.1, field.2.toJson depth maxDepth) := by
  induction fields generalizing done with
  | nil => simp [fieldsToJson]
  | cons field more ih =>
      have new : field.1 ∉ done.map Prod.fst := fun mem =>
        (List.nodup_append.1 fresh).2.2 field.1 mem field.1 List.mem_cons_self rfl
      rw [fieldsToJson, put_of_fresh new, ih (by simpa using fresh)]
      simp

theorem fieldsSendable_iff {fields : List (Text × Json)} :
    Json.fieldsSendable fields = true ↔
      ∀ field ∈ fields, field.1.Encodable ∧ field.2.isSendable = true := by
  induction fields with
  | nil => simp [Json.fieldsSendable]
  | cons field more ih =>
      simp [Json.fieldsSendable, Json.isEncodable_iff, ih]

/-- A record of the service becomes an object with the tag and then the fields, each converted one
level deeper. -/
theorem toJson_recordOf {depth maxDepth : Int} (within : depth ≤ maxDepth) {name : String}
    {fields : List (String × Value)} (fresh : ("_type" :: fields.map Prod.fst).Nodup) :
    (recordOf name fields).toJson depth maxDepth = Json.record (("_type", .text (lit name)) ::
      fields.map fun field => (field.1, field.2.toJson (depth + 1) maxDepth)) := by
  have names : ([(lit "_type", Json.text (lit name))].map Prod.fst ++
      (fields.map fun field => (lit field.1, field.2)).map Prod.fst).Nodup := by
    have mapped : (("_type" :: fields.map Prod.fst).map lit).Nodup :=
      List.pairwise_map.2 (fresh.imp fun other same => other (lit_injective same))
    simpa [List.map_map, Function.comp_def] using mapped
  have record : recordOf name fields =
      .record (lit name) (fields.map fun field => (lit field.1, field.2)) := rfl
  rw [record, toJson, if_neg (by omega), fieldsToJson_of_fresh names]
  simp [Json.record, List.map_map, Function.comp_def]

/-- A record of the service can be sent exactly if the values of its fields can. -/
theorem isSendable_recordOf {depth maxDepth : Int} (within : depth < maxDepth) {name : String}
    {fields : List (String × Value)} (fresh : ("_type" :: fields.map Prod.fst).Nodup) :
    ((recordOf name fields).toJson depth maxDepth).isSendable = true ↔
      ∀ field ∈ fields, (field.2.toJson (depth + 1) maxDepth).isSendable = true := by
  have tag : (Json.text (lit name)).isSendable = true := by
    rw [Json.isSendable, Json.isEncodable_iff]
    exact Text.encodable_lit _
  rw [toJson_recordOf (by omega) fresh, Json.record, Json.isSendable, fieldsSendable_iff,
    List.forall_mem_map, List.forall_mem_cons, List.forall_mem_map]
  simp only [Text.encodable_lit, tag, true_and]

end Value

/-- A diagnostic can be sent exactly if its text is encodable. -/
theorem Diagnostic.isSendable_toValue {depth maxDepth : Int} (within : depth + 1 ≤ maxDepth)
    (d : Diagnostic) : (d.toValue.toJson depth maxDepth).isSendable = true ↔ d.text.Encodable := by
  have severity : (d.severity.toValue.toJson (depth + 1) maxDepth).isSendable = true := by
    rw [Severity.toValue, Value.toJson, if_neg (by omega), Json.isSendable, Json.isEncodable_iff]
    exact Text.encodable_lit _
  have line : ((Value.int d.line).toJson (depth + 1) maxDepth).isSendable = true := by
    rw [Value.toJson, if_neg (by omega)]
    rfl
  rw [toValue, Value.isSendable_recordOf (by omega) (by simp)]
  simp [severity, line, Value.isSendable_text within]

namespace Response

/-- The texts that an answer carries. -/
def texts : Response → List Text
  | .moduleList scope modules => scope :: modules
  | .moduleFound name content => [name, content]
  | .moduleNotFound name => [name]
  | .checkOk id | .compileOk id => [id]
  | .checkFailed diagnostics rawOutput => diagnostics.map (·.text) ++ [rawOutput]
  | .compileFailed rawOutput => [rawOutput]
  | .toolchainUnavailable reason => [reason]

/-- An answer can be sent exactly if the texts that it carries are encodable. -/
theorem isSendable_toJson (r : Response) :
    r.toJson.isSendable = true ↔ ∀ t ∈ r.texts, t.Encodable := by
  have fresh : ("_type" :: r.fields.map Prod.fst).Nodup := by
    cases r <;> simp [fields]
  have text : ∀ t, ((Value.text t).toJson 1 Value.replyDepth).isSendable = true ↔
      t.Encodable := fun t => Value.isSendable_text (by decide)
  rw [toJson, toValue, Value.isSendable_recordOf (by decide) fresh]
  cases r with
  | moduleList scope modules =>
      have names : ((Value.texts modules).toJson 1 Value.replyDepth).isSendable = true ↔
          ∀ name ∈ modules, name.Encodable := Value.isSendable_texts (by decide)
      simp [fields, texts, text, names]
  | checkFailed diagnostics rawOutput =>
      have messages : ((Value.list (diagnostics.map Diagnostic.toValue)).toJson 1
          Value.replyDepth).isSendable = true ↔ ∀ d ∈ diagnostics, d.text.Encodable := by
        rw [Value.toJson, if_neg (by decide), Json.isSendable, Value.allSendable_itemsToJson,
          List.forall_mem_map]
        exact forall₂_congr fun d _ => d.isSendable_toValue (by decide)
      simp [fields, texts, text, messages, or_imp, forall_and]
  | _ => simp [fields, texts, text]

end Response

end CompileService
