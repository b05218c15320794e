import CompileService.Proofs.Wire.Form
import Mathlib.Data.Option.Defs

/-!
# A limit on the depth prunes

A conversion with a greatest depth is the conversion without one of a value that was pruned: of the
values that lie too deep the topmost ones are replaced, and nothing else is touched.

* `Value.whole`: the conversion without a limit. `Value.prune`: a value with all that lies deeper
  than there is room replaced.
* `Value.whole_prune`: converting down to a depth is pruning and then converting.
  `Value.toJson_of_fits`: with enough room nothing is pruned.
* `Value.at?_toJson`: what lies at a route of the form is the form of what lies there in the value.
* `Value.sameTop_toJson`: nothing above the greatest depth tells the two conversions apart.
* `Value.toJson_pruned`: all of it together.
-/

namespace CompileService.Value

/-! ## Conversion without a limit -/

mutual

/-- The JSON form of a value, however deep it is. -/
def whole : Value → Json
  | .null => .null
  | .bool b => .bool b
  | .int n => .int n
  | .float x => .float x
  | .text t => .text t
  | .list items => .list (wholeItems items)
  | .dict entries => .object (Json.putAll [] (wholeEntries entries))
  | .record name fields => .object (Json.putAll [(lit "_type", .text name)] (wholeFields fields))
  | .enumerated name => .text name
  | .path p => .text p.toText
  | .moment m => .text m.shown

/-- The items of a list. -/
def wholeItems : List Value → List Json
  | [] => []
  | v :: rest => v.whole :: wholeItems rest

/-- The entries of a dictionary by the texts of their keys. -/
def wholeEntries : List (Key × Value) → List (Text × Json)
  | [] => []
  | (k, v) :: rest => (k.shown, v.whole) :: wholeEntries rest

/-- The fields of a record. -/
def wholeFields : List (Text × Value) → List (Text × Json)
  | [] => []
  | (name, v) :: rest => (name, v.whole) :: wholeFields rest

end

theorem wholeItems_eq_map (items : List Value) : wholeItems items = items.map whole := by
  induction items with
  | nil => rfl
  | cons v rest ih => rw [wholeItems, ih, List.map_cons]

theorem wholeEntries_eq_map (entries : List (Key × Value)) :
    wholeEntries entries = entries.map fun entry => (entry.1.shown, entry.2.whole) := by
  induction entries with
  | nil => rfl
  | cons entry rest ih => rw [wholeEntries, ih, List.map_cons]

theorem wholeFields_eq_map (fields : List (Text × Value)) :
    wholeFields fields = fields.map fun field => (field.1, field.2.whole) := by
  induction fields with
  | nil => rfl
  | cons field rest ih => rw [wholeFields, ih, List.map_cons]

theorem whole_eq_formWith (v : Value) : v.whole = v.formWith whole := by
  cases v with
  | list items => rw [whole, formWith, wholeItems_eq_map]
  | dict entries => rw [whole, formWith, wholeEntries_eq_map]
  | record name fields => rw [whole, formWith, wholeFields_eq_map]
  | _ => rw [whole, formWith]

/-- A value whose form says that something lay too deep. -/
def stub : Value := .dict [(.text (lit "_truncated"), .bool true)]

theorem whole_stub : stub.whole = truncated := rfl

/-! ## Pruning -/

mutual

/-- A value in which everything that lies more than `room` levels below it is replaced; of what lies
there only the topmost values are left to be replaced. -/
def prune (room : Int) (v : Value) : Value :=
  if room < 0 then stub
  else match v with
    | .list items => .list (pruneItems (room - 1) items)
    | .dict entries => .dict (pruneEntries (room - 1) entries)
    | .record name fields => .record name (pruneFields (room - 1) fields)
    | v => v

/-- The items of a list, one level deeper. -/
def pruneItems (room : Int) : List Value → List Value
  | [] => []
  | v :: rest => v.prune room :: pruneItems room rest

/-- The entries of a dictionary with their keys as they are. -/
def pruneEntries (room : Int) : List (Key × Value) → List (Key × Value)
  | [] => []
  | (k, v) :: rest => (k, v.prune room) :: pruneEntries room rest

/-- The fields of a record with their names as they are. -/
def pruneFields (room : Int) : List (Text × Value) → List (Text × Value)
  | [] => []
  | (name, v) :: rest => (name, v.prune room) :: pruneFields room rest

end

section
variable (room : Int)

theorem pruneItems_eq_map (items : List Value) :
    pruneItems room items = items.map (prune room) := by
  induction items with
  | nil => rfl
  | cons v rest ih => rw [pruneItems, ih, List.map_cons]

theorem pruneEntries_eq_map (entries : List (Key × Value)) :
    pruneEntries room entries = entries.map fun entry => (entry.1, entry.2.prune room) := by
  induction entries with
  | nil => rfl
  | cons entry rest ih => rw [pruneEntries, ih, List.map_cons]

theorem pruneFields_eq_map (fields : List (Text × Value)) :
    pruneFields room fields = fields.map fun field => (field.1, field.2.prune room) := by
  induction fields with
  | nil => rfl
  | cons field rest ih => rw [pruneFields, ih, List.map_cons]

theorem prune_eq_mapParts (v : Value) :
    v.prune room = if room < 0 then stub else v.mapParts (prune (room - 1)) := by
  rw [prune.eq_def]
  by_cases deep : room < 0
  · rw [if_pos deep, if_pos deep]
  · rw [if_neg deep, if_neg deep]
    cases v with
    | list items => exact congrArg Value.list (pruneItems_eq_map _ items)
    | dict entries => exact congrArg Value.dict (pruneEntries_eq_map _ entries)
    | record name fields => exact congrArg (Value.record name) (pruneFields_eq_map _ fields)
    | _ => rfl

end

section
variable (v : Value) (depth maxDepth : Int)

/-- Converting down to a depth is pruning to the room that is left, and then converting. -/
theorem whole_prune : (v.prune (maxDepth - depth)).whole = v.toJson depth maxDepth := by
  induction v using induction_on_parts generalizing depth with
  | step v ih =>
      rw [prune_eq_mapParts, toJson_eq_formWith]
      by_cases deep : maxDepth < depth
      · rw [if_pos (by omega), if_pos deep, whole_stub]
      · rw [if_neg (by omega), if_neg deep, whole_eq_formWith, formWith_mapParts]
        refine formWith_congr fun u part => ?_
        have less : maxDepth - depth - 1 = maxDepth - (depth + 1) := by omega
        rw [less]
        exact ih u part (depth + 1)

end

/-- Nothing in a value lies more than the given number of levels below it. -/
def Fits : Nat → Value → Prop
  | 0, v => v.parts = []
  | levels + 1, v => ∀ u ∈ v.parts, Fits levels u

theorem fits_sizeOf (v : Value) {levels : Nat} (enough : sizeOf v ≤ levels) : Fits levels v := by
  induction levels generalizing v with
  | zero =>
      refine List.eq_nil_iff_forall_not_mem.2 fun u part => ?_
      have smaller := sizeOf_lt_of_mem_parts part
      omega
  | succ levels ih =>
      intro u part
      have smaller := sizeOf_lt_of_mem_parts part
      exact ih u (by omega)

/-- With room for all levels of a value the limit does nothing. -/
theorem toJson_of_fits {v : Value} {levels : Nat} {depth maxDepth : Int} (fits : Fits levels v)
    (room : levels ≤ maxDepth - depth) : v.toJson depth maxDepth = v.whole := by
  induction levels generalizing v depth with
  | zero =>
      rw [toJson_eq_formWith, if_neg (by omega), whole_eq_formWith]
      refine formWith_congr fun u part => ?_
      rw [show v.parts = [] from fits] at part
      cases part
  | succ levels ih =>
      rw [toJson_eq_formWith, if_neg (by omega), whole_eq_formWith]
      exact formWith_congr fun u part => ih (fits u part) (by omega)

/-! ## What lies at a route -/

section
variable {v u : Value} {route : Json.Route} {depth maxDepth : Int}

/-- What lies at a route of the form is the form of what lies there in the value. The steps lead
down one level each, the last one at most to what is replaced. -/
theorem at?_toJson (found : v.at? route = some u) (room : route.length ≤ maxDepth - depth + 1) :
    (v.toJson depth maxDepth).at? route = some (u.toJson (depth + route.length) maxDepth) := by
  induction route generalizing v depth with
  | nil =>
      obtain rfl : v = u := Option.some.inj found
      simp [Json.at?]
  | cons step rest ih =>
      obtain ⟨w, child, below⟩ := Option.bind_eq_some_iff.1 found
      rw [List.length_cons] at room ⊢
      rw [toJson_eq_formWith, if_neg (by omega), Json.at?, child?_formWith, child]
      show (w.toJson (depth + 1) maxDepth).at? rest = _
      have deeper : depth + ((rest.length + 1 : Nat) : Int) = depth + 1 + rest.length := by omega
      rw [deeper]
      exact ih below (by omega)

theorem at?_whole (found : v.at? route = some u) : v.whole.at? route = some u.whole := by
  induction route generalizing v with
  | nil =>
      obtain rfl : v = u := Option.some.inj found
      rfl
  | cons step rest ih =>
      obtain ⟨w, child, below⟩ := Option.bind_eq_some_iff.1 found
      rw [whole_eq_formWith, Json.at?, child?_formWith, child]
      exact ih below

/-- Down to the greatest depth the same routes lead somewhere in both conversions, and to values
that look the same from above. -/
theorem sameTop_toJson (v : Value) (room : route.length ≤ maxDepth - depth) :
    Option.Rel Json.SameTop ((v.toJson depth maxDepth).at? route) (v.whole.at? route) := by
  induction route generalizing v depth with
  | nil =>
      rw [List.length_nil] at room
      rw [toJson_eq_formWith, if_neg (by omega), whole_eq_formWith]
      exact .some v.sameTop_formWith
  | cons step rest ih =>
      rw [List.length_cons] at room
      rw [toJson_eq_formWith, if_neg (by omega), whole_eq_formWith, Json.at?, Json.at?,
        child?_formWith, child?_formWith]
      cases v.child? step with
      | some w => exact ih w (by omega)
      | none =>
          -- a step that leads to no part can lead to the tag, which is converted in one way only
          show Option.Rel Json.SameTop ((v.tag? step).bind _) ((v.tag? step).bind _)
          cases v.tag? step with
          | none => exact .none
          | some tag =>
              show Option.Rel Json.SameTop (tag.at? rest) (tag.at? rest)
              cases tag.at? rest with
              | none => exact .none
              | some w => exact .some (Json.SameTop.refl w)

/-- A record that does not lie too deep has its tag, unless a field of its own has the same name. -/
theorem tag_toJson {name : Text} {fields : List (Text × Value)}
    (free : lit "_type" ∉ fields.map Prod.fst) (room : depth ≤ maxDepth) :
    ((record name fields).toJson depth maxDepth).child? (.field (lit "_type")) =
      some (.text name) := by
  rw [toJson_eq_formWith, if_neg (by omega), child?_formWith]
  have none : (record name fields).child? (.field (lit "_type")) = none := by
    show fields.reverse.lookup (lit "_type") = none
    rw [List.lookup_eq_none_iff]
    intro field mem
    rw [bne_iff_ne]
    intro same
    exact free (List.mem_map.2 ⟨field, List.mem_reverse.1 mem, same.symm⟩)
  rw [none]
  rfl

end

/-- A JSON value is the form of a value that was pruned to the given room. -/
structure IsPruned (v : Value) (room : Int) (j : Json) : Prop where
  /-- It is converted without a limit, after all that lies too deep was replaced. -/
  form : j = (v.prune room).whole
  /-- Where there is room, the same routes lead somewhere as in the form without a limit, and what
  they lead to looks the same from above. -/
  kept (route : Json.Route) : route.length ≤ room →
    Option.Rel Json.SameTop (j.at? route) (v.whole.at? route)
  /-- Without any room nothing is left of it. -/
  gone : room < 0 → j = truncated
  /-- The topmost values that lie too deep are replaced. -/
  cut (route : Json.Route) (u : Value) : v.at? route = some u → route.length = room + 1 →
    j.at? route = some truncated
  /-- A record for which there is room has its tag, if no field of it takes the place of the tag. -/
  tagged (route : Json.Route) (name : Text) (fields : List (Text × Value)) :
    v.at? route = some (.record name fields) → route.length ≤ room →
    lit "_type" ∉ fields.map Prod.fst →
    j.at? (route ++ [.field (lit "_type")]) = some (.text name)

/-- A limit on the depth prunes the value, and it is only the room between the depth and the limit
that counts. Without a limit, which is the same as with enough room, the form of everything in the
value is where it lies in the value; of the entries of a dictionary whose keys have one text only
the last one lies there. No record of the service has a field in the place of the tag. -/
theorem toJson_pruned (v : Value) (depth maxDepth : Int) :
    v.IsPruned (maxDepth - depth) (v.toJson depth maxDepth) ∧
    (∀ d m, m - d = maxDepth - depth → v.toJson d m = v.toJson depth maxDepth) ∧
    (∃ room : Int, ∀ d m, room ≤ m - d → v.toJson d m = v.whole) ∧
    (∀ route u, v.at? route = some u → v.whole.at? route = some u.whole) ∧
    ∀ form ∈ recordForms, "_type" ∉ form.2.map Prod.fst := by
  refine ⟨⟨?_, ?_, ?_, ?_, ?_⟩, ?_, ⟨sizeOf v, ?_⟩, ?_, by decide⟩
  · exact (whole_prune v depth maxDepth).symm
  · intro route room
    exact sameTop_toJson v room
  · intro deep
    rw [toJson_eq_formWith, if_pos (by omega)]
  · intro route u found room
    rw [at?_toJson found (by omega), toJson_eq_formWith, if_pos (by omega)]
  · intro route name fields found room free
    rw [Json.at?_append, at?_toJson found (by omega)]
    show ((record name fields).toJson _ maxDepth).at? [.field (lit "_type")] = _
    rw [Json.at?, tag_toJson free (by omega)]
    rfl
  · intro d m same
    rw [← whole_prune, ← whole_prune, same]
  · intro d m room
    exact toJson_of_fits (v.fits_sizeOf (Nat.le_refl _)) room
  · intro route u found
    exact at?_whole found

/-- Of two entries whose keys are the number one and the text of it the second one is left, and it
lies too deep; the tag on the same level stays. -/
example : (recordOf "CheckOk" [("id", .dict [(.int 1, .null), (.text (lit "1"), .list [])])]).toJson
    11 12 = .object [(lit "_type", .text (lit "CheckOk")),
      (lit "id", .object [(lit "1", truncated)])] := rfl

end CompileService.Value
