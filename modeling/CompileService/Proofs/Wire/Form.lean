import CompileService.Wire

/-!
# One level of the wire form

The conversion of a value looks at one level of it; the parts of the value lie one level deeper and
are converted by themselves. What the conversion does with a level is the same whatever becomes of
the parts, and is told here once.

* `Value.parts`, `Value.induction_on_parts`: the parts of a value, and induction over them.
* `Value.formWith`: one level in JSON form, with the parts converted in any given way.
* `Value.toJson_eq_formWith`: the conversion is such a level, down to the greatest depth.
* `Value.at?`, `Json.at?`: what lies at a route into a value.
* `Value.child?_formWith`: the fields and items of the form come from the parts of the value, apart
  from the tag of a record.
-/

namespace CompileService

/-- What a name is given last. -/
def lastOf {α : Type} (name : Text) (fields : List (Text × α)) : Option α :=
  fields.reverse.lookup name

theorem lookup_cons {κ α : Type} [BEq κ] [LawfulBEq κ] [DecidableEq κ] (name : κ) (field : κ × α)
    (more : List (κ × α)) :
    (field :: more).lookup name = if field.1 = name then some field.2 else more.lookup name := by
  obtain ⟨m, value⟩ := field
  rw [List.lookup_cons]
  by_cases same : m = name
  · simp [same]
  · simp [same, beq_false_of_ne (Ne.symm same)]

theorem lookup_append {α : Type} (name : Text) (front back : List (Text × α)) :
    (front ++ back).lookup name = (front.lookup name).or (back.lookup name) := by
  induction front with
  | nil => rfl
  | cons field more ih =>
      rw [List.cons_append, lookup_cons, lookup_cons, ih]
      split <;> rfl

theorem lookup_map {α β : Type} (name : Text) (f : α → β) (fields : List (Text × α)) :
    (fields.map fun field => (field.1, f field.2)).lookup name = (fields.lookup name).map f := by
  induction fields with
  | nil => rfl
  | cons field more ih =>
      rw [List.map_cons, lookup_cons, lookup_cons, ih]
      split <;> rfl

theorem lastOf_cons {α : Type} (name : Text) (field : Text × α) (more : List (Text × α)) :
    lastOf name (field :: more) =
      (lastOf name more).or (if field.1 = name then some field.2 else none) := by
  rw [lastOf, List.reverse_cons, lookup_append, lookup_cons]
  rfl

theorem lastOf_map {α β : Type} (name : Text) (f : α → β) (fields : List (Text × α)) :
    lastOf name (fields.map fun field => (field.1, f field.2)) = (lastOf name fields).map f := by
  rw [lastOf, ← List.map_reverse, lookup_map]
  rfl

namespace Json

/-- A step into a value: to an item of a list, or to what has a name. -/
inductive Selector where
  | item (index : Nat)
  | field (name : Text)
deriving DecidableEq

/-- The steps that lead from a value to one that lies in it. -/
abbrev Route := List Selector

/-! ## Objects -/

/-- Enters fields one after the other. -/
def putAll (done fields : List (Text × Json)) : List (Text × Json) :=
  fields.foldl (fun done field => put field.1 field.2 done) done

theorem field?_put (name m : Text) (value : Json) (fields : List (Text × Json)) :
    field? m (put name value fields) = if name = m then some value else field? m fields := by
  unfold field?
  induction fields with
  | nil => exact lookup_cons m (name, value) []
  | cons field more ih =>
      rw [put, lookup_cons]
      by_cases here : field.1 = name
      · rw [if_pos here, lookup_cons, here]
        split <;> rfl
      · rw [if_neg here, lookup_cons, ih]
        by_cases same : field.1 = m
        · rw [if_pos same, if_neg fun other => here (same.trans other.symm), if_pos same]
        · rw [if_neg same, if_neg same]

/-- Of the fields entered under one name the last one counts, and then the one that was there. -/
theorem field?_putAll (name : Text) (done fields : List (Text × Json)) :
    field? name (putAll done fields) = (lastOf name fields).or (field? name done) := by
  induction fields generalizing done with
  | nil => rfl
  | cons field more ih =>
      show field? name (putAll (put field.1 field.2 done) more) = _
      rw [ih, lastOf_cons, field?_put, Option.or_assoc]
      by_cases same : field.1 = name
      · simp [same]
      · simp [same]

theorem map_fst_put (name : Text) (value : Json) (fields : List (Text × Json)) :
    (put name value fields).map Prod.fst =
      if name ∈ fields.map Prod.fst then fields.map Prod.fst
      else fields.map Prod.fst ++ [name] := by
  induction fields with
  | nil => rfl
  | cons field more ih =>
      rw [put]
      by_cases here : field.1 = name
      · simp [here]
      · rw [if_neg here, List.map_cons, ih]
        simp only [List.map_cons, List.mem_cons, Ne.symm here, false_or]
        split <;> rfl

/-- The names of an object do not depend on what is entered under them. -/
theorem map_fst_putAll {done done' fields fields' : List (Text × Json)}
    (before : done.map Prod.fst = done'.map Prod.fst)
    (names : fields.map Prod.fst = fields'.map Prod.fst) :
    (putAll done fields).map Prod.fst = (putAll done' fields').map Prod.fst := by
  induction fields generalizing done done' fields' with
  | nil =>
      obtain rfl : fields' = [] := List.map_eq_nil_iff.1 names.symm
      exact before
  | cons field more ih =>
      cases fields' with
      | nil => cases names
      | cons field' more' =>
          obtain ⟨same, rest⟩ := List.cons.inj names
          have entered : (put field.1 field.2 done).map Prod.fst =
              (put field'.1 field'.2 done').map Prod.fst := by
            rw [map_fst_put, map_fst_put, before, same]
          show (putAll (put _ _ done) more).map Prod.fst =
            (putAll (put _ _ done') more').map Prod.fst
          exact ih entered rest

/-! ## Routes into a JSON value -/

/-- What a step from a JSON value leads to. -/
def child? : Json → Selector → Option Json
  | .list items, .item index => items[index]?
  | .object fields, .field name => field? name fields
  | _, _ => none

/-- What lies at a route into a JSON value. -/
def at? (v : Json) : Route → Option Json
  | [] => some v
  | step :: rest => (v.child? step).bind (at? · rest)

theorem at?_append (v : Json) (front back : Route) :
    v.at? (front ++ back) = (v.at? front).bind (·.at? back) := by
  induction front generalizing v with
  | nil => rfl
  | cons step rest ih =>
      rw [List.cons_append, at?, at?]
      cases v.child? step with
      | none => rfl
      | some w => exact ih w

/-- Two JSON values are the same to someone who does not look into their items and fields: the same
scalar, lists of the same length, or objects with the same names in the same order. -/
def SameTop : Json → Json → Prop
  | .list a, .list b => a.length = b.length
  | .object a, .object b => a.map Prod.fst = b.map Prod.fst
  | a, b => a = b

theorem SameTop.refl (v : Json) : v.SameTop v := by
  cases v <;> rfl

end Json

namespace Value

/-! ## The parts of a value -/

/-- The values that lie one level deeper. -/
def parts : Value → List Value
  | .list items => items
  | .dict entries => entries.map (·.2)
  | .record _ fields => fields.map (·.2)
  | _ => []

theorem sizeOf_lt_of_mem_parts {u v : Value} (part : u ∈ v.parts) : sizeOf u < sizeOf v := by
  cases v with
  | list items =>
      have smaller : sizeOf u < sizeOf items := List.sizeOf_lt_of_mem part
      simp only [list.sizeOf_spec]
      omega
  | dict entries =>
      obtain ⟨⟨key, value⟩, mem, rfl⟩ := List.mem_map.1 part
      have smaller := List.sizeOf_lt_of_mem mem
      simp only [Prod.mk.sizeOf_spec] at smaller
      simp only [dict.sizeOf_spec]
      omega
  | record name fields =>
      obtain ⟨⟨name, value⟩, mem, rfl⟩ := List.mem_map.1 part
      have smaller := List.sizeOf_lt_of_mem mem
      simp only [Prod.mk.sizeOf_spec] at smaller
      simp only [record.sizeOf_spec]
      omega
  | _ => cases part

/-- What holds of a value whenever it holds of its parts holds of every value. -/
@[elab_as_elim]
theorem induction_on_parts {motive : Value → Prop}
    (step : ∀ v : Value, (∀ u ∈ v.parts, motive u) → motive v) (v : Value) : motive v :=
  step v fun u part =>
    have := sizeOf_lt_of_mem_parts part
    induction_on_parts step u
termination_by sizeOf v

/-- A value with its parts changed. -/
def mapParts (change : Value → Value) : Value → Value
  | .list items => .list (items.map change)
  | .dict entries => .dict (entries.map fun entry => (entry.1, change entry.2))
  | .record name fields => .record name (fields.map fun field => (field.1, change field.2))
  | v => v

/-! ## One level -/

/-- The JSON form of one level of a value, with the parts converted in the given way. -/
def formWith (convert : Value → Json) : Value → Json
  | .null => .null
  | .bool b => .bool b
  | .int n => .int n
  | .float x => .float x
  | .text t => .text t
  | .list items => .list (items.map convert)
  | .dict entries =>
    .object (Json.putAll [] (entries.map fun entry => (entry.1.shown, convert entry.2)))
  | .record name fields =>
    .object (Json.putAll [(lit "_type", .text name)]
      (fields.map fun field => (field.1, convert field.2)))
  | .enumerated name => .text name
  | .path p => .text p.toText
  | .moment m => .text m.shown

section
variable {f g : Value → Json}

/-- Only the conversion of the parts matters. -/
theorem formWith_congr {v : Value} (same : ∀ u ∈ v.parts, f u = g u) :
    v.formWith f = v.formWith g := by
  cases v with
  | list items =>
      have each : items.map f = items.map g := List.map_congr_left same
      rw [formWith, formWith, each]
  | dict entries =>
      have each : (entries.map fun entry => (entry.1.shown, f entry.2)) =
          entries.map fun entry => (entry.1.shown, g entry.2) :=
        List.map_congr_left fun entry mem => by rw [same _ (List.mem_map_of_mem mem)]
      rw [formWith, formWith, each]
  | record name fields =>
      have each : (fields.map fun field => (field.1, f field.2)) =
          fields.map fun field => (field.1, g field.2) :=
        List.map_congr_left fun field mem => by rw [same _ (List.mem_map_of_mem mem)]
      rw [formWith, formWith, each]
  | _ => rfl

/-- Whether parts are changed and then converted or converted at once makes no difference. -/
theorem formWith_mapParts (change : Value → Value) (v : Value) :
    (v.mapParts change).formWith f = v.formWith fun u => f (change u) := by
  cases v <;> simp [mapParts, formWith, Function.comp_def]

/-- From above the level looks the same whatever the parts become. -/
theorem sameTop_formWith (v : Value) : (v.formWith f).SameTop (v.formWith g) := by
  cases v with
  | list items =>
      show (items.map f).length = (items.map g).length
      rw [List.length_map, List.length_map]
  | dict entries =>
      refine Json.map_fst_putAll rfl ?_
      rw [List.map_map, List.map_map]
      rfl
  | record name fields =>
      refine Json.map_fst_putAll rfl ?_
      rw [List.map_map, List.map_map]
      rfl
  | _ => rfl

end

/-! ## Routes into a value -/

/-- What a step from a value leads to. The keys of a dictionary count by their texts, and of the
entries with one text the last one. -/
def child? : Value → Json.Selector → Option Value
  | .list items, .item index => items[index]?
  | .dict entries, .field name => lastOf name (entries.map fun entry => (entry.1.shown, entry.2))
  | .record _ fields, .field name => lastOf name fields
  | _, _ => none

/-- What lies at a route into a value. -/
def at? (v : Value) : Json.Route → Option Value
  | [] => some v
  | step :: rest => (v.child? step).bind (at? · rest)

/-- The tag that the form of a record shows and that is no part of the record. -/
def tag? : Value → Json.Selector → Option Json
  | .record name _, .field m => if lit "_type" = m then some (.text name) else none
  | _, _ => none

/-- A step from the form of a value leads to the form of the part that the same step from the value
leads to; where there is none it can lead to the tag. -/
theorem child?_formWith (convert : Value → Json) (v : Value) (step : Json.Selector) :
    (v.formWith convert).child? step = ((v.child? step).map convert).or (v.tag? step) := by
  cases v with
  | list items =>
      cases step with
      | item index =>
          show (items.map convert)[index]? = (items[index]?.map convert).or none
          rw [List.getElem?_map, Option.or_none]
      | field name => rfl
  | dict entries =>
      cases step with
      | item index => rfl
      | field name =>
          have texts : (entries.map fun entry => (entry.1.shown, convert entry.2)) =
              (entries.map fun entry => (entry.1.shown, entry.2)).map
                fun entry => (entry.1, convert entry.2) := by
            rw [List.map_map]
            rfl
          show Json.field? name (Json.putAll [] _) = (Option.map convert (lastOf name _)).or none
          rw [Json.field?_putAll, texts, lastOf_map]
          rfl
  | record tag fields =>
      cases step with
      | item index => rfl
      | field name =>
          show Json.field? name (Json.putAll _ _) = _
          rw [Json.field?_putAll, lastOf_map]
          show _ = (Option.map convert (lastOf name fields)).or (tag? (.record tag fields) _)
          rw [Json.field?, lookup_cons]
          rfl
  | _ => cases step <;> rfl

/-! ## The conversion -/

section
variable (depth maxDepth : Int)

theorem itemsToJson_eq_map (items : List Value) :
    itemsToJson depth maxDepth items = items.map (toJson depth maxDepth) := by
  induction items with
  | nil => rfl
  | cons v rest ih => rw [itemsToJson, ih, List.map_cons]

theorem entriesToJson_eq_putAll (done : List (Text × Json)) (entries : List (Key × Value)) :
    entriesToJson depth maxDepth done entries =
      Json.putAll done
        (entries.map fun entry => (entry.1.shown, entry.2.toJson depth maxDepth)) := by
  induction entries generalizing done with
  | nil => rfl
  | cons entry rest ih => exact ih _

theorem fieldsToJson_eq_putAll (done : List (Text × Json)) (fields : List (Text × Value)) :
    fieldsToJson depth maxDepth done fields =
      Json.putAll done (fields.map fun field => (field.1, field.2.toJson depth maxDepth)) := by
  induction fields generalizing done with
  | nil => rfl
  | cons field rest ih => exact ih _

/-- A value that does not lie too deep is converted level by level. -/
theorem toJson_eq_formWith (v : Value) : v.toJson depth maxDepth =
    if maxDepth < depth then truncated else v.formWith (toJson (depth + 1) maxDepth) := by
  rw [toJson.eq_def]
  by_cases deep : maxDepth < depth
  · rw [if_pos deep, if_pos deep]
  · rw [if_neg deep, if_neg deep]
    cases v with
    | list items => exact congrArg Json.list (itemsToJson_eq_map _ _ items)
    | dict entries => exact congrArg Json.object (entriesToJson_eq_putAll _ _ [] entries)
    | record name fields => exact congrArg Json.object (fieldsToJson_eq_putAll _ _ _ fields)
    | _ => rfl

end

end Value

end CompileService
