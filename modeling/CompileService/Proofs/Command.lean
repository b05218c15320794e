import CompileService.Command

/-!
# Which values are commands

A value is read as a command by two of its fields: the tag and the one argument that the tag asks
for. All else in it is of no account.

* `CommandKind.Admits`: what a command takes for its argument.
* `Command.read_ok_iff`: the values that are read, and as which command.
* `Command.accepted_iff`: the same by tag and type of the argument.
* `Command.read_fields`: the fields of a command are read as the command itself.
-/

namespace CompileService

namespace CommandKind

/-- The values that a command takes for its argument: texts, and for a listing the names of scopes.
-/
def Admits : CommandKind → Json → Prop
  | .listModules, value => ∃ scope : Scope, value = .text (lit scope.name)
  | _, value => ∃ t, value = .text t

/-- The field of an argument is not that of the tag. -/
theorem argument_ne_command (kind : CommandKind) : lit kind.argument ≠ lit "command" := by
  cases kind <;> decide

theorem ofTag?_tag (kind : CommandKind) : ofTag? (lit kind.tag) = some kind := by
  cases kind <;> decide

/-- A tag is known exactly if it is that of a kind. -/
theorem ofTag?_eq_some {t : Text} {kind : CommandKind} :
    ofTag? t = some kind ↔ t = lit kind.tag := by
  constructor
  · intro found
    have tagged := List.find?_some found
    exact (of_decide_eq_true tagged).symm
  · rintro rfl
    exact ofTag?_tag kind

end CommandKind

namespace Command

theorem find?_scope (scope : Scope) :
    (Scope.all.find? fun other => lit other.name = lit scope.name) = some scope := by
  cases scope <;> decide

/-- An argument is read as the command of its kind that has its text. -/
theorem ofArgument_ok_iff {kind : CommandKind} {value : Json} {c : Command} :
    ofArgument kind value = .ok c ↔ c.kind = kind ∧ value = .text c.argument := by
  constructor
  · intro taken
    unfold ofArgument at taken
    split at taken
    · split at taken
      · rename_i scope found
        obtain rfl := Except.ok.inj taken
        have named := List.find?_some found
        simp only [decide_eq_true_eq] at named
        exact ⟨rfl, by rw [argument, named]⟩
      · cases taken
    · cases taken
    · obtain rfl := Except.ok.inj taken
      exact ⟨rfl, rfl⟩
    · obtain rfl := Except.ok.inj taken
      exact ⟨rfl, rfl⟩
    · obtain rfl := Except.ok.inj taken
      exact ⟨rfl, rfl⟩
    · cases taken
  · rintro ⟨rfl, rfl⟩
    -- back from each command, one after the other
    cases c with
    | listModules scope =>
        simp only [kind, argument, ofArgument]
        rw [find?_scope]
    | getModule name => rfl
    | checkModule content => rfl
    | compileModule content => rfl

/-- What a kind of command admits is the argument of one of its commands. -/
theorem admits_iff {kind : CommandKind} {value : Json} :
    kind.Admits value ↔ ∃ c : Command, c.kind = kind ∧ value = .text c.argument := by
  constructor
  · intro admitted
    cases kind with
    | listModules =>
        obtain ⟨scope, rfl⟩ := admitted
        exact ⟨.listModules scope, rfl, rfl⟩
    | getModule =>
        obtain ⟨t, rfl⟩ := admitted
        exact ⟨.getModule t, rfl, rfl⟩
    | checkModule =>
        obtain ⟨t, rfl⟩ := admitted
        exact ⟨.checkModule t, rfl, rfl⟩
    | compileModule =>
        obtain ⟨t, rfl⟩ := admitted
        exact ⟨.compileModule t, rfl, rfl⟩
  · rintro ⟨c, rfl, rfl⟩
    cases c with
    | listModules scope => exact ⟨scope, rfl⟩
    | getModule name => exact ⟨name, rfl⟩
    | checkModule content => exact ⟨content, rfl⟩
    | compileModule content => exact ⟨content, rfl⟩

/-- A value is read as a command exactly if it is an object with the command's tag and argument. -/
theorem read_ok_iff {value : Json} {c : Command} :
    read value = .ok c ↔ ∃ fields, value = .object fields ∧
      Json.field? (lit "command") fields = some (.text (lit c.kind.tag)) ∧
      Json.field? (lit c.kind.argument) fields = some (.text c.argument) := by
  constructor
  · intro taken
    unfold read at taken
    -- an object, then a tag in it, then a kind of that tag, then its argument
    split at taken
    · rename_i fields
      refine ⟨fields, rfl, ?_⟩
      unfold ofFields at taken
      dsimp only at taken
      split at taken
      · cases taken
      · rename_i tag tagged
        split at taken
        · cases taken
        · rename_i kind known
          split at taken
          · cases taken
          · rename_i value given
            split at taken
            · rename_i command read
              obtain rfl := Except.ok.inj taken
              obtain ⟨rfl, rfl⟩ := ofArgument_ok_iff.1 read
              refine ⟨?_, given⟩
              split at known
              · rw [tagged, CommandKind.ofTag?_eq_some.1 known]
              · cases known
            · cases taken
    · cases taken
  · rintro ⟨fields, rfl, tagged, given⟩
    have taken : ofArgument c.kind (.text c.argument) = .ok c := ofArgument_ok_iff.2 ⟨rfl, rfl⟩
    simp only [read, ofFields, tagged, CommandKind.ofTag?_tag, given, taken]

/-- A value is accepted exactly if it is an object whose tag is one of the four and whose argument
for that tag is there and of the right type. -/
theorem accepted_iff {value : Json} :
    (∃ c, read value = .ok c) ↔ ∃ (fields : List (Text × Json)) (kind : CommandKind) (v : Json),
      value = .object fields ∧ Json.field? (lit "command") fields = some (.text (lit kind.tag)) ∧
        Json.field? (lit kind.argument) fields = some v ∧ kind.Admits v := by
  constructor
  · rintro ⟨c, taken⟩
    obtain ⟨fields, rfl, tagged, given⟩ := read_ok_iff.1 taken
    exact ⟨fields, c.kind, _, rfl, tagged, given, admits_iff.2 ⟨c, rfl, rfl⟩⟩
  · rintro ⟨fields, kind, v, rfl, tagged, given, admitted⟩
    obtain ⟨c, rfl, rfl⟩ := admits_iff.1 admitted
    exact ⟨c, read_ok_iff.2 ⟨fields, rfl, tagged, given⟩⟩

/-- Objects with the same tag and the same argument are the same command. -/
theorem read_congr {fields others : List (Text × Json)} {c : Command}
    (taken : read (.object fields) = .ok c)
    (tag : Json.field? (lit "command") others = Json.field? (lit "command") fields)
    (argument : Json.field? (lit c.kind.argument) others =
      Json.field? (lit c.kind.argument) fields) :
    read (.object others) = .ok c := by
  obtain ⟨_, same, tagged, given⟩ := read_ok_iff.1 taken
  cases same
  exact read_ok_iff.2 ⟨others, rfl, tag.trans tagged, argument.trans given⟩

/-- The fields of a command give its tag and its argument, whatever comes after them. -/
theorem field?_fields (c : Command) (more : List (Text × Json)) :
    Json.field? (lit "command") (c.fields ++ more) = some (.text (lit c.kind.tag)) ∧
      Json.field? (lit c.kind.argument) (c.fields ++ more) = some (.text c.argument) := by
  have other := beq_false_of_ne c.kind.argument_ne_command
  constructor
  · simp [Json.field?, fields]
  · simp [Json.field?, fields, List.lookup_cons, other]

/-- The fields of a command are read as the command. -/
theorem read_fields (c : Command) : read (.object c.fields) = .ok c := by
  have given := field?_fields c []
  rw [List.append_nil] at given
  exact read_ok_iff.2 ⟨c.fields, rfl, given⟩

end Command

end CompileService
