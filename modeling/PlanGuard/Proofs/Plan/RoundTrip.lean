import PlanGuard.Plan.Document
import PlanGuard.Proofs.Json.ReadBack

/-!
# Plans read back

A plan is decoded from the tree of its document as it was, and so it is read back from
its text in either layout.
-/

namespace PlanGuard

open Json

/-! ## Lists -/

section Lists

variable {α : Type} {decode : Decoder α} {write : α → Json}

theorem items_toNodes (inverse : ∀ value, decode (write value).toNode = .ok value)
    (values : List α) : Decode.items decode (toNodes (values.map write)) = .ok values := by
  induction values with
  | nil => rfl
  | cons value rest ih =>
      simp only [List.map_cons, toNodes, Decode.items, inverse, ih, bind, Except.bind, pure,
        Except.pure]

theorem list_toNode (inverse : ∀ value, decode (write value).toNode = .ok value)
    (values : List α) : Decode.list decode (Json.array (values.map write)).toNode =
      .ok values := by
  simp only [toNode, Decode.list, items_toNodes inverse, Closing.check, bind, Except.bind,
    pure, Except.pure]

theorem allReadable_map (readable : ∀ value, (write value).Readable) (values : List α) :
    AllReadable (values.map write) := by
  induction values with
  | nil => trivial
  | cons value rest ih => exact ⟨readable value, ih⟩

end Lists

theorem list_texts (values : List String) :
    Decode.list Decode.text (texts values).toNode = .ok values :=
  list_toNode (fun _ => rfl) values

theorem texts_readable (values : List String) : (texts values).Readable := by
  have each (value : String) : (Json.text value).Readable := trivial
  exact allReadable_map each values

/-! ## Records -/

section Records

variable {ρ : Type} {fields : List (Field Node Fault ρ)} {field : Field Node Fault ρ}

theorem fieldMembers_cons {name : String} {value : Node} {before after : ρ}
    {seen : List String} (known : fields.find? (·.name == name) = some field)
    (unseen : seen.contains name = false) (put : field.put value before = .ok after)
    (rest : List (Option String × Node)) :
    Decode.fieldMembers fields seen ((some name, value) :: rest) before =
      Decode.fieldMembers fields (name :: seen) rest after := by
  simp only [Decode.fieldMembers, known, unseen, put, bind, Except.bind,
    Bool.false_eq_true, if_false]

theorem record_of_members {members : List (Option String × Node)} {default value : ρ}
    (decoded : Decode.fieldMembers fields [] members default = .ok value) :
    Decode.record fields default (.object members .closed) = .ok value := by
  simp only [Decode.record, decoded, Closing.check, bind, Except.bind, pure, Except.pure]

end Records

namespace Command

theorem put_argv (argv : Argv) (command : Command) :
    (do return { command with argv := ← Decode.list Decode.text (texts argv).toNode } :
      Except Fault Command) = .ok { command with argv } := by
  rw [list_texts]
  rfl

theorem decode_toJson (command : Command) : decode command.toJson.toNode = .ok command := by
  obtain ⟨argv, description, needsRoot⟩ := command
  cases description with
  | none =>
      refine record_of_members ?_
      refine (fieldMembers_cons rfl rfl (put_argv argv {}) _).trans ?_
      exact (fieldMembers_cons rfl rfl rfl _).trans rfl
  | some text =>
      refine record_of_members ?_
      refine (fieldMembers_cons rfl rfl (put_argv argv {}) _).trans ?_
      refine (fieldMembers_cons rfl rfl rfl _).trans ?_
      exact (fieldMembers_cons rfl rfl rfl _).trans rfl

theorem toJson_readable (command : Command) : command.toJson.Readable := by
  obtain ⟨argv, description, needsRoot⟩ := command
  cases description with
  | none => exact ⟨texts_readable argv, trivial, trivial⟩
  | some text => exact ⟨texts_readable argv, trivial, trivial, trivial⟩

end Command

namespace Plan

theorem put_commands (commands : List Command) (plan : Plan) :
    (do return { plan with
        commands := ← Decode.list Command.decode
          (Json.array (commands.map Command.toJson)).toNode } : Except Fault Plan) =
      .ok { plan with commands } := by
  rw [list_toNode Command.decode_toJson]
  rfl

theorem put_warnings (warnings : List String) (plan : Plan) :
    (do return { plan with warnings := ← Decode.list Decode.text (texts warnings).toNode } :
      Except Fault Plan) = .ok { plan with warnings } := by
  rw [list_texts]
  rfl

theorem decode_toJson (plan : Plan) : decode plan.toJson.toNode = .ok plan := by
  obtain ⟨summary, commands, warnings⟩ := plan
  refine record_of_members ?_
  cases summary with
  | none =>
      refine (fieldMembers_cons rfl rfl (put_commands commands {}) _).trans ?_
      cases warnings with
      | nil => rfl
      | cons first rest =>
          exact (fieldMembers_cons rfl rfl (put_warnings (first :: rest) _) _).trans rfl
  | some text =>
      refine (fieldMembers_cons rfl rfl rfl _).trans ?_
      refine (fieldMembers_cons rfl rfl (put_commands commands _) _).trans ?_
      cases warnings with
      | nil => rfl
      | cons first rest =>
          exact (fieldMembers_cons rfl rfl (put_warnings (first :: rest) _) _).trans rfl

theorem toJson_readable (plan : Plan) : plan.toJson.Readable := by
  obtain ⟨summary, commands, warnings⟩ := plan
  have readable : AllReadable (commands.map Command.toJson) :=
    allReadable_map Command.toJson_readable commands
  cases summary with
  | none =>
      cases warnings with
      | nil => exact ⟨readable, trivial⟩
      | cons first rest => exact ⟨readable, texts_readable (first :: rest), trivial⟩
  | some text =>
      cases warnings with
      | nil => exact ⟨trivial, readable, trivial⟩
      | cons first rest => exact ⟨trivial, readable, texts_readable (first :: rest), trivial⟩

theorem parse_of_read {plan : Plan} {text : String}
    (readBack : read text = ⟨plan.toJson.toNode, none⟩) : parse text = .ok plan := by
  simp only [parse, decodeText, readBack, decode_toJson, bind, Except.bind, pure, Except.pure]

/--
Every plan is read back from its document, written on one line or laid out; so what was
once read as a plan can be written and read again without any loss.
-/
theorem parse_print :
    (∀ plan : Plan, parse plan.print = .ok plan ∧ parse plan.toJson.pretty = .ok plan) ∧
      ∀ text plan, parse text = .ok plan → parse plan.print = parse text := by
  have readBack (plan : Plan) : parse plan.print = .ok plan :=
    parse_of_read (read_compact plan.toJson plan.toJson_readable)
  constructor
  · intro plan
    exact ⟨readBack plan, parse_of_read (read_pretty plan.toJson plan.toJson_readable)⟩
  · intro text plan parsed
    rw [parsed]
    exact readBack plan

/-- A text with blanks, escapes, members that are no part of a plan, and two defaults. -/
def loose : String :=
  "\x7b \"commands\": [\x7b\"command\": [\"\\u00e9\\ud83d\\ude00\", \"\\u0000\"], \"by\": 1\x7d] \x7d"

theorem loose_parse_print :
    ∃ plan, parse loose = .ok plan ∧ plan.print ≠ loose ∧ parse plan.print = parse loose := by
  let plan : Plan := { commands := [{ argv := ["é😀", "\u0000"] }] }
  have same : (parse loose).toOption = some plan := by decide +kernel
  have parsed : parse loose = .ok plan := by
    cases outcome : parse loose with
    | error fault => rw [outcome] at same; cases same
    | ok read => rw [outcome] at same; exact congrArg Except.ok (Option.some.inj same)
  exact ⟨plan, parsed, by decide +kernel, parse_print.2 loose plan parsed⟩

end Plan

end PlanGuard
