import PlanGuard.Pattern.Compile
import PlanGuard.Proofs.Gate.Verdict

/-!
# What the sources of a gate decide

A gate is made from sources, and those that do not compile are dropped.  An allow
list of which something is left binds every command, and what was dropped from it
could only have let more through.  Of a list of which nothing is left, nothing
remains either: the gate is that of no allow list, and lets everything through
that it does not deny.
-/

namespace PlanGuard

namespace Gate

variable {compile : String → Option Pattern} {allow deny : List String}

theorem mem_allow_ofSources {pattern : Pattern} :
    pattern ∈ (ofSources compile allow deny).allow ↔
      ∃ source ∈ allow, compile source = some pattern :=
  List.mem_filterMap

theorem allow_ofSources_ne_nil
    (active : ∃ source ∈ allow, ∃ pattern, compile source = some pattern) :
    (ofSources compile allow deny).allow ≠ [] := by
  obtain ⟨source, listed, pattern, compiled⟩ := active
  exact List.ne_nil_of_mem (mem_allow_ofSources.mpr ⟨source, listed, compiled⟩)

/-- Where something compiles, a command that is permitted matches some of it. -/
theorem Permits.matches_source
    (active : ∃ source ∈ allow, ∃ pattern, compile source = some pattern)
    {command : Command} (permits : (ofSources compile allow deny).Permits command) :
    ∃ source ∈ allow, ∃ pattern, compile source = some pattern ∧
      pattern.accepts command.render = true := by
  obtain ⟨pattern, inside, matched⟩ := permits.allowed (allow_ofSources_ne_nil active)
  obtain ⟨source, listed, compiled⟩ := mem_allow_ofSources.mp inside
  exact ⟨source, listed, pattern, compiled, matched⟩

/--
Where something compiles, a command that is permitted would also be if the sources
that were dropped from the allow list stood for patterns.
-/
theorem Permits.of_reading
    (active : ∃ source ∈ allow, ∃ pattern, compile source = some pattern)
    {reading : String → Pattern}
    (reads : ∀ source pattern, compile source = some pattern → reading source = pattern)
    {command : Command} (permits : (ofSources compile allow deny).Permits command) :
    Gate.Permits ⟨allow.map reading, deny.filterMap compile⟩ command where
  named := permits.named
  inked := permits.inked
  whole := permits.whole
  plain := permits.plain
  undenied := permits.undenied
  allowed := by
    intro _
    obtain ⟨source, listed, pattern, compiled, matched⟩ := permits.matches_source active
    refine ⟨reading source, List.mem_map_of_mem listed, ?_⟩
    rw [reads source pattern compiled]
    exact matched

/--
What an allow list decides, whatever the patterns mean.  If some source in it
compiles, every command of a plan that passes matches a pattern of the list that
compiles, and the plan would pass as well if the others stood for patterns of any
kind.  If none compiles, the gate is the one without an allow list.
-/
theorem ofSources_allow_decides (compile : String → Option Pattern)
    (allow deny : List String) :
    ((∃ source ∈ allow, ∃ pattern, compile source = some pattern) →
      ∀ plan, (ofSources compile allow deny).violation? plan = none →
        (∀ command ∈ plan.commands,
          ∃ source ∈ allow, ∃ pattern, compile source = some pattern ∧
            pattern.accepts command.render = true) ∧
        ∀ reading : String → Pattern,
          (∀ source pattern, compile source = some pattern →
            reading source = pattern) →
          Gate.violation? ⟨allow.map reading, deny.filterMap compile⟩ plan = none) ∧
    ((∀ source ∈ allow, compile source = none) →
      ofSources compile allow deny = ofSources compile [] deny) := by
  constructor
  · intro active plan passed
    have permitted := violation?_eq_none_iff.mp passed
    constructor
    · intro command member
      exact (permitted command member).matches_source active
    · intro reading reads
      refine violation?_eq_none_iff.mpr ?_
      intro command member
      exact (permitted command member).of_reading active reads
  · intro dropped
    have nothing : allow.filterMap compile = [] := List.filterMap_eq_nil_iff.mpr dropped
    unfold ofSources
    rw [nothing]
    rfl

/-- A list with a source that does not compile still binds by the other one. -/
theorem uptime_matches_source :
    ∃ source ∈ ["(unclosed", "^uptime$"], ∃ pattern,
      Pattern.compile source = some pattern ∧ pattern.accepts "uptime" = true := by
  have active : ∃ source ∈ ["(unclosed", "^uptime$"], ∃ pattern,
      Pattern.compile source = some pattern :=
    ⟨"^uptime$", by simp, Option.isSome_iff_exists.mp (by decide +kernel)⟩
  have passed : (Gate.compile ["(unclosed", "^uptime$"] []).violation?
      { commands := [{ argv := ["uptime"] }] } = none := by
    decide +kernel
  exact ((ofSources_allow_decides Pattern.compile ["(unclosed", "^uptime$"] []).1
    active _ passed).1 { argv := ["uptime"] } List.mem_cons_self

/--
An allow list is not always binding: one whose only source does not compile lets
a command through that matches nothing in it.
-/
theorem unreadable_allow_list_fails_open :
    ¬ ∀ (allow deny : List String) (plan : Plan), allow ≠ [] →
      (Gate.compile allow deny).violation? plan = none →
      ∀ command ∈ plan.commands, ∃ source ∈ allow, ∃ pattern,
        Pattern.compile source = some pattern ∧
          pattern.accepts command.render = true := by
  intro binding
  have unreadable : Pattern.compile "(unclosed" = none :=
    Option.isNone_iff_eq_none.mp (by decide +kernel)
  have passed : (Gate.compile ["(unclosed"] []).violation?
      { commands := [{ argv := ["uptime"] }] } = none := by
    decide +kernel
  obtain ⟨source, listed, pattern, compiled, -⟩ :=
    binding ["(unclosed"] [] _ (List.cons_ne_nil _ _) passed _ List.mem_cons_self
  rw [List.mem_singleton.mp listed, unreadable] at compiled
  cases compiled

end Gate

end PlanGuard
