import PlanGuard.Proofs.Gate.Verdict
import PlanGuard.Proofs.Retry.Chronicle
import PlanGuard.Proofs.Retry.Events

/-!
# No fix runs unvetted

Whatever the planner proposes, the runner is handed only commands of a plan that
the gate has let through as a whole.  The statements are about what the planner
and the runner have noted themselves.
-/

namespace PlanGuard

theorem Advice.answer_of_resolve {limit : Duration} {advice : Advice} {plan : Plan}
    (resolved : advice.resolve limit = .ok plan) : advice.answer = .ok plan := by
  unfold resolve at resolved
  dsimp only at resolved
  split at resolved
  next => cases resolved
  next =>
    split at resolved
    next => cases resolved
    next delay =>
      split at resolved
      next => cases resolved
      next =>
        split at resolved
        next answer answered => rw [answered, Except.ok.inj resolved]
        next => cases resolved

theorem exists_of_flatMap_eq_append_cons {α β : Type} {f : α → List β}
    {items : List α} {before after : List β} {found : β}
    (split : items.flatMap f = before ++ found :: after) :
    ∃ earlier item later front back,
      items = earlier ++ item :: later ∧ f item = front ++ found :: back ∧
        before = earlier.flatMap f ++ front ∧ after = back ++ later.flatMap f := by
  induction items generalizing before with
  | nil => simp at split
  | cons first rest ih =>
      rw [List.flatMap_cons] at split
      have within :
          (∃ front, before = f first ++ front ∧ rest.flatMap f = front ++ found :: after) ∨
            ∃ back, f first = before ++ found :: back ∧ after = back ++ rest.flatMap f := by
        rcases List.append_eq_append_iff.mp split with ⟨front, split⟩ | ⟨back, split⟩
        · exact .inl ⟨front, split⟩
        · cases back with
          | nil => exact .inl ⟨[], by simpa using split.1.symm, split.2.symm⟩
          | cons head back =>
              obtain ⟨same, rest_eq⟩ := List.cons.inj split.2
              exact .inr ⟨back, same ▸ split.1, rest_eq⟩
      rcases within with ⟨front, before_eq, rest_eq⟩ | ⟨back, first_eq, after_eq⟩
      · obtain ⟨earlier, item, later, inner, back, items_eq, item_eq, front_eq, after_eq⟩ :=
          ih rest_eq
        refine ⟨first :: earlier, item, later, inner, back, ?_, item_eq, ?_, after_eq⟩
        · rw [items_eq]
          rfl
        · rw [before_eq, front_eq, List.flatMap_cons, List.append_assoc]
      · exact ⟨[], first, rest, before, back, rfl, first_eq, rfl, after_eq⟩

namespace Retry

variable {σ : Type}

def Vets (retry : Retry σ) (plan : Plan) : Prop :=
  ∀ command ∈ plan.kept retry.settings.maxCommands, retry.gate.Permits command

theorem vets_iff {retry : Retry σ} {plan : Plan} :
    retry.Vets plan ↔
      retry.gate.violation? (plan.truncate retry.settings.maxCommands) = none := by
  unfold Vets
  rw [Gate.violation?_eq_none_iff, Plan.commands_truncate]

theorem not_vets_of_exists {retry : Retry σ} {plan : Plan}
    (objectionable : ∃ command ∈ plan.kept retry.settings.maxCommands,
      ¬ retry.gate.Permits command) : ¬ retry.Vets plan := by
  obtain ⟨command, kept, refused⟩ := objectionable
  exact fun vetted => refused (vetted command kept)

/-- What a fix hands to the runner are commands of a plan that was let through. -/
theorem Outcome.vetted {retry : Retry σ} {advice : Advice} {fate : Fate}
    (outcome : retry.Outcome advice fate) {exchange : Exchange}
    (member : exchange ∈ fate.exchanges) :
    ∃ plan command,
      advice.resolve retry.settings.fixTimeout = .ok plan ∧ retry.Vets plan ∧
        command ∈ plan.kept retry.settings.maxCommands ∧
        exchange.request = retry.executor.requestFor command := by
  cases outcome with
  | unavailable => cases member
  | rejected => cases member
  | @ran plan answered nonempty permitted cancelled state =>
      obtain ⟨command, inside, asked⟩ :=
        Executor.request_of_mem_exchanges_runFrom _ _ _ member
      rw [Plan.commands_truncate] at inside
      exact ⟨plan, command, answered, vets_iff.mpr permitted, inside, asked⟩

theorem Outcome.idle {retry : Retry σ} {advice : Advice} {fate : Fate}
    (outcome : retry.Outcome advice fate) {plan : Plan}
    (answered : advice.answer = .ok plan) (unvetted : ¬ retry.Vets plan) :
    fate.exchanges = [] ∧ fate.fix? = none := by
  cases outcome with
  | unavailable => exact ⟨rfl, rfl⟩
  | rejected => exact ⟨rfl, rfl⟩
  | ran resolved nonempty permitted cancelled state =>
      have same := Advice.answer_of_resolve resolved
      rw [answered, Except.ok.injEq] at same
      exact absurd (vets_iff.mpr (same ▸ permitted)) unvetted

/-- The events of a run are those of its tries, so each belongs to one try. -/
theorem exists_try_of_events (retry : Retry σ) {journal : Journal}
    {cancelled : Bool} {state : σ} {before after : List Event} {event : Event}
    (split : retry.events journal cancelled state = before ++ event :: after) :
    ∃ earlier tried later front back,
      (retry.run journal cancelled state).tries = earlier ++ tried :: later ∧
        tried.Fits retry (journal.replay earlier) ∧
        tried.events = front ++ event :: back ∧
        before = earlier.flatMap Try.events ++ front ∧
        after = back ++ later.flatMap Try.events := by
  rw [events_eq] at split
  obtain ⟨earlier, tried, later, front, back, tries, inside, before_eq, after_eq⟩ :=
    exists_of_flatMap_eq_append_cons split
  have chronicle := (retry.run_chronicle journal cancelled state).1
  rw [tries] at chronicle
  exact ⟨earlier, tried, later, front, back, tries, chronicle.fits, inside, before_eq,
    after_eq⟩

/--
No fix runs unvetted, and a plan is let through as a whole or not at all.
Whatever reaches the runner comes after a question, with nothing but requests in
between, whose answer came in time; it is for one of the commands that the limit
leaves of that answer, and the gate permits all of these.  After an answer with a
command that the gate does not permit no request comes before the next question,
and to pursue such an answer, with whatever journal, leaves the journal and the
requests as they were.
-/
theorem run_requests_vetted (retry : Retry σ) (journal : Journal) (cancelled : Bool)
    (state : σ) :
    (∀ before exchange after,
      retry.events journal cancelled state = before ++ .requested exchange :: after →
      ∃ earlier question advice between plan command,
        before = earlier ++ .asked question advice :: between ∧
        (∀ event ∈ between, ∃ other, event = .requested other) ∧
        advice.resolve retry.settings.fixTimeout = .ok plan ∧
        retry.gate.violation? (plan.truncate retry.settings.maxCommands) = none ∧
        (∀ kept ∈ plan.kept retry.settings.maxCommands, retry.gate.Permits kept) ∧
        command ∈ plan.kept retry.settings.maxCommands ∧
        exchange.request.argv = retry.executor.settings.prepare command) ∧
    (∀ before question advice after plan,
      retry.events journal cancelled state = before ++ .asked question advice :: after →
      advice.answer = .ok plan →
      (∃ command ∈ plan.kept retry.settings.maxCommands,
        ¬ retry.gate.Permits command) →
      ∀ exchange, after.head? ≠ some (.requested exchange)) ∧
    (∀ attempt position entry plan (run : RetryRun σ),
      run.journal.entries[position]? = some entry →
      (retry.planner (entry.question attempt) run.state).1.answer = .ok plan →
      (∃ command ∈ plan.kept retry.settings.maxCommands,
        ¬ retry.gate.Permits command) →
      (retry.fixOne attempt position run).journal = run.journal ∧
        Retry.requests (retry.fixOne attempt position run) = Retry.requests run) := by
  refine ⟨?_, ?_, ?_⟩
  · intro before exchange after split
    obtain ⟨earlier, tried, later, front, back, -, fits, inside, before_eq, -⟩ :=
      retry.exists_try_of_events split
    obtain ⟨member, between, front_eq, requests⟩ := Try.requested_of_events inside
    obtain ⟨plan, command, resolved, vetted, kept, request⟩ :=
      fits.outcome.vetted member
    refine ⟨earlier.flatMap Try.events, tried.question, tried.advice, between, plan,
      command, ?_, requests, resolved, vets_iff.mp vetted, vetted, kept, ?_⟩
    · rw [before_eq, front_eq]
    · rw [request]
      rfl
  · intro before question advice after plan split answered objectionable exchange
    obtain ⟨earlier, tried, later, front, back, -, fits, inside, -, after_eq⟩ :=
      retry.exists_try_of_events split
    obtain ⟨-, -, advised, back_eq⟩ := Try.asked_of_events inside
    obtain ⟨nothing, -⟩ :=
      fits.outcome.idle (advised ▸ answered) (not_vets_of_exists objectionable)
    rw [after_eq, back_eq, nothing]
    exact Try.head?_events_ne_requested later exchange
  · intro attempt position entry plan run found answered objectionable
    obtain ⟨tried, -, -, -, advice, outcome, tries, absorbed⟩ :=
      retry.fixOne_of_found attempt found
    obtain ⟨nothing, unrun⟩ :=
      outcome.idle (advice ▸ answered) (not_vets_of_exists objectionable)
    constructor
    · rw [absorbed]
      unfold Journal.absorb
      rw [unrun]
    · unfold Retry.requests
      rw [tries, List.flatMap_append, List.flatMap_singleton, nothing]
      exact List.append_nil _

/-- The sample hands something to the runner, and the gate permits it. -/
theorem sample_vetted :
    ∃ exchange command,
      .requested exchange ∈ sample.events sampleJournal false () ∧
        sample.gate.Permits command ∧
        exchange.request.argv = sample.executor.settings.prepare command := by
  have handed : ∃ exchange,
      exchange ∈ (sample.run sampleJournal false ()).tries.flatMap (·.fate.exchanges) := by
    apply List.exists_mem_of_length_pos
    decide +kernel
  obtain ⟨exchange, member⟩ := handed
  obtain ⟨tried, among, inside⟩ := List.mem_flatMap.mp member
  have noted : .requested exchange ∈ sample.events sampleJournal false () := by
    rw [events_eq]
    exact List.mem_flatMap.mpr
      ⟨tried, among, List.mem_cons_of_mem _ (List.mem_map_of_mem inside)⟩
  obtain ⟨before, after, split⟩ := List.append_of_mem noted
  obtain ⟨-, -, -, -, plan, command, -, -, -, -, vetted, kept, argv⟩ :=
    (run_requests_vetted sample sampleJournal false ()).1 before exchange after split
  exact ⟨exchange, command, noted, vetted command kept, argv⟩

end Retry

end PlanGuard
