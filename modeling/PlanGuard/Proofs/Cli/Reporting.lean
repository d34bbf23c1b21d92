import PlanGuard.Proofs.Cli.Agreement
import PlanGuard.Proofs.Retry.Attempts
import PlanGuard.Proofs.Retry.Merging

/-!
# What is reported of a run

`Reports` says what a report is: an entry for each command of the plan, in the order
of the plan, shown as lines or as a document, and a code that tells whether every
entry is without a failure.  A retry keeps the entries of the first pass in their
places, so the report is about the commands of the plan whether or not there was one.
A run whose table of fixes cannot be read after the first pass ends with a complaint
and no report.
-/

namespace PlanGuard

/-- A retry keeps every entry at its position, with its number and its argv. -/
theorem Retry.run_keeps {σ : Type} (retry : Retry σ) {journal : Journal}
    (counted : journal.Counted) (cancelled : Bool) (state : σ) :
    let after := (retry.run journal cancelled state).journal
    after.Counted ∧ after.entries.length = journal.entries.length ∧
      ∀ (position : Nat) (before : Entry), journal.entries[position]? = some before →
        ∃ entry : Entry, after.entries[position]? = some entry ∧
          entry.index = before.index ∧ entry.argv = before.argv := by
  rw [run_eq_reached]
  refine ⟨retry.counted_reached journal cancelled state counted _,
    retry.length_reached journal cancelled state _, ?_⟩
  intro position before found
  obtain ⟨chronicle, written⟩ :=
    retry.reached_chronicle journal cancelled state retry.allowed
  dsimp only
  rw [written, Journal.getElem?_replay journal chronicle.counted, found,
    Option.map_some, Entry.foldl_afterFix_frame]
  exact ⟨_, rfl, rfl, rfl⟩

namespace Cli

variable {σ : Type}

/-! ## Reports -/

def statusLine (entry : Entry) : String :=
  match entry.failure with
  | none =>
      let line := entry.commandLine
      let millis := entry.elapsed.toMillis
      s!"[ok]   {line} ({millis} ms)"
  | some failure => "[fail] " ++ entry.commandLine ++ ": " ++ failure.message

/-- A command has one line for how it has ended, and may have one more. -/
theorem entryLines_eq (entry : Entry) :
    Report.entryLines entry =
      statusLine entry :: if entry.truncated then ["       output truncated"] else [] :=
  rfl

/-- The status line begins with the mark of success exactly if there is no failure. -/
theorem ok_prefix_statusLine_iff (entry : Entry) :
    "[ok]   ".toList <+: (statusLine entry).toList ↔ entry.failure = none := by
  unfold statusLine
  cases entry.failure with
  | none =>
      refine iff_of_true ?_ rfl
      simp only [String.toList_append, List.append_assoc]
      exact List.prefix_append _ _
  | some failure => simp [String.toList_append]

/-- The document of an entry tells of no error exactly if there is no failure. -/
theorem lookup_error_toJson (entry : Entry) :
    ∃ members, entry.toJson = .object members ∧
      (members.lookup "error" = some .null ↔ entry.failure = none) := by
  refine ⟨_, rfl, ?_⟩
  change some (Json.ofOption Failure.toJson entry.failure) = some .null ↔ _
  cases entry.failure with
  | none => exact iff_of_true rfl rfl
  | some failure => simp [Json.ofOption, Failure.toJson]

theorem ofLines_cons (line : String) (rest : List String) :
    ofLines (line :: rest) = line ++ "\n" ++ ofLines rest := by
  simp [ofLines]

def shownLive (options : RunOptions) (plan : Plan) (course : Course σ) : String :=
  if options.json then ""
  else ofLines (Report.opening plan) ++
    (Writer.lines {} (if !(options.quiet || options.json) then course.lines else [])).written

/--
A report about a plan that was run: what it shows of a journal, and the code beside
it.
-/
structure Reports (settings : Settings) (options : RunOptions) (plan : Plan)
    (shown : String) (journal : Journal) (outcome : Outcome) : Prop where
  length : journal.entries.length = plan.commands.length
  /-- The entry at a position is about the command there. -/
  about : ∀ (position : Nat) (command : Command),
    plan.commands[position]? = some command →
    ∃ entry : Entry, journal.entries[position]? = some entry ∧
      entry.index = position ∧ entry.argv = settings.executor.prepare command
  code : outcome.code = 0 ↔ ∀ entry ∈ journal.entries, entry.failure = none
  /-- As lines: what was shown before, then a status line for each entry. -/
  lines : options.json = false → ∃ rest,
    outcome.stdout =
      shown ++
        ofLines
          (("" :: journal.entries.flatMap fun entry =>
            statusLine entry ::
              if entry.truncated then ["       output truncated"] else []) ++ rest)
  marks : ∀ entry ∈ journal.entries,
    "[ok]   ".toList <+: (statusLine entry).toList ↔ entry.failure = none
  /-- As a document: an item for each entry. -/
  document : options.json = true → ∃ members results,
    outcome.stdout = (Json.object members).pretty ++ "\n" ∧
      members.lookup "results" = some (.object results) ∧
      results.lookup "items" = some (.array (journal.entries.map Entry.toJson))
  errors : ∀ entry ∈ journal.entries, ∃ members,
    entry.toJson = .object members ∧
      (members.lookup "error" = some .null ↔ entry.failure = none)

theorem entries_firstPass (surroundings : Surroundings σ) (settings : Settings)
    (options : RunOptions) {plan : Plan}
    (permitted : (gateOf settings).violation? plan = none) (state : σ) :
    let course := firstPass surroundings settings options plan state
    course.entries.length = plan.commands.length ∧
      ∀ (position : Nat) (command : Command), plan.commands[position]? = some command →
        ∃ entry : Entry, course.entries[position]? = some entry ∧
          entry.index = position ∧ entry.argv = settings.executor.prepare command := by
  refine ⟨Executor.length_entries_runFrom _ _ _ _ _ _ _, ?_⟩
  intro position command found
  obtain ⟨entry, stands, here, about⟩ :=
    (executorOf surroundings settings).getElem?_entries_runFrom
      (runnerOf surroundings settings options) (!(options.quiet || options.json))
      (Gate.named_of_violation?_eq_none permitted) 0 false state found
  exact ⟨entry, stands, by omega, about⟩

theorem reports (settings : Settings) (options : RunOptions) {plan : Plan}
    (shown : String) {journal : Journal} (retry : Option RetryReport)
    (counted : journal.Counted) (length : journal.entries.length = plan.commands.length)
    (about : ∀ (position : Nat) (command : Command),
      plan.commands[position]? = some command →
      ∃ entry : Entry, journal.entries[position]? = some entry ∧
        entry.index = position ∧ entry.argv = settings.executor.prepare command) :
    Reports settings options plan shown journal
      (report options plan shown journal retry) where
  length := length
  about := about
  code := by
    rw [← counted.isSuccess_iff]
    unfold report
    cases journal.isSuccess <;> simp
  lines := by
    intro plain
    unfold report Report.lines
    simp only [plain, Bool.false_eq_true, if_false]
    refine ⟨journal.audit.map Report.fixLine ++ (retry.toList.map Report.retryLine ++
      [s!"{journal.failed} of {journal.entries.length} command(s) failed"]), ?_⟩
    rw [show Report.entryLines = _ from funext entryLines_eq]
    simp only [List.append_assoc]
    rfl
  marks := fun entry _ => ok_prefix_statusLine_iff entry
  document := by
    intro json
    unfold report
    simp only [json, if_true]
    exact ⟨_, _, rfl, rfl, rfl⟩
  errors := fun entry _ => lookup_error_toJson entry

/-! ## The retry after the first pass -/

/-- The table of fixes, where one is given and retries are on, can be read in a state. -/
def TableReadable (surroundings : Surroundings σ) (settings : Settings)
    (options : RunOptions) (state : σ) : Prop :=
  ∀ path, options.fixes = some path → settings.retry.isActive = true →
    ∃ table, readFixes surroundings path state = .ok table

/-- With a readable table there is a retry of the first pass, or none is asked for. -/
theorem retryAfter_of_readable {surroundings : Surroundings σ} {settings : Settings}
    {options : RunOptions} {course : Course σ}
    (readable : TableReadable surroundings settings options course.state)
    (executor : Executor) (runner : Runner σ) :
    retryAfter surroundings settings options executor runner course = .ok none ∨
      ∃ retry : Retry σ,
        retryAfter surroundings settings options executor runner course =
          .ok (some (retry.run course.journal course.cancelled course.state)) := by
  unfold retryAfter
  cases asked : options.fixes with
  | none => exact .inl rfl
  | some path =>
      dsimp only
      cases active : settings.retry.isActive with
      | false => exact .inl rfl
      | true =>
          obtain ⟨table, read⟩ := readable path asked active
          rw [if_pos rfl, read]
          exact .inr ⟨_, rfl⟩

theorem retryAfter_of_unreadable {surroundings : Surroundings σ} {settings : Settings}
    {options : RunOptions} {course : Course σ} {path : String} {complaint : Complaint}
    (asked : options.fixes = some path) (active : settings.retry.isActive = true)
    (unreadable : readFixes surroundings path course.state = .error complaint)
    (executor : Executor) (runner : Runner σ) :
    retryAfter surroundings settings options executor runner course =
      .error complaint := by
  unfold retryAfter
  rw [asked]
  dsimp only
  rw [if_pos active, unreadable]

/-! ## What a run reports -/

/--
A plan that may run is run, whatever the options are.  If no table of fixes is given,
retries are off, or the table can be read after the first pass, then the run ends with
a report about the commands of the plan as it was cut: about what the first pass has
left, or the retry after it if there was one; and the code is 0 exactly when no entry
has a failure.  If the table cannot be read, there is no report: the run ends with the
complaint and the code 1, whatever the commands have done, and shows no more than the
first pass has shown.
-/
theorem run_reports (surroundings : Surroundings σ) {settings : Settings} {given : Plan}
    (permitted : (gateOf settings).violation? (taken settings given) = none)
    (options : RunOptions) (state : σ) :
    let plan := taken settings given
    let record := run surroundings settings options given state
    let course := firstPass surroundings settings options plan state
    let shown := shownLive options plan course
    record.course = some course ∧
      (TableReadable surroundings settings options course.state →
        Reports settings options plan shown
          ((record.retry.map RetryRun.journal).getD course.journal) record.outcome) ∧
      ∀ path complaint, options.fixes = some path → settings.retry.isActive = true →
        readFixes surroundings path course.state = .error complaint →
        record.retry = none ∧
          record.outcome =
            { code := 1, stdout := shown
              stderr := "Error: " ++ complaint.message ++ "\n" } := by
  dsimp only
  have through : run surroundings settings options given state =
      runPermitted surroundings settings options (taken settings given) state := by
    unfold run
    dsimp only
    rw [permitted]
  rw [through]
  obtain ⟨length, about⟩ :=
    entries_firstPass surroundings settings options permitted state
  refine ⟨course_runPermitted _ _ _ _ _, ?_, ?_⟩
  · intro readable
    have counted : (firstPass surroundings settings options (taken settings given)
        state).journal.Counted := Journal.counted_ofEntries _
    have entries : (firstPass surroundings settings options (taken settings given)
        state).journal.entries = (firstPass surroundings settings options
          (taken settings given) state).entries := Journal.entries_ofEntries _
    rw [← entries] at length about
    unfold runPermitted
    dsimp only
    rcases retryAfter_of_readable readable (executorOf surroundings settings)
      (runnerOf surroundings settings options) with none | ⟨retry, made⟩
    · unfold firstPass executorOf at none
      rw [none]
      exact reports settings options _ _ counted length about
    · obtain ⟨recounted, kept, places⟩ := retry.run_keeps counted
        (firstPass surroundings settings options (taken settings given) state).cancelled
        (firstPass surroundings settings options (taken settings given) state).state
      unfold firstPass executorOf at made
      rw [made]
      refine reports settings options _ _ recounted (kept.trans length) ?_
      intro position command found
      obtain ⟨before, stood, here, shows⟩ := about position command found
      obtain ⟨entry, stands, index, argv⟩ := places position before stood
      exact ⟨entry, stands, index.trans here, argv.trans shows⟩
  · intro path complaint asked active unreadable
    have failed := retryAfter_of_unreadable asked active unreadable
      (executorOf surroundings settings) (runnerOf surroundings settings options)
    unfold firstPass executorOf at failed
    unfold runPermitted
    dsimp only
    rw [failed]
    exact ⟨rfl, rfl⟩

def greeting : Surroundings Unit where
  read _ _ := none
  direct _ _ state := ({ output := "hi\n", lines := [⟨.stdout, "hi"⟩] }, state)
  sandboxed _ _ _ _ state := ({ output := "hi\n" }, state)

def greetingPlan : Plan :=
  { commands := [{ argv := ["echo", "hi"] }] }

/-- Surroundings with a table of fixes, in which only `mkdir` succeeds. -/
def mending : Surroundings Unit where
  read _ path :=
    if path = "fixes.json" then
      some "\x7b\"echo hi\": \x7b\"commands\": [\x7b\"command\": [\"mkdir\", \"/x\"]\x7d]\x7d\x7d"
    else none
  direct _ request state :=
    ({ output := "?\n"
       failure := if request.argv.head? = some "mkdir" then none else some (.exit 1) },
      state)
  sandboxed _ _ _ _ state := ({}, state)

/-- The table is read after the first pass, and the retry that it allows is reported. -/
theorem mending_reports :
    (∃ table, readFixes mending "fixes.json" () = .ok table) ∧
      ∃ shown journal,
        (run mending { retry := { enabled := true } }
          { quiet := true, fixes := some "fixes.json" } greetingPlan ()).retry.map
            RetryRun.journal = some journal ∧
        journal.entries = [{ argv := ["echo", "hi"], output := "?\n" }] ∧
        Reports { retry := { enabled := true } }
          { quiet := true, fixes := some "fixes.json" }
          (taken { retry := { enabled := true } } greetingPlan) shown journal
          (run mending { retry := { enabled := true } }
            { quiet := true, fixes := some "fixes.json" } greetingPlan ()).outcome := by
  have readable : ∃ table, readFixes mending "fixes.json" () = .ok table := by
    have parsed : (readFixes mending "fixes.json" ()).isOk = true := by
      decide +kernel
    cases read : readFixes mending "fixes.json" () with
    | error complaint => rw [read] at parsed; cases parsed
    | ok table => exact ⟨table, rfl⟩
  have mended : ((run mending { retry := { enabled := true } }
      { quiet := true, fixes := some "fixes.json" } greetingPlan ()).retry.map
        fun retry => retry.journal.entries) =
      some [{ argv := ["echo", "hi"], output := "?\n" }] := by
    decide +kernel
  have permitted : (gateOf { retry := { enabled := true } }).violation?
      (taken { retry := { enabled := true } } greetingPlan) = none := by
    decide +kernel
  obtain ⟨-, reported, -⟩ :=
    run_reports mending permitted { quiet := true, fixes := some "fixes.json" } ()
  have report := reported fun path asked _ => by
    obtain rfl := Option.some.inj asked
    exact readable
  obtain ⟨retry, came, entries⟩ := Option.map_eq_some_iff.mp mended
  rw [came] at report
  refine ⟨readable, _, retry.journal, ?_, entries, report⟩
  rw [came, Option.map_some]

/--
Not every plan that may run is reported: if retries are on and the table of fixes is
not there, the commands are run and have succeeded, but the run fails without a report.
-/
theorem missing_table_hides_report :
    ¬ ∀ (surroundings : Surroundings Unit) (settings : Settings) (options : RunOptions)
        (given : Plan) (state : Unit),
      (gateOf settings).violation? (taken settings given) = none →
        ∃ shown journal,
          Reports settings options (taken settings given) shown journal
            (run surroundings settings options given state).outcome := by
  intro every
  have outcome : (run greeting { retry := { enabled := true } }
      { quiet := true, fixes := some "none.json" } greetingPlan ()).outcome =
        { code := 1, stderr := "Error: Failed to read fix table none.json\n" } := by
    decide +kernel
  obtain ⟨shown, journal, reported⟩ := every greeting { retry := { enabled := true } }
    { quiet := true, fixes := some "none.json" } greetingPlan () (by decide +kernel)
  obtain ⟨rest, lines⟩ := reported.lines rfl
  rw [outcome] at lines
  -- The report would begin with a line break, and nothing is shown at all.
  have length := congrArg String.length lines
  rw [List.cons_append, ofLines_cons, String.length_append, String.length_append,
    String.length_append] at length
  have shows : "\n".length = 1 := rfl
  have silent : "".length = 0 := rfl
  dsimp only at length
  omega

end Cli

end PlanGuard
