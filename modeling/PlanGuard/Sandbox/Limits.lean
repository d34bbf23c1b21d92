import PlanGuard.Executor
import PlanGuard.Machine.Child
import PlanGuard.Number.Text
import PlanGuard.Time

/-!
# Limits for sandboxed commands

A command may run for so long, and use so much memory and processor time.  Use
is sampled at intervals, and only if one of its limits is set.
-/

namespace PlanGuard.Sandbox

structure Limits where
  /-- The limit for one command in seconds; zero stands for the default. -/
  maxExecutionSeconds : Nat := 30
  maxMemoryMb : Option Nat := none
  maxCpuPercent : Option Number.Binary := none
  pollIntervalMs : Nat := 250
  deriving DecidableEq

namespace Limits

def maxExecution (limits : Limits) : Duration :=
  .ofSeconds (orDefault 30 limits.maxExecutionSeconds)

/-- The time between samples, at least ten milliseconds. -/
def pollInterval (limits : Limits) : Duration :=
  .ofMillis (max limits.pollIntervalMs 10)

def samplesUsage (limits : Limits) : Bool :=
  limits.maxMemoryMb.isSome || limits.maxCpuPercent.isSome

def megabytes (bytes : Nat) : Nat :=
  bytes / 1024 / 1024

def memoryBreach? (limits : Limits) (bytes : Nat) : Option String :=
  match limits.maxMemoryMb with
  | none => none
  | some most =>
      if most < megabytes bytes then
        some s!"memory {megabytes bytes} MB > {most} MB"
      else none

def cpuBreach? (limits : Limits) (percent : Number.Binary) : Option String :=
  match limits.maxCpuPercent with
  | none => none
  | some most =>
      if most.less percent then
        some s!"cpu {percent.onePlace}% > {most.onePlace}%"
      else none

/-- How a sample breaches the limits; memory is looked at first. -/
def breach? (limits : Limits) (usage : Usage) : Option String :=
  (limits.memoryBreach? usage.memoryBytes).or (limits.cpuBreach? usage.cpuPercent)

/-- How a sample of what is used breaches the limits; none is taken unless one is set. -/
def sample? (limits : Limits) (usage : Option Usage) : Option String :=
  if limits.samplesUsage then usage.bind limits.breach? else none

end Limits

end PlanGuard.Sandbox
