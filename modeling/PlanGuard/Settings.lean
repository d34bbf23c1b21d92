import PlanGuard.Record
import PlanGuard.Retry
import PlanGuard.Sandbox.Limits
import PlanGuard.Json.Document

/-!
# Settings

The settings of the whole program, section by section: what each section holds,
how it is read from any source of values, and its JSON form.
-/

namespace PlanGuard

open Json (nat texts ofOption)

def bound32 : Nat := 4294967296

def bound64 : Nat := 18446744073709551616

variable {ν ε : Type}

namespace ExecutorSettings

def fields (source : Source ν ε) : List (Field ν ε ExecutorSettings) :=
  [⟨"timeout_secs", fun value settings => do
      return { settings with timeoutSeconds := ← source.natural bound64 value }⟩,
    ⟨"max_output_bytes", fun value settings => do
      return { settings with maxOutputBytes := ← source.natural bound64 value }⟩,
    ⟨"elevation_command", fun value settings => do
      return { settings with elevation := ← source.optional source.text value }⟩,
    ⟨"fallback_path", fun value settings => do
      return { settings with fallbackPath := ← source.text value }⟩]

def decode (source : Source ν ε) : ν → Except ε ExecutorSettings :=
  source.record (fields source) {}

def toJson (settings : ExecutorSettings) : Json :=
  .object
    [("timeout_secs", nat settings.timeoutSeconds),
      ("max_output_bytes", nat settings.maxOutputBytes),
      ("elevation_command", ofOption .text settings.elevation),
      ("fallback_path", .text settings.fallbackPath)]

end ExecutorSettings

namespace Sandbox.Limits

def fields (source : Source ν ε) : List (Field ν ε Limits) :=
  [⟨"max_execution_secs", fun value limits => do
      return { limits with maxExecutionSeconds := ← source.natural bound64 value }⟩,
    ⟨"max_memory_mb", fun value limits => do
      return { limits with
        maxMemoryMb := ← source.optional (source.natural bound64) value }⟩,
    ⟨"max_cpu_percent", fun value limits => do
      return { limits with maxCpuPercent := ← source.optional source.single value }⟩,
    ⟨"poll_interval_ms", fun value limits => do
      return { limits with pollIntervalMs := ← source.natural bound64 value }⟩]

def decode (source : Source ν ε) : ν → Except ε Limits :=
  source.record (fields source) {}

/-- A percentage; one that is not a finite number has no JSON form. -/
def percentToJson (percent : Number.Binary) : Json :=
  match percent.compact? .single .single with
  | some literal => .number literal
  | none => .null

def toJson (limits : Limits) : Json :=
  .object
    [("max_execution_secs", nat limits.maxExecutionSeconds),
      ("max_memory_mb", ofOption nat limits.maxMemoryMb),
      ("max_cpu_percent", ofOption percentToJson limits.maxCpuPercent),
      ("poll_interval_ms", nat limits.pollIntervalMs)]

end Sandbox.Limits

/-- Where the sandbox keeps its scratch directory, and its limits. -/
structure SandboxSettings where
  /-- The parent of the scratch directory, if not the usual temporary one. -/
  root : Option String := none
  limits : Sandbox.Limits := {}
  deriving DecidableEq

namespace SandboxSettings

def fields (source : Source ν ε) : List (Field ν ε SandboxSettings) :=
  [⟨"root", fun value settings => do
      return { settings with root := ← source.optional source.text value }⟩,
    ⟨"limits", fun value settings => do
      return { settings with limits := ← Sandbox.Limits.decode source value }⟩]

def decode (source : Source ν ε) : ν → Except ε SandboxSettings :=
  source.record (fields source) {}

def toJson (settings : SandboxSettings) : Json :=
  .object
    [("root", ofOption .text settings.root),
      ("limits", settings.limits.toJson)]

end SandboxSettings

structure PolicySettings where
  allow : List String := []
  deny : List String := []
  deriving DecidableEq

namespace PolicySettings

def fields (source : Source ν ε) : List (Field ν ε PolicySettings) :=
  [⟨"allow", fun value settings => do
      return { settings with allow := ← source.texts value }⟩,
    ⟨"deny", fun value settings => do
      return { settings with deny := ← source.texts value }⟩]

def decode (source : Source ν ε) : ν → Except ε PolicySettings :=
  source.record (fields source) {}

def toJson (settings : PolicySettings) : Json :=
  .object [("allow", texts settings.allow), ("deny", texts settings.deny)]

end PolicySettings

namespace RetrySettings

def fields (source : Source ν ε) : List (Field ν ε RetrySettings) :=
  [⟨"enabled", fun value settings => do
      return { settings with enabled := ← source.flag value }⟩,
    ⟨"max_retries", fun value settings => do
      return { settings with maxRetries := ← source.natural bound32 value }⟩,
    ⟨"max_commands", fun value settings => do
      return { settings with maxCommands := ← source.natural bound64 value }⟩,
    ⟨"fix_timeout_secs", fun value settings => do
      return { settings with fixTimeoutSeconds := ← source.natural bound64 value }⟩]

def decode (source : Source ν ε) : ν → Except ε RetrySettings :=
  source.record (fields source) {}

def toJson (settings : RetrySettings) : Json :=
  .object
    [("enabled", .bool settings.enabled),
      ("max_retries", nat settings.maxRetries),
      ("max_commands", nat settings.maxCommands),
      ("fix_timeout_secs", nat settings.fixTimeoutSeconds)]

end RetrySettings

structure Settings where
  executor : ExecutorSettings := {}
  sandbox : SandboxSettings := {}
  policy : PolicySettings := {}
  retry : RetrySettings := {}
  deriving DecidableEq

namespace Settings

def fields (source : Source ν ε) : List (Field ν ε Settings) :=
  [⟨"executor", fun value settings => do
      return { settings with executor := ← ExecutorSettings.decode source value }⟩,
    ⟨"sandbox", fun value settings => do
      return { settings with sandbox := ← SandboxSettings.decode source value }⟩,
    ⟨"policy", fun value settings => do
      return { settings with policy := ← PolicySettings.decode source value }⟩,
    ⟨"retry", fun value settings => do
      return { settings with retry := ← RetrySettings.decode source value }⟩]

def decode (source : Source ν ε) : ν → Except ε Settings :=
  source.record (fields source) {}

def toJson (settings : Settings) : Json :=
  .object
    [("executor", settings.executor.toJson),
      ("sandbox", settings.sandbox.toJson),
      ("policy", settings.policy.toJson),
      ("retry", settings.retry.toJson)]

end Settings

end PlanGuard
