import CallGraph.Failure
/-!
# Settings a run accepts

`Settings.fault?` names what is wrong with settings, if anything is: a run needs room for at least one record in a file,
a depth for a policy that uses one, and some time.
-/

namespace CallGraph.Settings

/-- The first reason to refuse settings. -/
def fault? (s : Settings) : Option Misconfiguration :=
  if s.output.chunkSize = 0 then some .zeroChunkSize
  else if s.analysis.policy.usesDepth && s.analysis.sensitivity = 0 then some (.zeroSensitivity s.analysis.policy)
  else if s.analysis.timeout = 0 then some .zeroTimeout
  else none

/-- The settings, if a run accepts them. -/
def check (s : Settings) : Except Failure Settings :=
  match s.fault? with
  | some fault => .error (.misconfigured fault)
  | none => .ok s

theorem check_eq_ok_iff (s t : Settings) : s.check = .ok t ↔ s.fault? = none ∧ t = s := by
  unfold check
  cases s.fault? <;> simp [eq_comm]

end CallGraph.Settings
