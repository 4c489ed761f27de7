import FormChain.Decimal.Integer
import FormChain.Keyed
import FormChain.Text.Blank

/-!
# Configuration

The settings that hold for all submissions, and how they are read from the variables of
the environment. A variable that is not set leaves the setting at its usual value; one
that is set must make sense, except for flags, where everything that does not say yes
says no.
-/

namespace FormChain

/-- **The configuration of submissions.** -/
structure Config where
  /-- Whether submissions are cut off after some time, unless they say otherwise. -/
  timeoutEnabled : Bool := false
  /-- After how many seconds. -/
  timeoutSeconds : Nat := 90
  /-- The greatest number of iterations of a loop that does not set its own. -/
  maxLoopIterations : Nat := 1000
  /-- Whether the user is told of a submission that was called off. -/
  notifyOnAbort : Bool := false
  /-- The milliseconds between attempts of an action that does not set its own. -/
  defaultRetryDelay : Nat := 1000
  /-- How often groups may refer to each other in a circle, and how deep forms may launch each
  other, before a run is given up. The program goes on for ever instead; what is true of it is
  true wherever a run is given up. -/
  reach : Nat := 1000
  deriving DecidableEq, Repr

/-- A variable of the environment that makes no sense. -/
structure ConfigError where
  /-- The variable. -/
  setting : String
  /-- What it must be. -/
  demand : String
  deriving DecidableEq, Repr

/-- The wording of the error. -/
def ConfigError.message (e : ConfigError) : String :=
  "invalid value for " ++ e.setting ++ ": " ++ e.demand

namespace Config

/-- The variable for `timeoutEnabled`. -/
def timeoutEnabledVariable : String := "FORMFLOW_TIMEOUT_ENABLED"

/-- The variable for `timeoutSeconds`. -/
def timeoutSecondsVariable : String := "FORMFLOW_TIMEOUT_SECS"

/-- The variable for `maxLoopIterations`. -/
def maxLoopIterationsVariable : String := "FORMFLOW_MAX_LOOP_ITERATIONS"

/-- The variable for `notifyOnAbort`. -/
def notifyOnAbortVariable : String := "FORMFLOW_NOTIFY_ON_ABORT"

/-- The variable for `defaultRetryDelay`. -/
def defaultRetryDelayVariable : String := "FORMFLOW_DEFAULT_RETRY_DELAY_MS"

/-- The variables that the configuration is read from. -/
def environmentNames : List String :=
  [timeoutEnabledVariable, timeoutSecondsVariable, maxLoopIterationsVariable,
    notifyOnAbortVariable, defaultRetryDelayVariable]

/-- The texts that say yes, in lower case. -/
def yesTexts : List String := ["true", "1", "yes"]

/-- Whether a text says yes, blanks and case aside. -/
def saysYes (s : String) : Bool :=
  yesTexts.contains (String.ofList ((Text.trim s.toList).map Char.toLower))

/-- What a whole number of a time must be. -/
def naturalDemand : String := "must be a non-negative integer"

/-- What a number of iterations must be. -/
def positiveDemand : String := "must be a positive integer"

/-- The number in a variable between two bounds, or the usual one where it is not set. -/
def numberOf (env : Keyed String) (name : String) (least greatest usual : Nat)
    (demand : String) : Except ConfigError Nat :=
  match env.get? name with
  | none => .ok usual
  | some s =>
    match Decimal.unsigned? greatest (Text.trim s.toList) with
    | some n => if least ≤ n then .ok n else .error ⟨name, demand⟩
    | none => .error ⟨name, demand⟩

/-- The flag in a variable, or the usual one where it is not set. -/
def flagOf (env : Keyed String) (name : String) (usual : Bool) : Bool :=
  match env.get? name with
  | none => usual
  | some s => saysYes s

/-- **The configuration that the variables of an environment ask for.** -/
def ofEnvironment (env : Keyed String) : Except ConfigError Config := do
  let usual : Config := {}
  let timeoutEnabled := flagOf env timeoutEnabledVariable usual.timeoutEnabled
  let notifyOnAbort := flagOf env notifyOnAbortVariable usual.notifyOnAbort
  let timeoutSeconds ← numberOf env timeoutSecondsVariable 0 Decimal.maxNat64
    usual.timeoutSeconds naturalDemand
  let maxLoopIterations ← numberOf env maxLoopIterationsVariable 1 Decimal.maxNat32
    usual.maxLoopIterations positiveDemand
  let defaultRetryDelay ← numberOf env defaultRetryDelayVariable 0 Decimal.maxNat64
    usual.defaultRetryDelay naturalDemand
  return { timeoutEnabled, timeoutSeconds, maxLoopIterations, notifyOnAbort, defaultRetryDelay }

end Config

end FormChain
