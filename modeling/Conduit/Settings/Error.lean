/-!
# Refused settings

The fields whose values are checked, and the reasons for which settings are refused.
-/

namespace Conduit

/-- A field of the settings that validation can name. -/
inductive SettingsField where
  | workerThreads
  | workerNamePrefix
  | arenaMinClassBytes
  | arenaMaxClassBytes
  | chainMaxConsecutiveReruns
  | attributeSlotLimit
  deriving DecidableEq, Repr

namespace SettingsField

/-- The path of a field: its section, a dot and its key. -/
def path : SettingsField → String
  | workerThreads => "worker.threads"
  | workerNamePrefix => "worker.name_prefix"
  | arenaMinClassBytes => "worker.arena_min_class_bytes"
  | arenaMaxClassBytes => "worker.arena_max_class_bytes"
  | chainMaxConsecutiveReruns => "chain.max_consecutive_reruns"
  | attributeSlotLimit => "attributes.slot_limit"

end SettingsField

/-- What is wrong with a value. -/
inductive SettingsProblem where
  | notAtLeastOne
  | blank
  | notPositive
  | belowArenaMinimum
  | aboveOneGibibyte
  deriving DecidableEq, Repr

namespace SettingsProblem

/-- The wording of a problem. -/
def message : SettingsProblem → String
  | notAtLeastOne => "must be at least 1"
  | blank => "must not be blank"
  | notPositive => "must be greater than zero"
  | belowArenaMinimum => "must not be smaller than arena_min_class_bytes"
  | aboveOneGibibyte => "must not exceed 1 GiB"

end SettingsProblem

/-- Why settings were refused. -/
inductive SettingsError where
  /-- The document is not well formed, or does not have the shape of settings. -/
  | parse
  /-- A field has a value that it may not have. -/
  | invalid (field : SettingsField) (problem : SettingsProblem)
  deriving DecidableEq, Repr

namespace SettingsError

/-- The message of refused settings. -/
def message : SettingsError → String
  | parse => "failed to parse configuration"
  | invalid field problem => "invalid value for `" ++ field.path ++ "`: " ++ problem.message

end SettingsError

end Conduit
