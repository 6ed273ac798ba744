import Conduit.Arena.Basic
import Conduit.Settings.Error
import Conduit.Text.Blank

/-!
# Settings

What can be set about workers, chains and attribute registries. Settings are checked as a whole: the
first field with a value that it may not have, in the order of `Settings.validate`, is reported.
-/

namespace Conduit

/-- The settings of workers. -/
structure WorkerSettings where
  /-- The number of threads of a pool. -/
  threads : Nat := 4
  /-- The names of a pool's threads are this text, a hyphen and their number. -/
  namePrefix : String := "spindle-worker"
  /-- The number of jobs that may wait; zero stands for no bound. -/
  queueCapacity : Nat := 0
  /-- The timeout of a transaction in milliseconds; zero stands for none. -/
  transactionTimeoutMs : Nat := 0
  /-- See `ArenaLimits.minClassBytes`. -/
  arenaMinClassBytes : Nat := 64
  /-- See `ArenaLimits.maxClassBytes`. -/
  arenaMaxClassBytes : Nat := 65536
  /-- See `ArenaLimits.maxBuffersPerClass`. -/
  arenaMaxBuffersPerClass : Nat := 16
  /-- The number of objects that a cache keeps of one type. -/
  objectCacheMaxPerType : Nat := 32
  deriving DecidableEq, Repr, Inhabited

/-- The settings of chains. -/
structure ChainSettings where
  /-- How often in a row one stage may ask to be run again. -/
  maxConsecutiveReruns : Nat := 1024
  deriving DecidableEq, Repr, Inhabited

/-- The settings of attribute registries. -/
structure AttributeSettings where
  /-- The number of slots of a registry. -/
  slotLimit : Nat := 65536
  deriving DecidableEq, Repr, Inhabited

/-- All settings. -/
structure Settings where
  /-- The settings of workers. -/
  worker : WorkerSettings := {}
  /-- The settings of chains. -/
  chain : ChainSettings := {}
  /-- The settings of attribute registries. -/
  attributes : AttributeSettings := {}
  deriving DecidableEq, Repr, Inhabited

namespace WorkerSettings

/-- The timeout of a transaction in nanoseconds, if there is one. -/
def transactionTimeout? (settings : WorkerSettings) : Option Nat :=
  if settings.transactionTimeoutMs = 0 then none
  else some (settings.transactionTimeoutMs * 1000000)

/-- The bounds of a worker's arena. -/
def arenaLimits (settings : WorkerSettings) : ArenaLimits where
  minClassBytes := settings.arenaMinClassBytes
  maxClassBytes := settings.arenaMaxClassBytes
  maxBuffersPerClass := settings.arenaMaxBuffersPerClass

/-- Checks the settings of workers. -/
def validate (settings : WorkerSettings) : Except SettingsError Unit := do
  if settings.threads = 0 then
    throw (.invalid .workerThreads .notAtLeastOne)
  if Text.isBlank settings.namePrefix then
    throw (.invalid .workerNamePrefix .blank)
  if settings.arenaMinClassBytes = 0 then
    throw (.invalid .arenaMinClassBytes .notPositive)
  if settings.arenaMaxClassBytes < settings.arenaMinClassBytes then
    throw (.invalid .arenaMaxClassBytes .belowArenaMinimum)
  if Nat.pow 2 30 < settings.arenaMaxClassBytes then
    throw (.invalid .arenaMaxClassBytes .aboveOneGibibyte)

end WorkerSettings

/-- Checks the settings of chains. -/
def ChainSettings.validate (settings : ChainSettings) : Except SettingsError Unit := do
  if settings.maxConsecutiveReruns = 0 then
    throw (.invalid .chainMaxConsecutiveReruns .notAtLeastOne)

/-- Checks the settings of attribute registries. -/
def AttributeSettings.validate (settings : AttributeSettings) : Except SettingsError Unit := do
  if settings.slotLimit = 0 then
    throw (.invalid .attributeSlotLimit .notAtLeastOne)

/-- Checks all settings, section by section. -/
def Settings.validate (settings : Settings) : Except SettingsError Unit := do
  settings.worker.validate
  settings.chain.validate
  settings.attributes.validate

end Conduit
