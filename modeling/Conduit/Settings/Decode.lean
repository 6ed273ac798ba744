import Conduit.Settings.Basic
import Conduit.Toml.Value

/-!
# Settings in TOML

Settings are written as a document with the tables `worker`, `chain` and `attributes`. A key that is
missing keeps its default, and an unknown key or a value of the wrong kind or range spoils the
document. A section may also be written as an array, which gives the fields in their order.
-/

namespace Conduit

/-- How a value for a field changes a record; a value that the field cannot have gives nothing. -/
abbrev FieldReader (σ : Type) := Toml.Value → σ → Option σ

namespace FieldReader

/-- A field that holds a number below a bound. -/
def number {σ : Type} (bound : Nat) (put : Nat → σ → σ) : FieldReader σ
  | .integer n, acc => if 0 ≤ n ∧ n < bound then some (put n.toNat acc) else none
  | _, _ => none

/-- A field that holds a text. -/
def text {σ : Type} (put : String → σ → σ) : FieldReader σ
  | .string s, acc => some (put s acc)
  | _, _ => none

end FieldReader

/-- How a record is read: its value without any input, and its fields in order. -/
structure Section (σ : Type) where
  /-- The record without any input. -/
  start : σ
  /-- The fields by key. -/
  fields : List (String × FieldReader σ)

namespace Section

/-- Reads a record from keys and values. -/
def ofEntries {σ : Type} (s : Section σ) (entries : Toml.Entries) : Option σ :=
  entries.foldlM (fun acc e ↦ do (← s.fields.lookup e.1) e.2 acc) s.start

/-- Reads a record from values alone, in the order of its fields; surplus values are left out. -/
def ofItems {σ : Type} (s : Section σ) (items : List Toml.Value) : Option σ :=
  (s.fields.zip items).foldlM (fun acc p ↦ p.1.2 p.2 acc) s.start

/-- Reads a record from a table or an array. -/
def ofValue {σ : Type} (s : Section σ) : Toml.Value → Option σ
  | .table _ entries => s.ofEntries entries
  | .array _ items => s.ofItems items
  | _ => none

end Section

/-- A field that holds a record. -/
def FieldReader.record {σ τ : Type} (s : Section τ) (put : τ → σ → σ) : FieldReader σ
  | value, acc => (put · acc) <$> s.ofValue value

/-- The fields of the worker settings. -/
def WorkerSettings.section : Section WorkerSettings where
  start := {}
  fields :=
    [("threads", .number UInt64.size fun n s ↦ { s with threads := n }),
      ("name_prefix", .text fun t s ↦ { s with namePrefix := t }),
      ("queue_capacity", .number UInt64.size fun n s ↦ { s with queueCapacity := n }),
      ("transaction_timeout_ms", .number UInt64.size fun n s ↦ { s with transactionTimeoutMs := n }),
      ("arena_min_class_bytes", .number UInt64.size fun n s ↦ { s with arenaMinClassBytes := n }),
      ("arena_max_class_bytes", .number UInt64.size fun n s ↦ { s with arenaMaxClassBytes := n }),
      ("arena_max_buffers_per_class",
        .number UInt64.size fun n s ↦ { s with arenaMaxBuffersPerClass := n }),
      ("object_cache_max_per_type",
        .number UInt64.size fun n s ↦ { s with objectCacheMaxPerType := n })]

/-- The fields of the chain settings. -/
def ChainSettings.section : Section ChainSettings where
  start := {}
  fields :=
    [("max_consecutive_reruns", .number UInt32.size fun n s ↦ { s with maxConsecutiveReruns := n })]

/-- The fields of the attribute settings. -/
def AttributeSettings.section : Section AttributeSettings where
  start := {}
  fields := [("slot_limit", .number UInt64.size fun n s ↦ { s with slotLimit := n })]

/-- The sections of the settings. -/
def Settings.section : Section Settings where
  start := {}
  fields :=
    [("worker", .record WorkerSettings.section fun w s ↦ { s with worker := w }),
      ("chain", .record ChainSettings.section fun c s ↦ { s with chain := c }),
      ("attributes", .record AttributeSettings.section fun a s ↦ { s with attributes := a })]

/-- The settings that a document's entries give, when these have the right form and values. -/
def Settings.ofEntries (entries : Toml.Entries) : Except SettingsError Settings := do
  let some settings := Settings.section.ofEntries entries | throw .parse
  settings.validate
  return settings

/-- The settings that a document gives which is read by a parser. -/
def Settings.ofToml (parse? : String → Option Toml.Entries) (document : String) :
    Except SettingsError Settings := do
  let some entries := parse? document | throw .parse
  Settings.ofEntries entries

end Conduit
