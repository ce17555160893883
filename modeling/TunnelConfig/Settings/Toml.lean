import TunnelConfig.Settings.Basic
import TunnelConfig.Toml.Document
import TunnelConfig.Toml.Writer

/-!
# Settings in TOML documents

Settings are the entries of a document. A setting without an entry has its usual value, and entries
without a meaning do not count. The settings of a section may also be given as an array of values in
their order, of which more than there are settings do not count either.
-/

namespace TunnelConfig

open Toml

/-! ## Reading -/

/-- How the settings of a section, or all settings, are read: a name for each, and how its value
changes the section. -/
abbrev Section (σ : Type) := List (String × (Node → σ → Option σ))

namespace Section

variable {σ : Type}

/-- Reads the settings from entries. -/
def readEntries (es : Entries) : Section σ → σ → Option σ
  | [], s => some s
  | (name, read) :: rest, s =>
    match es.get? name with
    | some node => (read node s).bind (readEntries es rest)
    | none => readEntries es rest s

/-- Reads the settings from values in order. -/
def readItems : Section σ → List Node → σ → Option σ
  | (_, read) :: rest, node :: nodes, s => (read node s).bind (readItems rest nodes)
  | _, _, s => some s

/-- Reads the settings. A time has no entries that matter. -/
def read (settings : Section σ) (node : Node) (s : σ) : Option σ :=
  match node with
  | .table _ es => settings.readEntries es s
  | .array nodes => settings.readItems nodes s
  | .tables items => settings.readItems (items.map (.table .header)) s
  | .time => some s
  | _ => none

end Section

def Toml.Node.text? : Node → Option String
  | .text s => some s
  | _ => none

def Toml.Node.bool? : Node → Option Bool
  | .bool b => some b
  | _ => none

/-- The number of at most `greatest` of a node. -/
def Toml.Node.count? (greatest : Nat) : Node → Option Nat
  | .integer n => if 0 ≤ n ∧ n ≤ greatest then some n.toNat else none
  | _ => none

def Driver.Limits.fromToml : Section Driver.Limits := [
  ("initial_get_size", fun node l =>
    (node.count? 18446744073709551615).map fun n => { l with initialSize := UInt64.ofNat n }),
  ("max_get_attempts", fun node l =>
    (node.count? 4294967295).map fun n => { l with maxAttempts := UInt32.ofNat n }),
  ("max_get_size", fun node l =>
    (node.count? 18446744073709551615).map fun n => { l with maxSize := UInt64.ofNat n })]

def Logging.fromToml : Section Logging := [
  ("log_to_file", fun node l => node.bool?.map fun b => { l with toFile := b }),
  ("log_dir", fun node l => node.text?.map fun s => { l with directory := s }),
  ("json_format", fun node l => node.bool?.map fun b => { l with json := b })]

def Settings.fromToml : Section Settings := [
  ("log_level", fun node s => node.text?.map fun v => { s with logLevel := v }),
  ("exchange", fun node s =>
    (Driver.Limits.fromToml.read node .standard).map fun v => { s with limits := v }),
  ("logging", fun node s =>
    (Logging.fromToml.read node .standard).map fun v => { s with logging := v })]

/-- The settings in a document. -/
def Settings.ofToml? (text : String) : Option Settings :=
  (Toml.read? text).bind fun es => Settings.fromToml.readEntries es .standard

/-! ## Writing -/

/-- The greatest number in a document. -/
def Toml.greatestInteger : Nat := 9223372036854775807

/-- The document of settings, unless a number is too large for it. -/
def Settings.toToml? (s : Settings) : Option String :=
  if s.limits.initialSize.toNat ≤ Toml.greatestInteger
      ∧ s.limits.maxSize.toNat ≤ Toml.greatestInteger then
    some (Toml.write [("log_level", .text s.logLevel)]
      [("exchange", [("initial_get_size", .count s.limits.initialSize.toNat),
          ("max_get_attempts", .count s.limits.maxAttempts.toNat),
          ("max_get_size", .count s.limits.maxSize.toNat)]),
        ("logging", [("log_to_file", .bool s.logging.toFile),
          ("log_dir", .text s.logging.directory),
          ("json_format", .bool s.logging.json)])])
  else none

end TunnelConfig
