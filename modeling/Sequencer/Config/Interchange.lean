import Sequencer.Config.Basic
import Sequencer.Json.Record

/-!
# Configuration in JSON

Every field has its default.
-/

namespace Sequencer

def EngineConfig.toJson (c : EngineConfig) : Json := .object [("diagnostics", .bool c.diagnostics)]

def EngineConfig.ofJson? (json : Json) : Option EngineConfig := do
  let standard : EngineConfig := {}
  match ← json.fields? ["diagnostics"] with
  | [diagnostics] => some ⟨← Json.withDefault? standard.diagnostics Json.bool? diagnostics⟩
  | _ => none

def DriverConfig.toJson (c : DriverConfig) : Json :=
  .object [("tick_interval_ms", .natural c.tickInterval), ("max_ticks", .ofOption .natural c.maxTicks)]

def DriverConfig.ofJson? (json : Json) : Option DriverConfig := do
  let standard : DriverConfig := {}
  match ← json.fields? ["tick_interval_ms", "max_ticks"] with
  | [interval, maxTicks] =>
    some ⟨← Json.withDefault? standard.tickInterval Json.natural? interval,
      ← Json.withDefault? standard.maxTicks (Json.optional? Json.natural?) maxTicks⟩
  | _ => none

def LoggingConfig.toJson (c : LoggingConfig) : Json := .object [("filter", .text c.filter)]

def LoggingConfig.ofJson? (json : Json) : Option LoggingConfig := do
  let standard : LoggingConfig := {}
  match ← json.fields? ["filter"] with
  | [filter] => some ⟨← Json.withDefault? standard.filter Json.text? filter⟩
  | _ => none

def Config.toJson (c : Config) : Json :=
  .object [("engine", c.engine.toJson), ("driver", c.driver.toJson), ("logging", c.logging.toJson)]

def Config.ofJson? (json : Json) : Option Config := do
  match ← json.fields? ["engine", "driver", "logging"] with
  | [engine, driver, logging] =>
    some ⟨← Json.withDefault? {} EngineConfig.ofJson? engine,
      ← Json.withDefault? {} DriverConfig.ofJson? driver,
      ← Json.withDefault? {} LoggingConfig.ofJson? logging⟩
  | _ => none

end Sequencer
