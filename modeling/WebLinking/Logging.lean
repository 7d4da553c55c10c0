import WebLinking.Settings

/-!
# Logging

A logger has a threshold and console handlers. Configuring it sets the threshold by the
name of a level, in any letter case, and adds a console handler unless there is one; a
name that is unknown changes nothing.
-/

namespace WebLinking

/-- The levels of severity by name, with their thresholds. -/
def severities : List (Text × Nat) :=
  [("NOTSET", 0), ("DEBUG", 10), ("INFO", 20), ("WARN", 30), ("WARNING", 30), ("ERROR", 40),
    ("CRITICAL", 50), ("FATAL", 50)].map fun (name, threshold) => (name.toList, threshold)

/-- What a logger lets through, and where to. -/
structure Logger where
  /-- The lowest severity that is let through. -/
  threshold : Nat := 0
  /-- The number of console handlers. -/
  consoleHandlers : Nat := 0
  deriving DecidableEq, Repr

namespace Logger

/-- The name of the library's logger. -/
def name : Text := "hypermedia".toList

/-- The name of the level that is asked for: the one given, or else the one of the
settings. -/
def levelName (settings : Settings) : Option Text → Text
  | none | some [] => settings.logLevel.upper
  | some level => level.upper

/-- Configures a logger. -/
def configure (logger : Logger) (settings : Settings) (level : Option Text) : Except Fault Logger :=
  let name := levelName settings level
  match severities.lookup name with
  | some threshold => .ok ⟨threshold, max logger.consoleHandlers 1⟩
  | none => .error (.unknownLevel name)

end Logger

end WebLinking
