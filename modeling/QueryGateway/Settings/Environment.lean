import QueryGateway.Settings.Basic
import QueryGateway.Settings.Dotenv

/-!
# Settings from the environment

A setting may be chosen by a keyword, by a variable of the environment, or by
a variable of an environment file; the first of the three that chooses it
counts.  Variables carry a name in front of the setting's own, upper and lower
case are the same in the names of both, and an empty variable chooses nothing.
-/

namespace QueryGateway.EngineSettings

open Document

/-- The ASCII character that a character is the upper case of, if it is one.  The kelvin sign is the
one such character beyond ASCII. -/
def lowerChar (c : Char) : Char :=
  if c = '\u212a' then 'k' else c.toLower

/-- A name in lower case, as far as it can be the name of a setting. -/
def lowerCase (name : String) : String :=
  String.ofList (name.toList.map lowerChar)

/-- The value of a variable whose name is matched without regard to case; of several the last one
counts, and an empty one does not. -/
def environmentValue? (assigned : List (String × Option String)) (name : String) : Option String :=
  let matching := assigned.filter fun (given, value) =>
    lowerCase given = lowerCase name && value ≠ some ""
  (matching.getLast?.map (·.2)).join

/-- The value that keywords choose for a setting, whose name is matched without regard to case; of
several the first one counts. -/
def keyword? (keywords : Entries) (name : String) : Option Value :=
  keywords.findSome? fun (key, value) =>
    match key with
    | .text given => if lowerCase given = name then some value else none
    | _ => none

/-- The value chosen for a setting. -/
def chosen?
    (keywords : Entries)
    (sources : List (List (String × Option String)))
    (variablePrefix name : String) :
    Option Value :=
  (keyword? keywords name).or
    ((sources.findSome? fun assigned =>
      environmentValue? assigned (variablePrefix ++ name)).map .text)

/-- Read settings: keywords, then variables of the environment, then those of a file. -/
def load
    (variablePrefix : String)
    (keywords : Entries)
    (environment : List (String × String))
    (file : Option String) :
    Checked EngineSettings :=
  let inherited := environment.map fun (name, value) => (name, some value)
  let sources := [inherited, Dotenv.assignedBy environment (file.getD "")]
  ofEntries (names.filterMap fun name =>
    (chosen? keywords sources variablePrefix name).map fun value => (.text name, value))

end QueryGateway.EngineSettings
