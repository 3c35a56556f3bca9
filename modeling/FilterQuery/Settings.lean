/-
# FilterQuery.Settings -- what can be set for all filters

The settings are the depth to which groups may nest, the character that stands
for any characters in a value, and the patterns by which dates are read after
RFC 3339.  `Settings.check` refuses a depth out of range and a marker that the
grammar needs for itself; `groupLimit` is the depth that a parser uses, which is
bounded also for settings that were never checked.
-/
import FilterQuery.Text.Blank
import FilterQuery.Text.Quoted

namespace FilterQuery

/-- What can be set for all filters. -/
structure Settings where
  maxDepth : Nat
  wildcard : Char
  datePatterns : List String
  deriving DecidableEq, Repr

/-- Why settings are refused. -/
inductive SettingsFault where
  | depth (found : Nat)
  | wildcard (found : Char)
  | unreadable
  deriving DecidableEq, Repr

namespace Settings

/-- The largest depth. -/
def depthLimit : Nat := 256

/-- Settings where nothing is set. -/
def default : Settings :=
  ⟨32, '*', ["%Y-%m-%d"]⟩

/-- The characters that have a meaning of their own in a filter. -/
def reserved : List Char :=
  ['(', ')', ';', ',', '\'', '"', '\\', '=', '!', '<', '>']

/-- Whether a character may be the marker. -/
def allowsWildcard (c : Char) : Bool :=
  !Text.isBlank c && !reserved.contains c

/-- Refuses settings that no filter could be read with. -/
def check (s : Settings) : Except SettingsFault Unit :=
  if s.maxDepth = 0 || depthLimit < s.maxDepth then .error (.depth s.maxDepth)
  else if !allowsWildcard s.wildcard then .error (.wildcard s.wildcard)
  else .ok ()

/-- How deep groups may nest. -/
def groupLimit (s : Settings) : Nat :=
  min s.maxDepth depthLimit

end Settings

/-- The wording of each fault. -/
def SettingsFault.message : SettingsFault → String
  | depth found =>
    "max_depth must be between 1 and " ++ toString Settings.depthLimit ++ ", got " ++ toString found
  | wildcard found => "wildcard " ++ Text.quotedChar found ++ " is reserved by the filter grammar"
  | unreadable => "Failed to parse query builder config"

end FilterQuery
