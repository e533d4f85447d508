import MediaShelves.ConfigError
import MediaShelves.Pattern

/-!
# Name maps

Ordered rules that rename genres, models and headlines.  The first rule whose pattern occurs in a
name decides.
-/

namespace MediaShelves

/-- What a rule is there for. -/
inductive RulePurpose where
  /-- To replace a name. -/
  | replace
  /-- To name a topic. -/
  | topic
deriving DecidableEq, Repr

/-- A rule as it is written. -/
structure RuleText where
  pattern : String
  target : String
  purpose : RulePurpose
deriving DecidableEq, Repr

/-- The pattern of a text; a text that is none is an error. -/
def Pattern.ofText (source : String) : Except ConfigError Pattern :=
  match Pattern.ofText? source with
  | some p => .ok p
  | none => .error (.invalidPattern source)

/-- A rule that is ready for use. -/
structure NameRule where
  pattern : Pattern
  target : String
  purpose : RulePurpose

/-- Rules in the order in which they are tried. -/
structure NameMap where
  rules : List NameRule

namespace NameMap

/-- The map without rules. -/
def empty : NameMap :=
  ⟨[]⟩

/-- Makes a rule ready for use. -/
def readRule (r : RuleText) : Except ConfigError NameRule := do
  let pattern ← Pattern.ofText r.pattern
  return ⟨pattern, r.target, r.purpose⟩

/-- The map of some written rules; the first pattern that is none is an error. -/
def ofRules (rules : List RuleText) : Except ConfigError NameMap := do
  return ⟨← rules.mapM readRule⟩

/-- The target of the first rule whose pattern occurs in a name. -/
def substitute? (m : NameMap) (name : String) : Option String :=
  (m.rules.find? fun r => r.pattern.occursIn name).map NameRule.target

/-- A name with the match of the first rule of a purpose replaced by its target. -/
def replace? (m : NameMap) (purpose : RulePurpose) (name : String) : Option String :=
  m.rules.findSome? fun r =>
    if r.purpose = purpose then r.pattern.replace? r.target name else none

/-- Whether there are no rules. -/
def isEmpty (m : NameMap) : Bool :=
  m.rules.isEmpty

end NameMap

end MediaShelves
