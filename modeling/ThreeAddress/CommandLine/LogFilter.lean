import ThreeAddress.Event

/-!
# Log filters

A filter is a list of directives, each a level for all events or for the areas that start
with a name. For an event, the directive with the longest name that fits counts, and the
latest of those with the same name.
-/

namespace ThreeAddress.CommandLine

/-- A level for the areas that start with a name. The empty name is for all. -/
structure Directive where
  area : String
  level : Level
deriving DecidableEq

namespace Directive

/-- Read a directive: a level, a name, or a name and a level. A name without a level asks for
every detail. -/
def ofText? (text : String) : Option Directive :=
  match text.splitOn "=" with
  | [word] =>
      match Level.ofName? word with
      | some level => some ⟨"", level⟩
      | none => some ⟨word, .trace⟩
  | [name, ""] => some ⟨name, .trace⟩
  | [name, word] => (Level.ofName? word).map fun level => ⟨name, level⟩
  | _ => none

/-- Whether the directive is for the area of an event. -/
def fits (directive : Directive) (event : Event) : Bool :=
  directive.area.toList.isPrefixOf event.area.toList

end Directive

/-- Directives, in the order in which they were given. -/
abbrev LogFilter := List Directive

namespace LogFilter

/-- Read the directives of a text. They are separated by commas, and those that cannot be read
are left out. -/
def ofText (text : String) : LogFilter :=
  ((text.splitOn ",").filter (· ≠ "")).filterMap Directive.ofText?

/-- The filter that shows more the more detail was asked for, refined by further directives. -/
def ofVerbosity (verbosity : Nat) (further : LogFilter) : LogFilter :=
  let level : Level := match verbosity with
    | 0 => .warn
    | 1 => .debug
    | _ => .trace
  ⟨"", level⟩ :: further

/-- The level that counts for an event. -/
def levelFor (filter : LogFilter) (event : Event) : Level :=
  let chosen := filter.foldl
    (fun best directive =>
      if directive.fits event && decide (best.area.length ≤ directive.area.length) then directive
      else best)
    ⟨"", .off⟩
  chosen.level

/-- Whether a log with this filter shows an event. -/
def shows (filter : LogFilter) (event : Event) : Bool :=
  event.shownAt (filter.levelFor event)

end LogFilter

end ThreeAddress.CommandLine
