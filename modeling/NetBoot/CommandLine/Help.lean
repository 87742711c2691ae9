/-
# Help pages

What a command says about itself: how its words go, what it does, and its switches
and commands with a few words about each.
-/
import NetBoot.Text.Blank

namespace NetBoot.CommandLine

/-- A switch or a command on a help page, and what it is for. -/
structure HelpEntry where
  name : String
  purpose : String
  deriving DecidableEq, Repr

/-- A help page. -/
structure HelpPage where
  /-- How the words of the command line go. -/
  usage : String
  /-- What the command does, line by line. -/
  about : List String
  switches : List HelpEntry
  commands : List HelpEntry := []
  deriving DecidableEq, Repr

namespace HelpPage

/-- A line two columns to the right; an empty one stays empty. -/
def indented (line : String) : String := if line = "" then "" else "  " ++ line

/-- How wide the column of names is: two more than the longest. -/
def nameWidth (entries : List HelpEntry) : Nat :=
  (entries.map fun entry => entry.name.length).foldl max 0 + 2

/-- Entries in two columns. -/
def table (entries : List HelpEntry) : List String :=
  entries.map fun entry =>
    indented (Text.column (nameWidth entries) entry.name ++ entry.purpose)

/-- Entries under a title; without entries there is no title either. -/
def titled (title : String) (entries : List HelpEntry) : List String :=
  if entries.isEmpty then [] else "" :: (title ++ ":") :: table entries

/-- The lines of a help page. -/
def lines (page : HelpPage) : List String :=
  ("Usage: " ++ page.usage) :: "" :: page.about.map indented ++
    titled "Options" page.switches ++ titled "Commands" page.commands

/-- The text of a help page. -/
def text (page : HelpPage) : String := "\n".intercalate page.lines

end HelpPage
end NetBoot.CommandLine
