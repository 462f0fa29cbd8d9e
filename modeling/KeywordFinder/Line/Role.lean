/-!
# Roles

What a line does with a keyword: declare a class or a function, assign a variable, or use the name in
some other way.  When several roles could describe one line, the earliest in `Role.all` wins.
-/

namespace KeywordFinder

/-- What a line does with the keyword. -/
inductive Role where
  | classDecl
  | functionDecl
  | assignment
  | otherUse
deriving DecidableEq, Repr

namespace Role

/-- All roles, in the order of precedence. -/
def all : List Role := [classDecl, functionDecl, assignment, otherUse]

theorem mem_all (r : Role) : r ∈ all := by cases r <;> decide

/-- The short name of a role. -/
def name : Role → String
  | classDecl => "class"
  | functionDecl => "def"
  | assignment => "assignment"
  | otherUse => "other"

/-- The role of a short name. -/
def ofName? (s : String) : Option Role := all.find? (·.name == s)

/-- The roles that a selection makes active, in the order of precedence.  An empty selection makes all
of them active. -/
def ordered (selection : List Role) : List Role :=
  if selection.isEmpty then all else all.filter (selection.contains ·)

theorem mem_ordered {selection : List Role} {r : Role} :
    r ∈ ordered selection ↔ selection = [] ∨ r ∈ selection := by
  cases selection with
  | nil => simp [ordered, mem_all]
  | cons a l => simp [ordered, mem_all]

end Role

/-- The words and signs that a display sets off as structure. -/
def structuralMarkers : List String := ["class", "def", "="]

/-- The form of the lines of a role in the notation of regular expressions: what stands before the
keyword and what stands after it. -/
def Role.form : Role → String × String
  | .classDecl => ("^(\\s*)(class)(\\s+)(", ")(\\s*\\(.*)$")
  | .functionDecl => ("^(\\s*)(def)(\\s+)(", ")(\\s*\\(.*)$")
  | .assignment => ("^(\\s*)(", ")(\\s*)(=)((?:[^=].*)?)$")
  | .otherUse => ("^(?:", ")")

/-- The form of a role with an expression in the place of the keyword. -/
def Role.formWith (r : Role) (keyword : String) : String := r.form.1 ++ keyword ++ r.form.2

/-- The form of a role with a mark in the place of the keyword. -/
def Role.template (r : Role) : String := r.formWith "\x7bkeyword\x7d"

end KeywordFinder
