import JsonExpr.Settings.Section
import JsonExpr.Toml.Document

-- Settings documents: where they are looked for, and what is taken from them.
namespace JsonExpr

inductive SettingsFailure where
  | invalidDocument (path : String)
  | sectionNotTable
  | invalidSection (path : String) (errors : List SectionError)
  | reference (problem : ReferenceProblem)
  | fault (fault : Fault)

namespace SettingsFailure

-- What the failure says, up to the details of an invalid document or section.
def message : SettingsFailure → String
  | invalidDocument path => "Invalid TOML in " ++ path
  | sectionNotTable => "Invalid [tool.dataexpr] configuration. Expected a table."
  | invalidSection path _ => "Invalid [tool.dataexpr] configuration in " ++ path
  | reference problem => problem.message
  | fault _ => ""

end SettingsFailure

namespace Settings

def documentName : String := "pyproject.toml"

-- The nearest directory upward with a settings document. Directories are given by their names from
-- the innermost one outward, and so is the answer.
def findUpward {m : Type → Type} [Monad m] (hasDocument : List String → m Bool) :
    List String → m (Option (List String))
  | [] => do return if ← hasDocument [] then some [] else none
  | name :: outer => do
    if ← hasDocument (name :: outer) then return some (name :: outer)
    else findUpward hasDocument outer

-- The section in the table of a document; an absent one is empty.
def sectionOf (table : Fields Value) : Except SettingsFailure Value :=
  match Fields.find? "tool" table with
  | none => .ok (.object [])
  | some (.object tools) =>
    match Fields.find? "dataexpr" tools with
    | none => .ok (.object [])
    | some (.object fields) => .ok (.object fields)
    | some _ => .error .sectionNotTable
  | some _ => .error (.fault .notATable)

-- The settings in the table of the document at a path.
def ofTable (path : String) (table : Fields Value) (readBoolean : BooleanReader := boolean) :
    Except SettingsFailure Settings := do
  let fields ← sectionOf table
  (ofSection fields readBoolean).mapError fun errors => .invalidSection path errors

-- The settings in the text of the document at a path.
def ofSource (path source : String) (readBoolean : BooleanReader := boolean) :
    Except SettingsFailure Settings :=
  match Toml.read? source with
  | some table => ofTable path table readBoolean
  | none => .error (.invalidDocument path)

end Settings

end JsonExpr
