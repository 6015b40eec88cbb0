import JsonExpr.Settings.Boolean
import JsonExpr.Settings.Packs

-- The section of a settings document that concerns this program: which packs to use, whether to
-- start from the base pack, and which operations to leave out.
namespace JsonExpr

structure Settings where
  packs : List String := []
  includeBase : Bool := true
  exclude : List String := []
deriving Repr, DecidableEq

-- A problem and where in the section it is.
structure SectionError where
  location : List String
  problem : SectionProblem
deriving Repr, DecidableEq

namespace Settings

abbrev Checked (α : Type) := Except (List SectionError) α

def problemsOf {α : Type} : Checked α → List SectionError
  | .ok _ => []
  | .error problems => problems

def textsFrom (field : String) : Nat → List Value → Checked (List String)
  | _, [] => .ok []
  | index, item :: rest =>
    let later := textsFrom field (index + 1) rest
    match item, later with
    | .string text, .ok texts => .ok (text :: texts)
    | .string _, .error problems => .error problems
    | _, later => .error (⟨[field, toString index], .notText⟩ :: problemsOf later)

-- A list of texts; an absent one is empty.
def texts (field : String) : Option Value → Checked (List String)
  | none => .ok []
  | some (.array items) => textsFrom field 0 items
  | some _ => .error [⟨[field], .notList⟩]

-- References to packs that all have the form of one.
def references (value : Option Value) : Checked (List String) := do
  let references ← texts "packs" value
  match references.find? fun reference => !isPackReference reference with
  | some reference => .error [⟨["packs"], .unknownPack reference⟩]
  | none => return references

def flag (readBoolean : BooleanReader) (field : String) (fallback : Bool) :
    Option Value → Checked Bool
  | none => .ok fallback
  | some value => (readBoolean value).mapError fun problem => [⟨[field], problem⟩]

def knownFields : List String := ["packs", "include_base", "exclude"]

def unknownFields (fields : Fields Value) : List SectionError :=
  ((Fields.keys fields).filter fun field => !knownFields.contains field).map fun field =>
    ⟨[field], .unknownField⟩

-- The settings of a section, or everything that is wrong with it.
def ofSection (value : Value) (readBoolean : BooleanReader := boolean) : Checked Settings :=
  match value with
  | .object fields =>
    let packs := references (Fields.find? "packs" fields)
    let includeBase := flag readBoolean "include_base" true (Fields.find? "include_base" fields)
    let exclude := texts "exclude" (Fields.find? "exclude" fields)
    match packs, includeBase, exclude, unknownFields fields with
    | .ok packs, .ok includeBase, .ok exclude, [] => .ok { packs, includeBase, exclude }
    | _, _, _, unknown =>
      .error (problemsOf packs ++ problemsOf includeBase ++ problemsOf exclude ++ unknown)
  | _ => .error [⟨[], .notTable⟩]

end Settings

end JsonExpr
