import JsonExpr.Builtin.Packs

-- References to packs: the name of a shipped pack in any case, or a module path and a member of it
-- with a colon between them.
namespace JsonExpr

-- Why settings cannot be taken over. Only some reasons are foreseen; the others are faults.
inductive ReferenceProblem where
  | unknownPack (reference : String)
  | missingModule (modulePath reference : String)
  | notAPack (member modulePath : String)
  | fault (fault : Fault)

namespace ReferenceProblem

def unknownPackMessage (reference : String) : String :=
  "Unknown pack '" ++ reference ++ "'. Expected one of " ++
    ", ".intercalate (Fields.keys Builtin.packs) ++ " or 'module.path:attribute'"

def message : ReferenceProblem → String
  | unknownPack reference => unknownPackMessage reference
  | missingModule modulePath reference =>
    "Could not import module '" ++ modulePath ++ "' for pack '" ++ reference ++ "'"
  | notAPack member modulePath =>
    "'" ++ member ++ "' in module '" ++ modulePath ++ "' is not a pack"
  | fault _ => ""

end ReferenceProblem

-- The module that exports the shipped packs.
def shippedModule : String := "dataexpr"

-- The table of all shipped packs passes for a pack, but none of its entries is an operation.
def packOfPacks : Pack := (Fields.keys Builtin.packs).map fun name => (name, .data .null)

-- What the module exports that can serve as a pack.
def exportedPacks : Fields Pack :=
  Builtin.packs.map (fun (name, pack) => (uppercase name, pack)) ++ [("PACKS", packOfPacks)]

-- Whether a reference has the form of one: what it refers to may still be missing.
def isPackReference (reference : String) : Bool :=
  Fields.contains (lowercase reference) Builtin.packs || reference.toList.contains ':'

-- The module path and the member of a reference.
def splitReference (reference : String) : String × String :=
  let chars := reference.toList
  (String.ofList (chars.takeWhile (· != ':')), String.ofList ((chars.dropWhile (· != ':')).drop 1))

def resolvePack (reference : String) : Except ReferenceProblem Pack :=
  match Fields.find? (lowercase reference) Builtin.packs with
  | some pack => .ok pack
  | none =>
    if !isPackReference reference then .error (.unknownPack reference)
    else
      let (modulePath, member) := splitReference reference
      if modulePath.isEmpty then .error (.fault .emptyModule)
      else if modulePath.toList.head? = some '.' then .error (.fault .relativeModule)
      else if modulePath ≠ shippedModule then .error (.missingModule modulePath reference)
      else
        match Fields.find? member exportedPacks with
        | some pack => .ok pack
        | none => .error (.notAPack member modulePath)

end JsonExpr
