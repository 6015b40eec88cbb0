import JsonExpr.Builtin.Arithmetic
import JsonExpr.Builtin.Chance
import JsonExpr.Builtin.Comparison
import JsonExpr.Builtin.Conditions
import JsonExpr.Builtin.Flow
import JsonExpr.Builtin.Iteration
import JsonExpr.Builtin.Objects
import JsonExpr.Builtin.Patterns
import JsonExpr.Builtin.Reading
import JsonExpr.Builtin.Sequence
import JsonExpr.Builtin.Statistics
import JsonExpr.Engine.Basic

-- The built-in operations under their usual names, and the packs they are shipped in.
namespace JsonExpr

namespace Builtin

def operations : Fields Operation :=
  [ ("$and", and), ("$case", caseOf), ("$default", defaultTo), ("$eq", eq), ("$filter", filter),
    ("$filterBy", filterBy), ("$get", get), ("$gt", gt), ("$gte", gte), ("$identity", identity),
    ("$if", ifThenElse), ("$isDefined", isDefined), ("$literal", literalOperation), ("$lt", lt),
    ("$lte", lte), ("$map", map), ("$matches", matchesAll), ("$ne", ne), ("$not", not),
    ("$or", or), ("$pipe", pipe), ("$sort", sort), ("$count", count), ("$max", max),
    ("$mean", mean), ("$median", median), ("$min", min), ("$mode", mode), ("$sum", sum),
    ("$all", all), ("$any", any), ("$coalesce", coalesce), ("$concat", concat), ("$find", find),
    ("$first", first), ("$flatMap", flatMap), ("$flatten", flatten), ("$groupBy", groupBy),
    ("$join", join), ("$last", last), ("$pluck", pluck), ("$reverse", reverse), ("$skip", skip),
    ("$take", take), ("$unique", unique), ("$between", between), ("$in", isIn),
    ("$isEmpty", isEmpty), ("$isPresent", isPresent), ("$nin", notIn), ("$exists", exists?),
    ("$matchesRegex", matchesRegex), ("$abs", abs), ("$add", add), ("$ceil", ceil),
    ("$divide", divide), ("$floor", floor), ("$modulo", modulo), ("$multiply", multiply),
    ("$pow", pow), ("$sqrt", sqrt), ("$subtract", subtract), ("$random", random),
    ("$select", select), ("$prop", prop), ("$merge", merge), ("$pick", pickKeys),
    ("$omit", omitKeys), ("$keys", keys), ("$values", values), ("$pairs", pairs),
    ("$fromPairs", fromPairs), ("$lowercase", lowercase), ("$substring", substring),
    ("$uppercase", uppercase), ("$matchesGlob", matchesGlob), ("$matchesLike", matchesLike),
    ("$replace", replace), ("$split", split), ("$trim", trim), ("$nowLocal", nowLocal),
    ("$nowUTC", nowUniversal), ("$timestamp", timestamp), ("$compose", compose),
    ("$debug", debug), ("$uuid", uuid) ]

-- The pack of the built-in operations with the given names.
def packOf (names : List String) : Pack :=
  names.filterMap fun name => do return (name, .operation (← operations.find? name))

def basePack : Pack :=
  packOf
    [ "$and", "$case", "$default", "$eq", "$filter", "$filterBy", "$get", "$gt", "$gte",
      "$identity", "$if", "$isDefined", "$literal", "$lt", "$lte", "$map", "$matches", "$ne",
      "$not", "$or", "$pipe", "$sort" ]

def aggregationPack : Pack :=
  packOf
    [ "$count", "$max", "$mean", "$median", "$min", "$mode", "$sum" ]

def arrayPack : Pack :=
  packOf
    [ "$all", "$any", "$coalesce", "$concat", "$filter", "$filterBy", "$find", "$first",
      "$flatMap", "$flatten", "$groupBy", "$join", "$last", "$map", "$pluck", "$reverse", "$skip",
      "$sort", "$take", "$unique" ]

def comparisonPack : Pack :=
  packOf
    [ "$between", "$eq", "$gt", "$gte", "$in", "$isEmpty", "$isPresent", "$lt", "$lte", "$ne",
      "$nin" ]

def filteringPack : Pack :=
  packOf
    [ "$between", "$eq", "$ne", "$gt", "$gte", "$lt", "$lte", "$and", "$or", "$not", "$all",
      "$any", "$filter", "$filterBy", "$find", "$matches", "$in", "$nin", "$isEmpty",
      "$isPresent", "$exists", "$matchesRegex" ]

def logicPack : Pack :=
  packOf
    [ "$and", "$case", "$if", "$not", "$or" ]

def mathPack : Pack :=
  packOf
    [ "$abs", "$add", "$ceil", "$divide", "$floor", "$modulo", "$multiply", "$pow", "$sqrt",
      "$subtract", "$random" ]

def objectPack : Pack :=
  packOf
    [ "$select", "$prop", "$merge", "$pick", "$omit", "$keys", "$values", "$pairs", "$fromPairs" ]

def projectionPack : Pack :=
  packOf
    [ "$get", "$select", "$concat", "$filter", "$flatMap", "$join", "$map", "$pluck", "$unique",
      "$lowercase", "$substring", "$uppercase", "$if", "$case", "$eq", "$ne", "$gt", "$gte",
      "$lt", "$lte", "$in", "$nin" ]

def stringPack : Pack :=
  packOf
    [ "$lowercase", "$matchesGlob", "$matchesLike", "$matchesRegex", "$replace", "$split",
      "$substring", "$trim", "$uppercase" ]

def temporalPack : Pack :=
  packOf
    [ "$nowLocal", "$nowUTC", "$timestamp" ]

-- Every built-in operation.
def allPack : Pack :=
  [ basePack, aggregationPack, arrayPack, comparisonPack, filteringPack, logicPack, mathPack,
    objectPack, projectionPack, stringPack, temporalPack,
    packOf ["$compose", "$debug", "$uuid"] ].foldl Fields.merge []

-- The packs by the names under which they can be asked for.
def packs : Fields Pack :=
  [ ("aggregation", aggregationPack), ("all", allPack), ("array", arrayPack), ("base", basePack),
    ("comparison", comparisonPack), ("filtering", filteringPack), ("logic", logicPack),
    ("math", mathPack), ("object", objectPack), ("projection", projectionPack),
    ("string", stringPack), ("temporal", temporalPack) ]

end Builtin

-- An engine with the built-in operations of some packs and possibly others on top.
def Engine.ofPacks (packs : List Pack) (custom : Option Pack := none) (includeBase : Bool := true)
    (exclude : List String := []) (middleware : List Middleware := []) : Engine where
  definitions := .build Builtin.basePack packs custom includeBase exclude
  middleware

end JsonExpr
