import JsonExpr.Expression

-- Templates as skeletons with holes, and the skeletons with values put into the holes.
namespace JsonExpr

namespace Value

mutual

-- The template with the values in its holes, in document order. All else stays as it is.
def plug (template : Value) (values : List Value) : Value :=
  match template with
  | array items => array (plugItems items values)
  | object fields =>
    if (object fields).hasExpressionShape then values.headD null
    else object (plugFields fields values)
  | template => template

-- Every item takes as many of the values as it has holes.
def plugItems (items : List Value) (values : List Value) : List Value :=
  match items with
  | [] => []
  | item :: rest =>
    item.plug (values.take item.holes.length) :: plugItems rest (values.drop item.holes.length)

def plugFields (fields : List (String × Value)) (values : List Value) : List (String × Value) :=
  match fields with
  | [] => []
  | (name, value) :: rest =>
    (name, value.plug (values.take value.holes.length)) ::
      plugFields rest (values.drop value.holes.length)

end

theorem plugItems_append (item : Value) (rest : List Value) {values more : List Value}
    (h : values.length = item.holes.length) :
    plugItems (item :: rest) (values ++ more) = item.plug values :: plugItems rest more := by
  rw [plugItems, List.take_left' h, List.drop_left' h]

theorem plugFields_append (name : String) (value : Value) (rest : List (String × Value))
    {values more : List Value} (h : values.length = value.holes.length) :
    plugFields ((name, value) :: rest) (values ++ more) =
      (name, value.plug values) :: plugFields rest more := by
  rw [plugFields, List.take_left' h, List.drop_left' h]

-- Putting the holes back changes nothing.
theorem plug_holes (template : Value) : template.plug template.holes = template := by
  induction template using induct with
  | null | bool | number | string => rfl
  | array items ih =>
    have hitems : plugItems items (holesOfItems items) = items := by
      induction items with
      | nil => rfl
      | cons item rest ihrest =>
        obtain ⟨hitem, hrest⟩ := List.forall_mem_cons.mp ih
        rw [holesOfItems, plugItems_append item rest rfl, hitem, ihrest hrest]
    rw [holes, plug, hitems]
  | object fields ih =>
    cases hshape : (object fields).hasExpressionShape with
    | true => simp [plug, holes, hshape]
    | false =>
      have hfields : plugFields fields (holesOfFields fields) = fields := by
        clear hshape
        induction fields with
        | nil => rfl
        | cons entry rest ihrest =>
          obtain ⟨hentry, hrest⟩ := List.forall_mem_cons.mp ih
          obtain ⟨name, value⟩ := entry
          rw [holesOfFields, plugFields_append name value rest rfl, hentry, ihrest hrest]
      simp [plug, holes, hshape, hfields]

-- An object with two keys is no hole, whatever its keys are.
example :
    (object [("a", object [("$get", string "x")]),
      ("$b", array [object [("$sum", null)], int 1])]).plug [int 5, int 6] =
      object [("a", int 5), ("$b", array [int 6, int 1])] := by rfl

end Value

end JsonExpr
