import PropertyTemplates.Text.Quoted
import PropertyTemplates.Value.Basic

namespace PropertyTemplates.Value

open Decimal Text

-- The kind of a value, as error messages give it.
def kind : Value → String
  | .null => "null"
  | .text _ => "text"
  | .integer _ => "integer"
  | .float _ => "float"
  | .boolean _ => "boolean"
  | .object o => o.typeName
  | .list _ => "list"

mutual

-- The text that a value is replaced by.
def render : Value → String
  | .null => "null"
  | .text s => s
  | .integer n => integerText n
  | .float x => floatText x
  | .boolean b => booleanText b
  | .object o => o.render
  | .list items => listText (renderItems items)

def renderItems : List Value → List String
  | [] => []
  | item :: items => render item :: renderItems items

end

mutual

-- The detailed text of a value: its kind with its content in parentheses. Of an object only the
-- type shows.
def detail : Value → String
  | .null => "Null"
  | .text s => "Text(" ++ quoted s ++ ")"
  | .integer n => "Integer(" ++ integerText n ++ ")"
  | .float x => "Float(" ++ Layout.detailed.float x ++ ")"
  | .boolean b => "Bool(" ++ booleanText b ++ ")"
  | .object o => "Object(" ++ quoted o.typeName ++ ")"
  | .list items => listText (detailItems items)

def detailItems : List Value → List String
  | [] => []
  | item :: items => detail item :: detailItems items

end

end PropertyTemplates.Value
