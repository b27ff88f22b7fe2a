import PropertyTemplates.Path.Basic
import PropertyTemplates.Value.Text

namespace PropertyTemplates

-- The element that an index picks of what an accessor yielded.
def Segment.pick (s : Segment) (yielded : Value) : Except PathError Value :=
  match s.index, yielded with
  | none, value => .ok value
  | some _, .null => .ok .null
  | some index, .list items =>
    match items[index]? with
    | some item => .ok item
    | none => .error (.outOfRange s.accessor index items.length)
  | some _, value => .error (.notAList s.accessor value.kind)

-- One step from a value. Accessor names start with a small letter, whatever the path says.
def Segment.step (s : Segment) (current : Value) : Except PathError Value :=
  match current with
  | .object o =>
    match o.access (Text.lowerFirst s.accessor) with
    | some yielded => s.pick yielded
    | none => .error (.noAccessor s.accessor o.typeName)
  | value => .error (.noAccessor s.accessor value.kind)

-- Walks steps from a value. The walk ends at null: whatever follows is null as well.
def Path.walk : List Segment → Value → Except PathError Value
  | [], current => .ok current
  | s :: rest, current => do
    match ← s.step current with
    | .null => return .null
    | next => walk rest next

-- What a path leads to from an object; null where a value is absent.
def Path.value (p : Path) (root : Object) : Except PathError Value :=
  walk p.segments (.object root)

-- The text at the end of a path, if there is a value.
def Path.evaluate (p : Path) (root : Object) : Except PathError (Option String) := do
  match ← p.value root with
  | .null => return none
  | value => return some value.render

-- The text at the end of a path given in its written form.
def Object.evaluate (root : Object) (path : String) : Except PathError (Option String) := do
  (← Path.parse path).evaluate root

end PropertyTemplates
