import SqlMapper.Text.Blank
import SqlMapper.Xml.Event

/-!
# XML as trees

An element of a tree has children, which are runs of text and other elements.  Text with references
resolved and a character data section are runs of their own, whatever stands beside them.  An element
without children may be written as a single tag or as two; a tree does not tell which.
-/

namespace SqlMapper.Xml

/-- The opening tag of an element of a tree. -/
structure Tag where
  name : String
  /-- Keys and values in the order of the source. -/
  attributes : List (String × String)
  /-- First byte of the tag. -/
  start : Nat
  /-- Behind the last byte of the tag. -/
  stop : Nat

namespace Tag

def attribute? (tag : Tag) (key : String) : Option String :=
  tag.attributes.lookup key

/-- The value of an attribute, empty if there is none. -/
def value (tag : Tag) (key : String) : String :=
  (tag.attribute? key).getD ""

/-- The tag as it is read, given whether it closes the element as well. -/
def element (tag : Tag) (isEmpty : Bool) : Element where
  name := tag.name
  attributes := tag.attributes
  start := tag.start
  stop := tag.stop
  isEmpty := isEmpty

@[simp]
theorem name_element (tag : Tag) (isEmpty : Bool) : (tag.element isEmpty).name = tag.name := rfl

@[simp]
theorem attribute?_element (tag : Tag) (isEmpty : Bool) (key : String) :
    (tag.element isEmpty).attribute? key = tag.attribute? key := rfl

end Tag

/-- XML as a tree; an element ends behind `stop`. -/
inductive Tree where
  | text (content : String)
  | element (tag : Tag) (children : List Tree) (stop : Nat)

namespace Tree

mutual

/-- Whether a tree is read as a sequence of events. -/
inductive Delivers : Tree → List Located → Prop
  | text (content : String) (stop : Nat) :
      Delivers (.text content) [{ event := .text content, stop }]
  | single (tag : Tag) :
      Delivers (.element tag [] tag.stop) [{ event := .opening (tag.element true), stop := tag.stop }]
  | double (tag : Tag) (stop : Nat) {children : List Tree} {events : List Located}
      (inside : DeliversAll children events) :
      Delivers (.element tag children stop)
        ({ event := .opening (tag.element false), stop := tag.stop } :: events
          ++ [{ event := .closing, stop }])

/-- Whether trees one after the other are read as a sequence of events. -/
inductive DeliversAll : List Tree → List Located → Prop
  | nil : DeliversAll [] []
  | cons {tree : Tree} {rest : List Tree} {events later : List Located}
      (first : Delivers tree events) (others : DeliversAll rest later) :
      DeliversAll (tree :: rest) (events ++ later)

end

end Tree

/-- Whether an event is white space between elements. -/
def Located.isBlank (located : Located) : Bool :=
  match located.event with
  | .text content => content.toList.all Text.isBlank
  | .opening _ | .closing => false

/-- Whether the root of a document is a tree.  Only white space stands before it; what stands behind it
is left open. -/
def Document.HasRoot (document : Document) (root : Tree) : Prop :=
  ∃ before events after, document.events = before ++ events ++ after
    ∧ before.all Located.isBlank ∧ root.Delivers events

end SqlMapper.Xml
