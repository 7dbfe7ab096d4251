/-
The element tree of a document.

An element has a tag, attributes in the order of the document, the text directly inside
of it, joined, and the elements directly inside of it.  A tag of a namespace carries the
name of the namespace in braces before its local name.
-/

namespace FindingLedger

/-- An element with everything inside of it. -/
inductive Element
  | node (tag : String) (attributes : List (String × String)) (text : String)
      (children : List Element)
deriving Inhabited, Repr

namespace Element

def tag : Element → String
  | node tag _ _ _ => tag

def attributes : Element → List (String × String)
  | node _ attributes _ _ => attributes

/-- The text directly inside of an element. -/
def text : Element → String
  | node _ _ text _ => text

/-- The elements directly inside of an element. -/
def children : Element → List Element
  | node _ _ _ children => children

def attribute? (e : Element) (name : String) : Option String :=
  e.attributes.lookup name

/-- What follows the last closing brace of a tag; the whole tag if it has none. -/
def localPart (tag : List Char) : List Char :=
  (tag.reverse.takeWhile (· != '\x7d')).reverse

/-- The tag of an element without its namespace. -/
def localName (e : Element) : String :=
  String.ofList (localPart e.tag.toList)

mutual

/-- An element and all elements inside of it, each before what is inside of it, and more
elements behind them. -/
def subtreeAnd : Element → List Element → List Element
  | node tag attributes text children, more =>
    node tag attributes text children :: subtreesAnd children more

/-- The elements of a list and all elements inside of them, and more elements behind
them. -/
def subtreesAnd : List Element → List Element → List Element
  | [], more => more
  | e :: rest, more => e.subtreeAnd (subtreesAnd rest more)

end

/-- An element and all elements inside of it, each before what is inside of it. -/
def subtree (e : Element) : List Element := e.subtreeAnd []

mutual

theorem subtreeAnd_append (e : Element) (more after : List Element) :
    e.subtreeAnd (more ++ after) = e.subtreeAnd more ++ after := by
  cases e with
  | node tag attributes text children =>
    rw [subtreeAnd, subtreeAnd, subtreesAnd_append children more after]
    rfl

theorem subtreesAnd_append (es more after : List Element) :
    subtreesAnd es (more ++ after) = subtreesAnd es more ++ after := by
  cases es with
  | nil => simp only [subtreesAnd]
  | cons e rest =>
    rw [subtreesAnd, subtreesAnd, subtreesAnd_append rest more after,
      subtreeAnd_append e (subtreesAnd rest more) after]

end

/-- The elements with a local name among an element and all inside of it. -/
def named (name : String) (e : Element) : List Element :=
  e.subtree.filter fun d => d.localName == name

end Element

end FindingLedger
