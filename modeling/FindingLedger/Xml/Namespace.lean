/-
Namespaces, and the names that tags and attributes have in them.

A binding gives a prefix the name of a namespace; the empty prefix stands for the
default namespace of elements, which attributes without a prefix are not in.
-/
import FindingLedger.Xml.Entity

namespace FindingLedger

namespace Xml

/-- The namespaces of the prefixes in scope, innermost first; an empty name takes the
default namespace away. -/
abbrev Bindings := List (List Char × List Char)

/-- The namespace of the prefix `xml`. -/
def xmlNamespace : List Char := "http://www.w3.org/XML/1998/namespace".toList

def xmlnsNamespace : List Char := "http://www.w3.org/2000/xmlns/".toList

/-- What is bound at the start of a document. -/
def Bindings.initial : Bindings := [(['x', 'm', 'l'], xmlNamespace)]

def Bindings.find? (b : Bindings) (namespacePrefix : List Char) : Option (List Char) :=
  match b.lookup namespacePrefix with
  | some [] | none => none
  | some uri => some uri

/-- Bind a prefix, if the rules on reserved names allow it.  A closing brace can not
stand in the name of a namespace. -/
def Bindings.bind (b : Bindings) (namespacePrefix uri : List Char) : Except Fault Bindings :=
  let isXml := namespacePrefix == ['x', 'm', 'l']
  if uri.isEmpty && !namespacePrefix.isEmpty then .error .undeclaredPrefix
  else if namespacePrefix == ['x', 'm', 'l', 'n', 's'] then .error .reservedXmlns
  else if uri.contains '\x7d' then .error .syntactic
  else if isXml && uri != xmlNamespace then .error .reservedXml
  else if !isXml && uri == xmlNamespace then .error .reservedNamespace
  else if !isXml && uri == xmlnsNamespace then .error .reservedNamespace
  else .ok ((namespacePrefix, uri) :: b)

/-- The parts of a qualified name before and after its first colon. -/
def splitQualified (name : List Char) : Option (List Char × List Char) :=
  match name.dropWhile (· != ':') with
  | [] => none
  | _ :: rest => some (name.takeWhile (· != ':'), rest)

/-- The prefix that an attribute binds: its name is `xmlns`, or starts so. -/
def boundPrefix? (name : List Char) : Option (List Char) :=
  match "xmlns".toList.isPrefixOf? name with
  | some [] => some []
  | some (':' :: rest) => some rest
  | _ => none

def universal (uri localName : List Char) : List Char :=
  '\x7b' :: uri ++ '\x7d' :: localName

/-- A tag or an attribute that could not be resolved; with a position if the fault is
not that of the whole tag. -/
abbrev TagFault := ValueFault

/-- The attributes of a tag while they are read: the names seen so far, the attributes
that bind no prefix, last first, and the prefixes in scope. -/
structure TagReader where
  seen : List (List Char)
  attributes : List (List Char × List Char)
  bindings : Bindings
  tally : Tally
deriving Repr

def TagReader.take (t : TagReader) (name value : List Char) : Except Fault TagReader :=
  match boundPrefix? name with
  | some namespacePrefix => do
    let bindings ← t.bindings.bind namespacePrefix value
    .ok { t with seen := name :: t.seen, bindings := bindings }
  | none => .ok { t with seen := name :: t.seen, attributes := (name, value) :: t.attributes }

/-- Whether there is nothing to replace in a text behind its first character: white space
is single blanks, and none at the end. -/
def goesOnSettled : List Char → Bool
  | [] => true
  | ' ' :: rest => !rest.isEmpty && rest.head? != some ' ' && goesOnSettled rest
  | c :: rest => c != '&' && !isSpace c && goesOnSettled rest

/-- Whether a text in a tag is its own value, so that it is not read once more. -/
def isSettled (cs : List Char) : Bool :=
  cs.head? != some ' ' && goesOnSettled cs

def tagValue (v : ValueSetting) (tally : Tally) (isText : Bool) (a : RawAttribute) :
    Except TagFault (List Char × Tally) :=
  if isSettled a.value then .ok (a.value, tally)
  else expandValue v tally isText a.valuePos a.value

def TagReader.takeNamed (v : ValueSetting) (known : List DeclaredAttribute) (t : TagReader) :
    List RawAttribute → Except TagFault TagReader
  | [] => .ok t
  | a :: rest =>
    if t.seen.contains a.name then .error ⟨.duplicateAttribute, some a.namePos⟩
    else
      let isText := match known.find? fun k => k.name == a.name with
        | some k => k.isText
        | none => true
      match tagValue v t.tally isText a with
      | .error fault => .error fault
      | .ok (value, tally) =>
        match ({ t with tally := tally }).take a.name value with
        | .error fault => .error ⟨fault, none⟩
        | .ok t => takeNamed v known t rest

/-- Take the values that the declarations give to attributes that a tag does not name. -/
def TagReader.takeDefaults (t : TagReader) : List DeclaredAttribute → Except TagFault TagReader
  | [] => .ok t
  | k :: rest =>
    match k.value with
    | none => takeDefaults t rest
    | some value =>
      if t.seen.contains k.name then takeDefaults t rest
      else match t.take k.name value with
        | .error fault => .error ⟨fault, none⟩
        | .ok t => takeDefaults t rest

/-- The names that attributes have in their namespaces.  Attributes without a prefix
are in none; `seen` holds the names in namespaces so far. -/
def resolveAttributes (b : Bindings) (seen : List (List Char)) :
    List (List Char × List Char) → Except Fault (List (List Char × List Char))
  | [] => .ok []
  | (name, value) :: rest =>
    match splitQualified name with
    | none => do .ok ((name, value) :: (← resolveAttributes b seen rest))
    | some (namespacePrefix, localName) =>
      match b.find? namespacePrefix with
      | none => .error .unboundPrefix
      | some uri =>
        let name := universal uri localName
        if seen.contains name then .error .duplicateAttribute
        else do .ok ((name, value) :: (← resolveAttributes b (name :: seen) rest))

def resolveTag (b : Bindings) (name : List Char) : Except Fault (List Char) :=
  match splitQualified name with
  | some (namespacePrefix, localName) =>
    match b.find? namespacePrefix with
    | none => .error .unboundPrefix
    | some uri => .ok (universal uri localName)
  | none =>
    match b.find? [] with
    | none => .ok name
    | some uri => .ok (universal uri name)

/-- A tag with its names resolved, and the prefixes in scope inside of the element. -/
structure ResolvedTag where
  tag : List Char
  attributes : List (List Char × List Char)
  bindings : Bindings
  tally : Tally
deriving Repr

/-- Resolve a tag inside of the given bindings; `tally` is what has been read before. -/
def RawTag.resolve (v : ValueSetting) (tally : Tally) (bindings : Bindings) (tag : RawTag) :
    Except TagFault ResolvedTag :=
  let known := v.declarations.attributesOf tag.name
  match TagReader.takeNamed v known ⟨[], [], bindings, tally⟩ tag.attributes with
  | .error fault => .error fault
  | .ok t =>
    match t.takeDefaults known with
    | .error fault => .error fault
    | .ok t =>
      match resolveAttributes t.bindings [] t.attributes.reverse with
      | .error fault => .error ⟨fault, none⟩
      | .ok attributes =>
        match resolveTag t.bindings tag.name with
        | .error fault => .error ⟨fault, none⟩
        | .ok name => .ok ⟨name, attributes, t.bindings, t.tally⟩

end Xml

end FindingLedger
