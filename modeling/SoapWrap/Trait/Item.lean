import SoapWrap.Trait.Attribute

/-!
Trait items. Methods are kept in parts, so that their attributes can be read and taken away; all
else is kept as words.
-/

namespace SoapWrap.Trait

structure TypedArgument where
  attributes : List Attribute
  pattern : List String
  name : Option String
  type : SigType

inductive Argument where
  | receiver (words : List String)
  | typed (a : TypedArgument)

structure Method where
  attributes : List Attribute
  head : List String
  name : String
  generics : List String
  /-- The arguments, each with whether a comma stands behind it. -/
  arguments : List (Argument × Bool)
  variadic : List String
  output : Option SigType
  conditions : List String
  body : Option (List String)

inductive Member where
  | method (m : Method)
  | other (words : List String)

structure TraitItem where
  attributes : List Attribute
  visibility : List String
  head : List String
  name : String
  isGeneric : Bool
  generics : List String
  supertraits : List String
  conditions : List String
  members : List Member

def attributeWords (inner : Bool) (as : List Attribute) : List String :=
  (as.filter (·.inner == inner)).flatMap (·.words)

def Argument.words : Argument → List String
  | receiver words => words
  | typed a => a.attributes.flatMap (·.words) ++ a.pattern ++ ":" :: a.type.words

namespace Method

def outputWords (m : Method) : List String :=
  match m.output with
  | none => []
  | some t => "-" :: ">" :: t.words

def bodyWords (m : Method) : List String :=
  match m.body with
  | none => [";"]
  | some words => Delimiter.brace.surround (attributeWords true m.attributes ++ words)

def words (m : Method) : List String :=
  attributeWords false m.attributes ++ m.head ++ m.name :: m.generics ++
    Delimiter.paren.surround
      (Reader.wordsOf "," (m.arguments.map fun (a, more) => (a.words, more)) ++ m.variadic) ++
    m.outputWords ++ m.conditions ++ m.bodyWords

def typed (m : Method) : List TypedArgument :=
  m.arguments.filterMap fun
    | (.typed a, _) => some a
    | (.receiver _, _) => none

end Method

def Member.words : Member → List String
  | method m => m.words
  | other words => words

namespace TraitItem

def words (t : TraitItem) : List String :=
  attributeWords false t.attributes ++ t.visibility ++ t.head ++ t.name :: t.generics ++
    t.supertraits ++ t.conditions ++
    Delimiter.brace.surround (attributeWords true t.attributes ++ t.members.flatMap (·.words))

def methods (t : TraitItem) : List Method :=
  t.members.filterMap fun
    | .method m => some m
    | .other _ => none

end TraitItem

def memberAttributes : List String := ["web_method", "web_result", "web_param", "tag"]

def Attribute.isMember (a : Attribute) : Bool := memberAttributes.any a.path.is

namespace TraitItem

def stripAttributes (as : List Attribute) : List Attribute := as.filter fun a => !a.isMember

def stripArgument : Argument → Argument
  | .typed a => .typed { a with attributes := stripAttributes a.attributes }
  | .receiver words => .receiver words

def stripMethod (m : Method) : Method :=
  { m with
    attributes := stripAttributes m.attributes
    arguments := m.arguments.map fun (a, more) => (stripArgument a, more) }

def stripMember : Member → Member
  | .method m => .method (stripMethod m)
  | .other words => .other words

def strip (t : TraitItem) : TraitItem := { t with members := t.members.map stripMember }

end TraitItem

end SoapWrap.Trait
