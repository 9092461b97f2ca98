import SoapWrap.Metadata.Basic
import SoapWrap.Naming.Snake
import SoapWrap.Sequence
import SoapWrap.Trait.ItemGrammar
import SoapWrap.Trait.Mapping

namespace SoapWrap.Trait

inductive Failure where
  | malformed
  | rejected (r : Rejection)
  deriving DecidableEq

structure ElementTag where
  name : String
  values : List (String × String)
  deriving DecidableEq

structure ServiceParam where
  name : Option String
  type : MappedType
  tags : List ElementTag

structure ServiceMethod where
  name : String
  params : List ServiceParam
  returns : MappedType
  throws : Option MappedType
  tags : List ElementTag

structure Service where
  name : String
  tag : ElementTag
  methods : List ServiceMethod

def reject (r : Rejection) : Except Failure α := .error (.rejected r)

def Value.toText : Value → Except Failure String
  | text s => .ok s
  | bool b => .ok (toString b)
  | int digits => .ok digits
  | name s => .ok s
  | otherLiteral => reject .unsupportedLiteral
  | path => reject .noIdentifier
  | other => reject .noLiteralOrIdentifier

def Meta.nameAndText : Meta → Except Failure (String × String)
  | nameValue p value _ =>
    match p.ident? with
    | none => reject .noSimpleKey
    | some key => value.toText.map (key, ·)
  | _ => reject .noKeyValue

def readMetas (content : List TokenTree) : Except Failure (List Meta) :=
  match Grammar.parse (fun g => Reader.commaList (Grammar.readMeta g)) content with
  | some items => .ok (items.map (·.1))
  | none => .error .malformed

def serviceKeys : List String := ["target_namespace", "name"]

def serviceValue (m : Meta) : Except Failure (String × String) := do
  let (key, value) ← m.nameAndText
  if serviceKeys.contains key then return (Naming.camel key, value)
  else reject .unknownServiceKey

def serviceTag (args : List TokenTree) : Except Failure ElementTag := do
  let metas ← readMetas args
  return ⟨TagName.webService, ← mapAll serviceValue metas⟩

def step (r : Grammar → Reader α) (ts : List TokenTree) : Except Failure (α × List TokenTree) :=
  match r (.ofDepth (TokenTree.sizeAll ts + 1)) ts with
  | some x => .ok x
  | none => .error .malformed

def flagValue : String := "true"

def keyedValue (ts : List TokenTree) : Except Failure (String × List TokenTree) :=
  if Reader.atSymbol "=" ts then do
    let (value, rest) ← step (fun g => g.expr false) (ts.drop 1)
    return (← value.toText, rest)
  else .ok (flagValue, ts)

def keyedValues (allowed : List String) :
    (fuel : Nat) → List TokenTree → Except Failure (List (String × String))
  | 0, _ => .error .malformed
  | fuel + 1, ts =>
    if ts.isEmpty then .ok []
    else do
      let (p, rest) ← step (fun _ => Grammar.wordPath) ts
      let key := p.ident?.getD ""
      if allowed.contains key then
        let (value, rest) ← keyedValue rest
        if rest.isEmpty then return [(Naming.camel key, value)]
        else if Reader.atSymbol "," rest then
          return (Naming.camel key, value) :: (← keyedValues allowed fuel (rest.drop 1))
        else .error .malformed
      else reject (.unknownKey allowed)

def Attribute.tokens (a : Attribute) : Except Failure (List TokenTree) :=
  match a.content with
  | .list _ _ content => .ok content
  | _ => .error .malformed

def keyedTag (name : String) (allowed : List String) (a : Attribute) :
    Except Failure ElementTag := do
  let ts ← a.tokens
  return ⟨name, ← keyedValues allowed (ts.length + 1) ts⟩

def namedTag (a : Attribute) : Except Failure ElementTag := do
  match ← readMetas (← a.tokens) with
  | .path p :: rest =>
    match p.ident? with
    | none => reject .noTagName
    | some name => return ⟨name, ← mapAll Meta.nameAndText rest⟩
  | _ => reject .noTagForm

def methodTag (a : Attribute) : Except Failure (Option ElementTag) :=
  if a.path.is "web_method" then (keyedTag TagName.webMethod ["operation_name"] a).map some
  else if a.path.is "web_result" then
    (keyedTag TagName.webResult ["name", "target_namespace"] a).map some
  else if a.path.is "tag" then (namedTag a).map some
  else .ok none

def paramTag (a : Attribute) : Except Failure (Option ElementTag) :=
  if a.path.is "web_param" then
    (keyedTag TagName.webParam ["name", "target_namespace", "mode", "header"] a).map some
  else if a.path.is "tag" then (namedTag a).map some
  else .ok none

def tagsOf (read : Attribute → Except Failure (Option ElementTag)) (as : List Attribute) :
    Except Failure (List ElementTag) :=
  (mapAll read as).map (·.filterMap id)

def paramName (name : Option String) : Option String :=
  (name.map fun n => String.ofList (n.toList.dropWhile (· = '_'))).filter (· ≠ "")

def ofRejection (r : Except Rejection α) : Except Failure α := r.mapError .rejected

def TypedArgument.service (a : TypedArgument) : Except Failure ServiceParam := do
  let tags ← tagsOf paramTag a.attributes
  return { name := paramName a.name, type := ← ofRejection a.type.map, tags }

def Method.returned (m : Method) : Except Rejection Returned :=
  match m.output with
  | none => .ok ⟨.void, none⟩
  | some t => t.mapReturn

def Method.service (m : Method) : Except Failure ServiceMethod := do
  let tags ← tagsOf methodTag m.attributes
  let params ← mapAll TypedArgument.service m.typed
  let returned ← ofRejection m.returned
  return { name := m.name, params, returns := returned.returns, throws := returned.throws, tags }

def TraitItem.service (t : TraitItem) (tag : ElementTag) : Except Failure Service :=
  if t.isGeneric then reject .genericTrait
  else (mapAll Method.service t.methods).map fun methods => ⟨t.name, tag, methods⟩

def readService (args trait : String) : Except Failure (TraitItem × Service) :=
  match tokenTrees args, TraitItem.parse trait with
  | some args, some item => do
    let tag ← serviceTag args
    return (item, ← item.service tag)
  | _, _ => .error .malformed

end SoapWrap.Trait
