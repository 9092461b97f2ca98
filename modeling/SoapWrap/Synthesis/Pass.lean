import SoapWrap.Synthesis.Interface

/-!
A build pass: every service of the index in order, each interface synthesized as a whole before
any of its types is handed on. The state is returned next to the result, also where the pass fails.
-/

namespace SoapWrap

structure Registrar where
  names : List String := []
  deriving DecidableEq

namespace Registrar

def contains (r : Registrar) (name : String) : Bool := r.names.contains name

def register (r : Registrar) (name : String) : Registrar :=
  if r.contains name then r else ⟨r.names ++ [name]⟩

def registerAll (r : Registrar) (names : List String) : Registrar := names.foldl register r

end Registrar

structure Report where
  interfaces : Nat := 0
  operations : Nat := 0
  wrappers : Nat := 0
  faults : Nat := 0
  typesEmitted : Nat := 0
  skippedServices : List String := []
  skippedOperations : List String := []
  deriving DecidableEq

namespace Report

def skipService (r : Report) (name : String) : Report :=
  { r with skippedServices := r.skippedServices ++ [name] }

def addInterface (r : Report) (o : InterfaceOutput) : Report where
  interfaces := r.interfaces + 1
  operations := r.operations + o.operations.length
  wrappers := r.wrappers + o.operations.length * 2
  faults := r.faults + o.faults.length
  typesEmitted := r.typesEmitted + o.typeDefs.length
  skippedServices := r.skippedServices
  skippedOperations := r.skippedOperations ++ o.skipped.map (o.interface ++ "." ++ ·)

end Report

/-- A pass under way; `sink` is what the types are handed to. -/
structure Pass (σ : Type) where
  session : Session := {}
  emitted : List String := []
  sink : σ
  registrar : Registrar := {}
  report : Report := {}

namespace Pass

variable {σ : Type}

def emitAll (emit : TypeDef → σ → Except EmitError σ) (p : Pass σ) :
    List TypeDef → Option SynthesisError × Pass σ
  | [] => (none, p)
  | d :: rest =>
    match emit d p.sink with
    | .error e => (some (.emit e), p)
    | .ok sink =>
      emitAll emit { p with sink, registrar := p.registrar.register d.name } rest

def emitInterface (emit : TypeDef → σ → Except EmitError σ) (p : Pass σ) (o : InterfaceOutput) :
    Option SynthesisError × Pass σ :=
  match firstRepeated p.emitted (o.typeDefs.map (·.name)) with
  | some name => (some (.emit (.synthesizedTwice name)), p)
  | none =>
    match p.emitAll emit o.typeDefs with
    | (some e, p) => (some e, p)
    | (none, p) =>
      (none, { p with
        emitted := o.typeDefs.map (·.name) ++ p.emitted
        registrar := p.registrar.registerAll o.companions
        report := p.report.addInterface o })

def runService (s : Synthesizer) (emit : TypeDef → σ → Except EmitError σ) (p : Pass σ)
    (service : TypeInfo) : Option SynthesisError × Pass σ :=
  let p := { p with registrar := p.registrar.register service.name }
  if service.kind ≠ .interface then (none, { p with report := p.report.skipService service.name })
  else match s.interfaceOutput p.session service.name with
    | (.error e, session) => (some e, { p with session })
    | (.ok output, session) => emitInterface emit { p with session } output

def runServices (s : Synthesizer) (emit : TypeDef → σ → Except EmitError σ) (p : Pass σ) :
    List TypeInfo → Option SynthesisError × Pass σ
  | [] => (none, p)
  | service :: rest =>
    match p.runService s emit service with
    | (some e, p) => (some e, p)
    | (none, p) => p.runServices s emit rest

end Pass

def Synthesizer.runOn (s : Synthesizer) (session : Session)
    (emit : TypeDef → σ → Except EmitError σ) (sink : σ) (registrar : Registrar) :
    Except SynthesisError Report × Pass σ :=
  match Pass.runServices s emit { session := session.reset, sink, registrar }
    s.index.webServices with
  | (some e, p) => (.error e, p)
  | (none, p) => (.ok p.report, p)

def Synthesizer.run (s : Synthesizer) (emit : TypeDef → σ → Except EmitError σ) (sink : σ)
    (registrar : Registrar) : Except SynthesisError Report × Pass σ :=
  s.runOn {} emit sink registrar

end SoapWrap
