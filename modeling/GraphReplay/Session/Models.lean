import GraphReplay.Session.Basic

/-!
# Requests to models, contexts and planners

Model objects and their ledgers are kept by the session. Contexts that are made
here count in the ledger until they are released here; those that a workspace
makes are released by it.
-/

namespace GraphReplay.Session.Request

/-- Make a model object; its name tells it apart from all others. -/
def newModel (as : String) (model : Model) : Request Value := do
  claim models as
  modify fun s => { s with models := s.models.insert as { model := { model with label := as } } }
  return .nothing

/-- Give a model another name for itself. -/
def renameModel (model name : String) : Request Value := do
  let _ ← fetch models model
  modify (·.modifyLedger model (·.rename name))
  return .nothing

/-- What a model says about itself. -/
def showModel (model : String) : Request Value := do
  let ⟨m, l⟩ ← fetch models model
  return .model
    { name := l.displayName
      maxBatchSize := m.reportedMaxBatchSize
      bindingsCount := m.reportedBindingsCount
      activations := m.activations
      weights := m.reportedWeights
      contextsCreated := l.contextsCreated
      contextsLive := l.contextsLive }

/-- The bytes of all bindings of a model, as it reports them. -/
def bindingMemory (model : String) : Request Value := do
  let o ← fetch models model
  let n ← ofArithmetic o.model.reportedBindingMemory
  return .bytes n

/-- One binding of a model. -/
def showBinding (model : String) (index : Nat) : Request Value := do
  let o ← fetch models model
  let b ← ofArithmetic (o.model.binding index)
  return .binding b

/-- Create a context and keep it. -/
def newContext (as model : String) : Request Value := do
  claim contexts as
  let o ← fetch models model
  let (c, l) ← ofExcept .model (o.model.createContext o.ledger)
  modify fun s =>
    { s.modifyLedger model fun _ => l with contexts := s.contexts.insert as c }
  return .nothing

/-- Point a context at its scratch memory. -/
def setScratch (context : String) (base : Address) : Request Value := do
  let c ← fetch contexts context
  modify fun s => { s with contexts := s.contexts.insert context (c.setScratch base) }
  return .nothing

/-- Enqueue one inference of a context. -/
def runContext (context device : String) (batchSize : Nat) (bindings : List Address) :
    Request Value := do
  let c ← fetch contexts context
  let _ ← fetchDevice device
  let op ← ofExcept .model (c.operation batchSize bindings)
  modify (·.modifyDevice device (·.enqueue op))
  return .nothing

/-- Release a context. -/
def dropContext (context : String) : Request Value := do
  let c ← fetch contexts context
  modify fun s => { s.releaseContexts [c] with contexts := s.contexts.erase context }
  return .nothing

/-- Make a planner and keep it. Its granularities are not looked at. -/
def newPlanner (as : String) (granularity : Granularity) : Request Value := do
  claim planners as
  modify fun s => { s with planners := s.planners.insert as { granularity } }
  return .nothing

/-- Keep a copy of a planner. -/
def clonePlanner (as planner : String) : Request Value := do
  claim planners as
  let p ← fetch planners planner
  modify fun s => { s with planners := s.planners.insert as p }
  return .nothing

/-- What a model needs; with `andFold`, the marks of the planner rise to it. -/
def requirements (planner model : String) (alignment : Nat) (andFold : Bool) : Request Value := do
  let p ← fetch planners planner
  let o ← fetch models model
  let r ← ofArithmetic (p.requirements o.model alignment)
  if andFold then modify fun s => { s with planners := s.planners.insert planner (p.fold r) }
  return .requirements r

/-- Raise the marks of a planner. -/
def fold (planner : String) (needs : Requirements) : Request Value := do
  let p ← fetch planners planner
  let p := p.fold needs
  modify fun s => { s with planners := s.planners.insert planner p }
  return .plan p.plan

/-- The marks of a planner. -/
def showPlan (planner : String) : Request Value := do
  let p ← fetch planners planner
  return .plan p.plan

end GraphReplay.Session.Request
