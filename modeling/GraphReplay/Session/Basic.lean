import GraphReplay.Session.Command
import GraphReplay.Workspace.Teardown

/-!
# Sessions

A session keeps named things, one table for each kind, and what happened to
them. A device is *free*, or a workspace has it, or it is *retired*: gone for
every use, but still taking back memory that was allocated on it, and still
listed. Names of devices are never used again.

The objects behind models are owned by the session, with their ledgers;
workspaces and contexts only refer to them.
-/

namespace GraphReplay

namespace Session

/-- Who has a device. -/
inductive Custody
  | free (d : Device)
  | inWorkspace (workspace : String)
  | retired (d : Device)
  deriving DecidableEq, Repr

/-- Something that lives on a device. -/
structure OnDevice (α : Type) where
  device : String
  value : α
  deriving DecidableEq, Repr

/-- A model object and what changes about it. -/
structure ModelObject where
  model : Model
  ledger : Ledger := {}
  deriving DecidableEq, Repr

end Session

/-- Named things, and what was told about them. -/
structure Session where
  /-- In the order of creation. -/
  devices : List (String × Session.Custody) := []
  buffers : Table String (Session.OnDevice Buffer) := {}
  graphs : Table String Graph := {}
  executors : Table String Executor := {}
  bindingStacks : Table String (Session.OnDevice BindingStack) := {}
  spaces : Table String (Session.OnDevice ActivationSpace) := {}
  models : Table String Session.ModelObject := {}
  contexts : Table String Context := {}
  planners : Table String Planner := {}
  workspaces : Table String (Session.OnDevice Workspace) := {}
  notes : List Log.Note := []
  deriving DecidableEq, Repr

namespace Session

/-- Who has the device of a name. -/
def custody? (s : Session) (name : String) : Option Custody := Table.lookup name s.devices

/-- A device as it is, wherever it is. -/
def stateOf? (s : Session) : Custody → Option Device
  | .free d | .retired d => some d
  | .inWorkspace w => (s.workspaces.find? w).map (·.value.device)

/-- The device of a name, wherever it is. -/
def anyDevice? (s : Session) (name : String) : Option Device :=
  (s.custody? name).bind s.stateOf?

/-- The device of a name, unless it is retired. -/
def device? (s : Session) (name : String) : Option Device :=
  match s.custody? name with
  | some (.retired _) | none => none
  | some c => s.stateOf? c

/-- Put the device of a name into other hands. -/
def setCustody (s : Session) (name : String) (c : Custody) : Session :=
  { s with devices := s.devices.map fun (n, c') => if n = name then (n, c) else (n, c') }

/-- Change the device of a name, wherever it is. -/
def modifyDevice (s : Session) (name : String) (f : Device → Device) : Session :=
  match s.custody? name with
  | none => s
  | some (.free d) => s.setCustody name (.free (f d))
  | some (.retired d) => s.setCustody name (.retired (f d))
  | some (.inWorkspace w) =>
    match s.workspaces.find? w with
    | none => s
    | some o =>
      { s with
        workspaces := s.workspaces.insert w
          { o with value := { o.value with device := f o.value.device } } }

/-- Change the ledger of a model object. -/
def modifyLedger (s : Session) (model : String) (f : Ledger → Ledger) : Session :=
  match s.models.find? model with
  | none => s
  | some o => { s with models := s.models.insert model { o with ledger := f o.ledger } }

/-- Release some contexts. -/
def releaseContexts (s : Session) (cs : List Context) : Session :=
  cs.foldl (fun s c => s.modifyLedger c.model.label Ledger.release) s

/-- Append what was told. -/
def tell (s : Session) (ns : List Log.Note) : Session := { s with notes := s.notes ++ ns }

/-- A request at work: it gives a value or refuses, and what it did stays done. -/
abbrev Request := ExceptT Refusal (StateM Session)

namespace Request

/-- What is kept under `name`. -/
def fetch {α : Type} (table : Session → Table String α) (name : String) : Request α := do
  match (table (← get)).find? name with
  | some a => return a
  | none => throw (.slot name)

/-- Refuse a name that is in use. -/
def claim {α : Type} (table : Session → Table String α) (name : String) : Request Unit := do
  if (table (← get)).has name then throw (.slot name)

/-- The answer of an operation with errors of its own. -/
def ofExcept {ε α : Type} (wrap : ε → Refusal) (x : Except ε α) : Request α :=
  liftExcept (x.mapError wrap)

/-- The result of some arithmetic. -/
def ofArithmetic {α : Type} (x : Except Defect α) : Request α := ofExcept (.abort ∘ .defect) x

/-- The device of a name, unless it is retired. -/
def fetchDevice (name : String) : Request Device := do
  match (← get).device? name with
  | some d => return d
  | none => throw (.slot name)

/-- The device of a name, if it is free. -/
def fetchFreeDevice (name : String) : Request Device := do
  match (← get).custody? name with
  | some (.free d) => return d
  | _ => throw (.slot name)

/-- Call a device. -/
def callDevice {α : Type} (name : String) (call : Device → Device.Answer α) : Request α := do
  let d ← fetchDevice name
  let (answer, d') := call d
  modify (·.modifyDevice name fun _ => d')
  ofExcept (Refusal.ofFailure .device) answer

/-- Keep a workspace as some work left it, collect what it told, and give the answer. -/
def settle {α : Type} (name : String) (o : OnDevice Workspace) (answer : Except Abort α)
    (w : Workspace) : Request α := do
  modify fun s =>
    { s with workspaces := s.workspaces.insert name { o with value := { w with journal := [] } } }
  modify (·.tell w.journal)
  match answer with
  | .ok a => return a
  | .error a =>
    modify (·.tell a.notes)
    throw (.abort a)

/-- Work on a workspace. -/
def onWorkspace {α : Type} (name : String) (work : Workspace → Except Abort α × Workspace) :
    Request α := do
  let o ← fetch workspaces name
  let (answer, w) := work o.value
  settle name o answer w

end Request

end Session

end GraphReplay
