import GraphReplay.Session.Devices
import GraphReplay.Session.Memory
import GraphReplay.Session.Models
import GraphReplay.Session.Workspaces

/-!
# Steps of a session

A step does one command and shows the value or the refusal, what the devices did
and what was told during the step, and what is live on each device after it. A
session that is closed takes down the workspaces that are left.
-/

namespace GraphReplay.Session

/-- What a command does. -/
def Command.run : Command → Request Value
  | .unreadable field => throw (.unreadable field)
  | .newDevice as config => Request.newDevice as config
  | .dropDevice device => Request.dropDevice device
  | .arm device point => Request.arm device point
  | .allocate as device bytes => Request.allocate as device bytes
  | .free buffer => Request.free buffer
  | .beginCapture device mode => Request.beginCapture device mode
  | .endCapture as device => Request.endCapture as device
  | .enqueue device op => Request.enqueue device op
  | .instantiate as device graph => Request.instantiate as device graph
  | .cloneExecutor as executor => Request.cloneExecutor as executor
  | .launch device executor => Request.launch device executor
  | .destroyExecutor device executor => Request.destroyExecutor device executor
  | .destroyGraph device graph => Request.destroyGraph device graph
  | .synchronize device => Request.synchronize device
  | .showStream device => Request.showStream device
  | .probe device => Request.probe device
  | .newStack as device capacity => Request.newStack as device capacity
  | .push stack bytes => Request.push stack bytes
  | .resetStack stack => Request.resetStack stack
  | .dropStack stack => Request.dropStack stack
  | .showStack stack => Request.showStack stack
  | .newSpace as device bytes => Request.newSpace as device bytes
  | .dropSpace space => Request.dropSpace space
  | .newModel as model => Request.newModel as model
  | .renameModel model name => Request.renameModel model name
  | .showModel model => Request.showModel model
  | .bindingMemory model => Request.bindingMemory model
  | .showBinding model index => Request.showBinding model index
  | .newContext as model => Request.newContext as model
  | .setScratch context base => Request.setScratch context base
  | .runContext context device batchSize bindings => Request.runContext context device batchSize bindings
  | .dropContext context => Request.dropContext context
  | .newPlanner as granularity => Request.newPlanner as granularity
  | .clonePlanner as planner => Request.clonePlanner as planner
  | .requirements planner model alignment andFold =>
    Request.requirements planner model alignment andFold
  | .fold planner needs => Request.fold planner needs
  | .showPlan planner => Request.showPlan planner
  | .newWorkspace as device granularity => Request.newWorkspace as device granularity
  | .register workspace model name batchSize => Request.register workspace model name batchSize
  | .build workspace => Request.build workspace
  | .showWorkspace workspace => Request.showWorkspace workspace
  | .isRegistered workspace name => Request.isRegistered workspace name
  | .isAvailable workspace key => Request.isAvailable workspace key
  | .showExecutor workspace key => Request.showExecutor workspace key
  | .takeExecutor as workspace key => Request.takeExecutor as workspace key
  | .launchKey workspace key => Request.launchKey workspace key
  | .showAddresses workspace name => Request.showAddresses workspace name
  | .showOwner workspace name => Request.showOwner workspace name
  | .synchronizeWorkspace workspace => Request.synchronizeWorkspace workspace
  | .dropWorkspace workspace => Request.dropWorkspace workspace
  | .dropWorkspaceUnwinding workspace => Request.dropWorkspaceUnwinding workspace

/-- What is live on a device. -/
structure LiveCounts where
  buffers : Nat
  graphs : Nat
  executors : Nat
  deriving DecidableEq, Repr

/-- What a step shows. -/
structure Reply where
  answer : Except Refusal Value
  /-- What each device did during the step, in the order of creation of the devices. -/
  events : List (String × Event)
  /-- What is live on each device after the step, in the same order. -/
  live : List (String × LiveCounts)
  /-- What was told during the step. -/
  notes : List Log.Note
  deriving Repr

/-- All devices as they are, in the order of creation. -/
def allDevices (s : Session) : List (String × Device) :=
  s.devices.filterMap fun (name, c) => (s.stateOf? c).map (name, ·)

/-- What the devices of `s'` did since `s`. -/
def eventsSince (s s' : Session) : List (String × Event) :=
  s'.allDevices.flatMap fun (name, d) =>
    let seen := ((s.anyDevice? name).map (·.events.length)).getD 0
    (d.events.drop seen).map (name, ·)

/-- What is live on each device. -/
def live (s : Session) : List (String × LiveCounts) :=
  s.allDevices.map fun (name, d) =>
    (name, ⟨d.liveBuffers, d.liveGraphs.length, d.liveExecutors.length⟩)

/-- Do one command. -/
def step (s : Session) (c : Command) : Reply × Session :=
  let (answer, s') := c.run.run.run s
  ({ answer, events := eventsSince s s', live := s'.live,
     notes := s'.notes.drop s.notes.length }, s')

/-- Do some commands in turn. -/
def run (s : Session) : List Command → List Reply × Session
  | [] => ([], s)
  | c :: rest =>
    let (reply, s') := s.step c
    let (replies, s'') := s'.run rest
    (reply :: replies, s'')

/-- Take down the workspaces that are left, in the order of their names. -/
def close (s : Session) : Session :=
  (s.run (s.workspaces.keys.map Command.dropWorkspace)).2

end GraphReplay.Session
