import GraphReplay.Workspace.Basic

/-!
# Registration

A registration is looked at from the outside in: the phase, the batch size, the
key, the name. Only then is the model touched. It takes on the name it is
registered under, the context of the name is created if there is none yet, the
model is measured, and at last everything is written down at once.

A registration that is turned down writes nothing down. What it may leave is
outside the workspace: if the model cannot be measured, the model keeps the new
name, and the context that was created for it is released.
-/

namespace GraphReplay.Workspace

/-- Whether a registration may be looked at further, by what is registered already. -/
def checkRegistration (w : Workspace) (name : String) (m : Model) (batchSize : Nat) :
    Except FatalError Unit :=
  if w.phase ≠ .registering then .error (.registrationClosed name)
  else if batchSize = 0 then .error (.zeroBatchSize name)
  else if m.reportedMaxBatchSize < batchSize then
    .error (.batchSizeExceeded name batchSize m.reportedMaxBatchSize)
  else if w.modelsByKey.has ⟨name, batchSize⟩ then .error (.duplicateModel name batchSize)
  else
    -- Labels tell objects apart, so handles that are equal lead to one object.
    match w.models.find? name with
    | some registered => if registered = m then .ok () else .error (.nameConflict name)
    | none => .ok ()

/-- The context that has to be created for `name`, if it has none, and the ledger of the model
    after that. The model goes by its new name when the context is created. -/
def openContext (w : Workspace) (name : String) (m : Model) (l : Ledger) :
    Except ModelError (Option Context × Ledger) :=
  if w.contexts.has name then .ok (none, l.rename name)
  else (m.createContext (l.rename name)).map fun (c, l') => (some c, l')

/-- The notes of an accepted registration. -/
def registrationNotes (name : String) (batchSize : Nat) (r : Requirements) : List Log.Note :=
  [.registering name batchSize, .bindingsNeed name r.bindings, .activationsNeed name r.activations]
    ++ if 0 < r.weights then [.weightsNeed name r.weights] else []

/-- Write an accepted registration down. -/
def enroll (w : Workspace) (name : String) (m : Model) (batchSize : Nat) (c : Option Context)
    (r : Requirements) : Workspace :=
  { w with
    planner := w.planner.fold r
    journal := w.journal ++ registrationNotes name batchSize r
    contexts := match c with
      | some c => w.contexts.insert name c
      | none => w.contexts
    models := w.models.insert name m
    modelsByKey := w.modelsByKey.insert ⟨name, batchSize⟩ m }

/-- Register `m` under `name` at `batchSize`. The ledger is the one of `m`. -/
def register (w : Workspace) (l : Ledger) (name : String) (m : Model) (batchSize : Nat) :
    Except Abort Unit × Ledger × Workspace :=
  match w.checkRegistration name m batchSize with
  | .error e => (.error (.fatal e), l, w)
  | .ok () =>
    match w.openContext name m l with
    | .error e => (.error (.fatal (.model name e)), l, w)
    | .ok (c, l') =>
      -- From here on the model keeps its new name, whatever comes.
      match w.planner.requirements m w.device.alignment.bytes with
      | .error d => (.error (.defect d), if c.isSome then l'.release else l', w)
      | .ok r => (.ok (), l', w.enroll name m batchSize c r)

end GraphReplay.Workspace
