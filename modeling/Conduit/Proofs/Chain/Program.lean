import Conduit.Proofs.Attribute.Sound
import Conduit.Proofs.Chain.Run

/-!
# Programs that hold leases

What uses a pool is a program: it asks for instances, runs passes on its leases, resumes the suspended
ones, drops others, and changes the attributes of those it holds. The stages that a pass calls are
such programs themselves, so all of this may happen from inside a running stage, at any depth. Some
state that is shared by all of it, and that nothing is known of, lets stages depend on more than what
they get to see.

`PoolWorld` is where a program runs. A lease is held by nobody in particular but is in one place: it is
held, or a pass runs on it. The world keeps a history of what happened, with the pools and the leases
as they were right after; the programs do not see it.
-/

namespace Conduit

/-! ### Changes from outside -/

/-- A change of attributes, by whatever operations. -/
structure StoreEdit where
  /-- The attributes after the change. -/
  apply : AttributeStore → AttributeStore
  /-- The store stays sound, as it does under every operation. -/
  sound : ∀ store, store.Sound → (apply store).Sound

/-- The attributes that a stage sees are in sound stores. -/
structure StageView.Sound (view : StageView) : Prop where
  connection : view.connection.Sound
  invocation : view.invocation.Sound

/-- What a stage does to what it sees. It may also exchange the two stores. -/
structure StageEdit where
  /-- What it leaves. -/
  apply : StageView → StageView
  /-- The stores stay sound. -/
  sound : ∀ view, view.Sound → (apply view).Sound

/-- Leaves everything as it is. -/
def StageEdit.nothing : StageEdit where
  apply := id
  sound _ h := h

/-! ### The world -/

/-- Names a lease. -/
structure LeaseName where
  /-- The pool. -/
  pool : PoolRef
  /-- The number of the instance. -/
  id : Nat
  deriving DecidableEq

/-- The name of a lease. -/
def Lease.name (lease : Lease) : LeaseName :=
  ⟨lease.pool, lease.inst.id⟩

/-- What is told of an execution. -/
abbrev ChainReply := Except Panic (Except StageFailure ChainOutcome)

/-- What happens around pools. -/
inductive PoolEvent where
  /-- A lease was acquired. -/
  | acquired (name : LeaseName)
  /-- A stage is called. -/
  | called
  /-- The execution of a lease has returned. -/
  | executed (name : LeaseName) (reply : ChainReply)
  /-- A lease was dropped. -/
  | dropped (name : LeaseName)
  /-- The attributes of a lease were changed by whoever holds it. -/
  | altered (name : LeaseName)

/-- What happened, and how things are right after. -/
structure PoolMoment (S : Type) where
  /-- What happened. -/
  event : PoolEvent
  /-- The pools. -/
  pools : PoolRef → ChainPool S
  /-- The leases that somebody holds or a pass runs on. -/
  out : List LeaseName

/-- The state in which programs run. -/
structure PoolWorld (S U : Type) where
  /-- The pools. -/
  pools : PoolRef → ChainPool S
  /-- The leases that are held. -/
  held : List Lease := []
  /-- The leases on which passes run, the innermost first. -/
  running : List LeaseName := []
  /-- What has happened, the last first. -/
  history : List (PoolMoment S) := []
  /-- Whatever else the programs share. -/
  user : U

namespace PoolWorld

variable {S U : Type}

/-- A world in which nothing has happened, with a new pool for each chain. -/
def fresh (chains : PoolRef → Chain S) (user : U) : PoolWorld S U where
  pools ref := { chain := chains ref }
  user

/-- The leases that somebody holds or a pass runs on. -/
def out (w : PoolWorld S U) : List LeaseName :=
  w.held.map Lease.name ++ w.running

/-- Adds to the history that something has happened. -/
def note (w : PoolWorld S U) (event : PoolEvent) : PoolWorld S U :=
  { w with history := ⟨event, w.pools, w.out⟩ :: w.history }

/-- Takes a lease from where it is held. -/
def take (w : PoolWorld S U) (name : LeaseName) : Option (Lease × PoolWorld S U) :=
  (w.held.find? fun lease ↦ lease.name = name).map fun lease ↦
    (lease, { w with held := w.held.eraseP fun lease ↦ lease.name = name })

/-- The pools of a world and its stages, which act on the world in the given way. -/
def host (registry : U → Registry)
    (act : S → StageView → StateM (PoolWorld S U) (StageAnswer × StageEdit)) :
    ChainHost (PoolWorld S U) S where
  pool ref :=
    { read := fun w ↦ w.pools ref
      write := fun pool w ↦
        { w with pools := fun other ↦ if other = ref then pool else w.pools other } }
  registry w := registry w.user
  process tag view := fun w ↦
    let ((answer, edit), w) := act tag view (w.note .called)
    ((answer, edit.apply view), w)

/-- The pools of a world, whose stages are not called. -/
def quiet (registry : U → Registry) : ChainHost (PoolWorld S U) S :=
  host registry fun _ _ ↦ pure (.error .other, .nothing)

/-- Acquires a lease. -/
def acquire (registry : U → Registry) (pool : PoolRef) : StateM (PoolWorld S U) LeaseName :=
  fun w ↦
    let (lease, w) := (quiet registry).acquire pool w
    (lease.name, { w with held := lease :: w.held }.note (.acquired lease.name))

/-- Drops a lease, if it is held. -/
def drop (registry : U → Registry) (name : LeaseName) : StateM (PoolWorld S U) Bool :=
  fun w ↦
    match w.take name with
    | none => (false, w)
    | some (lease, w) =>
      let ((), w) := (quiet registry).release lease w
      (true, w.note (.dropped name))

/-- Changes the attributes of a lease, if it is held. -/
def alter (name : LeaseName) (edit : StoreEdit) : StateM (PoolWorld S U) Bool :=
  fun w ↦
    match w.take name with
    | none => (false, w)
    | some (lease, w) =>
      let inst := { lease.inst with invocation := edit.apply lease.inst.invocation }
      (true, { w with held := { lease with inst } :: w.held }.note (.altered name))

/-- The world once a pass has ended; a suspended lease is held again. -/
def finish (w : PoolWorld S U) (reply : ChainReply) : PoolWorld S U :=
  match reply with
  | .ok (.ok (.suspended lease)) => { w with held := lease :: w.held, running := w.running.tail }
  | _ => { w with running := w.running.tail }

/-- Executes a lease, if it is held. -/
def execute (registry : U → Registry)
    (act : S → StageView → StateM (PoolWorld S U) (StageAnswer × StageEdit)) (name : LeaseName)
    (event : Event) (connection : AttributeStore) :
    StateM (PoolWorld S U) (Option (ChainReply × AttributeStore)) :=
  fun w ↦
    match w.take name with
    | none => (none, w)
    | some (lease, w) =>
      let ((reply, left), w) := (host registry act).execute lease event connection
        { w with running := name :: w.running }
      (some (reply, left), (w.finish reply).note (.executed name reply))

end PoolWorld

/-! ### Programs -/

/-- What a stage, or whoever else uses pools, does. Programs that are refused a lease, since nobody
holds it, go on without it. -/
inductive Program (S U : Type) where
  /-- End; a stage answers, and leaves something of what it saw. -/
  | done (answer : StageAnswer) (edit : StageEdit)
  /-- Look at the shared state, and change it. -/
  | user (change : U → U) (next : U → Program S U)
  /-- Acquire a lease. -/
  | acquire (pool : PoolRef) (next : LeaseName → Program S U)
  /-- Drop a lease. -/
  | drop (name : LeaseName) (next : Bool → Program S U)
  /-- Change the attributes of a lease. -/
  | alter (name : LeaseName) (edit : StoreEdit) (next : Bool → Program S U)
  /-- Execute a lease, or resume it; what the stages do then is a program for each call. -/
  | execute (name : LeaseName) (event : Event) (connection : { store : AttributeStore // store.Sound })
      (stages : S → StageView → Program S U)
      (next : Option (ChainReply × AttributeStore) → Program S U)

/-- Runs a program. -/
def Program.run {S U : Type} (registry : U → Registry) :
    Program S U → StateM (PoolWorld S U) (StageAnswer × StageEdit)
  | .done answer edit => pure (answer, edit)
  | .user change next => fun w ↦ (next w.user).run registry { w with user := change w.user }
  | .acquire pool next => fun w ↦
    let (name, w) := PoolWorld.acquire registry pool w
    (next name).run registry w
  | .drop name next => fun w ↦
    let (dropped, w) := PoolWorld.drop registry name w
    (next dropped).run registry w
  | .alter name edit next => fun w ↦
    let (altered, w) := PoolWorld.alter name edit w
    (next altered).run registry w
  | .execute name event connection stages next => fun w ↦
    let (told, w) := PoolWorld.execute registry (fun tag view ↦ (stages tag view).run registry)
      name event connection w
    (next told).run registry w

end Conduit
