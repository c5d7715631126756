import ServiceFlow.Service.Serve

/-!
# A service on the bench

On a bench a service serves several messages at a time. A message in service is a flight: it waits in
line at the pool for its engines, or at the gate for a permit, and goes on when there is an answer.

* `Bench.start` starts a flight and `Bench.resume` looks after one that waits.
* `Bench.abandon` ends a flight on its way; its engine comes back.
-/

namespace ServiceFlow

/-- A message in service; one that is patient for a time only gives up at its deadline. -/
structure Flight (E : Type) where
  stage : Stage E
  patience : Nat
  deadline : Option Nat

/-- A service with its gate, its flights and the results of those that have ended. -/
structure Bench (E : Type) where
  service : Service E
  gate : Semaphore
  flights : Table Nat (Flight E)
  results : Table Nat (Except ServiceError Unit)

namespace Bench

variable {E : Type}

/-- A service without flights, and a gate without permits. -/
def ofService (s : Service E) : Bench E := ⟨s, .ofPermits 0, [], []⟩

/-- Puts down how far a flight has come. -/
def putDown (b : Bench E) (k : Nat) (f : Flight E) (r : Served E) : Bench E × Exchange :=
  let b := { b with service := r.service }
  match r.stage with
  | .ended result =>
    ({ b with flights := b.flights.erase k, results := b.results.set k result }, r.exchange)
  | stage => ({ b with flights := b.flights.set k { f with stage := stage } }, r.exchange)

/-- Goes on with an execution after what the gate has answered. -/
def throughGate (r : Served E) (job : Job) (letThrough shut : Finished E) : Demanded → Served E
  | .granted => r.service.finish r.exchange job letThrough
  | .refused => r.service.finish r.exchange job shut
  | .waiting => r

/-- Goes to the gate if an execution has come there. -/
def toGate (b : Bench E) (k : Nat) (r : Served E) : Bench E × Served E :=
  match r.stage with
  | .atGate job letThrough shut =>
    let (gate, answer) := b.gate.request k 1
    ({ b with gate := gate }, throughGate r job letThrough shut answer)
  | _ => (b, r)

/-- Goes on with an execution after what the pool has answered. -/
def withEngine [EngineModel E] (b : Bench E) (k : Nat) (f : Flight E) (x : Exchange) (job : Job)
    (answer : ObjectPool E × Lending E) : Bench E × Exchange :=
  let r := Service.execute { b.service with engines := answer.1 } x job answer.2
  let (b, r) := b.toGate k r
  b.putDown k f r

/-- Goes on with a request to configure after what the pool has answered. -/
def withEngines [EngineModel E] (b : Bench E) (k : Nat) (f : Flight E) (x : Exchange) (m : Message)
    (answer : ObjectPool E × Lending E) : Bench E × Exchange :=
  b.putDown k f (Service.configure { b.service with engines := answer.1 } x m answer.2)

/-- Asks for all engines in the way that a request to configure says. -/
def askAll (b : Bench E) (k : Nat) (m : Message) : ObjectPool E × Lending E :=
  match m.mode with
  | .immediate => b.service.engines.tryAll
  | .blocking | .withTimeout => b.service.engines.ask k .all

/-- The time after which a flight gives up waiting. -/
def patience? : Stage E → Option Nat
  | .needsEngines m => if m.mode = .withTimeout then some m.header.timeoutMs.toNat else none
  | _ => none

/-- Starts a flight from its first stage. -/
def start [EngineModel E] (b : Bench E) (now k : Nat) (r : Served E) : Bench E × Exchange :=
  let ms := patience? r.stage
  let f : Flight E := ⟨r.stage, ms.getD 0, ms.map (now + ·)⟩
  let b := { b with service := r.service }
  match r.stage with
  | .needsEngine job => b.withEngine k f r.exchange job (b.service.engines.ask k .one)
  | .needsEngines m => b.withEngines k f r.exchange m (b.askAll k m)
  | _ => b.putDown k f r

/-- Gives up waiting for all engines. -/
def giveUp (b : Bench E) (k : Nat) (f : Flight E) (x : Exchange) (m : Message) :
    Bench E × Exchange :=
  let s := { b.service with engines := b.service.engines.withdraw k }
  b.putDown k f (s.refuse x m (.timeout f.patience))

/-- Looks after a flight. -/
def resume [EngineModel E] (b : Bench E) (x : Exchange) (now k : Nat) : Bench E × Exchange :=
  match b.flights.get? k with
  | none => (b, x)
  | some f =>
    match f.stage with
    | .ended _ => (b, x)
    | .needsEngine job => b.withEngine k f x job (b.service.engines.claim k .one)
    | .needsEngines m =>
      match b.service.engines.claim k .all with
      | (engines, .waiting) =>
        let b := { b with service := { b.service with engines := engines } }
        if f.deadline.any (· ≤ now) then b.giveUp k f x m else (b, x)
      | answer => b.withEngines k f x m answer
    | .atGate job letThrough shut =>
      let (gate, answer) := b.gate.claim k
      let b := { b with gate := gate }
      b.putDown k f (throughGate ⟨b.service, x, f.stage⟩ job letThrough shut answer)

/-- Ends a flight on its way. -/
def abandon (b : Bench E) (k : Nat) : Bench E :=
  match b.flights.get? k with
  | none => b
  | some f =>
    let b := { b with flights := b.flights.erase k }
    match f.stage with
    | .ended _ => b
    | .needsEngine _ | .needsEngines _ =>
      { b with service := { b.service with engines := b.service.engines.withdraw k } }
    | .atGate _ _ shut =>
      { b with
        gate := b.gate.withdraw k,
        service :=
          { b.service with engines := b.service.engines.giveBack ⟨.one, [shut.engine]⟩ } }

/-- The flights for which there is an answer. -/
def answered (b : Bench E) : List Nat :=
  b.service.engines.permits.answered ++ b.gate.answered

/-- All engines, those at the gate too. -/
def engines (b : Bench E) : List E :=
  b.service.engines.items ++ b.flights.filterMap fun e =>
    match e.2.stage with
    | .atGate _ _ shut => some shut.engine
    | _ => none

end Bench

end ServiceFlow
