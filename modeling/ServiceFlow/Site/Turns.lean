import ServiceFlow.Site.Basic

/-!
# The turns of the tasks of a site

* A listener gives the messages of its subscription to the workers, until their queue is full.
* A worker picks up a message and serves it. The only worker of a service goes on to the next; of
  several, the one that has waited longest takes the next turn.
* A control task carries out requests until its DPE is to stop or the bus is closed; then it shuts the
  DPE down.
* A responder publishes its answer, and a flight looks whether it can go on.
-/

namespace ServiceFlow

namespace Dpe

variable {E : Type}

/-- The station of a deployed service. -/
def station? (d : Dpe E) (name : Name) : Option (Station E) := do
  let container ← name.container?
  (← d.containers.get? container).stations.get? name

/-- Puts a station down again. -/
def setStation (d : Dpe E) (s : Station E) : Dpe E :=
  match s.service.name.container? with
  | none => d
  | some container =>
    { d with
      containers := d.containers.modify container fun c =>
        { c with stations := c.stations.set s.service.name s } }

end Dpe

namespace Station

variable {E : Type}

/-- Takes the next message in hand, if none is. -/
def pick (s : Station E) (bus : Bus) : Station E × Bus :=
  match s.inHand with
  | some _ => (s, bus)
  | none =>
    match bus.receive s.subscription with
    | (bus, .message m) => ({ s with inHand := some m }, bus)
    | (bus, _) => (s, bus)

/-- Gives messages to the workers until there is none or their queue is full. -/
def feed : Nat → Station E → Bus → Station E × Bus
  | 0, s, bus => (s, bus)
  | fuel + 1, s, bus =>
    match s.pick bus with
    | (s, bus) =>
      match s.inHand with
      | none => (s, bus)
      | some m =>
        match s.pool.submit? m with
        | none => (s, bus)
        | some pool => feed fuel { s with pool := pool, inHand := none } bus

/-- Serves a message that a worker has picked up. -/
def serve [EngineModel E] (s : Station E) (x : Exchange) (m : Message) : Station E × Exchange :=
  let r := s.service.serve x m
  let x := match r.stage with
    | .ended result => r.service.noteDropped r.exchange m.topic result
    | _ => r.exchange
  ({ s with service := r.service, pool := s.pool.finish m }, x)

end Station

namespace Site

variable {E : Type}

/-- The station of a service. -/
def station? (s : Site E) (node : Nat) (service : Name) : Option (Station E) := do
  (← s.nodes[node]?).dpe.station? service

/-- Works on a station. -/
def onStation (s : Site E) (node : Nat) (f : Station E → Exchange → Station E × Exchange)
    (st : Station E) : Site E :=
  (s.onDpe node fun d x =>
    let (st, x) := f st x
    (d.setStation st, x, ())).1

/-- The turn of a listener. -/
def listenerTurn (s : Site E) (node : Nat) (service : Name) : Site E :=
  match s.station? node service with
  | none => s
  | some st =>
    let fuel := (s.exchange.bus.queued st.subscription).length + 2
    let s := s.onStation node (fun st x =>
      let (st, bus) := st.feed fuel x.bus
      (st, { x with bus := bus })) st
    match s.station? node service with
    | some st => if st.pool.queue.isEmpty then s else s.wake (.worker node service)
    | none => s

/-- The turn of a worker, which is over after one message if there are other workers. -/
def workerTurn [EngineModel E] (node : Nat) (service : Name) : Nat → Site E → Site E
  | 0, s => s
  | fuel + 1, s =>
    match s.station? node service with
    | none => s
    | some st =>
      match st.pool.start? with
      | none => s
      | some (m, pool) =>
        let st := { st with pool := pool }
        let s := if st.inHand.isSome then s.wake (.listener node service) else s
        let alone := pool.workers ≤ 1
        let s := if alone then s else s.wake (.worker node service)
        let s := s.onStation node (fun st x => st.serve x m) st
        if alone then workerTurn node service fuel s else s

/-- Ends the work of a DPE on one of its subscriptions. -/
def controlEnd (s : Site E) (node subscription : Nat) : Site E :=
  (s.onNode node fun d x =>
    let (dpe, x) := d.dpe.finish x
    ({ d with dpe := dpe, control := d.control.erase subscription },
      { x with bus := x.bus.drop subscription }, ())).1

/-- The turn of a control task. -/
def controlTurn [EngineModel E] (node subscription : Nat) : Nat → Site E → Site E
  | 0, s => s
  | fuel + 1, s =>
    match s.nodes[node]? with
    | none => s
    | some d =>
      if !d.control.contains subscription then s
      else if d.dpe.stopping then s.controlEnd node subscription
      else
        match s.onBus fun b => b.receive subscription with
        | (s, .message m) =>
          let s := (s.onDpe node fun d x =>
            let (d, x) := d.handle x m
            (d, x, ())).1
          controlTurn node subscription fuel s
        | (s, .empty) => s
        | (s, .ended) => s.controlEnd node subscription

/-- A responder publishes its answer. -/
def respond (s : Site E) (k : Nat) (r : Responder) (reply : Option Message) : Site E :=
  let s := { s with responders := s.responders.erase k }
  (s.onExchange fun x =>
    let x := { x with bus := x.bus.drop r.subscription }
    match reply with
    | some m => ((x.publish m).1, ())
    | none => (x, ())).1

/-- The turn of a responder. -/
def responderTurn (s : Site E) (k : Nat) : Site E :=
  match s.responders.get? k with
  | none => s
  | some r =>
    match r.reply with
    | some (time, reply) => if time ≤ s.agenda.now then s.respond k r reply else s
    | none =>
      match s.onBus fun b => b.receive r.subscription with
      | (s, .message m) =>
        let reply := m.reply r.author r.answer
        match r.delay with
        | none => s.respond k r reply
        | some ms =>
          let r := { r with reply := some (s.agenda.now + ms, reply) }
          { s with
            responders := s.responders.set k r, agenda := s.agenda.wakeAfter ms (.responder k) }
      | (s, _) => s

/-- The turn of a task. -/
def turn [EngineModel E] (t : SiteTask) (s : Site E) : Site E :=
  match t with
  | .responder k => s.responderTurn k
  | .flight k => s.onBench fun b x => b.resume x s.agenda.now k
  | .control node subscription =>
    controlTurn node subscription ((s.exchange.bus.queued subscription).length + 2) s
  | .listener node service => s.listenerTurn node service
  | .worker node service =>
    let queued := match s.station? node service with
      | some st => st.pool.queue.length
      | none => 0
    workerTurn node service queued s

instance [EngineModel E] : Scheduled (Site E) SiteTask :=
  ⟨agenda, fun s a => { s with agenda := a }, turn⟩

end Site

end ServiceFlow
