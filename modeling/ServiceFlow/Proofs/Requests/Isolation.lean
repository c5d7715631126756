import ServiceFlow.Proofs.Requests.Deployment

/-!
# Numbers keep requests apart

Whatever is on its way, buffered or completed under a number stems from requests that have this number
and that have been started. So requests can only meet in a group if their clients have given them the
same number.

* `Deployment.Stem`: the requests have been started, and have the given number.
* `Deployment.Tracked`: so it is for all that a deployment holds, and each client counts its requests.
* `Deployment.tracked_run`: this holds after any events.
* `Deployment.Meet`, `Deployment.Share`: inputs of both requests in a completed group, or in an open one.
-/

namespace ServiceFlow

open ServiceFlow.Composition

/-! ## Numbers -/

namespace Request

theorem number_first (client : Name) : number ⟨client, 0⟩ = 1 := rfl

theorem number_next (client : Name) (k : Nat) :
    number ⟨client, k + 1⟩ = number ⟨client, k⟩ + 1 := Int64.ofNat_add _ 1

/-- Numbers come again after 2⁶⁴ requests. -/
theorem number_eq_iff {q q' : Request} :
    q.number = q'.number ↔ q.before % Int64.size = q'.before % Int64.size := by
  unfold number
  rw [← Int64.toBitVec_inj]
  change BitVec.ofNat 64 _ = BitVec.ofNat 64 _ ↔ _
  rw [← BitVec.toNat_inj, BitVec.toNat_ofNat, BitVec.toNat_ofNat]
  unfold Int64.size
  omega

end Request

namespace Deployment

/-! ## What is tracked -/

/-- All the requests have been started, and have the number. -/
def Stem (started : Name → Nat) (id : CommunicationId) (origins : List Request) : Prop :=
  ∀ q ∈ origins, q.before < started q.client ∧ q.number = id

/-- Each client counts its requests, and all that there is under a number stems from requests of that
number. -/
structure Tracked (w : Deployment) : Prop where
  names : ∀ n, (w.clients n).name = n
  next : ∀ n, (w.clients n).nextId = Request.number ⟨n, w.started n⟩
  memory : ∀ e ∈ w.memory, Stem w.started e.1.id e.2.origins
  air : ∀ m ∈ w.air, Stem w.started m.content.header.id m.origins
  groups : ∀ n, (w.services n).router.barriers.Stems fun id _ p => Stem w.started id p.origins
  works : ∀ j ∈ w.works, Stem w.started j.job.request.header.id j.origins
  completed : ∀ g ∈ w.completed, ∀ i ∈ g.inputs, Stem w.started g.key.id i.2.origins

variable {w : Deployment} {started started' : Name → Nat} {id : CommunicationId}
  {origins origins' : List Request}

theorem Stem.mono (h : Stem started id origins) (hle : ∀ n, started n ≤ started' n) :
    Stem started' id origins :=
  fun q hq => ⟨(h q hq).1.trans_le (hle q.client), (h q hq).2⟩

theorem Stem.append (h : Stem started id origins) (h' : Stem started id origins') :
    Stem started id (origins ++ origins') :=
  fun q hq => (List.mem_append.mp hq).elim (h q) (h' q)

theorem tracked_start (timeoutMs : Nat) : (start timeoutMs).Tracked where
  names _ := rfl
  next n := (Request.number_first n).symm
  memory _ he := absurd he List.not_mem_nil
  air _ hm := absurd hm List.not_mem_nil
  groups _ _ he := absurd he List.not_mem_nil
  works _ hj := absurd hj List.not_mem_nil
  completed _ hg := absurd hg List.not_mem_nil

/-! ## Clients -/

theorem le_started_number (client : Name) (d : EngineData) (n : Name) :
    w.started n ≤ (w.number client d).1.started n := by
  change w.started n ≤ Function.update w.started client (w.started client + 1) n
  rw [Function.update_apply]
  split
  · rename_i hn
    rw [hn]
    exact Nat.le_succ _
  · exact le_rfl

/-- **A request that is started is tracked**, and its data stems from it. -/
theorem Tracked.number (h : w.Tracked) (client : Name) (d : EngineData) :
    (w.number client d).1.Tracked ∧
      Stem (w.number client d).1.started (w.number client d).2.content.id
        (w.number client d).2.origins := by
  have hle := le_started_number (w := w) client d
  have hclient (n : Name) : (w.number client d).1.clients n =
      if n = client then ((w.clients client).number d).1 else w.clients n :=
    Function.update_apply ..
  have hstarted (n : Name) : (w.number client d).1.started n =
      if n = client then w.started client + 1 else w.started n :=
    Function.update_apply ..
  refine ⟨⟨fun n => ?_, fun n => ?_, fun e he => (h.memory e he).mono hle,
    fun m hm => (h.air m hm).mono hle,
    fun n => (h.groups n).mono fun _ _ _ hp => hp.mono hle,
    fun j hj => (h.works j hj).mono hle, fun g hg i hi => (h.completed g hg i hi).mono hle⟩, ?_⟩
  · rw [hclient]
    split
    · rename_i hn
      rw [hn]
      exact h.names client
    · exact h.names n
  · rw [hclient, hstarted]
    split
    · rename_i hn
      rw [hn, Request.number_next, ← h.next client]
      rfl
    · exact h.next n
  · intro q hq
    obtain rfl := List.mem_singleton.mp hq
    rw [hstarted, if_pos rfl]
    exact ⟨Nat.lt_succ_self _, (h.next client).symm⟩

theorem Tracked.publish (h : w.Tracked) {ms : List (Traced Message)}
    (hms : ∀ m ∈ ms, Stem w.started m.content.header.id m.origins) : (w.publish ms).Tracked :=
  { h with air := fun m hm => (List.mem_append.mp hm).elim (h.air m) (hms m) }

/-- The messages of a new request carry its data under its number. -/
theorem Tracked.request (h : w.Tracked) (client : Name) (d : EngineData)
    (fs : List (EngineData → Message)) (hf : ∀ f ∈ fs, ∀ e, (f e).header.id = e.id) :
    ((w.number client d).1.publish (fs.map fun f => (w.number client d).2.map f)).Tracked := by
  obtain ⟨htracked, hstem⟩ := h.number client d
  refine htracked.publish fun m hm => ?_
  obtain ⟨f, hmem, rfl⟩ := List.mem_map.mp hm
  change Stem _ (f (w.number client d).2.content).header.id _
  rw [hf f hmem]
  exact hstem

/-! ## Services -/

/-- All groups have the property if those of the service that has changed have it. -/
theorem stems_update {T : CommunicationId → Name → Traced EngineData → Prop}
    {services : Name → TracedService} (h : ∀ n, (services n).router.barriers.Stems T) {service : Name}
    {s : TracedService} (hs : s.router.barriers.Stems T) (n : Name) :
    (Function.update services service s n).router.barriers.Stems T := by
  rw [Function.update_apply]
  split
  · exact hs
  · exact h n

/-- Data that is fetched stems from requests of the number of the message. -/
theorem fetch_stem {memory : Table EntryKey (Traced EngineData)}
    (hmemory : ∀ e ∈ memory, Stem started e.1.id e.2.origins) {m : Traced Message}
    (hm : Stem started m.content.header.id m.origins) (receiver sender : Name) :
    (∀ e ∈ (fetch memory receiver sender m).1, Stem started e.1.id e.2.origins) ∧
      ∀ d, (fetch memory receiver sender m).2 = some d →
        Stem started m.content.header.id d.origins := by
  unfold fetch
  cases m.content.location with
  | network =>
    refine ⟨hmemory, fun d hd => ?_⟩
    cases hd
    exact hm
  | sharedMemory =>
    simp only
    cases hget : memory.get? ⟨receiver, sender, m.content.header.id⟩ with
    | none => exact ⟨hmemory, fun d hd => absurd hd (by simp)⟩
    | some e =>
      refine ⟨fun e he => hmemory e (List.mem_of_mem_filter he), fun d hd => ?_⟩
      cases hd
      exact (hmemory _ (Table.mem_of_get?_eq_some hget)).append hm

/-- **What a service makes of a message** stems from requests of its number. -/
theorem take_stem {s : TracedService}
    (hs : s.router.barriers.Stems fun id _ p => Stem started id p.origins) {m : Message}
    {d : Traced EngineData} (hd : Stem started m.header.id d.origins) (sender : Name) (now : Nat) :
    ((s.take m sender d now).service.router.barriers.Stems fun id _ p =>
        Stem started id p.origins) ∧
      (∀ j ∈ (s.take m sender d now).works, j.job.request = m ∧ Stem started m.header.id j.origins) ∧
      ∀ g ∈ (s.take m sender d now).completed,
        g.key.id = m.header.id ∧ ∀ i ∈ g.inputs, Stem started m.header.id i.2.origins := by
  unfold TracedService.take
  rcases s.cache.resolve m.header.composition with ⟨cache, logs, r⟩
  cases r with
  | error e => exact ⟨hs, fun _ hj => absurd hj List.not_mem_nil, fun _ hg => absurd hg List.not_mem_nil⟩
  | ok c =>
    have hrefresh : (s.router.refresh c.text now).1.Stems fun id _ p => Stem started id p.origins :=
      BarrierStore.Stems.refresh fun _ => hs
    let n : Router.Numbered (Traced EngineData) :=
      ⟨⟨sender, d, s.states.record sender d.content.state, now⟩, m.header.id⟩
    have hcompleted : ∀ e ∈ Router.handedOut c s.router n, ∀ i ∈ e.2,
        Stem started m.header.id i.2.origins := fun e he i hi =>
      Router.handedOut_stems (m := n) hrefresh hd he hi
    have hready : ∀ inputs joined, (Router.receive c s.router n).2.2 = .ok (.ready inputs joined) →
        ∀ i ∈ inputs, Stem started m.header.id i.2.origins := fun inputs joined ha i hi =>
      Router.ready_stems (m := n) hrefresh hd ha hi
    refine ⟨Router.receive_stems (m := n) hrefresh hd, fun j hj => ?_, fun g hg => ?_⟩
    · dsimp only at hj
      rcases hanswer : (Router.receive c s.router n).2.2 with e | (_ | ⟨inputs, joined⟩)
      all_goals rw [hanswer] at hj
      · exact absurd hj List.not_mem_nil
      · exact absurd hj List.not_mem_nil
      · obtain rfl := List.mem_singleton.mp hj
        refine ⟨rfl, fun q hq => ?_⟩
        obtain ⟨i, hi, hq⟩ := List.mem_flatMap.mp hq
        exact hready inputs joined hanswer i hi q hq
    · obtain ⟨e, he, rfl⟩ := List.mem_map.mp hg
      exact ⟨rfl, hcompleted e he⟩

theorem Tracked.serve (h : w.Tracked) (service : Name) {m : Traced Message}
    (hm : Stem w.started m.content.header.id m.origins) (now : Nat) :
    (w.serve service m now).Tracked := by
  unfold Deployment.serve
  cases Name.parse m.content.header.author with
  | error e => exact h
  | ok sender =>
    obtain ⟨hmemory, hdata⟩ := fetch_stem h.memory hm service sender
    simp only
    rcases hfetch : fetch w.memory service sender m with ⟨memory, d⟩
    rw [hfetch] at hmemory hdata
    cases d with
    | none => exact { h with memory := hmemory }
    | some d =>
      obtain ⟨hgroups, hworks, hcompleted⟩ := take_stem (h.groups service) (hdata d rfl) sender now
      refine { h with
        memory := hmemory
        groups := stems_update h.groups hgroups
        works := fun j hj => (List.mem_append.mp hj).elim (h.works j) fun hj => ?_
        completed := fun g hg => (List.mem_append.mp hg).elim (h.completed g) fun hg => ?_ }
      · obtain ⟨hrequest, hstem⟩ := hworks j hj
        exact hrequest ▸ hstem
      · obtain ⟨hid, hstem⟩ := hcompleted g hg
        exact hid ▸ hstem

theorem Tracked.send (h : w.Tracked) (sender : Name) (text : String) {d : Traced EngineData}
    (hd : Stem w.started d.content.id d.origins) (receiver : Name) :
    (w.send sender text d receiver).Tracked := by
  refine { h with
    memory := fun e he => ?_
    air := fun m hm => (List.mem_append.mp hm).elim (h.air m) fun hm => ?_ }
  · unfold Deployment.send at he
    simp only at he
    split at he
    · rcases Table.mem_set he with rfl | he
      · exact hd
      · exact h.memory e he
    · exact h.memory e he
  · obtain rfl := List.mem_singleton.mp hm
    exact hd

theorem Tracked.sendAll (h : w.Tracked) (sender : Name) (text : String) {d : Traced EngineData}
    (hd : Stem w.started d.content.id d.origins) (receivers : List Name) :
    (receivers.foldl (Deployment.send sender text d) w).Tracked := by
  induction receivers generalizing w with
  | nil => exact h
  | cons receiver receivers ih => exact ih (h.send sender text hd receiver) hd

theorem Tracked.handOn (h : w.Tracked) {j : Work} {output : EngineData}
    (hj : Stem w.started output.id j.origins) : (w.handOn j output).Tracked := by
  unfold Deployment.handOn
  cases j.job.request.header.replyTo with
  | some topic => exact h
  | none => exact h.sendAll _ _ hj _

theorem Tracked.finish (h : w.Tracked) {j : Work}
    (hj : Stem w.started j.job.request.header.id j.origins) (output : EngineData) :
    (w.finish j output).Tracked := by
  have hkept : Tracked { w with
      services := Function.update w.services j.service
        { w.services j.service with
          states := (w.services j.service).states.record j.service output.state } } :=
    { h with groups := stems_update h.groups (h.groups j.service) }
  exact hkept.handOn hj

/-! ## Runs -/

/-- **Every event keeps all that there is tracked.** -/
theorem Tracked.step (h : w.Tracked) (e : Event) : (w.step e).Tracked := by
  cases e with
  | deploy service ttl =>
    simp only [Deployment.step]
    split
    · exact h
    · exact { h with groups := stems_update h.groups fun _ he => absurd he List.not_mem_nil }
  | remove service => exact { h with memory := fun e he => h.memory e (List.mem_of_mem_filter he) }
  | execute client service text d =>
    exact h.request client d [_] fun f hf e => by rw [List.mem_singleton.mp hf]; rfl
  | executeComposition client text d =>
    simp only [Deployment.step]
    cases entryServices text with
    | error e => exact h
    | ok services =>
      have hrequest := h.request client d
        (services.map fun service => (w.clients client).dataMessage service text) fun f hf e => by
          obtain ⟨service, -, rfl⟩ := List.mem_map.mp hf
          rfl
      rw [List.map_map] at hrequest
      exact hrequest
  | syncExecute client service text d inquiry =>
    exact h.request client d [_] fun f hf e => by rw [List.mem_singleton.mp hf]; rfl
  | configure client service d mode timeoutMs inquiry =>
    exact h.request client d [_] fun f hf e => by rw [List.mem_singleton.mp hf]; rfl
  | serve service k now =>
    simp only [Deployment.step]
    cases hk : w.air[k]? with
    | none => exact h
    | some m =>
      simp only
      split
      · have hkept : Tracked { w with air := w.air.eraseIdx k } :=
          { h with air := fun m hm => h.air m (List.mem_of_mem_eraseIdx hm) }
        exact hkept.serve service (h.air m (List.mem_of_getElem? hk)) now
      · exact h
  | finish k result =>
    simp only [Deployment.step]
    cases hk : w.works[k]? with
    | none => exact h
    | some j =>
      have hkept : Tracked { w with works := w.works.eraseIdx k } :=
        { h with works := fun j hj => h.works j (List.mem_of_mem_eraseIdx hj) }
      cases result with
      | error e => exact hkept
      | ok output => exact hkept.finish (h.works j (List.mem_of_getElem? hk)) output

theorem Tracked.run (h : w.Tracked) (es : List Event) : (w.run es).Tracked := by
  induction es generalizing w with
  | nil => exact h
  | cons e es ih => exact ih (h.step e)

/-- **Whatever there is after any events stems from requests of its number.** -/
theorem tracked_run (timeoutMs : Nat) (es : List Event) : ((start timeoutMs).run es).Tracked :=
  (tracked_start timeoutMs).run es

/-! ## Requests that meet -/

/-- A group has been completed with inputs that stem from both requests. -/
def Meet (w : Deployment) (q q' : Request) : Prop :=
  ∃ g ∈ w.completed, (∃ i ∈ g.inputs, q ∈ i.2.origins) ∧ ∃ i ∈ g.inputs, q' ∈ i.2.origins

/-- An open group holds inputs that stem from both requests. -/
def Share (w : Deployment) (q q' : Request) : Prop :=
  ∃ n, ∃ e ∈ (w.services n).router.barriers.groups,
    (∃ i ∈ e.2.arrivals.entries, q ∈ i.2.origins) ∧ ∃ i ∈ e.2.arrivals.entries, q' ∈ i.2.origins

/-- No two requests have ever met in a group, or share an open one. -/
def Isolated (w : Deployment) : Prop := ∀ q q', w.Meet q q' ∨ w.Share q q' → q = q'

/-- The request has been started. -/
def Started (w : Deployment) (q : Request) : Prop := q.before < w.started q.client

/-- No two requests that have been started have the same number. -/
def Numbered (w : Deployment) : Prop :=
  ∀ q q', w.Started q → w.Started q' → q.number = q'.number → q = q'

variable {q q' : Request}

/-- **Requests that are in one group have been started under one number.** -/
theorem Tracked.of_meet (h : w.Tracked) (hm : w.Meet q q' ∨ w.Share q q') :
    (w.Started q ∧ w.Started q') ∧ q.number = q'.number := by
  rcases hm with ⟨g, hg, ⟨i, hi, hq⟩, i', hi', hq'⟩ | ⟨n, e, he, ⟨i, hi, hq⟩, i', hi', hq'⟩
  · obtain ⟨hstarted, hid⟩ := h.completed g hg i hi q hq
    obtain ⟨hstarted', hid'⟩ := h.completed g hg i' hi' q' hq'
    exact ⟨⟨hstarted, hstarted'⟩, hid.trans hid'.symm⟩
  · obtain ⟨hstarted, hid⟩ := h.groups n e he _ _ (NameMap.mem_entries.mp hi) q hq
    obtain ⟨hstarted', hid'⟩ := h.groups n e he _ _ (NameMap.mem_entries.mp hi') q' hq'
    exact ⟨⟨hstarted, hstarted'⟩, hid.trans hid'.symm⟩

/-- **Different numbers keep requests apart.** -/
theorem Tracked.isolated (h : w.Tracked) (hn : w.Numbered) : w.Isolated := fun q q' hm =>
  let ⟨⟨hstarted, hstarted'⟩, hnumber⟩ := h.of_meet hm
  hn q q' hstarted hstarted' hnumber

/-- The requests of one client have different numbers, unless there are more than 2⁶⁴. -/
theorem eq_of_number_eq (hclient : q.client = q'.client) (h : q.before < Int64.size)
    (h' : q'.before < Int64.size) (hnumber : q.number = q'.number) : q = q' := by
  have hbefore := Request.number_eq_iff.mp hnumber
  rw [Nat.mod_eq_of_lt h, Nat.mod_eq_of_lt h'] at hbefore
  obtain ⟨client, before⟩ := q
  obtain ⟨client', before'⟩ := q'
  cases hclient
  cases hbefore
  rfl

end Deployment

end ServiceFlow
