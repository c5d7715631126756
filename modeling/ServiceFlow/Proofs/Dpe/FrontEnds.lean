import ServiceFlow.Proofs.Bus.Readers
import ServiceFlow.Proofs.Control.RoundTrip
import ServiceFlow.Proofs.Exchange.Handover
import ServiceFlow.Proofs.Name.Collections
import ServiceFlow.Proofs.Topic.Containment

/-!
# Messages about front-ends

A DPE is told to take a front-end, it announces itself there, and it says so when it leaves. These are the
messages by which DPEs come to know each other. On an open bus each of them is carried out, whatever the
DPE is doing; what it makes of the DPE and what the DPE then publishes are functions of the message.

* `ControlRequest.tells`, `Message.tells`: whether somebody is known after a request or a message.
* `Dpe.heeds`, `Dpe.sends`: what a message makes of a DPE, and what the DPE publishes.
  `Dpe.handle_spec` says that this is all.
* `Dpe.mem_known_heeds`: a DPE knows of others what it has been told.
* `Dpe.foldl_tells_sends`, `Dpe.foldl_tells_announcement`: what others hear of a DPE.
-/

namespace ServiceFlow

/-! ## What a request makes of a DPE -/

namespace ControlRequest

/-- The request is about front-ends and those that answer to them. -/
def concernsFrontEnds : ControlRequest → Bool
  | .setFrontEnd _ | .startDpe _ | .stopDpe _ => true
  | _ => false

/-- Whether a DPE is known once the request has been carried out. -/
def tells (n : Name) (known : Prop) : ControlRequest → Prop
  | .startDpe n' => n' = n ∨ known
  | .stopDpe n' => n' ≠ n ∧ known
  | _ => known

end ControlRequest

namespace Dpe

variable {E : Type} {x : Exchange} {m : Message} {r : ControlRequest}

/-- What a DPE says to another one, if it is another one. -/
def announcement (d : Dpe E) (n : Name) (r : ControlRequest) : List Message :=
  if n = d.name then [] else [.ofCommand n d.name r.text]

/-- What a request about front-ends makes of a DPE. -/
def heed (d : Dpe E) : ControlRequest → Dpe E
  | .setFrontEnd n => { d with frontEnd := n }
  | .startDpe n => if n = d.name ∨ n ∈ d.known then d else { d with known := d.known.insert n }
  | .stopDpe n => if n = d.name then { d with stopping := true } else { d with known := d.known.erase n }
  | _ => d

/-- It announces itself to a new front-end. -/
def announces (d : Dpe E) : ControlRequest → List Message
  | .setFrontEnd n => d.announcement n (.startDpe d.name)
  | _ => []

/-- And it answers, if an answer is asked for. -/
def answers (d : Dpe E) (m : Message) : List Message := (m.reply d.name (.ofText "ok" 0)).toList

theorem announce_eq (h : x.bus.closed = false) (d : Dpe E) (n : Name) (r : ControlRequest) :
    d.announce x n r.text =
      ({ x with bus := (d.announcement n r).foldl Bus.accept x.bus }, .ok ()) := by
  unfold announce announcement
  by_cases hn : n = d.name
  · rw [if_pos hn, if_pos hn]
    rfl
  · rw [if_neg hn, if_neg hn]
    unfold Exchange.publish Bus.publish
    rw [h]
    rfl

theorem heed_name (d : Dpe E) (r : ControlRequest) : (d.heed r).name = d.name := by
  unfold heed
  split <;> try split
  all_goals rfl

theorem heed_containers (d : Dpe E) (r : ControlRequest) :
    (d.heed r).containers = d.containers := by
  unfold heed
  split <;> try split
  all_goals rfl

/-- Who is known to a DPE follows what it is told of others. -/
theorem mem_known_heed {d : Dpe E} {n : Name} (hn : n ≠ d.name) (r : ControlRequest) :
    n ∈ (d.heed r).known ↔ r.tells n (n ∈ d.known) := by
  cases r with
  | startDpe n' =>
    unfold heed ControlRequest.tells
    by_cases hk : n' = d.name ∨ n' ∈ d.known
    · simp only [if_pos hk]
      refine ⟨.inr, ?_⟩
      rintro (rfl | hmem)
      · exact hk.resolve_left hn
      · exact hmem
    · simp only [if_neg hk]
      rw [NameSet.mem_insert, eq_comm]
  | stopDpe n' =>
    unfold heed ControlRequest.tells
    by_cases hs : n' = d.name
    · simp only [if_pos hs]
      refine ⟨fun hmem => ⟨?_, hmem⟩, And.right⟩
      rintro rfl
      exact hn hs
    · simp only [if_neg hs]
      rw [NameSet.mem_erase, and_comm, ne_comm]
  | _ => exact Iff.rfl

theorem apply_open [EngineModel E] (h : x.bus.closed = false) (hr : r.concernsFrontEnds = true)
    (d : Dpe E) : ∃ x', d.apply x r = (d.heed r, x', .ok (.ofText "ok" 0)) ∧
      x'.memory = x.memory ∧ x'.bus = (d.announces r).foldl Bus.accept x.bus := by
  cases r with
  | setFrontEnd n =>
    unfold apply applyFrontEnd
    simp only [announce_eq h]
    exact ⟨_, rfl, rfl, rfl⟩
  | startDpe n =>
    unfold apply applyStart heed
    by_cases hk : n = d.name ∨ n ∈ d.known
    · simp only [if_pos hk]
      exact ⟨_, rfl, rfl, rfl⟩
    · simp only [if_neg hk]
      exact ⟨_, rfl, rfl, rfl⟩
  | stopDpe n =>
    unfold apply applyStop heed
    by_cases hs : n = d.name
    · simp only [if_pos hs]
      exact ⟨_, rfl, rfl, rfl⟩
    · simp only [if_neg hs]
      exact ⟨_, rfl, rfl, rfl⟩
  | _ => cases hr

/-- **A request about front-ends** is carried out and answered. -/
theorem handle_open [EngineModel E] (h : x.bus.closed = false) (hm : requestOf m = .ok r)
    (hr : r.concernsFrontEnds = true) (d : Dpe E) :
    ∃ x', d.handle x m = (d.heed r, x') ∧ x'.memory = x.memory ∧
      x'.bus = (d.announces r ++ d.answers m).foldl Bus.accept x.bus := by
  obtain ⟨x₁, happly, hmemory, hbus⟩ := apply_open (x := x.log (.controlReceived d.name.text
    (Text.Utf8.decodeLossy m.data) m.header.author)) h hr d
  have hbus : x₁.bus = (d.announces r).foldl Bus.accept x.bus := hbus
  have hopen : x₁.bus.closed = false := by
    rw [hbus]
    exact Bus.acceptAll_closed h _
  have hanswer : (d.heed r).answerTo m (.ok (.ofText "ok" 0)) = m.reply d.name (.ofText "ok" 0) := by
    unfold answerTo
    rw [heed_name]
  unfold handle applyMessage answers
  simp only [hm, happly, hanswer]
  rw [List.foldl_append, ← hbus]
  cases m.reply d.name (.ofText "ok" 0) with
  | none => exact ⟨x₁, rfl, hmemory, rfl⟩
  | some reply =>
    simp only [Exchange.publish_open hopen]
    exact ⟨_, rfl, hmemory, rfl⟩

/-- A message without a request in it changes nothing, if it asks for no answer. -/
theorem handle_junk [EngineModel E] {e : ControlError} (hm : requestOf m = .error e)
    (hnone : m.header.replyTo = none) (d : Dpe E) :
    ∃ x', d.handle x m = (d, x') ∧ x'.memory = x.memory ∧ x'.bus = x.bus := by
  have hanswer : d.answerTo m (.error e) = none := by
    unfold answerTo Message.errorReply
    rw [hnone]
    rfl
  unfold handle applyMessage
  simp only [hm, hanswer]
  exact ⟨_, rfl, rfl, rfl⟩

/-- What a message makes of a DPE. -/
def heeds (d : Dpe E) (m : Message) : Dpe E :=
  match requestOf m with
  | .ok r => d.heed r
  | .error _ => d

/-- What a DPE publishes when it handles a message. -/
def sends (d : Dpe E) (m : Message) : List Message :=
  match requestOf m with
  | .ok r => d.announces r ++ d.answers m
  | .error _ => []

/-- A DPE starts with a subscription to its control topic. -/
theorem start_spec (h : x.bus.closed = false) (d : Dpe E) :
    ∃ x' directory, d.start x = (x', .ok x.bus.nextSubscription) ∧
      x'.bus = { (x.bus.step (.subscribe (.control d.name))).1 with directory := directory } := by
  rw [Bus.step_subscribe_open h]
  unfold start Bus.subscribe Bus.register
  simp only [h]
  exact ⟨_, _, rfl, rfl⟩

/-- A DPE without containers tells its front-end that it leaves. -/
theorem finish_open (h : x.bus.closed = false) {d : Dpe E} (hd : d.containers = ∅) :
    ∃ x', d.finish x = (d, x') ∧ x'.memory = x.memory ∧
      x'.bus = ((d.announcement d.frontEnd (.stopDpe d.name)).foldl Bus.accept x.bus).unregister
        d.name := by
  have hcleared : { d with containers := ∅ } = d := by
    rw [← hd]
  have hnone : stopAll x d.containers.values = x := by
    rw [hd]
    rfl
  unfold finish shutDown
  simp only [hnone, hcleared, announce_eq h]
  exact ⟨_, rfl, rfl, rfl⟩

end Dpe

/-! ## Messages about front-ends -/

/-- The control topics of two DPEs have nothing in common. -/
theorem Topic.control_covers_iff {a b : Name} (ha : a.Valid ∧ a.kind = .dpe)
    (hb : b.Valid ∧ b.kind = .dpe) : (control a).covers (control b) = true ↔ a = b := by
  have hself {n : Name} (hn : n.kind = .dpe) : n.dpe = n := by
    obtain ⟨host, port, lang, place⟩ := n
    cases place with
    | dpe => rfl
    | container c => cases hn
    | service c e => cases hn
  refine (Purpose.covers_iff (p := .control a) (q := .control b) ha.1 hb.1).trans ?_
  change a.dpe = b.dpe ↔ a = b
  rw [hself ha.2, hself hb.2]

namespace Message

variable {m : Message} {n : Name}

/-- Whether a DPE is known once the message has been handled. -/
def tells (n : Name) (known : Prop) (m : Message) : Prop :=
  match Dpe.requestOf m with
  | .ok r => r.tells n known
  | .error _ => known

/-- The message is about front-ends; or there is no request in it, and it asks for no answer. -/
def ConcernsFrontEnds (m : Message) : Prop :=
  match Dpe.requestOf m with
  | .ok r => r.concernsFrontEnds = true
  | .error _ => m.header.replyTo = none

theorem foldl_tells_silent {ms : List Message} (h : ∀ m ∈ ms, ∀ p, m.tells n p = p) (p : Prop) :
    ms.foldl (tells n) p = p := by
  induction ms generalizing p with
  | nil => rfl
  | cons m ms ih =>
    obtain ⟨hfirst, hrest⟩ := List.forall_mem_cons.mp h
    rw [List.foldl_cons, hfirst]
    exact ih hrest p

end Message

namespace Dpe

variable {E : Type} {x : Exchange} {d : Dpe E} {m a : Message} {f n w : Name} {r : ControlRequest}

/-- **A message about front-ends** is handled. -/
theorem handle_spec [EngineModel E] (h : x.bus.closed = false) (hm : m.ConcernsFrontEnds)
    (d : Dpe E) : ∃ x', d.handle x m = (d.heeds m, x') ∧ x'.memory = x.memory ∧
      x'.bus = (d.sends m).foldl Bus.accept x.bus := by
  unfold Message.ConcernsFrontEnds at hm
  unfold heeds sends
  cases hr : requestOf m with
  | error e =>
    rw [hr] at hm
    exact handle_junk hr hm d
  | ok r =>
    rw [hr] at hm
    exact handle_open h hr hm d

theorem heeds_name (d : Dpe E) (m : Message) : (d.heeds m).name = d.name := by
  unfold heeds
  split
  · exact d.heed_name _
  · rfl

theorem heeds_containers (d : Dpe E) (m : Message) : (d.heeds m).containers = d.containers := by
  unfold heeds
  split
  · exact d.heed_containers _
  · rfl

theorem mem_known_heeds (hw : w ≠ d.name) (m : Message) :
    (w ∈ (d.heeds m).known) = m.tells w (w ∈ d.known) := by
  unfold heeds Message.tells
  split
  · exact propext (mem_known_heed hw _)
  · rfl

/-- A DPE takes the front-end that it is told to take, and has the one that it had else. -/
theorem heeds_frontEnd (d : Dpe E) (m : Message) :
    (∃ f, requestOf m = .ok (.setFrontEnd f) ∧ (d.heeds m).frontEnd = f) ∨
      (∀ f, requestOf m ≠ .ok (.setFrontEnd f)) ∧ (d.heeds m).frontEnd = d.frontEnd := by
  unfold heeds
  cases hm : requestOf m with
  | error e => exact .inr ⟨nofun, rfl⟩
  | ok r =>
    cases r with
    | setFrontEnd f => exact .inl ⟨f, rfl, rfl⟩
    | startDpe n =>
      refine .inr ⟨nofun, ?_⟩
      unfold heed
      simp only
      split <;> rfl
    | stopDpe n =>
      refine .inr ⟨nofun, ?_⟩
      unfold heed
      simp only
      split <;> rfl
    | _ => exact .inr ⟨nofun, rfl⟩

/-- There is no request in an answer. -/
theorem of_mem_answers (h : a ∈ d.answers m) :
    a.ConcernsFrontEnds ∧ ∀ n p, a.tells n p = p := by
  unfold answers Message.reply at h
  obtain ⟨topic, -, rfl⟩ := Option.map_eq_some_iff.mp (Option.mem_toList.mp h)
  have hfault : ControlRequest.parse "ok" = .error (.unknownVerb "ok") := by decide
  have hnone : requestOf (.ofData ⟨topic⟩ d.name m.header.composition (.ofText "ok" 0) .network) =
      .error (.fault (.unknownVerb "ok")) := by
    have htext : (Message.ofData ⟨topic⟩ d.name m.header.composition (.ofText "ok" 0) .network).text =
        .ok "ok" := Text.Utf8.decode_encode "ok"
    unfold requestOf
    simp only [htext, hfault]
  unfold Message.ConcernsFrontEnds Message.tells
  rw [hnone]
  exact ⟨rfl, fun _ _ => rfl⟩

theorem of_mem_announcement (h : a ∈ d.announcement n r) (hr : r.Fits) :
    requestOf a = .ok r.trimmed := by
  unfold announcement at h
  split at h
  · cases h
  · rw [List.mem_singleton.mp h]
    exact ControlRequest.requestOf_ofCommand hr n d.name

/-- An announcement comes to the one that it is for, and to nobody else. -/
theorem foldl_tells_announcement (hf : f.Valid ∧ f.kind = .dpe)
    (hn : n.Valid ∧ n.kind = .dpe) (hr : r.Fits) (p : Prop) :
    ((d.announcement n r).filter fun m => (Topic.control f).covers m.topic).foldl
        (Message.tells w) p =
      if f = n ∧ n ≠ d.name then r.trimmed.tells w p else p := by
  unfold announcement
  by_cases hself : n = d.name
  · rw [if_pos hself, if_neg fun h => h.2 hself]
    rfl
  · have hcovers : (Topic.control f).covers (Message.ofCommand n d.name r.text).topic = true ↔ f = n :=
      Topic.control_covers_iff hf hn
    rw [if_neg hself]
    by_cases hfn : f = n
    · rw [if_pos ⟨hfn, hself⟩, List.filter_cons, if_pos (hcovers.mpr hfn)]
      change Message.tells w p (.ofCommand n d.name r.text) = _
      unfold Message.tells
      rw [ControlRequest.requestOf_ofCommand hr]
    · rw [if_neg fun h => hfn h.1, List.filter_cons, if_neg fun h => hfn (hcovers.mp h)]
      rfl

theorem concernsFrontEnds_of_mem_announcement (h : a ∈ d.announcement n r) (hr : r.Fits)
    (hc : r.trimmed.concernsFrontEnds = true) : a.ConcernsFrontEnds := by
  unfold Message.ConcernsFrontEnds
  rw [of_mem_announcement h hr]
  exact hc

/-- What is published is about front-ends again. -/
theorem concernsFrontEnds_of_mem_sends (hd : d.name.Valid ∧ d.name.kind = .dpe)
    (h : a ∈ d.sends m) : a.ConcernsFrontEnds := by
  unfold sends at h
  cases hm : requestOf m with
  | error e =>
    rw [hm] at h
    cases h
  | ok r =>
    rw [hm] at h
    rcases List.mem_append.mp h with h | h
    · cases r with
      | setFrontEnd n => exact concernsFrontEnds_of_mem_announcement h hd rfl
      | _ => cases h
    · exact (of_mem_answers h).1

/-- What others hear of it: that the DPE announces itself, if they are its new front-end. -/
theorem foldl_tells_sends (hd : d.name.Valid ∧ d.name.kind = .dpe) (hf : f.Valid ∧ f.kind = .dpe)
    (hw : w ≠ f) (m : Message) (p : Prop) :
    ((d.sends m).filter fun m => (Topic.control f).covers m.topic).foldl (Message.tells w) p =
      ((requestOf m = .ok (.setFrontEnd f) ∧ w = d.name) ∨ p) := by
  unfold sends
  cases hm : requestOf m with
  | error e =>
    simp
  | ok r =>
    have hsilent (q : Prop) : ((d.answers m).filter fun m => (Topic.control f).covers m.topic).foldl
        (Message.tells w) q = q :=
      Message.foldl_tells_silent (fun a ha => (of_mem_answers (List.mem_of_mem_filter ha)).2 w) q
    simp only
    rw [List.filter_append, List.foldl_append, hsilent]
    cases r with
    | setFrontEnd n =>
      refine (foldl_tells_announcement (r := .startDpe d.name) hf
        (ControlRequest.fits_of_requestOf hm) hd p).trans ?_
      by_cases hfn : f = n
      · subst hfn
        by_cases hself : f = d.name
        · have hne : w ≠ d.name := hself ▸ hw
          simp [hself, hne]
        · simp [hself, ControlRequest.trimmed, ControlRequest.tells, eq_comm]
      · simp [hfn, Ne.symm hfn]
    | _ => simp [announces]

end Dpe

end ServiceFlow
