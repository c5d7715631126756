import ServiceFlow.Proofs.Bus.Delivery
import ServiceFlow.Proofs.Bus.Readers
import ServiceFlow.Proofs.Topic.Containment

/-!
# Answers come to the inquiry that they are for

Any number of inquiries are under way on an open bus at one time. An inquiry takes a number for the topic
of its answer, subscribes to that topic, publishes its message with it, and then looks for the first
message that its subscription hands out, or gives up. All these steps of all inquiries come in any order,
and others publish what they like in between, answers among it, and use subscriptions of their own.

## The model

* `Inquiries`: the bus, the inquiries with how far each has come, and what has been published so far.
  `Inquiries.step` is one step of one inquiry, or an operation of somebody else on the bus.
* `inquire_eq`: `Bus.inquire` is the first three steps of an inquiry with nothing in between.

## Results

* `Kept`: what is in the queue of an inquiry, and what it has been handed, is what was published at or below
  its topic since it subscribed. `Kept.step`, `Kept.run`: so it is after every run.
* `answers_apart`: each inquiry gets the first of these, and nothing that is published for another one.
* `asked_below`: an inquiry may be asked below its own topic, and is then its own answer.
-/

namespace ServiceFlow

/-! ## Topics of answers -/

theorem Topic.parts_reply (n : Nat) :
    (Topic.reply n).parts = ["ret".toList, (toString n).toList] :=
  Purpose.parts_topic (p := .reply n) trivial

/-- A topic is at or below one topic of an answer at most. -/
theorem Topic.reply_covers_inj {a b : Nat} {t : Topic} (ha : (Topic.reply a).covers t = true)
    (hb : (Topic.reply b).covers t = true) : a = b := by
  rw [Topic.covers_iff_parts, parts_reply] at ha hb
  have heq := (List.prefix_of_prefix_length_le ha hb (Nat.le_refl _)).eq_of_length rfl
  exact Purpose.numeral_inj.mp (List.cons.inj (List.cons.inj heq).2).1

theorem Bus.subscribe_of_open {b : Bus} (h : b.closed = false) (topic : Topic) :
    b.subscribe topic = .ok ((b.step (.subscribe topic)).1, b.nextSubscription) := by
  rw [step_subscribe_open h]
  unfold subscribe
  rw [h]
  rfl

theorem Bus.publish_of_open {b : Bus} (h : b.closed = false) (m : Message) :
    b.publish m = .ok (b.accept m) := by
  unfold publish
  rw [h]
  rfl

/-- An operation on messages takes no number for an answer. -/
theorem Bus.step_nextReply (b : Bus) (e : BusEvent) : (b.step e).1.nextReply = b.nextReply := by
  cases e with
  | subscribe topic =>
    cases h : b.closed with
    | true => rw [step_subscribe_closed h]
    | false => rw [step_subscribe_open h]
  | publish m =>
    cases h : b.closed with
    | true => rw [step_publish_closed h]
    | false => rw [step_publish_open h]; rfl
  | receive n =>
    change (b.receive n).1.nextReply = b.nextReply
    unfold receive
    split
    · rfl
    · split <;> rfl
  | drop | close => rfl

/-! ## Inquiries -/

/-- How far an inquiry has come. It has a subscription from a point on of what is published, and its own
message is at another point. -/
inductive Progress where
  | numbered
  | subscribed (subscription since : Nat)
  | waiting (subscription since asked : Nat)
  | answered (since asked : Nat) (answer : Message)
  | givenUp (since asked : Nat)

namespace Progress

/-- The subscription of an inquiry that has one. -/
def subscription? : Progress → Option Nat
  | subscribed k _ | waiting k _ _ => some k
  | numbered | answered _ _ _ | givenUp _ _ => none

end Progress

/-- An inquiry: what it is to ask, and the topic of its answer. -/
structure Inquirer where
  message : Message
  topic : Topic
  progress : Progress

/-- The message as it is published, with the topic on which it is to be answered. -/
def Inquirer.question (c : Inquirer) : Message :=
  { c.message with header := { c.message.header with replyTo := some c.topic.text } }

/-- What an inquiry has got: what is in its queue, or the message that it was answered with. -/
def Inquirer.got (c : Inquirer) (b : Bus) : List Message :=
  match c.progress with
  | .subscribed k _ | .waiting k _ _ => b.queued k
  | .answered _ _ m => [m]
  | .numbered | .givenUp _ _ => []

/-- A bus, the inquiries in the order of their numbers, and the messages published so far. -/
structure Inquiries where
  bus : Bus
  calls : List Inquirer
  published : List Message

namespace Inquiries

/-- What may happen next: an inquiry begins, or one goes on, or somebody else does something. -/
inductive Event where
  | begin (m : Message)
  | subscribe (i : Nat)
  | ask (i : Nat)
  | look (i : Nat)
  | giveUp (i : Nat)
  | other (e : BusEvent)

/-- No inquiry has begun. -/
def start (b : Bus) : Inquiries := ⟨b, [], []⟩

/-- An inquiry takes its number. -/
def begin (s : Inquiries) (m : Message) : Inquiries :=
  { s with
    bus := { s.bus with nextReply := s.bus.nextReply + 1 },
    calls := s.calls ++ [⟨m, .reply s.bus.nextReply.toNat, .numbered⟩] }

/-- An inquiry goes on. -/
def advance (s : Inquiries) (i : Nat) (c : Inquirer) (b : Bus) (new : List Message) (p : Progress) :
    Inquiries :=
  ⟨b, s.calls.set i { c with progress := p }, s.published ++ new⟩

/-- An inquiry subscribes to its topic. -/
def subscribe (s : Inquiries) (i : Nat) (c : Inquirer) : Inquiries :=
  match c.progress, s.bus.subscribe c.topic with
  | .numbered, .ok (b, k) => s.advance i c b [] (.subscribed k s.published.length)
  | _, _ => s

/-- An inquiry publishes its message. -/
def ask (s : Inquiries) (i : Nat) (c : Inquirer) : Inquiries :=
  match c.progress, s.bus.publish c.question with
  | .subscribed k since, .ok b =>
    s.advance i c b [c.question] (.waiting k since s.published.length)
  | _, _ => s

/-- An inquiry looks for its answer. -/
def look (s : Inquiries) (i : Nat) (c : Inquirer) : Inquiries :=
  match c.progress with
  | .waiting k since asked =>
    match s.bus.answer? ⟨c.topic, k⟩ with
    | some (.ok m) => s.advance i c (s.bus.conclude ⟨c.topic, k⟩) [] (.answered since asked m)
    | _ => s
  | _ => s

/-- An inquiry waits no longer. -/
def giveUp (s : Inquiries) (i : Nat) (c : Inquirer) : Inquiries :=
  match c.progress with
  | .waiting k since asked => s.advance i c (s.bus.conclude ⟨c.topic, k⟩) [] (.givenUp since asked)
  | _ => s

/-- The subscription of an inquiry. -/
def reader (s : Inquiries) (i : Nat) : Option Nat :=
  s.calls[i]?.bind fun c => c.progress.subscription?

/-- The bus stays open, and nobody else has a hold of the subscription of an inquiry. -/
def Permits (s : Inquiries) (e : BusEvent) : Prop :=
  e ≠ .close ∧ ∀ c ∈ s.calls, ∀ k ∈ c.progress.subscription?, e ≠ .drop k ∧ e ≠ .receive k

instance (s : Inquiries) (e : BusEvent) : Decidable (s.Permits e) :=
  inferInstanceAs (Decidable (_ ∧ _))

/-- Somebody else does something on the bus. -/
def other (s : Inquiries) (e : BusEvent) : Inquiries :=
  if s.Permits e then
    { s with
      bus := (s.bus.step e).1, published := s.published ++ BusEvent.taken s.bus.closed [e] }
  else s

/-- One event. -/
def step (s : Inquiries) : Event → Inquiries
  | .begin m => s.begin m
  | .subscribe i => (s.calls[i]?).elim s (s.subscribe i)
  | .ask i => (s.calls[i]?).elim s (s.ask i)
  | .look i => (s.calls[i]?).elim s (s.look i)
  | .giveUp i => (s.calls[i]?).elim s (s.giveUp i)
  | .other e => s.other e

/-- Events in turn. -/
def run (s : Inquiries) (events : List Event) : Inquiries := events.foldl step s

/-- **An inquiry at a stretch**: it takes its number, subscribes and publishes its message. -/
theorem inquire_eq {s : Inquiries} (h : s.bus.closed = false) (m : Message) :
    let n := s.calls.length
    let topic := Topic.reply s.bus.nextReply.toNat
    let c : Inquirer :=
      ⟨m, topic, .waiting s.bus.nextSubscription s.published.length s.published.length⟩
    s.bus.inquire m = ((s.bus.inquire m).1, .ok ⟨topic, s.bus.nextSubscription⟩) ∧
      s.run [.begin m, .subscribe n, .ask n] =
        ⟨(s.bus.inquire m).1, s.calls ++ [c], s.published ++ [c.question]⟩ := by
  have hset {c c' : Inquirer} : (s.calls ++ [c]).set s.calls.length c' = s.calls ++ [c'] := by simp
  simp [Bus.inquire, Bus.subscribe, Bus.publish, h, run, step, begin, subscribe, ask, advance, hset,
    Inquirer.question, Bus.accept]

/-! ## The account -/

/-- What was published at or below a topic since some point. -/
def heard (published : List Message) (topic : Topic) (since : Nat) : List Message :=
  (published.drop since).filter fun m => topic.covers m.topic

/-- The topic for the answer of an inquiry, by the number that was the next at first. -/
def topicOf (first : UInt64) (i : Nat) : Topic := .reply (first + UInt64.ofNat i).toNat

/-- The message of an inquiry was published at one point, after the inquiry had subscribed at another. -/
def Asked (published : List Message) (c : Inquirer) (since asked : Nat) : Prop :=
  since ≤ asked ∧ published[asked]? = some c.question

/-- What has been published since an inquiry subscribed is in its queue, or it has been handed the first of
it; and the message of the inquiry was published after that. -/
def Tells (b : Bus) (published : List Message) (c : Inquirer) : Prop :=
  match c.progress with
  | .numbered => True
  | .subscribed k since => since ≤ published.length ∧ b.queued k = heard published c.topic since
  | .waiting k since asked =>
    Asked published c since asked ∧ b.queued k = heard published c.topic since
  | .answered since asked m =>
    Asked published c since asked ∧ (heard published c.topic since).head? = some m
  | .givenUp since asked => Asked published c since asked

/-- **Each inquiry has a topic of its own**, and has got what was published there. -/
structure Kept (first : UInt64) (s : Inquiries) : Prop where
  isOpen : s.bus.closed = false
  counted : s.bus.nextReply = first + UInt64.ofNat s.calls.length
  attended : Attended s.bus (topicOf first) s.reader
  topics : ∀ (i : Nat) (c : Inquirer), s.calls[i]? = some c → c.topic = topicOf first i
  tells : ∀ (i : Nat) (c : Inquirer), s.calls[i]? = some c → Tells s.bus s.published c

section Account

variable {first : UInt64} {s : Inquiries} {b b' : Bus} {published new : List Message} {topic : Topic}
  {since asked i j k : Nat} {c : Inquirer} {m : Message} {e : BusEvent} {p : Progress}

theorem heard_append (h : since ≤ published.length) :
    heard (published ++ new) topic since =
      heard published topic since ++ new.filter fun m => topic.covers m.topic := by
  unfold heard
  rw [List.drop_append_of_le_length h, List.filter_append]

theorem Asked.since_le (h : Asked published c since asked) : since ≤ published.length :=
  h.1.trans (List.getElem?_eq_some_iff.mp h.2).1.le

theorem Asked.append (h : Asked published c since asked) : Asked (published ++ new) c since asked :=
  ⟨h.1, (List.getElem?_append_left (List.getElem?_eq_some_iff.mp h.2).1).trans h.2⟩

/-- The account goes on as long as new messages come to the end of the queue. -/
theorem Tells.append (h : Tells b published c)
    (hq : ∀ k, c.progress.subscription? = some k →
      b'.queued k = b.queued k ++ new.filter fun m => c.topic.covers m.topic) :
    Tells b' (published ++ new) c := by
  obtain ⟨message, topic, progress⟩ := c
  cases progress with
  | numbered => trivial
  | subscribed k since =>
    obtain ⟨hsince, hqueue⟩ := h
    refine ⟨hsince.trans (by simp), ?_⟩
    rw [hq k rfl, hqueue, heard_append hsince]
  | waiting k since asked =>
    obtain ⟨hasked, hqueue⟩ := h
    refine ⟨hasked.append, ?_⟩
    rw [hq k rfl, hqueue, heard_append hasked.since_le]
  | answered since asked m =>
    -- what comes later is not the first
    obtain ⟨hasked, hhead⟩ := h
    refine ⟨hasked.append, ?_⟩
    rw [heard_append hasked.since_le, List.head?_append, hhead, Option.some_or]
  | givenUp since asked => exact Asked.append h

theorem reader_of_getElem? (h : s.calls[i]? = some c) : s.reader i = c.progress.subscription? := by
  unfold reader
  rw [h]
  rfl

/-- Only the inquiry that goes on has another subscription then. -/
theorem reader_advance (h : s.calls[i]? = some c) :
    (s.advance i c b new p).reader = Function.update s.reader i p.subscription? := by
  funext j
  unfold reader advance
  rw [List.getElem?_set, Function.update_apply]
  by_cases hj : i = j
  · subst hj
    simp [(List.getElem?_eq_some_iff.mp h).1]
  · simp [hj, Ne.symm hj]

/-- An operation that is not on the subscription of an inquiry adds what is published to its queue. -/
theorem Kept.queued_step (h : s.Kept first) (hk : s.reader i = some k) (hdrop : e ≠ .drop k)
    (hreceive : e ≠ .receive k) :
    (s.bus.step e).1.queued k = s.bus.queued k ++
      (BusEvent.taken s.bus.closed [e]).filter fun m => (topicOf first i).covers m.topic := by
  have hnone : BusEvent.handedOut k (e, (s.bus.step e).2) = none := by
    cases e with
    | receive n =>
      have hn : n ≠ k := fun he => hreceive (congrArg BusEvent.receive he)
      change BusEvent.handedOut k (.receive n, .received (s.bus.receive n).2) = none
      cases (s.bus.receive n).2 with
      | message m => exact if_neg hn
      | empty | ended => rfl
    | subscribe | drop | publish | close => rfl
  have hqueue := (h.attended.step_queued hk hdrop).2
  rw [hnone] at hqueue
  exact hqueue.symm

/-- So the account of the inquiry goes on. -/
theorem Kept.tells_step (h : s.Kept first) (hc : s.calls[i]? = some c)
    (he : ∀ k, s.reader i = some k → e ≠ .drop k ∧ e ≠ .receive k) :
    Tells (s.bus.step e).1 (s.published ++ BusEvent.taken s.bus.closed [e]) c := by
  refine (h.tells i c hc).append fun k hk => ?_
  have hreader : s.reader i = some k := (reader_of_getElem? hc).trans hk
  obtain ⟨hdrop, hreceive⟩ := he k hreader
  rw [h.topics i c hc]
  exact h.queued_step hreader hdrop hreceive

/-! ## One event -/

theorem Kept.begin (h : s.Kept first) (m : Message) : (s.begin m).Kept first := by
  have hreader (i : Nat) : (s.begin m).reader i = s.reader i := by
    unfold reader Inquiries.begin
    rcases Nat.lt_trichotomy i s.calls.length with hi | rfl | hi
    · rw [List.getElem?_append_left hi]
    · simp [Progress.subscription?]
    · rw [List.getElem?_eq_none hi.le, List.getElem?_eq_none (by simp; omega)]
  have hnew {i : Nat} {c : Inquirer} (hc : (s.begin m).calls[i]? = some c) :
      s.calls[i]? = some c ∨
        i = s.calls.length ∧ c = ⟨m, .reply s.bus.nextReply.toNat, .numbered⟩ := by
    unfold Inquiries.begin at hc
    rw [List.getElem?_append] at hc
    split at hc
    · exact .inl hc
    · rename_i hi
      obtain ⟨hlt, he⟩ := List.getElem?_eq_some_iff.mp hc
      rw [List.length_singleton] at hlt
      refine .inr ⟨by omega, ?_⟩
      rw [← he]
      simp
  have hattended : Attended (s.begin m).bus (topicOf first) s.reader :=
    h.attended.congr rfl rfl rfl
  refine ⟨h.isOpen, ?_, hattended.of_eq hreader, fun i c hc => ?_, fun i c hc => ?_⟩
  · change s.bus.nextReply + 1 = first + UInt64.ofNat (s.calls ++ [_]).length
    rw [h.counted, List.length_append, UInt64.ofNat_add, ← UInt64.add_assoc]
    rfl
  · obtain hc | ⟨rfl, rfl⟩ := hnew hc
    · exact h.topics i c hc
    · rw [h.counted, topicOf]
  · obtain hc | ⟨rfl, rfl⟩ := hnew hc
    · exact h.tells i c hc
    · trivial

/-- **One inquiry goes on** by an operation on the bus that concerns no other. -/
theorem Kept.advance (h : s.Kept first) (hc : s.calls[i]? = some c)
    (hothers : ∀ j k, j ≠ i → s.reader j = some k → e ≠ .drop k ∧ e ≠ .receive k)
    (hb : (s.bus.step e).1 = b) (hopen : b.closed = false)
    (hnew : BusEvent.taken s.bus.closed [e] = new)
    (hattended : Attended b (topicOf first) (Function.update s.reader i p.subscription?))
    (htells : Tells b (s.published ++ new) { c with progress := p }) :
    (s.advance i c b new p).Kept first := by
  subst hb hnew
  have hcalls {j : Nat} {c' : Inquirer}
      (hc' : (s.advance i c (s.bus.step e).1 (BusEvent.taken s.bus.closed [e]) p).calls[j]? =
        some c') :
      (j = i ∧ c' = { c with progress := p }) ∨ (j ≠ i ∧ s.calls[j]? = some c') := by
    unfold Inquiries.advance at hc'
    rw [List.getElem?_set] at hc'
    split at hc'
    · rename_i hj
      rw [if_pos (List.getElem?_eq_some_iff.mp hc).1] at hc'
      exact .inl ⟨hj.symm, (Option.some.inj hc').symm⟩
    · rename_i hj
      exact .inr ⟨Ne.symm hj, hc'⟩
  constructor
  case isOpen => exact hopen
  case counted =>
    refine (s.bus.step_nextReply e).trans (h.counted.trans ?_)
    unfold Inquiries.advance
    rw [List.length_set]
  case attended => exact hattended.of_eq fun j => congrFun (reader_advance hc) j
  case topics =>
    intro j c' hc'
    obtain ⟨rfl, rfl⟩ | ⟨-, hc'⟩ := hcalls hc'
    · exact h.topics j c hc
    · exact h.topics j c' hc'
  case tells =>
    -- the others only find new messages in their queues
    intro j c' hc'
    obtain ⟨rfl, rfl⟩ | ⟨hj, hc'⟩ := hcalls hc'
    · exact htells
    · exact h.tells_step hc' fun k => hothers j k hj

theorem Kept.subscribe (h : s.Kept first) (hc : s.calls[i]? = some c) :
    (s.subscribe i c).Kept first := by
  obtain ⟨message, topic, progress⟩ := c
  cases progress with
  | subscribed | waiting | answered | givenUp => exact h
  | numbered =>
    obtain rfl : topic = topicOf first i := h.topics i _ hc
    obtain ⟨hattended, hqueue, -⟩ := h.attended.subscribe h.isOpen i
    unfold Inquiries.subscribe
    simp only [Bus.subscribe_of_open h.isOpen]
    refine h.advance (e := .subscribe (topicOf first i))
      (p := .subscribed s.bus.nextSubscription s.published.length) hc
      (fun _ _ _ _ => ⟨nofun, nofun⟩) rfl ((s.bus.step_closed _).trans h.isOpen)
      (BusEvent.taken_of_not_publish _ nofun) hattended ?_
    rw [List.append_nil]
    refine ⟨Nat.le_refl _, hqueue.trans ?_⟩
    unfold heard
    rw [List.drop_length]
    rfl

theorem Kept.ask (h : s.Kept first) (hc : s.calls[i]? = some c) : (s.ask i c).Kept first := by
  obtain ⟨message, topic, progress⟩ := c
  cases progress with
  | numbered | waiting | answered | givenUp => exact h
  | subscribed k since =>
    obtain ⟨hsince, hqueue⟩ := h.tells i _ hc
    obtain rfl : topic = topicOf first i := h.topics i _ hc
    have hreader : s.reader i = some k := reader_of_getElem? hc
    unfold Inquiries.ask
    simp only [Bus.publish_of_open h.isOpen]
    let question := Inquirer.question ⟨message, topicOf first i, .subscribed k since⟩
    obtain ⟨hattended, hqueues⟩ := h.attended.accept h.isOpen question
    refine h.advance (e := .publish question) (p := .waiting k since s.published.length) hc
      (fun _ _ _ _ => ⟨nofun, nofun⟩)
      (congrArg Prod.fst (Bus.step_publish_open h.isOpen question)) h.isOpen ?_
      (hattended.of_eq fun j => ?_) ⟨⟨hsince, ?_⟩, ?_⟩
    · rw [h.isOpen]
      rfl
    · -- it keeps its subscription
      rw [Function.update_apply]
      split
      · rename_i hj
        exact (congrArg s.reader hj).trans hreader |>.symm
      · rfl
    · rw [List.getElem?_append_right (Nat.le_refl _), Nat.sub_self]
      rfl
    · rw [hqueues i k hreader, hqueue, heard_append hsince]

/-- An inquiry that ends gives its subscription up. -/
theorem Kept.conclude (h : s.Kept first) (hc : s.calls[i]? = some c)
    (hk : c.progress.subscription? = some k) (hp : p.subscription? = none)
    (htells : Tells (s.bus.drop k) s.published { c with progress := p }) :
    (s.advance i c (s.bus.conclude ⟨c.topic, k⟩) [] p).Kept first := by
  have hreader : s.reader i = some k := (reader_of_getElem? hc).trans hk
  refine h.advance (e := .drop k) hc (fun j k' hj hk' => ⟨?_, nofun⟩) rfl h.isOpen
    (BusEvent.taken_of_not_publish _ nofun) ?_ ?_
  · rintro ⟨⟩
    exact hj (h.attended.apart j i k hk' hreader)
  · rw [hp]
    exact (h.attended.drop hreader).1
  · rw [List.append_nil]
    exact htells

/-- What an inquiry is answered is the first that it has heard. -/
theorem Kept.answer?_eq (h : s.Kept first) (hk : s.reader i = some k) (t : Topic) :
    s.bus.answer? ⟨t, k⟩ = (s.bus.queued k).head?.map .ok := by
  unfold Bus.answer?
  rw [Bus.receive_of_get? (h.attended.tracked i k hk).held, h.isOpen]
  cases s.bus.queued k <;> rfl

theorem Kept.look (h : s.Kept first) (hc : s.calls[i]? = some c) : (s.look i c).Kept first := by
  obtain ⟨message, topic, progress⟩ := c
  cases progress with
  | numbered | subscribed | answered | givenUp => exact h
  | waiting k since asked =>
    obtain ⟨hasked, hqueue⟩ := h.tells i _ hc
    unfold Inquiries.look
    simp only [h.answer?_eq (reader_of_getElem? hc) topic, hqueue]
    cases hhead : (heard s.published topic since).head? with
    | none => exact h
    | some m => exact h.conclude hc rfl rfl ⟨hasked, hhead⟩

theorem Kept.giveUp (h : s.Kept first) (hc : s.calls[i]? = some c) : (s.giveUp i c).Kept first := by
  obtain ⟨message, topic, progress⟩ := c
  cases progress with
  | numbered | subscribed | answered | givenUp => exact h
  | waiting k since asked => exact h.conclude hc rfl rfl (h.tells i _ hc).1

theorem Kept.other (h : s.Kept first) (e : BusEvent) : (s.other e).Kept first := by
  unfold Inquiries.other
  split
  · rename_i hpermits
    obtain ⟨hclose, hothers⟩ := hpermits
    have hforeign {i k : Nat} (hk : s.reader i = some k) : e ≠ .drop k ∧ e ≠ .receive k := by
      obtain ⟨c, hc, hk⟩ := Option.bind_eq_some_iff.mp hk
      exact hothers c (List.mem_of_getElem? hc) k hk
    refine ⟨(s.bus.step_closed e).trans ?_, (s.bus.step_nextReply e).trans h.counted,
      h.attended.step fun i k hk => (hforeign hk).1, h.topics,
      fun i c hc => h.tells_step hc fun k hk => hforeign hk⟩
    cases e with
    | close => exact absurd rfl hclose
    | subscribe | drop | publish | receive => exact h.isOpen
  · exact h

/-- **One event.** -/
theorem Kept.step (h : s.Kept first) (e : Event) : (s.step e).Kept first := by
  have goOn {i : Nat} {f : Inquirer → Inquiries}
      (hf : ∀ c, s.calls[i]? = some c → (f c).Kept first) :
      ((s.calls[i]?).elim s f).Kept first := by
    cases hc : s.calls[i]? with
    | none => exact h
    | some c => exact hf c hc
  cases e with
  | begin m => exact h.begin m
  | subscribe i => exact goOn fun c hc => h.subscribe hc
  | ask i => exact goOn fun c hc => h.ask hc
  | look i => exact goOn fun c hc => h.look hc
  | giveUp i => exact goOn fun c hc => h.giveUp hc
  | other e => exact h.other e

/-- **A run.** -/
theorem Kept.run (h : s.Kept first) (events : List Event) : (s.run events).Kept first := by
  induction events generalizing s with
  | nil => exact h
  | cons e events ih => exact ih (h.step e)

theorem kept_start (hopen : b.closed = false) (hfresh : b.Fresh) :
    (start b).Kept b.nextReply where
  isOpen := hopen
  counted := (UInt64.add_zero _).symm
  attended := .nobody hfresh
  topics := nofun
  tells := nofun

/-! ## Topics of their own -/

/-- Fewer than 2⁶⁴ inquiries have a topic each that covers nothing of the others. -/
theorem topicOf_inj {t : Topic} (hi : i < 2 ^ 64) (hj : j < 2 ^ 64)
    (hcovers : (topicOf first i).covers t = true) (hcovers' : (topicOf first j).covers t = true) :
    i = j := by
  have hsum := UInt64.toNat_inj.mp (Topic.reply_covers_inj hcovers hcovers')
  have hoffset := congrArg UInt64.toNat ((UInt64.add_right_inj first).mp hsum)
  rwa [UInt64.toNat_ofNat', UInt64.toNat_ofNat', Nat.mod_eq_of_lt hi, Nat.mod_eq_of_lt hj] at hoffset

end Account

/-! ## Answers -/

/-- What is published at or below the topic of an inquiry is on that topic itself, and is published after
the message of the inquiry. -/
def OnlyAnswers (s : Inquiries) (c : Inquirer) (asked : Nat) : Prop :=
  ∀ (n : Nat) (m : Message), s.published[n]? = some m → c.topic.covers m.topic = true →
    asked < n ∧ m.topic = c.topic

/-- What inquiries are answered. -/
structure AnswersApart (s : Inquiries) : Prop where
  /-- An inquiry that is answered gets the first message at or below its topic since it subscribed, which
  it did before it published its own. -/
  first : ∀ c ∈ s.calls, ∀ since asked m, c.progress = .answered since asked m →
    since ≤ asked ∧ s.published[asked]? = some c.question ∧
      (s.published.drop since).find? (fun m => c.topic.covers m.topic) = some m
  /-- This is the first of all on its topic, if only answers to its message are published there. -/
  exactly : ∀ c ∈ s.calls, ∀ since asked m, c.progress = .answered since asked m →
    s.OnlyAnswers c asked → s.published.find? (fun m => m.topic = c.topic) = some m
  /-- An inquiry that waits is answered when it looks and there is such a message. -/
  returns : ∀ (i : Nat) (c : Inquirer), s.calls[i]? = some c →
    ∀ k since asked, c.progress = .waiting k since asked → ∀ m,
      (s.step (.look i)).calls[i]? = some { c with progress := .answered since asked m } ↔
        (s.published.drop since).find? (fun m => c.topic.covers m.topic) = some m
  /-- Nothing that is at or below the topic of another inquiry comes to an inquiry. -/
  apart : ∀ (i j : Nat) (c c' : Inquirer), i ≠ j → s.calls[i]? = some c → s.calls[j]? = some c' →
    ∀ m ∈ c.got s.bus, c'.topic.covers m.topic = false
  /-- So an answer, however late it is published, makes no difference to other inquiries. -/
  late : ∀ (i j : Nat) (c c' : Inquirer), i ≠ j → s.calls[i]? = some c → s.calls[j]? = some c' →
    ∀ m, c'.topic.covers m.topic = true →
      (s.step (.other (.publish m))).calls = s.calls ∧
        c.got (s.step (.other (.publish m))).bus = c.got s.bus

section Answers

variable {first : UInt64} {s : Inquiries} {b : Bus} {since asked i j k : Nat} {c : Inquirer} {m : Message}

theorem head?_heard (published : List Message) (topic : Topic) (since : Nat) :
    (heard published topic since).head? =
      (published.drop since).find? fun m => topic.covers m.topic := List.head?_filter

/-- If there are only answers on the topic, nothing was there before the inquiry subscribed. -/
theorem OnlyAnswers.heard_eq (h : s.OnlyAnswers c asked) (hsince : since ≤ asked) :
    heard s.published c.topic since = s.published.filter fun m => m.topic = c.topic := by
  have hon (m : Message) (hm : m ∈ s.published) :
      decide (m.topic = c.topic) = c.topic.covers m.topic := by
    obtain ⟨n, hn⟩ := List.mem_iff_getElem?.mp hm
    rw [Bool.eq_iff_iff, decide_eq_true_iff]
    constructor
    · rintro he
      rw [he]
      exact Topic.covers_iff_parts.mpr (List.prefix_refl _)
    · exact fun hcovers => (h n m hn hcovers).2
  have hearlier : (s.published.take since).filter (fun m => c.topic.covers m.topic) = [] := by
    refine List.filter_eq_nil_iff.mpr fun m hm hcovers => ?_
    obtain ⟨n, hn⟩ := List.mem_iff_getElem?.mp hm
    rw [List.getElem?_take] at hn
    split at hn
    · have := (h n m hn hcovers).1
      omega
    · cases hn
  rw [List.filter_congr hon, heard]
  conv_rhs => rw [← List.take_append_drop since s.published, List.filter_append, hearlier]
  rfl

/-- What an inquiry has got is at or below its topic. -/
theorem Kept.covers_of_mem_got (h : s.Kept first) (hc : s.calls[i]? = some c)
    (hm : m ∈ c.got s.bus) : c.topic.covers m.topic = true := by
  have htells := h.tells i c hc
  obtain ⟨message, topic, progress⟩ := c
  cases progress with
  | numbered | givenUp => cases hm
  | subscribed k since =>
    have hqueue : m ∈ s.bus.queued k := hm
    rw [htells.2] at hqueue
    exact (List.mem_filter.mp hqueue).2
  | waiting k since asked =>
    have hqueue : m ∈ s.bus.queued k := hm
    rw [htells.2] at hqueue
    exact (List.mem_filter.mp hqueue).2
  | answered since asked m' =>
    obtain rfl := List.mem_singleton.mp hm
    exact (List.mem_filter.mp (List.mem_of_head? htells.2)).2

/-- As long as numbers do not come again, no message is for two inquiries. -/
theorem Kept.apart (h : s.Kept first) (hcount : s.calls.length < 2 ^ 64) {c' : Inquirer} {t : Topic}
    (hne : i ≠ j) (hc : s.calls[i]? = some c) (hc' : s.calls[j]? = some c')
    (ht : c.topic.covers t = true) : c'.topic.covers t = false := by
  rw [h.topics i c hc] at ht
  rw [h.topics j c' hc']
  refine eq_false_of_ne_true fun ht' => hne (topicOf_inj ?_ ?_ ht ht')
  · exact (List.getElem?_eq_some_iff.mp hc).1.trans hcount
  · exact (List.getElem?_eq_some_iff.mp hc').1.trans hcount

theorem Kept.answered (h : s.Kept first) (hc : s.calls[i]? = some c)
    (hp : c.progress = .answered since asked m) :
    since ≤ asked ∧ s.published[asked]? = some c.question ∧
      (s.published.drop since).find? (fun m => c.topic.covers m.topic) = some m := by
  have htells := h.tells i c hc
  unfold Tells at htells
  rw [hp] at htells
  obtain ⟨⟨hsince, hasked⟩, hhead⟩ := htells
  exact ⟨hsince, hasked, (head?_heard _ _ _).symm.trans hhead⟩

theorem Kept.look_waiting (h : s.Kept first) (hc : s.calls[i]? = some c)
    (hp : c.progress = .waiting k since asked) :
    s.look i c =
      match (s.published.drop since).find? fun m => c.topic.covers m.topic with
      | some m => s.advance i c (s.bus.conclude ⟨c.topic, k⟩) [] (.answered since asked m)
      | none => s := by
  have hreader : s.reader i = some k := by rw [reader_of_getElem? hc, hp]; rfl
  have htells := h.tells i c hc
  unfold Tells at htells
  rw [hp] at htells
  unfold Inquiries.look
  rw [hp]
  simp only [h.answer?_eq hreader, htells.2, head?_heard]
  cases (s.published.drop since).find? fun m => c.topic.covers m.topic <;> rfl

/-- A message outside the topic of an inquiry leaves what it has got. -/
theorem Kept.got_publish (h : s.Kept first) (hc : s.calls[i]? = some c)
    (hm : c.topic.covers m.topic = false) : c.got (s.bus.accept m) = c.got s.bus := by
  have hqueue {k : Nat} (hk : c.progress.subscription? = some k) :
      (s.bus.accept m).queued k = s.bus.queued k := by
    rw [(h.attended.accept h.isOpen m).2 i k ((reader_of_getElem? hc).trans hk),
      ← h.topics i c hc, List.filter_singleton, hm]
    exact List.append_nil _
  obtain ⟨message, topic, progress⟩ := c
  cases progress with
  | subscribed k since => exact hqueue rfl
  | waiting k since asked => exact hqueue rfl
  | numbered | answered | givenUp => rfl

/-- **Fewer than 2⁶⁴ inquiries on an open bus get the answers that are for them**, in whatever order they
and others do what they do. -/
theorem answers_apart (hopen : b.closed = false) (hfresh : b.Fresh) (events : List Event)
    (hcount : ((start b).run events).calls.length < 2 ^ 64) :
    AnswersApart ((start b).run events) := by
  have h := (kept_start hopen hfresh).run events
  generalize (start b).run events = s at h hcount
  constructor
  case first =>
    intro c hmem since asked m hp
    obtain ⟨i, hc⟩ := List.mem_iff_getElem?.mp hmem
    exact h.answered hc hp
  case exactly =>
    intro c hmem since asked m hp honly
    obtain ⟨i, hc⟩ := List.mem_iff_getElem?.mp hmem
    obtain ⟨hsince, -, hfound⟩ := h.answered hc hp
    rw [← head?_heard, honly.heard_eq hsince, List.head?_filter] at hfound
    exact hfound
  case returns =>
    intro i c hc k since asked hp m
    have hstep : s.step (.look i) = s.look i c := by rw [Inquiries.step, hc]; rfl
    rw [hstep, h.look_waiting hc hp]
    cases (s.published.drop since).find? fun m => c.topic.covers m.topic with
    | none =>
      refine ⟨fun he => ?_, nofun⟩
      have hc' : c = { c with progress := .answered since asked m } :=
        Option.some.inj (hc.symm.trans he)
      have hp' : c.progress = .answered since asked m := congrArg Inquirer.progress hc'
      rw [hp] at hp'
      cases hp'
    | some m' =>
      have hset : (s.advance i c (s.bus.conclude ⟨c.topic, k⟩) []
          (.answered since asked m')).calls[i]? = some { c with progress := .answered since asked m' } :=
        List.getElem?_set_self (List.getElem?_eq_some_iff.mp hc).1
      rw [hset]
      constructor
      · rintro ⟨⟩
        rfl
      · rintro ⟨⟩
        rfl
  case apart =>
    intro i j c c' hne hc hc' m hm
    exact h.apart hcount hne hc hc' (h.covers_of_mem_got hc hm)
  case late =>
    intro i j c c' hne hc hc' m hm
    have hstep : s.step (.other (.publish m)) =
        { s with bus := s.bus.accept m, published := s.published ++ [m] } := by
      rw [Inquiries.step, Inquiries.other, if_pos ⟨nofun, fun _ _ _ _ => ⟨nofun, nofun⟩⟩,
        Bus.step_publish_open h.isOpen, h.isOpen]
      rfl
    rw [hstep]
    exact ⟨rfl, h.got_publish hc (h.apart hcount hne.symm hc' hc hm)⟩

end Answers

/-- A text on a topic. -/
def textOn (topic text : String) : Message := ⟨⟨topic⟩, .blank, Text.Utf8.encode text⟩

/-- Two inquiries under way. The first gives up, and its answer comes late; then the second is answered. -/
def lateAnswer : List Event :=
  [.begin (textOn "A" "a"), .begin (textOn "B" "b"), .subscribe 0, .subscribe 1, .ask 0, .ask 1,
    .giveUp 0, .other (.publish (textOn "ret:0" "late")), .other (.publish (textOn "ret:1" "answer")),
    .look 1]

/-- The second inquiry gets the first message on its topic, whatever became of the first one. -/
theorem lateAnswer_apart :
    AnswersApart ((start ∅).run lateAnswer) ∧
      ((start ∅).run lateAnswer).published.find? (fun m => m.topic = .reply 1) =
        some (textOn "ret:1" "answer") := by
  have hall := answers_apart (b := ∅) rfl Bus.fresh_empty lateAnswer (by decide)
  obtain ⟨c, hc, htopic, hp⟩ : ∃ c, ((start ∅).run lateAnswer).calls[1]? = some c ∧
      c.topic = .reply 1 ∧ c.progress = .answered 0 1 (textOn "ret:1" "answer") :=
    ⟨_, rfl, rfl, rfl⟩
  have honly : ((start ∅).run lateAnswer).OnlyAnswers c 1 := by
    intro n m hn hcovers
    rw [htopic] at hcovers ⊢
    rcases n with _ | _ | _ | _ | n <;> cases hn
    case succ.succ.succ.zero => exact ⟨by decide, rfl⟩
    all_goals exact absurd hcovers (by decide)
  exact ⟨hall, htopic ▸ hall.exactly c (List.mem_of_getElem? hc) 0 1 _ hp honly⟩

/-- An inquiry is published on the topic that the second one will be answered on, and gives up. The second
is published below that topic. -/
def askedBelow : List Event :=
  [.begin (textOn "ret:1" "early"), .subscribe 0, .ask 0, .giveUp 0,
    .begin (textOn "ret:1:x" "below"), .subscribe 1, .ask 1, .look 1]

/-- The second inquiry is its own answer, though this is not on its topic, and another message was. -/
theorem asked_below :
    ∃ c, ((start ∅).run askedBelow).calls[1]? = some c ∧ c.topic = .reply 1 ∧
      c.progress = .answered 1 1 c.question ∧ c.question.topic = ⟨"ret:1:x"⟩ ∧
      ∃ m ∈ ((start ∅).run askedBelow).published.find? (fun m => m.topic = c.topic),
        m.text = .ok "early" ∧ m ≠ c.question := by
  refine ⟨_, rfl, rfl, rfl, rfl, _, rfl, rfl, fun he => ?_⟩
  exact absurd (congrArg Message.topic he) (by decide)

end Inquiries

end ServiceFlow
