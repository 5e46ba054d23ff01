import MayaOs.Lib.LinkedList
import MayaOs.Lib.Run
import MayaOs.Properties.MessageSteps

/-!
# Message queues deliver what was accepted

The purpose of a message queue is an ideal one: the messages accepted, in order, are the messages
delivered followed by those still stored. A receive whose buffer is too small takes its message out
of the queue and frees it.

* `Stored` — the linked list of a queue holds the nodes it should
* `fifo_iff_fits` — the law holds throughout a run iff no receive takes a message that is larger
  than its buffer
* `message_lost` — an accepted message that is neither delivered nor stored
-/

namespace MayaOs.Kernel

open MayaOs.Lib

/-! ## The law -/

/-- The `next` fields. -/
def MessageQueue.next (q : MessageQueue) (msg : MessagePtr) : MessagePtr := (q.mem msg).next

/-- The messages in the nodes `l`. -/
def contents (q : MessageQueue) (l : List MessagePtr) : List (List UInt8) :=
  l.map fun msg => (q.mem msg).data

/-- `sent` is `received`, followed by what the list of the queue holds. -/
def Accounted (q : MessageQueue) (sent received : List (List UInt8)) : Prop :=
  ∃ l, Chain null q.next q.first l ∧ sent = received ++ contents q l

/-- What was accepted is what was delivered, followed by what is in the queue. -/
def Fifo (s : QueueSystem) : Prop := Accounted s.queue s.sent s.received

/-- A receive that finds a message has a buffer that is large enough for it. -/
def Fits (s : QueueSystem) (a : QueueAction) (_ : QueueSystem) : Prop :=
  match a with
  | .run p _ =>
    ∀ size, s.pc p = .receive size ∨ s.pc p = .tryReceive size → s.queue.count ≠ 0 →
      (s.queue.mem s.queue.first).size ≤ size
  | _ => True

/-! ## The linked list -/

/-- The queue's list consists of the nodes `l`. -/
structure Stored (q : MessageQueue) (l : List MessagePtr) : Prop where
  chain : Chain null q.next q.first l
  last : l.getLast?.getD null = q.last
  count : l.length = q.count
  nodup : l.Nodup
  allocated : ∀ msg ∈ l, msg ∈ q.allocated
  sizes : ∀ msg ∈ l, (q.mem msg).size = (q.mem msg).data.length

/-- The waiters and `closed` do not matter to the list. -/
theorem Stored.congr {q r : MessageQueue} {l : List MessagePtr} (h : Stored q l)
    (hfirst : r.first = q.first) (hlast : r.last = q.last) (hcount : r.count = q.count)
    (hmem : r.mem = q.mem) (halloc : r.allocated = q.allocated) :
    Stored r l ∧ contents r l = contents q l := by
  have hnext : r.next = q.next := by
    unfold MessageQueue.next
    rw [hmem]
  refine ⟨⟨?_, ?_, ?_, h.nodup, ?_, ?_⟩, ?_⟩
  · rw [hnext, hfirst]; exact h.chain
  · rw [hlast]; exact h.last
  · rw [hcount]; exact h.count
  · rw [halloc]; exact h.allocated
  · rw [hmem]; exact h.sizes
  · unfold contents; rw [hmem]

theorem stored_empty (maxMessages maxSize : Nat) :
    Stored (MessageQueue.empty maxMessages maxSize) [] where
  chain := rfl
  last := rfl
  count := rfl
  nodup := List.nodup_nil
  allocated := by simp
  sizes := by simp

/-- Linking fills in the new message and changes at most the `next` of any other one. -/
theorem linkMessage_record (q : MessageQueue) (data : List UInt8) (msg x : MessagePtr) :
    ∃ next, (linkMessage q data msg).mem x =
      { (if x = msg then { size := data.length, data := data, next := null } else q.mem x) with
        next := next } := by
  have hupdate : ∀ m : Message, Function.update q.mem msg m x = if x = msg then m else q.mem x :=
    fun m => Function.update_apply ..
  unfold linkMessage
  split
  · exact ⟨_, by rw [← hupdate]⟩
  · by_cases hx : x = q.last
    · subst hx
      exact ⟨msg, by rw [← hupdate]; exact Function.update_self ..⟩
    · exact ⟨_, by rw [← hupdate]; exact Function.update_of_ne hx ..⟩

/-- In an empty queue the new message is the whole list. -/
theorem chain_linkMessage_of_empty {q : MessageQueue} (hfirst : q.first = null) {msg : MessagePtr}
    (hne : msg ≠ null) (data : List UInt8) :
    Chain null (linkMessage q data msg).next (linkMessage q data msg).first [msg] := by
  unfold linkMessage
  rw [if_pos hfirst]
  refine ⟨rfl, hne, ?_⟩
  show (Function.update q.mem msg _ msg).next = null
  rw [Function.update_self]

/-- Otherwise it goes behind the last one. -/
theorem Stored.chain_linkMessage {q : MessageQueue} {l : List MessagePtr} (h : Stored q l)
    (hfirst : q.first ≠ null) {msg : MessagePtr} (hne : msg ≠ null) (hnot : msg ∉ l)
    (data : List UInt8) :
    Chain null (linkMessage q data msg).next (linkMessage q data msg).first (l ++ [msg]) := by
  have hlne : l ≠ [] := fun he => hfirst (h.chain.eq_nil_iff.mp he)
  have hlast : l.getLast? = some q.last := by
    rw [← h.last, List.getLast?_eq_some_getLast hlne]
    rfl
  let mem := Function.update q.mem msg { size := data.length, data := data, next := null }
  have hnext : (linkMessage q data msg).next = Function.update (fun x => (mem x).next) q.last msg := by
    unfold linkMessage
    rw [if_neg hfirst]
    funext x
    exact Function.apply_update (fun _ (r : Message) => r.next) mem q.last _ x
  have hhead : (linkMessage q data msg).first = q.first := by
    unfold linkMessage
    rw [if_neg hfirst]
  rw [hnext, hhead]
  refine Chain.append hne ?_ h.nodup hlast hnot ?_
  · refine h.chain.congr fun x hx => ?_
    have hxm : x ≠ msg := fun he => hnot (he ▸ hx)
    exact congrArg Message.next (Function.update_of_ne hxm ..)
  · show (Function.update q.mem msg _ msg).next = null
    rw [Function.update_self]

/-- **Linking a message appends it.** -/
theorem Stored.link {q : MessageQueue} {l : List MessagePtr} (h : Stored q l)
    {msg : MessagePtr} (hne : msg ≠ null) (hfresh : msg ∉ q.allocated) (data : List UInt8) :
    Stored (linkMessage q data msg) (l ++ [msg]) ∧
      contents (linkMessage q data msg) (l ++ [msg]) = contents q l ++ [data] := by
  have hnot : msg ∉ l := fun hm => hfresh (h.allocated msg hm)
  refine ⟨⟨?_, ?_, ?_, ?_, ?_, ?_⟩, ?_⟩
  · by_cases hfirst : q.first = null
    · obtain rfl : l = [] := h.chain.eq_nil_iff.mpr hfirst
      exact chain_linkMessage_of_empty hfirst hne data
    · exact h.chain_linkMessage hfirst hne hnot data
  · simp
  · simp [h.count]
  · rw [List.nodup_append]
    refine ⟨h.nodup, by simp, ?_⟩
    rintro a ha b hb rfl
    exact hnot (List.mem_singleton.mp hb ▸ ha)
  · intro x hx
    rw [linkMessage_allocated]
    rcases List.mem_append.mp hx with hx | hx
    · exact List.mem_cons_of_mem _ (h.allocated x hx)
    · rw [List.mem_singleton.mp hx]
      exact List.mem_cons_self
  · intro x hx
    obtain ⟨next, hrecord⟩ := linkMessage_record q data msg x
    rw [hrecord]
    by_cases hxm : x = msg
    · simp [hxm]
    · have hxl : x ∈ l := by simpa [hxm] using hx
      simpa [hxm] using h.sizes x hxl
  · unfold contents
    rw [List.map_append, List.map_singleton]
    congr 1
    · refine List.map_congr_left fun x hx => ?_
      obtain ⟨next, hrecord⟩ := linkMessage_record q data msg x
      rw [hrecord, if_neg (fun he : x = msg => hnot (he ▸ hx))]
    · obtain ⟨next, hrecord⟩ := linkMessage_record q data msg msg
      rw [hrecord, if_pos rfl]

/-- **Unlinking takes the first node.** -/
theorem Stored.unlink {q : MessageQueue} {msg : MessagePtr} {l : List MessagePtr}
    (h : Stored q (msg :: l)) :
    msg = q.first ∧ Stored (unlinkFirst q).2 l ∧ contents (unlinkFirst q).2 l = contents q l := by
  obtain ⟨hfirst, hne, hrest⟩ := h.chain
  subst hfirst
  obtain ⟨hnot, hnodup⟩ := List.nodup_cons.mp h.nodup
  have hcount := h.count
  simp only [List.length_cons] at hcount
  refine ⟨rfl, ⟨hrest, ?_, ?_, hnodup, ?_, ?_⟩, rfl⟩
  · show l.getLast?.getD null = if (q.mem q.first).next = null then null else q.last
    have hlast := h.last
    by_cases hl : l = []
    · subst hl
      rw [if_pos (show (q.mem q.first).next = null from hrest)]
      rfl
    · rw [if_neg (fun he : (q.mem q.first).next = null => hl (hrest.eq_nil_iff.mpr he))]
      rw [List.getLast?_cons, Option.getD_some] at hlast
      rw [← hlast, List.getLast?_eq_some_getLast hl]
      rfl
  · show l.length = q.count - 1
    omega
  · intro x hx
    show x ∈ q.allocated.erase q.first
    rw [List.mem_erase_of_ne (fun he : x = q.first => hnot (he ▸ hx))]
    exact h.allocated x (List.mem_cons_of_mem _ hx)
  · intro x hx
    exact h.sizes x (List.mem_cons_of_mem _ hx)

/-- A queue with a message has a first node. -/
theorem Stored.exists_cons {q : MessageQueue} {l : List MessagePtr} (h : Stored q l)
    (hcount : q.count ≠ 0) : ∃ l', l = q.first :: l' := by
  cases l with
  | nil => exact absurd h.count.symm hcount
  | cons msg l => exact ⟨l, by rw [h.chain.1]⟩

/-! ## Sections -/

/-- `Accounted`, for a list that is in order. -/
def Holds (q : MessageQueue) (sent received : List (List UInt8)) : Prop :=
  ∃ l, Stored q l ∧ sent = received ++ contents q l

theorem Holds.accounted {q : MessageQueue} {sent received : List (List UInt8)}
    (h : Holds q sent received) : Accounted q sent received := by
  obtain ⟨l, hl, heq⟩ := h
  exact ⟨l, hl.chain, heq⟩

theorem Holds.congr {q q' : MessageQueue} {sent received : List (List UInt8)}
    (h : Holds q sent received) (hfirst : q'.first = q.first) (hlast : q'.last = q.last)
    (hcount : q'.count = q.count) (hmem : q'.mem = q.mem) (halloc : q'.allocated = q.allocated) :
    Holds q' sent received := by
  obtain ⟨l, hl, heq⟩ := h
  obtain ⟨hl', hc⟩ := hl.congr hfirst hlast hcount hmem halloc
  exact ⟨l, hl', by rw [hc]; exact heq⟩

/-- The list and the logs, after a section. -/
def HoldsAfter (r : SectionResult) (data : List UInt8) (sent received : List (List UInt8)) : Prop :=
  Holds r.queue (sent ++ r.outcome.accepted data) (received ++ r.outcome.delivered)

/-- A section that neither accepts nor delivers. -/
theorem holdsAfter_of_same {r : SectionResult} {data : List UInt8}
    {sent received : List (List UInt8)} (hq : Holds r.queue sent received)
    (ha : r.outcome.accepted data = []) (hd : r.outcome.delivered = []) :
    HoldsAfter r data sent received := by
  unfold HoldsAfter
  rw [ha, hd, List.append_nil, List.append_nil]
  exact hq

theorem Holds.storeMessage {q : MessageQueue} {sent received : List (List UInt8)}
    (h : Holds q sent received) {msg : MessagePtr} (hfresh : msg ∉ q.allocated)
    (data : List UInt8) : HoldsAfter (storeMessage q data msg) data sent received := by
  unfold Kernel.storeMessage
  split
  · exact holdsAfter_of_same h rfl rfl
  · next hne =>
    obtain ⟨l, hl, heq⟩ := h
    obtain ⟨hl', hc⟩ := hl.link hne hfresh data
    have hlinked : Holds (linkMessage q data msg) (sent ++ [data]) received := by
      refine ⟨l ++ [msg], hl', ?_⟩
      rw [hc, heq, List.append_assoc]
    show Holds _ (sent ++ [data]) (received ++ [])
    rw [List.append_nil]
    exact hlinked.congr rfl rfl rfl rfl rfl

theorem Holds.send {q : MessageQueue} {sent received : List (List UInt8)}
    (h : Holds q sent received) (p : ProcessPtr) {msg : MessagePtr} (hfresh : msg ∉ q.allocated)
    (data : List UInt8) : HoldsAfter (msgqueueSend q p data msg) data sent received := by
  unfold msgqueueSend
  split
  · exact holdsAfter_of_same (h.congr rfl rfl rfl rfl rfl) rfl rfl
  · split
    · exact holdsAfter_of_same h rfl rfl
    · exact h.storeMessage hfresh data

theorem Holds.trySend {q : MessageQueue} {sent received : List (List UInt8)}
    (h : Holds q sent received) {msg : MessagePtr} (hfresh : msg ∉ q.allocated)
    (data : List UInt8) : HoldsAfter (msgqueueTrySend q data msg) data sent received := by
  unfold msgqueueTrySend
  split
  · exact holdsAfter_of_same h rfl rfl
  · exact h.storeMessage hfresh data

/-- A message that fits is delivered. -/
theorem Holds.takeMessage {q : MessageQueue} {sent received : List (List UInt8)}
    (h : Holds q sent received) (hcount : q.count ≠ 0) {size : Nat}
    (hfits : (q.mem q.first).size ≤ size) (data : List UInt8) :
    HoldsAfter (takeMessage q size) data sent received := by
  obtain ⟨l, hl, heq⟩ := h
  obtain ⟨l', rfl⟩ := hl.exists_cons hcount
  obtain ⟨-, hl', hc⟩ := hl.unlink
  have hsize := hl.sizes q.first List.mem_cons_self
  have hunlinked : Holds (unlinkFirst q).2 sent (received ++ [(q.mem q.first).data]) := by
    refine ⟨l', hl', ?_⟩
    rw [heq, hc, List.append_assoc]
    rfl
  have htake : Kernel.takeMessage q size =
      { outcome := .received ((q.mem q.first).data.take (q.mem q.first).size)
        woken := (conditionSignal (unlinkFirst q).2.notFull).1
        queue := { (unlinkFirst q).2 with
          notFull := (conditionSignal (unlinkFirst q).2.notFull).2 } } :=
    if_neg (Nat.not_lt.mpr hfits)
  rw [htake]
  show Holds _ (sent ++ []) (received ++ [(q.mem q.first).data.take (q.mem q.first).size])
  rw [List.append_nil, hsize, List.take_length]
  exact hunlinked.congr rfl rfl rfl rfl rfl

/-- **A message that does not fit is lost.** -/
theorem Holds.not_accounted_takeMessage {q : MessageQueue} {sent received : List (List UInt8)}
    (h : Holds q sent received) (hcount : q.count ≠ 0) {size : Nat}
    (hfits : ¬ (q.mem q.first).size ≤ size) (data : List UInt8) :
    ¬ Accounted (Kernel.takeMessage q size).queue
      (sent ++ (Kernel.takeMessage q size).outcome.accepted data)
      (received ++ (Kernel.takeMessage q size).outcome.delivered) := by
  obtain ⟨l, hl, heq⟩ := h
  obtain ⟨l', rfl⟩ := hl.exists_cons hcount
  obtain ⟨-, hl', hc⟩ := hl.unlink
  have htake : Kernel.takeMessage q size =
      { outcome := .failed (some (q.mem q.first).size), woken := [], queue := (unlinkFirst q).2 } :=
    if_pos (Nat.not_le.mp hfits)
  rw [htake]
  rintro ⟨l'', hchain, hsent⟩
  -- the queue holds exactly the other messages
  rw [← hl'.chain.unique hchain, hc] at hsent
  simp only [Outcome.accepted, Outcome.delivered, List.append_nil] at hsent
  rw [heq] at hsent
  have hlen := congrArg List.length hsent
  simp only [contents, List.length_append, List.length_map, List.length_cons] at hlen
  omega

/-- The receiving sections deliver unless the message does not fit. -/
theorem Holds.receive {q : MessageQueue} {sent received : List (List UInt8)}
    (h : Holds q sent received) (p : ProcessPtr) {size : Nat}
    (hfits : q.count ≠ 0 → (q.mem q.first).size ≤ size) (data : List UInt8) :
    HoldsAfter (msgqueueReceive q p size) data sent received := by
  unfold msgqueueReceive
  split
  · exact holdsAfter_of_same (h.congr rfl rfl rfl rfl rfl) rfl rfl
  · split
    · exact holdsAfter_of_same h rfl rfl
    · next hopen hclosed =>
      have hcount : q.count ≠ 0 := by
        intro hz
        cases hcl : q.closed with
        | false => exact hopen ⟨hz, hcl⟩
        | true => exact hclosed ⟨hz, hcl⟩
      exact h.takeMessage hcount (hfits hcount) data

theorem Holds.tryReceive {q : MessageQueue} {sent received : List (List UInt8)}
    (h : Holds q sent received) {size : Nat}
    (hfits : q.count ≠ 0 → (q.mem q.first).size ≤ size) (data : List UInt8) :
    HoldsAfter (msgqueueTryReceive q size) data sent received := by
  unfold msgqueueTryReceive
  split
  · exact holdsAfter_of_same h rfl rfl
  · next hcount => exact h.takeMessage hcount (hfits hcount) data

theorem msgqueueReceive_of_count {q : MessageQueue} (hcount : q.count ≠ 0) (p : ProcessPtr)
    (size : Nat) : msgqueueReceive q p size = takeMessage q size := by
  unfold msgqueueReceive
  rw [if_neg (fun h => hcount h.1), if_neg (fun h => hcount h.1)]

theorem msgqueueTryReceive_of_count {q : MessageQueue} (hcount : q.count ≠ 0) (size : Nat) :
    msgqueueTryReceive q size = takeMessage q size := if_neg hcount

/-! ## Runs -/

/-- The list and the logs of a system. -/
def FifoInv (s : QueueSystem) : Prop := Holds s.queue s.sent s.received

/-- **One step**: nothing is lost if every receive has room for the message it takes. -/
theorem fifoInv_step {s s' : QueueSystem} {a : QueueAction} (h : FifoInv s)
    (hs : queueStep s a = some s') (hfits : Fits s a s') : FifoInv s' := by
  cases a with
  | call p c =>
    simp only [queueStep] at hs
    split at hs
    · cases hs
    · cases hs; exact h
  | block p =>
    simp only [queueStep] at hs
    split at hs
    · cases hs; exact h
    · cases hs; exact h
    · cases hs
  | run p msg =>
    simp only [queueStep] at hs
    split at hs
    · cases hs
    · next hfresh =>
      cases hpc : s.pc p with
      | send data =>
        simp only [runSection, hpc] at hs
        cases hs
        exact h.send p hfresh data
      | trySend data =>
        simp only [runSection, hpc] at hs
        cases hs
        exact h.trySend hfresh data
      | receive size =>
        simp only [runSection, hpc] at hs
        cases hs
        exact h.receive p (hfits size (Or.inl hpc)) []
      | tryReceive size =>
        simp only [runSection, hpc] at hs
        cases hs
        exact h.tryReceive (hfits size (Or.inr hpc)) []
      | close =>
        simp only [runSection, hpc] at hs
        cases hs
        exact h.congr rfl rfl rfl rfl rfl
      | broadcastNotFull =>
        simp only [runSection, hpc] at hs
        cases hs
        exact h.congr rfl rfl rfl rfl rfl
      | broadcastNotEmpty =>
        simp only [runSection, hpc] at hs
        cases hs
        exact h.congr rfl rfl rfl rfl rfl
      | idle => simp only [runSection, hpc] at hs; cases hs
      | parkedSend data blocked => simp only [runSection, hpc] at hs; cases hs
      | parkedReceive size blocked => simp only [runSection, hpc] at hs; cases hs

/-- A step after which everything is accounted for had room for the message. -/
theorem fits_of_fifo {s s' : QueueSystem} {a : QueueAction} (h : FifoInv s)
    (hs : queueStep s a = some s') (hfifo : Fifo s') : Fits s a s' := by
  cases a with
  | call p c => trivial
  | block p => trivial
  | run p msg =>
    simp only [queueStep] at hs
    split at hs
    · cases hs
    · -- otherwise the section takes a message that it does not deliver
      intro size hpc hcount
      by_contra hfits
      refine h.not_accounted_takeMessage hcount hfits [] ?_
      rcases hpc with hpc | hpc
      · simp only [runSection, hpc] at hs
        cases hs
        unfold Fifo QueueSystem.after at hfifo
        rw [msgqueueReceive_of_count hcount] at hfifo
        exact hfifo
      · simp only [runSection, hpc] at hs
        cases hs
        unfold Fifo QueueSystem.after at hfifo
        rw [msgqueueTryReceive_of_count hcount] at hfifo
        exact hfifo

theorem fifoInv_boot (maxMessages maxSize : Nat) : FifoInv (QueueSystem.boot maxMessages maxSize) :=
  ⟨[], stored_empty maxMessages maxSize, rfl⟩

/--
**What was accepted is delivered or stored, in order and throughout a run, iff no receive takes a
message that is larger than its buffer.**

The run starts with a new queue of any limits; any number of processes send, receive, block, are
woken and close the queue in any order.
-/
theorem fifo_iff_fits (maxMessages maxSize : Nat) (as : List QueueAction) :
    Always queueStep Fifo (QueueSystem.boot maxMessages maxSize) as ↔
      Along queueStep Fits (QueueSystem.boot maxMessages maxSize) as := by
  refine always_iff_along (I := FifoInv) ?_ ?_ (fifoInv_boot maxMessages maxSize)
    (fifoInv_boot maxMessages maxSize).accounted
  · intro s a s' hs hstep
    exact ⟨fits_of_fifo hs hstep, fun hf => (fifoInv_step hs hstep hf).accounted⟩
  · intro s a s' hs hstep hf
    exact fifoInv_step hs hstep hf

/-- A message of two bytes is sent and received into a buffer of one. -/
def lossRun : List QueueAction :=
  [.call 1 (.send (some [0xAA, 0xBB])), .run 1 0xD0000010, .call 2 (.receive (some 1)), .run 2 null]

/-- **An accepted message is neither delivered nor in the queue.** -/
theorem message_lost : ∃ s, run queueStep (QueueSystem.boot 4 16) lossRun = some s ∧
    s.sent = [[0xAA, 0xBB]] ∧ s.received = [] ∧ s.queue.first = null ∧ s.queue.count = 0 ∧
    ¬ Fifo s := by
  refine ⟨_, rfl, rfl, rfl, rfl, rfl, ?_⟩
  rintro ⟨l, hchain, hsent⟩
  rw [Chain.eq_nil_iff hchain |>.mpr rfl] at hsent
  cases hsent

end MayaOs.Kernel
