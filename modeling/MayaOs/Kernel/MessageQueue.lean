import MayaOs.Kernel.Condition

/-!
# Message queues (`kernel/message_queue.c`)

Each function is cut at the queue's mutex: the entry checks run before it is taken, and what follows
is atomic up to the unlock or to `condition_wait`. When `condition_wait` gets no memory for its
entry it returns with the mutex held and the loop calls it again, so it is modelled as one
successful call. A process in `condition_wait` is put into the waiter list, releases the mutex and
blocks afterwards; one that has been woken takes the mutex and tests the condition again.

`kmalloc` is an argument of the sections that call it. The queue pointer is not NULL.
-/

namespace MayaOs.Kernel

abbrev MessagePtr := Nat

/-- `message_t`, with the `size` bytes of `data` that are in use. -/
structure Message where
  size : Nat
  data : List UInt8
  next : MessagePtr
  deriving Repr, DecidableEq

/-- `message_queue_t`, the messages in memory, and the addresses of those not freed. -/
structure MessageQueue where
  first : MessagePtr
  last : MessagePtr
  count : Nat
  maxMessages : Nat
  maxSize : Nat
  closed : Bool
  notFull : List ProcessPtr
  notEmpty : List ProcessPtr
  mem : MessagePtr → Message
  allocated : List MessagePtr

def maxMessageSize : Nat := 1024

def maxMessagesLimit : Nat := 64

/-- The fields that `msgqueue_create` sets. -/
def MessageQueue.empty (maxMessages maxSize : Nat) : MessageQueue where
  first := null
  last := null
  count := 0
  maxMessages := maxMessages
  maxSize := maxSize
  closed := false
  notFull := []
  notEmpty := []
  mem := fun _ => { size := 0, data := [], next := null }
  allocated := []

def msgqueueCreate (maxMessages maxSize : Nat) (allocated : Bool) : Option MessageQueue :=
  if maxMessages = 0 ∨ maxSize = 0 ∨ maxMessagesLimit < maxMessages ∨ maxMessageSize < maxSize then
    none
  else if allocated = false then none
  else some (MessageQueue.empty maxMessages maxSize)

/-! ## The sections under the mutex -/

/-- How a section ends for the calling process. -/
inductive Outcome where
  /-- in `condition_wait` -/
  | waits
  /-- returns false; the number is written to `*size` -/
  | failed (size : Option Nat)
  | sent
  | received (message : List UInt8)
  deriving Repr, DecidableEq

/-- The message that a section adds to those accepted. -/
def Outcome.accepted (data : List UInt8) : Outcome → List (List UInt8)
  | .sent => [data]
  | _ => []

/-- The message that a section adds to those delivered. -/
def Outcome.delivered : Outcome → List (List UInt8)
  | .received message => [message]
  | _ => []

structure SectionResult where
  outcome : Outcome
  woken : List ProcessPtr
  queue : MessageQueue

/-- "Copy message data" and "Add to queue". -/
def linkMessage (q : MessageQueue) (data : List UInt8) (msg : MessagePtr) : MessageQueue :=
  let mem := Function.update q.mem msg { size := data.length, data := data, next := null }
  if q.first = null then
    { q with
      first := msg, last := msg, count := q.count + 1, mem := mem, allocated := msg :: q.allocated }
  else
    { q with
      last := msg
      count := q.count + 1
      mem := Function.update mem q.last { mem q.last with next := msg }
      allocated := msg :: q.allocated }

/-- From "Allocate new message" to the end; `msgqueue_send` and `msgqueue_try_send` share it. -/
def storeMessage (q : MessageQueue) (data : List UInt8) (msg : MessagePtr) : SectionResult :=
  if msg = null then { outcome := .failed none, woken := [], queue := q }
  else
    let q := linkMessage q data msg
    let r := conditionSignal q.notEmpty
    { outcome := .sent, woken := r.1, queue := { q with notEmpty := r.2 } }

def msgqueueSend (q : MessageQueue) (current : ProcessPtr) (data : List UInt8) (msg : MessagePtr) :
    SectionResult :=
  if q.maxMessages ≤ q.count ∧ q.closed = false then
    { outcome := .waits, woken := [], queue := { q with notFull := q.notFull ++ [current] } }
  else if q.closed then { outcome := .failed none, woken := [], queue := q }
  else storeMessage q data msg

/-- `closed` is not tested again under the mutex. -/
def msgqueueTrySend (q : MessageQueue) (data : List UInt8) (msg : MessagePtr) : SectionResult :=
  if q.maxMessages ≤ q.count then { outcome := .failed none, woken := [], queue := q }
  else storeMessage q data msg

/-- "Get first message", which is freed in either case. -/
def unlinkFirst (q : MessageQueue) : Message × MessageQueue :=
  let msg := q.mem q.first
  (msg,
    { q with
      first := msg.next
      last := if msg.next = null then null else q.last
      count := q.count - 1
      allocated := q.allocated.erase q.first })

/--
From "Get first message" to the end; `msgqueue_receive` and `msgqueue_try_receive` share it.
The size of the buffer is tested when the message is no longer in the queue.
-/
def takeMessage (q : MessageQueue) (size : Nat) : SectionResult :=
  let r := unlinkFirst q
  if size < r.1.size then { outcome := .failed (some r.1.size), woken := [], queue := r.2 }
  else
    let w := conditionSignal r.2.notFull
    { outcome := .received (r.1.data.take r.1.size), woken := w.1,
      queue := { r.2 with notFull := w.2 } }

def msgqueueReceive (q : MessageQueue) (current : ProcessPtr) (size : Nat) : SectionResult :=
  if q.count = 0 ∧ q.closed = false then
    { outcome := .waits, woken := [], queue := { q with notEmpty := q.notEmpty ++ [current] } }
  else if q.count = 0 ∧ q.closed = true then { outcome := .failed none, woken := [], queue := q }
  else takeMessage q size

def msgqueueTryReceive (q : MessageQueue) (size : Nat) : SectionResult :=
  if q.count = 0 then { outcome := .failed none, woken := [], queue := q } else takeMessage q size

/-! ## Queries -/

def msgqueueGetCount (q : MessageQueue) : Nat := q.count

def msgqueueIsFull (q : MessageQueue) : Bool := q.maxMessages ≤ q.count

def msgqueueIsEmpty (q : MessageQueue) : Bool := q.count = 0

def msgqueueIsClosed (q : MessageQueue) : Bool := q.closed

/-! ## Processes -/

/-- A call, with `none` for a NULL pointer among its arguments. -/
inductive QueueCall where
  | send (data : Option (List UInt8))
  | trySend (data : Option (List UInt8))
  | receive (size : Option Nat)
  | tryReceive (size : Option Nat)
  | close

/-- Where a process is. -/
inductive QueuePc where
  | idle
  /-- about to take the mutex -/
  | send (data : List UInt8)
  | trySend (data : List UInt8)
  | receive (size : Nat)
  | tryReceive (size : Nat)
  | close
  /-- in `condition_wait`, before or after `process_block` -/
  | parkedSend (data : List UInt8) (blocked : Bool)
  | parkedReceive (size : Nat) (blocked : Bool)
  /-- in `msgqueue_close`, after the unlock -/
  | broadcastNotFull
  | broadcastNotEmpty
  deriving Repr, DecidableEq

/-- The entry checks of `msgqueue_send` and `msgqueue_try_send`. -/
def sendRefused (q : MessageQueue) (data : List UInt8) : Bool :=
  data.length = 0 ∨ q.maxSize < data.length ∨ q.closed

/-- The entry checks; `idle` when the call returns false at once. -/
def enter (q : MessageQueue) : QueueCall → QueuePc
  | .send (some data) => if sendRefused q data then .idle else .send data
  | .trySend (some data) => if sendRefused q data then .idle else .trySend data
  | .receive (some size) => if q.closed then .idle else .receive size
  | .tryReceive (some size) => if q.closed then .idle else .tryReceive size
  | .close => .close
  | .send none => .idle
  | .trySend none => .idle
  | .receive none => .idle
  | .tryReceive none => .idle

/-- `process_wake`: only a process that is blocked runs again. -/
def wakeProcess (pc : ProcessPtr → QueuePc) (p : ProcessPtr) : ProcessPtr → QueuePc :=
  match pc p with
  | .parkedSend data true => Function.update pc p (.send data)
  | .parkedReceive size true => Function.update pc p (.receive size)
  | _ => pc

/--
A queue and its users. `sent` lists the messages whose send returned true and `received` those that
successful receives returned, both in the order of the mutex.
-/
structure QueueSystem where
  queue : MessageQueue
  pc : ProcessPtr → QueuePc
  sent : List (List UInt8)
  received : List (List UInt8)

def QueueSystem.boot (maxMessages maxSize : Nat) : QueueSystem where
  queue := MessageQueue.empty maxMessages maxSize
  pc := fun _ => .idle
  sent := []
  received := []

inductive QueueAction where
  | call (process : ProcessPtr) (c : QueueCall)
  /-- one section; `msg` is what `kmalloc` returns -/
  | run (process : ProcessPtr) (msg : MessagePtr)
  | block (process : ProcessPtr)

/-- The system after a section of `p`; `parked` is where `p` is if it waits. -/
def QueueSystem.after (s : QueueSystem) (p : ProcessPtr) (parked : QueuePc) (data : List UInt8)
    (r : SectionResult) : QueueSystem where
  queue := r.queue
  pc := r.woken.foldl wakeProcess
    (Function.update s.pc p (if r.outcome = .waits then parked else .idle))
  sent := s.sent ++ r.outcome.accepted data
  received := s.received ++ r.outcome.delivered

/-- The next section of `p`. -/
def runSection (s : QueueSystem) (p : ProcessPtr) (msg : MessagePtr) : Option QueueSystem :=
  match s.pc p with
  | .send data =>
    some (s.after p (.parkedSend data false) data (msgqueueSend s.queue p data msg))
  | .trySend data => some (s.after p .idle data (msgqueueTrySend s.queue data msg))
  | .receive size => some (s.after p (.parkedReceive size false) [] (msgqueueReceive s.queue p size))
  | .tryReceive size => some (s.after p .idle [] (msgqueueTryReceive s.queue size))
  | .close =>
    some { s with
      queue := { s.queue with closed := true }
      pc := Function.update s.pc p .broadcastNotFull }
  | .broadcastNotFull =>
    let r := conditionBroadcast s.queue.notFull
    some { s with
      queue := { s.queue with notFull := r.2 }
      pc := r.1.foldl wakeProcess (Function.update s.pc p .broadcastNotEmpty) }
  | .broadcastNotEmpty =>
    let r := conditionBroadcast s.queue.notEmpty
    some { s with
      queue := { s.queue with notEmpty := r.2 }
      pc := r.1.foldl wakeProcess (Function.update s.pc p .idle) }
  | .idle => none
  | .parkedSend _ _ => none
  | .parkedReceive _ _ => none

/-- One step of one process. `kmalloc` returns NULL or a block that is not in use. -/
def queueStep (s : QueueSystem) : QueueAction → Option QueueSystem
  | .call p c =>
    if s.pc p ≠ .idle then none
    else some { s with pc := Function.update s.pc p (enter s.queue c) }
  | .run p msg => if msg ∈ s.queue.allocated then none else runSection s p msg
  | .block p =>
    match s.pc p with
    | .parkedSend data false =>
      some { s with pc := Function.update s.pc p (.parkedSend data true) }
    | .parkedReceive size false =>
      some { s with pc := Function.update s.pc p (.parkedReceive size true) }
    | _ => none

end MayaOs.Kernel
