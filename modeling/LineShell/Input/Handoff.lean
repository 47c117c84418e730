import LineShell.Input.Reader

/-!
# The reading thread and the dispatcher

The standard input is read on a thread of its own, so that a child can have it while a command runs:
the thread reads nothing until it is asked to. The dispatcher asks with a request on one channel and
waits for a message on another. After the end of the input or an error the thread leaves its loop,
and the ends of the channels that it holds are dropped some time later, one after the other. Between
any two steps of one party the other may take any number of steps, and the world may change.
-/
namespace LineShell.Input

def Message.isLast : Message → Bool
  | .line _ => false
  | .endOfInput | .failed _ => true

namespace Handoff

/-- A channel without bounds, from one party to the other. -/
structure Channel (α : Type) where
  /-- What was sent and not received yet, the oldest first. -/
  queue : List α
  /-- Whether the end that sends is still held. -/
  hasSender : Bool
  /-- Whether the end that receives is still held. -/
  hasReceiver : Bool

namespace Channel

def fresh : Channel α := ⟨[], true, true⟩

def send (channel : Channel α) (a : α) : Channel α :=
  { channel with queue := channel.queue ++ [a] }

/-- The channel after the oldest of what was sent was received. -/
def next (channel : Channel α) : Channel α :=
  { channel with queue := channel.queue.tail }

def dropSender (channel : Channel α) : Channel α :=
  { channel with hasSender := false }

def dropReceiver (channel : Channel α) : Channel α :=
  { channel with hasReceiver := false }

end Channel

inductive Thread where
  /-- At the head of its loop, where it waits for a request. -/
  | waiting
  /-- With a request that it has not answered yet. -/
  | serving (request : Request)
  /-- With a message that it has not sent yet. -/
  | sending (message : Message)
  /-- Out of its loop. -/
  | finished
  deriving DecidableEq

/-- Where the thread is when it has sent a message. -/
def Thread.after (message : Message) : Thread :=
  if message.isLast then .finished else .waiting

/-- The two parties, their channels, and the world around them. -/
structure State (σ : Type) where
  /-- From the dispatcher to the thread. -/
  requests : Channel Request
  /-- From the thread to the dispatcher. -/
  messages : Channel Message
  thread : Thread
  /-- The request of the call that the dispatcher is in, if it waits for a message. -/
  pending : Option Request
  /-- Whether the dispatcher has given up asking, be it in the middle of a call. -/
  left : Bool
  reader : Reader
  world : World σ

/-- What can be seen of a step. -/
inductive Event (σ : Type) where
  /-- A request was sent. -/
  | asked (request : Request)
  /-- A request could not be sent, and its call returned. -/
  | refused (request : Request)
  /-- A message was received, and the call returned. -/
  | received (request : Request) (message : Message)
  /-- There was no message to come, and the call returned. -/
  | cutOff (request : Request)
  /-- The dispatcher gave up, or dropped an end of a channel after that. -/
  | left
  /-- The thread read for a request, in a world. -/
  | read (request : Request) (world : World σ) (message : Message)
  /-- The thread could not show the prompt, and read nothing. -/
  | unprompted (request : Request) (cause : IoError)
  /-- The thread did something that only itself knows of. -/
  | inside
  /-- The dispatcher did something to the world. -/
  | acted
  /-- Others did something to the world. -/
  | elsewhere

/-- The two parties before their first steps. -/
def State.start (world : World σ) : State σ where
  requests := .fresh
  messages := .fresh
  thread := .waiting
  pending := none
  left := false
  reader := .fresh
  world

variable {σ : Type}

/-- The steps of the two parties, and of the world. -/
inductive Step : State σ → Event σ → State σ → Prop
  /-- The dispatcher begins a call and sends its request. -/
  | ask {s : State σ} {request : Request} (stays : s.left = false) (between : s.pending = none)
      (isOpen : s.requests.hasReceiver = true) :
      Step s (.asked request)
        { s with requests := s.requests.send request, pending := some request }
  /-- The dispatcher begins a call, but nobody would receive its request: the input has ended. -/
  | refuse {s : State σ} {request : Request} (stays : s.left = false) (between : s.pending = none)
      (isClosed : s.requests.hasReceiver = false) : Step s (.refused request) s
  /-- The dispatcher receives the message that it has waited for. -/
  | receive {s : State σ} {request : Request} {message : Message} (stays : s.left = false)
      (waits : s.pending = some request) (isNext : s.messages.queue.head? = some message) :
      Step s (.received request message) { s with messages := s.messages.next, pending := none }
  /-- The dispatcher has waited for a message that nobody can send any more: the input has ended. -/
  | hangUp {s : State σ} {request : Request} (stays : s.left = false)
      (waits : s.pending = some request) (isEmpty : s.messages.queue = [])
      (isClosed : s.messages.hasSender = false) :
      Step s (.cutOff request) { s with pending := none }
  /-- The dispatcher gives up. -/
  | leave {s : State σ} (stays : s.left = false) : Step s .left { s with left := true }
  | dropRequests {s : State σ} (hasLeft : s.left = true) (isOpen : s.requests.hasSender = true) :
      Step s .left { s with requests := s.requests.dropSender }
  | dropMessages {s : State σ} (hasLeft : s.left = true) (isOpen : s.messages.hasReceiver = true) :
      Step s .left { s with messages := s.messages.dropReceiver }
  /-- The thread takes the next request. -/
  | take {s : State σ} {request : Request} (idle : s.thread = .waiting)
      (isNext : s.requests.queue.head? = some request) :
      Step s .inside { s with requests := s.requests.next, thread := .serving request }
  /-- The thread leaves its loop, since no request can come any more. -/
  | dismiss {s : State σ} (idle : s.thread = .waiting) (isEmpty : s.requests.queue = [])
      (isClosed : s.requests.hasSender = false) : Step s .inside { s with thread := .finished }
  /-- The thread reads for its request. -/
  | read {s : State σ} {request : Request} {message : Message} {reader : Reader} {world : World σ}
      (serves : s.thread = .serving request)
      (answers : s.reader.answer s.world = (message, reader, world)) :
      Step s (.read request s.world message) { s with thread := .sending message, reader, world }
  /-- The thread cannot show the prompt. -/
  | fail {s : State σ} {request : Request} {cause : IoError}
      (serves : s.thread = .serving request) :
      Step s (.unprompted request cause) { s with thread := .sending (.failed cause) }
  /-- The thread sends its message, and leaves its loop if the message is the last one. -/
  | send {s : State σ} {message : Message} (holds : s.thread = .sending message)
      (isOpen : s.messages.hasReceiver = true) :
      Step s .inside { s with messages := s.messages.send message, thread := .after message }
  /-- The thread leaves its loop, since nobody would receive its message. -/
  | lose {s : State σ} {message : Message} (holds : s.thread = .sending message)
      (isClosed : s.messages.hasReceiver = false) : Step s .inside { s with thread := .finished }
  | closeRequests {s : State σ} (isOver : s.thread = .finished)
      (isOpen : s.requests.hasReceiver = true) :
      Step s .inside { s with requests := s.requests.dropReceiver }
  | closeMessages {s : State σ} (isOver : s.thread = .finished)
      (isOpen : s.messages.hasSender = true) :
      Step s .inside { s with messages := s.messages.dropSender }
  /-- The dispatcher changes the world. -/
  | act {s : State σ} (world : World σ) : Step s .acted { s with world }
  /-- Others change the world. -/
  | change {s : State σ} (world : World σ) : Step s .elsewhere { s with world }

/-- Steps in a row, with what can be seen of them. -/
inductive Run (s : State σ) : List (Event σ) → State σ → Prop
  | nil : Run s [] s
  | snoc {events : List (Event σ)} {mid last : State σ} {event : Event σ} :
      Run s events mid → Step mid event last → Run s (events ++ [event]) last

/-- A request with the message that answered it. -/
abbrev Exchange := Request × Message

def Event.request? : Event σ → Option Request
  | .asked request => some request
  | _ => none

/-- What the thread has come to for a request. -/
def Event.served? : Event σ → Option Exchange
  | .read request _ message => some (request, message)
  | .unprompted request cause => some (request, .failed cause)
  | _ => none

/-- What the dispatcher has received for a request. -/
def Event.received? : Event σ → Option Exchange
  | .received request message => some (request, message)
  | _ => none

/-- What a call for a line has returned: where there is no message, the end of the input. -/
def Event.call? : Event σ → Option Exchange
  | .received request message => some (request, message)
  | .cutOff request | .refused request => some (request, .endOfInput)
  | _ => none

def Event.ofThread : Event σ → Bool
  | .read .. | .unprompted .. | .inside => true
  | _ => false

/-- Whether an event is a step of one of the two parties. -/
def Event.ofParties : Event σ → Bool
  | .elsewhere => false
  | _ => true

def sent (events : List (Event σ)) : List Request :=
  events.filterMap Event.request?

/-- What the thread has come to, request by request. -/
def served (events : List (Event σ)) : List Exchange :=
  events.filterMap Event.served?

/-- What the dispatcher has received, request by request. -/
def received (events : List (Event σ)) : List Exchange :=
  events.filterMap Event.received?

/-- What the calls of the dispatcher have returned, call by call. -/
def calls (events : List (Event σ)) : List Exchange :=
  events.filterMap Event.call?

end Handoff
end LineShell.Input
