import Mathlib.Logic.Function.Basic
import DreamHeroes.ClientSending

/- The pool of session objects of a tcp_server. Completions and posted calls run on the io
   thread, the rest on the main loop, and either goes on at any time. What an operation of an
   earlier connection completes with reaches the session object all the same. -/
namespace TcpServer

open TcpSession (maxMessageLen)
open MessageInterface (Fresh)
open SendQueue (Sender opened)
open ClientSending (ReadOutcome)

abbrev SessionPtr := Nat

/- banned says that is_ban_ip holds for the address. -/
inductive AcceptOutcome where
  | ok
  | banned
  | error
  deriving DecidableEq, Repr

/- m_isconnected, the posted calls of handle_close and the writes under way are in the sender.
   isOpen is about the socket, reads counts the async_read_some that have not completed, and
   begins the posted calls of tcp_session::handle_accept. accepts and frees are history values:
   how often an async_accept of the session completed and how often it was freed. -/
structure Session where
  sender : Sender
  valid : Bool
  father : Bool
  isOpen : Bool
  reads : Nat
  accepting : Bool
  begins : Nat
  accepts : Nat
  frees : Nat

/- sessions is m_sessions. polling holds the close callbacks that poll has taken but not run. -/
structure Server where
  session : SessionPtr → Session
  sessions : List SessionPtr
  acceptingCount : Nat
  onceListenCount : Nat
  callbacks : List SessionPtr
  polling : List SessionPtr

namespace Session

def close (session : Session) : Session :=
  { session with sender := { session.sender with closes := session.sender.closes + 1 } }

def handleClose (session : Session) : Session :=
  { session with
    isOpen := false
    sender := { session.sender with connected := false } }

def reset (session : Session) : Session :=
  { session with
    valid := false
    father := false
    isOpen := false
    sender := { session.sender with
      connected := false
      queue := []
      isSending := false
      notSentSize := 0 } }

/- What _on_close does to the session itself. -/
def shut (session : Session) : Session :=
  { session with
    isOpen := false
    sender := { session.sender with queue := [], connected := false } }

/- tcp_session::handle_accept, with its begin_read_message. -/
def begin (session : Session) : Session :=
  { session with
    valid := true
    father := true
    reads := session.reads + 1
    sender := { session.sender with
      connected := true
      connection := session.sender.connection + 1 } }

end Session

namespace Server

def setSession (s : Server) (p : SessionPtr) (session : Session) : Server :=
  { s with session := Function.update s.session p session }

def freeSession (s : Server) (p : SessionPtr) : Server :=
  { s.setSession p { (s.session p).reset with frees := (s.session p).frees + 1 } with
    sessions := s.sessions ++ [p] }

/- _on_close; a session without a father has no callback manager. -/
def lost (s : Server) (p : SessionPtr) : Server :=
  { s.setSession p (s.session p).shut with
    callbacks := if (s.session p).father then s.callbacks ++ [p] else s.callbacks }

/- on_close -/
def onClose (s : Server) (p : SessionPtr) : Server :=
  if (s.session p).father then s.freeSession p else s

/- The loop of _real_run that lets free sessions accept. -/
def armSessions : List SessionPtr → Server → Server
  | [], s => s
  | p :: rest, s =>
      if s.acceptingCount < s.onceListenCount then
        armSessions rest { s.setSession p { s.session p with valid := true, accepting := true } with
          sessions := rest
          acceptingCount := s.acceptingCount + 1 }
      else s

def arm (s : Server) : Server := if s.polling = [] then armSessions s.sessions s else s

def poll (s : Server) : Server :=
  if s.polling = [] then { s with polling := s.callbacks, callbacks := [] } else s

def callBack (s : Server) : Server :=
  match s.polling with
  | p :: rest => { s with polling := rest }.onClose p
  | [] => s

/- tcp_server::handle_accept -/
def handleAccept (s : Server) (p : SessionPtr) (outcome : AcceptOutcome) : Server :=
  if (s.session p).accepting then
    let session := { s.session p with
      accepting := false
      accepts := (s.session p).accepts + 1 }
    let s := { s with acceptingCount := s.acceptingCount - 1 }
    match outcome with
    | .ok => s.setSession p { session with isOpen := true, begins := session.begins + 1 }
    | .banned => (s.setSession p session.handleClose).freeSession p
    | .error => (s.setSession p session.handleClose).freeSession p
  else s

def runBegin (s : Server) (p : SessionPtr) : Server :=
  if (s.session p).begins = 0 then s
  else s.setSession p { (s.session p).begin with begins := (s.session p).begins - 1 }

/- The ban that close_and_ban and a failed uncompress add decides outcomes of later accepts. -/
def handleReadSome (s : Server) (p : SessionPtr) (outcome : ReadOutcome) : Server :=
  if (s.session p).reads = 0 then s
  else
    let session := { s.session p with reads := (s.session p).reads - 1 }
    if session.valid then
      match outcome with
      | .more => s.setSession p { session with reads := session.reads + 1 }
      | .badLength => s.setSession p session.close
      | .uncompressFailed => (s.setSession p session.close).lost p
      | .error => (s.setSession p session).lost p
    else s.setSession p session

/- handle_write for the write that began first. -/
def handleWrite (s : Server) (p : SessionPtr) (ok : Bool) : Server :=
  match (s.session p).sender.outstanding with
  | [] => s
  | _ :: rest =>
      let done := { (s.session p).sender with outstanding := rest }
      if (s.session p).valid then
        if ok then s.setSession p { s.session p with sender := (s.session p).sender.writeDone }
        else (s.setSession p { s.session p with sender := done }).lost p
      else s.setSession p { s.session p with sender := done }

def runClose (s : Server) (p : SessionPtr) : Server :=
  if (s.session p).sender.closes = 0 then s
  else
    s.setSession p { (s.session p).handleClose with
      sender := { (s.session p).handleClose.sender with
        closes := (s.session p).sender.closes - 1 } }

def sendMessage (s : Server) (p : SessionPtr) (fresh : Fresh) (data : ByteWords.Bytes) : Server :=
  if (s.session p).valid then
    s.setSession p { s.session p with sender := (s.session p).sender.sendMessage fresh data }
  else s

def runPosted (s : Server) (p : SessionPtr) : Server :=
  s.setSession p { s.session p with sender := (s.session p).sender.runPosted }

end Server

/- close stands for every call of close() and close_and_ban(), by kicks, timers and messages. -/
inductive Event where
  | arm
  | poll
  | callBack
  | handleAccept (p : SessionPtr) (outcome : AcceptOutcome)
  | begin (p : SessionPtr)
  | handleReadSome (p : SessionPtr) (outcome : ReadOutcome)
  | handleWrite (p : SessionPtr) (ok : Bool)
  | close (p : SessionPtr)
  | runClose (p : SessionPtr)
  | send (p : SessionPtr) (fresh : Fresh) (data : ByteWords.Bytes)
  | runPosted (p : SessionPtr)

def step (s : Server) : Event → Server
  | .arm => s.arm
  | .poll => s.poll
  | .callBack => s.callBack
  | .handleAccept p outcome => s.handleAccept p outcome
  | .begin p => s.runBegin p
  | .handleReadSome p outcome => s.handleReadSome p outcome
  | .handleWrite p ok => s.handleWrite p ok
  | .close p => s.setSession p (s.session p).close
  | .runClose p => s.runClose p
  | .send p fresh data => s.sendMessage p fresh data
  | .runPosted p => s.runPosted p

/-- A server that has created its pool. -/
def start (poolCount onceListenCount : Nat) (limitMode : Bool)
    (buffer : ByteWords.Block maxMessageLen) : Server where
  session := fun _ => {
    sender := { opened (.accepted limitMode) buffer with connected := false }
    valid := false
    father := false
    isOpen := false
    reads := 0
    accepting := false
    begins := 0
    accepts := 0
    frees := 0 }
  sessions := List.range poolCount
  acceptingCount := 0
  onceListenCount := onceListenCount
  callbacks := []
  polling := []

end TcpServer
