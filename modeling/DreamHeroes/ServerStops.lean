import DreamHeroes.LabelledRuns

/- How the servers are told to stop. ServerFrame::run goes on until _stop is set, and main shuts
the server down once more behind it. Of what shutDown releases only the tcp_servers are looked
at: stop deletes their acceptor and keeps the pointer. -/
namespace ServerStops

open LabelledRuns

inductive Program where
  | login
  | gate
  | game
  | database
  deriving DecidableEq, Repr

/- sessions is the size of m_sessions, and busy counts the sessions that have a connection. -/
structure TcpServer where
  sessions : Nat
  acceptingCount : Nat
  busy : Nat
  deleted : Bool
  deriving DecidableEq, Repr

/- signalled is g_wait_stop, and ended says that main has returned from its shutdown. turns is a
history value: the turns of the loop since the signal. After misused, which a use of a deleted
acceptor sets, nothing is known and nothing happens. -/
structure Server where
  servers : List TcpServer
  onceListenCount : Nat
  signalled : Bool
  waitStop : Bool
  stop : Bool
  ended : Bool
  turns : Nat
  misused : Bool
  deriving DecidableEq, Repr

namespace TcpServer

def stop (t : TcpServer) : Option TcpServer :=
  if t.deleted then none else some { t with sessions := 0, deleted := true }

/- The loop of _real_run that lets free sessions accept. -/
def realRun (onceListenCount : Nat) (t : TcpServer) : Option TcpServer :=
  let armed := min t.sessions (onceListenCount - t.acceptingCount)
  if t.deleted ∧ 0 < armed then none
  else some { t with
    sessions := t.sessions - armed
    acceptingCount := t.acceptingCount + armed }

/- handle_accept -/
def handleAccept (t : TcpServer) (ok : Bool) : TcpServer :=
  if t.acceptingCount = 0 then t
  else if ok then { t with acceptingCount := t.acceptingCount - 1, busy := t.busy + 1 }
  else { t with acceptingCount := t.acceptingCount - 1, sessions := t.sessions + 1 }

def freeSession (t : TcpServer) : TcpServer :=
  if t.busy = 0 then t else { t with busy := t.busy - 1, sessions := t.sessions + 1 }

end TcpServer

namespace Server

/- Each tcp_server in turn. -/
def each (s : Server) (act : TcpServer → Option TcpServer) : Server :=
  match s.servers.mapM act with
  | some servers => { s with servers := servers }
  | none => { s with misused := true }

def runOnce (s : Server) : Server := s.each (TcpServer.realRun s.onceListenCount)

def shutDown (s : Server) : Server := s.each TcpServer.stop

/- ready is is_save_all_heroes_ok of a game server and isObjStop of the character database. -/
def checkStop (s : Server) (ready : Bool) : Program → Server
  | .login => { s with stop := true }
  | .gate => s.shutDown
  | .game => if ready then { s.shutDown with stop := true } else s
  | .database => if ready then { s.shutDown with stop := true } else s

/- A database server waits for no signal. The others call their setStop before. -/
def signalStop (s : Server) : Program → Server
  | .database => { s with waitStop := true }
  | _ => if s.signalled then { s with waitStop := true } else s

def begin (s : Server) : Server :=
  { s with turns := if s.signalled then s.turns + 1 else s.turns }.runOnce

/- One turn of the loop in ServerFrame::run. -/
def turn (s : Server) (program : Program) (ready : Bool) : Server :=
  if s.stop then s
  else
    let s := s.begin
    let s := if s.waitStop then s.checkStop ready program else s
    s.signalStop program

def modify (s : Server) (i : Nat) (change : TcpServer → TcpServer) : Server :=
  { s with servers := s.servers.modify i change }

end Server

/- shutdown is that of main.cpp. -/
inductive Event where
  | signal
  | turn (ready : Bool)
  | handleAccept (i : Nat) (ok : Bool)
  | freeSession (i : Nat)
  | shutdown
  deriving DecidableEq, Repr

def handle (program : Program) (s : Server) : Event → Server
  | .signal => { s with signalled := true }
  | .turn ready => s.turn program ready
  | .handleAccept i ok => s.modify i (·.handleAccept ok)
  | .freeSession i => s.modify i (·.freeSession)
  | .shutdown => if s.stop ∧ s.ended = false then { s.shutDown with ended := true } else s

def step (program : Program) (s : Server) (event : Event) : Server :=
  if s.misused then s else handle program s event

/- The login server listens for clients and for gates. -/
def listens : Program → Nat
  | .login => 2
  | _ => 1

def start (program : Program) (poolCount onceListenCount : Nat) : Server where
  servers := List.replicate (listens program) ⟨poolCount, 0, 0, false⟩
  onceListenCount := onceListenCount
  signalled := false
  waitStop := false
  stop := false
  ended := false
  turns := 0
  misused := false

structure Alike (servers : List TcpServer) (deleted : Bool) : Prop where
  listed : servers ≠ []
  same : ∀ t ∈ servers, t.deleted = deleted

section Each

variable {servers : List TcpServer} {d d' : Bool}

end Each

variable {s : Server} {d : Bool}

/-- The state in which a turn lets free sessions accept. -/
def counted (s : Server) : Server :=
  { s with turns := if s.signalled then s.turns + 1 else s.turns }

variable (poolCount onceListenCount : Nat) (events : List Event)

example : (run (step .login) (start .login 10 4)
    [.turn false, .signal, .turn false, .turn false, .shutdown]).ended = true := by decide

example : (run (step .game) (start .game 10 4)
    [.turn false, .signal, .turn false, .turn true, .shutdown]).misused = true := by decide

end ServerStops
