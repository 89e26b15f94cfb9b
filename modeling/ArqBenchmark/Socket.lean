import Mathlib.Data.Finset.Basic
import Mathlib.Data.Int.Notation
import Mathlib.Tactic.Common

namespace ArqBenchmark.Util

inductive Exception
  | invalidArgument (what : String)
  | socketException (what : String)
  | addrInfoException (what : String)
  | endpointException (what : String)
  | badOptionalAccess
deriving DecidableEq, Repr

abbrev SocketID := ℤ

def socketError : SocketID := -1

/-- The descriptors that the system has handed out and that are not closed yet, and those that
`::close` was given without being open. -/
structure Kernel where
  opened : Finset SocketID
  closedTwice : List SocketID
deriving DecidableEq

namespace Kernel

/-- `::socket` or `::accept` with the result `ret`: an error, or a descriptor that is not open. -/
def obtain (k : Kernel) (ret : SocketID) : Option Kernel :=
  if ret = socketError then some k
  else if ret ∈ k.opened then none
  else some { k with opened := insert ret k.opened }

def close (k : Kernel) (id : SocketID) : Kernel :=
  if id ∈ k.opened then { k with opened := k.opened.erase id }
  else { k with closedTwice := k.closedTwice ++ [id] }

theorem obtain_eq_some {k k' : Kernel} {ret : SocketID} : k.obtain ret = some k' ↔
    ret = socketError ∧ k' = k ∨
      ret ≠ socketError ∧ ret ∉ k.opened ∧ k' = { k with opened := insert ret k.opened } := by
  by_cases hret : ret = socketError
  · simp only [obtain, hret, ↓reduceIte, Option.some.injEq, true_and, ne_eq, not_true_eq_false,
      false_and, or_false, eq_comm]
  · by_cases hopen : ret ∈ k.opened
    · simp only [obtain, hret, hopen, ↓reduceIte, reduceCtorEq, false_and, not_true_eq_false,
        and_false, or_self]
    · simp only [obtain, hret, hopen, ↓reduceIte, Option.some.injEq, false_and, ne_eq,
        not_false_eq_true, true_and, false_or, eq_comm]

theorem close_open {k : Kernel} {id : SocketID} (h : id ∈ k.opened) :
    k.close id = { k with opened := k.opened.erase id } :=
  if_pos h

end Kernel

inductive SocketType
  | unspec
  | tcp
  | udp
  | sctp
deriving DecidableEq, Repr

inductive SockType
  | stream
  | dgram
deriving DecidableEq, Repr

def socketType2SockType : SocketType → Except Exception SockType
  | .tcp => .ok .stream
  | .udp => .ok .dgram
  | .sctp => .ok .stream
  | .unspec => .error (.invalidArgument "unknown socket type")

inductive AddressFamily
  | inet
  | inet6
  | other
deriving DecidableEq, Repr

structure SockAddr where
  family : AddressFamily
  -- What `inet_ntop` writes for the address.
  text : String
deriving DecidableEq, Repr

def sockaddr2Str (addr : SockAddr) : Option String :=
  match addr.family with
  | .inet => some addr.text
  | .inet6 => some addr.text
  | .other => none

structure Socket where
  socketID : SocketID
deriving DecidableEq, Repr

/-- What `::accept` returns and what `theirAddr` contains behind it, which is anything when it fails. -/
structure AcceptResult where
  newSocketID : SocketID
  theirAddr : SockAddr
deriving DecidableEq, Repr

namespace Socket

def new : Socket := ⟨socketError⟩

def ofID (id : SocketID) : Socket := ⟨id⟩

/-- A constructor that throws if the result of `::socket` is an error. There is no outcome when
`::socket` cannot return `ret`. -/
def ofResult (ret : SocketID) (k : Kernel) : Option (Except Exception Socket × Kernel) :=
  (k.obtain ret).map fun k =>
    (if ret = socketError then .error (.socketException "failed to create socket") else .ok ⟨ret⟩, k)

def ofType (type : SocketType) (ret : SocketID) (k : Kernel) : Option (Except Exception Socket × Kernel) :=
  match socketType2SockType type with
  | .ok _ => ofResult ret k
  | .error e => some (.error e, k)

def ofInfo (ret : SocketID) (k : Kernel) : Option (Except Exception Socket × Kernel) := ofResult ret k

def destroy (s : Socket) (k : Kernel) : Kernel := if s.socketID ≠ socketError then k.close s.socketID else k

def exchange (other : Socket) : SocketID × Socket := (other.socketID, ⟨socketError⟩)

def moveConstruct (other : Socket) : Socket × Socket :=
  let (id, other) := other.exchange
  (⟨id⟩, other)

def moveAssign (s other : Socket) : Socket × Socket :=
  let (id, other) := other.exchange
  -- The descriptor of `s` is overwritten without being closed.
  ({ s with socketID := id }, other)

def descriptor (s : Socket) : Option SocketID := if s.socketID = socketError then none else some s.socketID

def bind (setsockoptRet bindRet : ℤ) : Except Exception Bool :=
  if setsockoptRet = socketError then .error (.socketException "failed to set socket options")
  else .ok (bindRet != socketError)

def checkHost (result : AcceptResult) : Option String → Except Exception (Option Socket)
  | none => .ok (some (ofID result.newSocketID))
  | some expectedHost =>
    match sockaddr2Str result.theirAddr with
    | some connectingAddr =>
      if connectingAddr = expectedHost then .ok (some (ofID result.newSocketID)) else .ok none
    -- The warning about the mismatch asks an empty optional for its value.
    | none => .error .badOptionalAccess

def accept (result : AcceptResult) (expectedHost : Option String) (k : Kernel) :
    Option (Except Exception (Option Socket) × Kernel) :=
  (k.obtain result.newSocketID).map fun k => (checkHost result expectedHost, k)

@[simp] theorem destroy_moved (k : Kernel) : (Socket.mk socketError).destroy k = k :=
  if_neg (not_not.mpr rfl)

theorem destroy_fresh {k : Kernel} {id : SocketID} (hid : id ≠ socketError) (hfresh : id ∉ k.opened) :
    (Socket.mk id).destroy { k with opened := insert id k.opened } = k := by
  rw [destroy, if_pos hid, Kernel.close_open (Finset.mem_insert_self id k.opened), Finset.erase_insert hfresh]

inductive Constructs (k : Kernel) : Except Exception Socket → Kernel → Prop
  | throws (e : Exception) : Constructs k (.error e) k
  | empty : Constructs k (.ok ⟨socketError⟩) k
  | fresh {id : SocketID} (hid : id ≠ socketError) (hfresh : id ∉ k.opened) :
      Constructs k (.ok ⟨id⟩) { k with opened := insert id k.opened }

section Constructors

variable {k k' : Kernel} {ret : SocketID} {type : SocketType} {r : Except Exception Socket}

theorem ofResult_constructs (h : ofResult ret k = some (r, k')) : Constructs k r k' := by
  obtain ⟨k₁, hk₁, heq⟩ := Option.map_eq_some_iff.mp h
  cases heq
  rcases Kernel.obtain_eq_some.mp hk₁ with ⟨hret, rfl⟩ | ⟨hret, hfresh, rfl⟩
  · rw [if_pos hret]
    exact .throws _
  · rw [if_neg hret]
    exact .fresh hret hfresh

theorem Constructs.destroy {s : Socket} (h : Constructs k (.ok s) k') : s.destroy k' = k := by
  cases h with
  | empty => exact destroy_moved k
  | fresh hid hfresh => exact destroy_fresh hid hfresh

theorem ofType_constructs (h : ofType type ret k = some (r, k')) : Constructs k r k' := by
  unfold ofType at h
  split at h
  · exact ofResult_constructs h
  · cases h
    exact .throws _

end Constructors

def FromExpected (result : AcceptResult) (expectedHost : Option String) : Prop :=
  ∀ host ∈ expectedHost, sockaddr2Str result.theirAddr = some host

section Accept

variable {result : AcceptResult} {expectedHost : Option String}

theorem checkHost_expected (h : FromExpected result expectedHost) :
    checkHost result expectedHost = .ok (some ⟨result.newSocketID⟩) := by
  cases expectedHost with
  | none => rfl
  | some host =>
    rw [checkHost, h host rfl]
    exact if_pos rfl

theorem checkHost_other {host text : String} (htext : sockaddr2Str result.theirAddr = some text)
    (hne : text ≠ host) : checkHost result (some host) = .ok none := by
  rw [checkHost, htext]
  exact if_neg hne

theorem checkHost_unknown {host : String} (htext : sockaddr2Str result.theirAddr = none) :
    checkHost result (some host) = .error .badOptionalAccess := by
  rw [checkHost, htext]

theorem host_cases (result : AcceptResult) (expectedHost : Option String) : FromExpected result expectedHost ∨
    ∃ host, expectedHost = some host ∧ (sockaddr2Str result.theirAddr = none ∨
      ∃ text, sockaddr2Str result.theirAddr = some text ∧ text ≠ host) := by
  cases expectedHost with
  | none => exact .inl nofun
  | some host =>
    cases htext : sockaddr2Str result.theirAddr with
    | none => exact .inr ⟨host, rfl, .inl rfl⟩
    | some text =>
      by_cases heq : text = host
      · refine .inl fun expected hexpected => ?_
        rw [htext, heq, Option.mem_some.mp hexpected]
      · exact .inr ⟨host, rfl, .inr ⟨text, rfl, heq⟩⟩

end Accept

end Socket

structure Endpoint where
  socket : Socket
deriving DecidableEq, Repr

structure BindAttempt where
  socketRet : SocketID
  setsockoptRet : ℤ
  bindRet : ℤ
deriving DecidableEq, Repr

/-- `lookup` is what `getaddrinfo` gives: the list, or the text of its error. -/
def getAddressInfo {α : Type} (host service : String) (type : SocketType) (lookup : Except String α) :
    Except Exception α :=
  match socketType2SockType type with
  | .error e => .error e
  | .ok _ =>
    match lookup with
    | .ok info => .ok info
    | .error reason => .error (.addrInfoException
        ("failed to get address info for host '" ++ reason ++ "' and service '" ++ host ++ "' (" ++ service ++ ")"))

namespace Endpoint

open Socket

def ofType (type : SocketType) (ret : SocketID) (k : Kernel) : Option (Except Exception Endpoint × Kernel) :=
  (Socket.ofType type ret k).map fun (socket, k) => (socket.map Endpoint.mk, k)

/-- The loop over the address list, with `socket` for the member `socket_`. -/
def bindFirst (socket : Socket) : List BindAttempt → Kernel → Option (Except Exception Endpoint × Kernel)
  | [], k => some (.error (.endpointException "failed to create endpoint"), socket.destroy k)
  | ai :: info, k =>
    match Socket.ofInfo ai.socketRet k with
    | none => none
    | some (.error _, k) => bindFirst socket info k
    | some (.ok sock, k) =>
      match Socket.bind ai.setsockoptRet ai.bindRet with
      | .error _ => bindFirst socket info (sock.destroy k)
      | .ok false => bindFirst socket info (sock.destroy k)
      | .ok true =>
        let (socket, sock) := socket.moveAssign sock
        some (.ok ⟨socket⟩, sock.destroy k)

def ofHost (host service : String) (type : SocketType) (lookup : Except String (List BindAttempt)) (k : Kernel) :
    Option (Except Exception Endpoint × Kernel) :=
  let socket := Socket.new
  match getAddressInfo host service type lookup with
  | .ok addressInfo => bindFirst socket addressInfo k
  | .error e => some (.error e, socket.destroy k)

def accept (e : Endpoint) (result : AcceptResult) (expectedHost : Option String) (k : Kernel) :
    Option (Except Exception Bool × Endpoint × Kernel) :=
  match Socket.accept result expectedHost k with
  | none => none
  | some (.ok (some acceptedSock), k) =>
    let (socket, acceptedSock) := e.socket.moveAssign acceptedSock
    some (.ok true, ⟨socket⟩, acceptedSock.destroy k)
  | some (.ok none, k) => some (.ok false, e, k)
  | some (.error ex, k) => some (.error ex, e, k)

variable {k k' : Kernel} {r : Except Exception Endpoint}

theorem ofType_constructs {type : SocketType} {ret : SocketID} (h : ofType type ret k = some (r, k')) :
    Constructs k (r.map Endpoint.socket) k' := by
  obtain ⟨⟨r', k₁⟩, hsocket, heq⟩ := Option.map_eq_some_iff.mp h
  cases heq
  have hr : (r'.map Endpoint.mk).map Endpoint.socket = r' := by cases r' <;> rfl
  rw [hr]
  exact Socket.ofType_constructs hsocket

theorem bindFirst_constructs {info : List BindAttempt} (h : bindFirst .new info k = some (r, k')) :
    Constructs k (r.map Endpoint.socket) k' := by
  -- An attempt that fails closes what it has opened, so the loop goes on as it began.
  induction info with
  | nil =>
    cases h
    exact .throws _
  | cons ai info ih =>
    rw [bindFirst] at h
    split at h
    · cases h
    · rename_i e k₁ hsocket
      have hthrown := ofResult_constructs hsocket
      cases hthrown
      exact ih h
    · rename_i sock k₁ hsocket
      have hsock := ofResult_constructs hsocket
      split at h
      · rw [hsock.destroy] at h
        exact ih h
      · rw [hsock.destroy] at h
        exact ih h
      · change some (_, (Socket.mk socketError).destroy k₁) = _ at h
        rw [destroy_moved] at h
        cases h
        exact hsock

theorem ofHost_constructs {host service : String} {type : SocketType}
    {lookup : Except String (List BindAttempt)} (h : ofHost host service type lookup k = some (r, k')) :
    Constructs k (r.map Endpoint.socket) k' := by
  unfold ofHost at h
  split at h
  · exact bindFirst_constructs h
  · cases h
    exact .throws _

section Accept

variable {e : Endpoint} {result : AcceptResult} {expectedHost : Option String}

theorem accept_expected (hk : k.obtain result.newSocketID = some k') (h : FromExpected result expectedHost) :
    e.accept result expectedHost k = some (.ok true, ⟨⟨result.newSocketID⟩⟩, k') := by
  rw [accept, Socket.accept, hk, Option.map_some, checkHost_expected h]
  exact congrArg (fun k => some (_, _, k)) (destroy_moved k')

theorem accept_other {host text : String} (hk : k.obtain result.newSocketID = some k')
    (htext : sockaddr2Str result.theirAddr = some text) (hne : text ≠ host) :
    e.accept result (some host) k = some (.ok false, e, k') := by
  rw [accept, Socket.accept, hk, Option.map_some, checkHost_other htext hne]

theorem accept_unknown {host : String} (hk : k.obtain result.newSocketID = some k')
    (htext : sockaddr2Str result.theirAddr = none) :
    e.accept result (some host) k = some (.error .badOptionalAccess, e, k') := by
  rw [accept, Socket.accept, hk, Option.map_some, checkHost_unknown htext]

theorem accept_impossible (hk : k.obtain result.newSocketID = none) :
    e.accept result expectedHost k = none := by
  rw [accept, Socket.accept, hk, Option.map_none]

end Accept

end Endpoint

end ArqBenchmark.Util
