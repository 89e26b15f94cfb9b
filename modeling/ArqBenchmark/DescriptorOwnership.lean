import ArqBenchmark.Ownership
import ArqBenchmark.Runs
import ArqBenchmark.Socket

namespace ArqBenchmark.Util

open Ownership Socket

inductive Name
  | socket (n : ℕ)
  | endpoint (n : ℕ)
deriving DecidableEq, Repr

def Name.sameClass : Name → Name → Bool
  | .socket _, .socket _ => true
  | .endpoint _, .endpoint _ => true
  | _, _ => false

structure World where
  live : Name → Option Socket
  kernel : Kernel

inductive Op
  | socketDefault (n : ℕ)
  | socketOfType (n : ℕ) (type : SocketType) (ret : SocketID)
  | socketOfInfo (n : ℕ) (ret : SocketID)
  | socketAccept (n listening : ℕ) (result : AcceptResult) (expectedHost : Option String)
  | endpointOfType (n : ℕ) (type : SocketType) (ret : SocketID)
  | endpointOfHost (n : ℕ) (host service : String) (type : SocketType)
      (lookup : Except String (List BindAttempt))
  | endpointAccept (n : ℕ) (result : AcceptResult) (expectedHost : Option String)
  | moveConstruct (name other : Name)
  | moveAssign (name other : Name)
  | destroy (name : Name)

namespace World

def new : World := ⟨fun _ => none, ⟨∅, []⟩⟩

def place (w : World) (name : Name) : Except Exception Socket × Kernel → Except Exception Bool × World
  | (.ok s, k) => (.ok true, ⟨Function.update w.live name (some s), k⟩)
  | (.error e, k) => (.error e, ⟨w.live, k⟩)

def construct (w : World) (name : Name) (outcome : Option (Except Exception Socket × Kernel)) :
    Option (Except Exception Bool × World) :=
  if (w.live name).isSome then none else outcome.map (w.place name)

def socketAccept (w : World) (n listening : ℕ) (result : AcceptResult) (expectedHost : Option String) :
    Option (Except Exception Bool × World) :=
  if (w.live (.socket listening)).isNone || (w.live (.socket n)).isSome then none
  else
    match Socket.accept result expectedHost w.kernel with
    | some (.ok (some s), k) => some (w.place (.socket n) (.ok s, k))
    | some (.ok none, k) => some (.ok false, ⟨w.live, k⟩)
    | some (.error e, k) => some (.error e, ⟨w.live, k⟩)
    | none => none

def endpointAccept (w : World) (n : ℕ) (result : AcceptResult) (expectedHost : Option String) :
    Option (Except Exception Bool × World) :=
  (w.live (.endpoint n)).bind fun s =>
    (Endpoint.accept ⟨s⟩ result expectedHost w.kernel).map fun (ret, e, k) =>
      (ret, ⟨Function.update w.live (.endpoint n) (some e.socket), k⟩)

def moveConstruct (w : World) (name other : Name) : Option (Except Exception Bool × World) :=
  if !name.sameClass other || (w.live name).isSome then none
  else
    (w.live other).map fun s =>
      let (s, left) := s.moveConstruct
      (.ok true, ⟨Function.update (Function.update w.live other (some left)) name (some s), w.kernel⟩)

def moveAssign (w : World) (name other : Name) : Option (Except Exception Bool × World) :=
  if !name.sameClass other then none
  else
    (w.live name).bind fun s =>
      (w.live other).map fun s' =>
        let (s, left) := s.moveAssign s'
        -- The other socket is reset before this one is written, so that they may be one object.
        (.ok true, ⟨Function.update (Function.update w.live other (some left)) name (some s), w.kernel⟩)

def destroy (w : World) (name : Name) : Option (Except Exception Bool × World) :=
  (w.live name).map fun s => (.ok true, ⟨Function.update w.live name none, s.destroy w.kernel⟩)

/-- What the operation returns, `true` where there is nothing to return, and the world behind it. There
is no outcome if an object is missing or its name in use, or if the system cannot give the results. -/
def step (w : World) : Op → Option (Except Exception Bool × World)
  | .socketDefault n => w.construct (.socket n) (some (.ok .new, w.kernel))
  | .socketOfType n type ret => w.construct (.socket n) (Socket.ofType type ret w.kernel)
  | .socketOfInfo n ret => w.construct (.socket n) (Socket.ofInfo ret w.kernel)
  | .socketAccept n listening result expectedHost => w.socketAccept n listening result expectedHost
  | .endpointOfType n type ret =>
    w.construct (.endpoint n)
      ((Endpoint.ofType type ret w.kernel).map fun (e, k) => (e.map Endpoint.socket, k))
  | .endpointOfHost n host service type lookup =>
    w.construct (.endpoint n)
      ((Endpoint.ofHost host service type lookup w.kernel).map fun (e, k) => (e.map Endpoint.socket, k))
  | .endpointAccept n result expectedHost => w.endpointAccept n result expectedHost
  | .moveConstruct name other => w.moveConstruct name other
  | .moveAssign name other => w.moveAssign name other
  | .destroy name => w.destroy name

def next (w : World) (op : Op) : Option World := (w.step op).map Prod.snd

def ExactlyOneHolder (w : World) : Prop :=
  ∀ id ∈ w.kernel.opened, ∃! name, ∃ s, w.live name = some s ∧ s.socketID = id

/-- `Endpoint::accept` returns true with a descriptor of the expected host, or false with the socket it had. -/
def AcceptContract (w : World) (op : Op) (ret : Except Exception Bool) (w' : World) : Prop :=
  match op with
  | .endpointAccept n result expectedHost =>
    ret = .ok true ∧ result.newSocketID ≠ socketError ∧ FromExpected result expectedHost ∧
        w'.live (.endpoint n) = some ⟨result.newSocketID⟩ ∨
      ret = .ok false ∧ w'.live (.endpoint n) = w.live (.endpoint n)
  | _ => True

/-- After the operation every open descriptor has one holder, none has been closed twice, and `accept`
has done as its contract says. -/
def Owns (w : World) (op : Op) : Prop :=
  ∀ ret w', w.step op = some (ret, w') →
    w'.ExactlyOneHolder ∧ w'.kernel.closedTwice = [] ∧ w.AcceptContract op ret w'

def holds (w : World) (name : Name) : Option SocketID := (w.live name).bind Socket.descriptor

/-- The operations that lose no descriptor: an assignment to an object that holds none, or to the object
itself; an accepted connection from the expected host, for an endpoint one that holds none; and for an
endpoint also a failure that the check of the host takes for a connection from another one. -/
def Guarded (w : World) : Op → Prop
  | .socketAccept _ _ result expectedHost =>
    result.newSocketID ≠ socketError → FromExpected result expectedHost
  | .endpointAccept n result expectedHost =>
    result.newSocketID ≠ socketError ∧ FromExpected result expectedHost ∧ w.holds (.endpoint n) = none ∨
      result.newSocketID = socketError ∧ ∃ host, expectedHost = some host ∧
        ∃ text, sockaddr2Str result.theirAddr = some text ∧ text ≠ host
  | .moveAssign name other => name = other ∨ w.holds name = none
  | _ => True

structure Sound (w : World) : Prop where
  exclusive : Exclusive w.holds w.kernel.opened
  valid : socketError ∉ w.kernel.opened
  notTwice : w.kernel.closedTwice = []

variable {w w' : World} {name other : Name} {op : Op} {ret : Except Exception Bool} {id : SocketID}

theorem holds_update (live : Name → Option Socket) (name : Name) (x : Option Socket) (k k' : Kernel) :
    holds ⟨Function.update live name x, k⟩ =
      Function.update (holds ⟨live, k'⟩) name (x.bind Socket.descriptor) := by
  funext n
  by_cases hn : n = name
  · subst hn
    simp only [holds, Function.update_self]
  · simp only [holds, Function.update_of_ne hn]

theorem holds_eq_some : w.holds name = some id ↔
    id ≠ socketError ∧ ∃ s, w.live name = some s ∧ s.socketID = id := by
  unfold holds
  cases hlive : w.live name with
  | none => exact iff_of_false nofun fun h => by obtain ⟨s, hs, -⟩ := h.2; cases hs
  | some s =>
    by_cases hs : s.socketID = socketError
    · refine iff_of_false ?_ ?_
      · rw [Option.bind_some, Socket.descriptor, if_pos hs]
        exact nofun
      · rintro ⟨hid, s', hs', rfl⟩
        cases hs'
        exact hid hs
    · rw [Option.bind_some, Socket.descriptor, if_neg hs]
      constructor
      · rintro h
        cases h
        exact ⟨hs, s, rfl, rfl⟩
      · rintro ⟨-, s', hs', rfl⟩
        cases hs'
        rfl

theorem exactlyOneHolder_iff (h : w.Sound) : w.ExactlyOneHolder ↔ Owned w.holds w.kernel.opened := by
  have hvalid : ∀ id ∈ w.kernel.opened, id ≠ socketError := fun id hid heq => h.valid (heq ▸ hid)
  constructor
  · intro hone
    refine ⟨h.exclusive, fun id hid => ?_⟩
    obtain ⟨name, hname, -⟩ := hone id hid
    exact ⟨name, holds_eq_some.mpr ⟨hvalid id hid, hname⟩⟩
  · intro howned id hid
    obtain ⟨name, hname⟩ := howned.held id hid
    refine ⟨name, (holds_eq_some.mp hname).2, fun other hother => ?_⟩
    exact h.exclusive.unique other name id (holds_eq_some.mpr ⟨hvalid id hid, hother⟩) hname

structure Opens (w : World) (id : SocketID) (w' : World) : Prop where
  valid : id ≠ socketError
  fresh : id ∉ w.kernel.opened
  kernel : w'.kernel = { w.kernel with opened := insert id w.kernel.opened }

/-- What a step can do to the holders, with what that means for the contract and the guard of the operation. -/
inductive Outcome (w : World) (op : Op) (ret : Except Exception Bool) (w' : World) : Prop
  | idle (hholds : w'.holds = w.holds) (hkernel : w'.kernel = w.kernel)
      (hguard : w.AcceptContract op ret w' ↔ w.Guarded op)
  | acquires {name : Name} {id : SocketID} (hopens : w.Opens id w')
      (hholds : w'.holds = Function.update w.holds name (some id)) (hcontract : w.AcceptContract op ret w')
      (hguard : w.Guarded op ↔ w.holds name = none)
  | loses {id : SocketID} (hopens : w.Opens id w') (hholds : w'.holds = w.holds) (hguard : ¬ w.Guarded op)
  | forgets {name : Name} (hholds : w'.holds = Function.update w.holds name none)
      (hkernel : w'.kernel = w.kernel) (hcontract : ¬ w.AcceptContract op ret w') (hguard : ¬ w.Guarded op)
  | moves {name other : Name} (hholds : w'.holds = move w.holds other name)
      (hkernel : w'.kernel = w.kernel) (hcontract : w.AcceptContract op ret w')
      (hguard : w.Guarded op ↔ name = other ∨ w.holds name = none)
  | releases {name : Name} {id : SocketID} (hheld : w.holds name = some id)
      (hholds : w'.holds = Function.update w.holds name none)
      (hkernel : w'.kernel = { w.kernel with opened := w.kernel.opened.erase id })
      (hcontract : w.AcceptContract op ret w') (hguard : w.Guarded op)

theorem Sound.of_kernel (hw : w.Sound) (hkernel : w'.kernel = w.kernel)
    (hexclusive : Exclusive w'.holds w.kernel.opened) : w'.Sound := by
  constructor
  · rwa [hkernel]
  · rw [hkernel]
    exact hw.valid
  · rw [hkernel, hw.notTwice]

theorem Sound.of_opens (hw : w.Sound) (hopens : w.Opens id w')
    (hexclusive : Exclusive w'.holds (insert id w.kernel.opened)) : w'.Sound := by
  constructor
  · rwa [hopens.kernel]
  · rw [hopens.kernel, Finset.mem_insert, not_or]
    exact ⟨hopens.valid.symm, hw.valid⟩
  · rw [hopens.kernel, hw.notTwice]

theorem Outcome.sound (h : w.Outcome op ret w') (hw : w.Sound) : w'.Sound := by
  cases h with
  | idle hholds hkernel =>
    apply hw.of_kernel hkernel
    rw [hholds]
    exact hw.exclusive
  | acquires hopens hholds =>
    apply hw.of_opens hopens
    rw [hholds]
    exact hw.exclusive.acquire _ hopens.fresh
  | loses hopens hholds =>
    apply hw.of_opens hopens
    rw [hholds]
    exact hw.exclusive.lose _
  | forgets hholds hkernel =>
    apply hw.of_kernel hkernel
    rw [hholds]
    exact hw.exclusive.forget _
  | moves hholds hkernel =>
    apply hw.of_kernel hkernel
    rw [hholds]
    exact hw.exclusive.move _ _
  | releases hheld hholds hkernel =>
    refine ⟨?_, ?_, by rw [hkernel, hw.notTwice]⟩
    · rw [hholds, hkernel]
      exact hw.exclusive.release hheld
    · rw [hkernel]
      exact fun hmem => hw.valid (Finset.mem_of_mem_erase hmem)

theorem Outcome.owned_iff (h : w.Outcome op ret w') (hw : Owned w.holds w.kernel.opened) :
    Owned w'.holds w'.kernel.opened ∧ w.AcceptContract op ret w' ↔ w.Guarded op := by
  cases h with
  | idle hholds hkernel hguard =>
    rw [hholds, hkernel, and_iff_right hw]
    exact hguard
  | acquires hopens hholds hcontract hguard =>
    rw [hholds, hopens.kernel, and_iff_left hcontract, hguard]
    exact hw.acquire_iff hopens.fresh
  | loses hopens hholds hguard =>
    rw [hholds, hopens.kernel]
    exact iff_of_false (fun h => hw.toExclusive.not_owned_lose hopens.fresh h.1) hguard
  | forgets hholds hkernel hcontract hguard => exact iff_of_false (fun h => hcontract h.2) hguard
  | moves hholds hkernel hcontract hguard =>
    rw [hholds, hkernel, and_iff_left hcontract, hguard]
    exact hw.move_iff
  | releases hheld hholds hkernel hcontract hguard =>
    rw [hholds, hkernel]
    exact iff_of_true ⟨hw.release hheld, hcontract⟩ hguard

theorem holds_none (h : w.live name = none) : w.holds name = none := by
  rw [holds, h, Option.bind_none]

theorem holds_forget (h : w.holds name = none) : Function.update w.holds name none = w.holds :=
  Function.update_eq_self_iff.mpr h.symm

theorem holds_place_fresh (w : World) (name : Name) (k : Kernel) (hid : id ≠ socketError) :
    (w.place name (.ok ⟨id⟩, k)).2.holds = Function.update w.holds name (some id) := by
  rw [place, holds_update w.live name _ _ w.kernel, Option.bind_some, Socket.descriptor, if_neg hid]

theorem holds_place_empty (w : World) (name : Name) (k : Kernel) :
    (w.place name (.ok ⟨socketError⟩, k)).2.holds = Function.update w.holds name none := by
  rw [place, holds_update w.live name _ _ w.kernel, Option.bind_some, Socket.descriptor, if_pos rfl]

theorem construct_outcome {outcome : Option (Except Exception Socket × Kernel)}
    (hc : ∀ r k, outcome = some (r, k) → Constructs w.kernel r k)
    (h : w.construct name outcome = some (ret, w')) (hcontract : w.AcceptContract op ret w')
    (hguard : w.Guarded op) : w.Outcome op ret w' := by
  unfold construct at h
  split at h
  · cases h
  · rename_i hlive
    have hnone := holds_none (Option.not_isSome_iff_eq_none.mp hlive)
    obtain ⟨⟨r, k⟩, houtcome, hplace⟩ := Option.map_eq_some_iff.mp h
    have hconstructs := hc r k houtcome
    cases hconstructs with
    | throws e =>
      cases hplace
      exact .idle rfl rfl (iff_of_true hcontract hguard)
    | empty =>
      cases hplace
      refine .idle ?_ rfl (iff_of_true hcontract hguard)
      exact (holds_place_empty w name w.kernel).trans (holds_forget hnone)
    | fresh hid hfresh =>
      cases hplace
      exact .acquires ⟨hid, hfresh, rfl⟩ (holds_place_fresh w name _ hid) hcontract (iff_of_true hguard hnone)

theorem endpoint_constructs {outcome : Option (Except Exception Endpoint × Kernel)}
    (hc : ∀ r k, outcome = some (r, k) → Constructs w.kernel (r.map Endpoint.socket) k)
    (r : Except Exception Socket) (k : Kernel)
    (h : (outcome.map fun (e, k) => (e.map Endpoint.socket, k)) = some (r, k)) : Constructs w.kernel r k := by
  obtain ⟨⟨e, k'⟩, houtcome, heq⟩ := Option.map_eq_some_iff.mp h
  cases heq
  exact hc e _ houtcome

theorem obtain_cases {ret : SocketID} {k : Kernel} (h : w.kernel.obtain ret = some k) :
    ret = socketError ∧ k = w.kernel ∨ ret ≠ socketError ∧ ∀ live, w.Opens ret ⟨live, k⟩ := by
  rcases Kernel.obtain_eq_some.mp h with ⟨hret, hk⟩ | ⟨hret, hfresh, hk⟩
  · exact .inl ⟨hret, hk⟩
  · exact .inr ⟨hret, fun _ => ⟨hret, hfresh, hk⟩⟩

section Accept

variable {n listening : ℕ} {result : AcceptResult} {expectedHost : Option String} {k : Kernel}

theorem not_fromExpected {host : String}
    (h : sockaddr2Str result.theirAddr = none ∨ ∃ text, sockaddr2Str result.theirAddr = some text ∧ text ≠ host) :
    ¬ FromExpected result (some host) := by
  intro hfrom
  have hhost := hfrom host rfl
  rcases h with hnone | ⟨text, htext, hne⟩
  · rw [hnone] at hhost
    cases hhost
  · rw [htext] at hhost
    exact hne (Option.some.inj hhost)

theorem socketAccept_outcome (h : w.socketAccept n listening result expectedHost = some (ret, w')) :
    w.Outcome (.socketAccept n listening result expectedHost) ret w' := by
  unfold socketAccept at h
  split at h
  · cases h
  · rename_i hlive
    simp only [Bool.or_eq_true, not_or, Option.not_isSome_iff_eq_none] at hlive
    have hnone := holds_none hlive.2
    cases hk : w.kernel.obtain result.newSocketID with
    | none =>
      rw [Socket.accept, hk] at h
      cases h
    | some k =>
      rw [Socket.accept, hk, Option.map_some] at h
      have hobtain := obtain_cases hk
      rcases host_cases result expectedHost with hfrom | ⟨host, rfl, hother⟩
      · rw [checkHost_expected hfrom] at h
        obtain rfl := congrArg Prod.snd (Option.some.inj h)
        rcases hobtain with ⟨hret, rfl⟩ | ⟨hret, hopens⟩
        · rw [hret]
          refine .idle ?_ rfl (iff_of_true trivial fun _ => hfrom)
          exact (holds_place_empty w _ w.kernel).trans (holds_forget hnone)
        · exact .acquires (hopens _) (holds_place_fresh w _ k hret) trivial (iff_of_true (fun _ => hfrom) hnone)
      · have hunexpected := not_fromExpected hother
        have hlive' : w' = ⟨w.live, k⟩ := by
          rcases hother with hunknown | ⟨text, htext, hne⟩
          · rw [checkHost_unknown hunknown] at h
            cases h
            rfl
          · rw [checkHost_other htext hne] at h
            cases h
            rfl
        subst hlive'
        rcases hobtain with ⟨hret, rfl⟩ | ⟨hret, hopens⟩
        · exact .idle rfl rfl (iff_of_true trivial fun hok => absurd hret hok)
        · exact .loses (hopens _) rfl fun hguard => hunexpected (hguard hret)

theorem guarded_expected (hfrom : FromExpected result expectedHost) :
    w.Guarded (.endpointAccept n result expectedHost) ↔
      result.newSocketID ≠ socketError ∧ w.holds (.endpoint n) = none := by
  constructor
  · rintro (⟨hret, -, hnone⟩ | ⟨-, host, rfl, hother⟩)
    · exact ⟨hret, hnone⟩
    · exact absurd hfrom (not_fromExpected (.inr hother))
  · rintro ⟨hret, hnone⟩
    exact .inl ⟨hret, hfrom, hnone⟩

theorem not_guarded_unexpected (hunexpected : ¬ FromExpected result expectedHost)
    (hret : result.newSocketID ≠ socketError) : ¬ w.Guarded (.endpointAccept n result expectedHost) := by
  rintro (⟨-, hfrom, -⟩ | ⟨herror, -⟩)
  · exact hunexpected hfrom
  · exact hret herror

theorem endpointAccept_outcome (h : w.endpointAccept n result expectedHost = some (ret, w')) :
    w.Outcome (.endpointAccept n result expectedHost) ret w' := by
  obtain ⟨s, hlive, hstep⟩ := Option.bind_eq_some_iff.mp h
  obtain ⟨⟨ret', e, k'⟩, haccept, heq⟩ := Option.map_eq_some_iff.mp hstep
  have hsame : Function.update w.live (.endpoint n) (some s) = w.live := by
    rw [← hlive, Function.update_eq_self]
  cases hk : w.kernel.obtain result.newSocketID with
  | none =>
    rw [Endpoint.accept_impossible hk] at haccept
    cases haccept
  | some k =>
    have hobtain := obtain_cases hk
    rcases host_cases result expectedHost with hfrom | ⟨host, rfl, hother⟩
    · rw [Endpoint.accept_expected hk hfrom] at haccept
      cases haccept
      cases heq
      have hguard := guarded_expected (w := w) (n := n) hfrom
      rcases hobtain with ⟨hret, rfl⟩ | ⟨hret, hopens⟩
      · have hholds : holds ⟨Function.update w.live (.endpoint n) (some ⟨result.newSocketID⟩), w.kernel⟩ =
            Function.update w.holds (.endpoint n) none := by
          rw [hret]
          exact holds_place_empty w (.endpoint n) w.kernel
        refine .forgets hholds rfl ?_ fun hok => (hguard.mp hok).1 hret
        · rintro (⟨-, hok, -⟩ | ⟨hfalse, -⟩)
          · exact hok hret
          · cases hfalse
      · refine .acquires (hopens _) (holds_place_fresh w (.endpoint n) _ hret) ?_ ?_
        · exact .inl ⟨rfl, hret, hfrom, Function.update_self _ _ _⟩
        · rw [hguard, and_iff_right hret]
    · have hunexpected := not_fromExpected hother
      rcases hother with hunknown | ⟨text, htext, hne⟩
      · rw [Endpoint.accept_unknown hk hunknown] at haccept
        cases haccept
        cases heq
        rw [hsame]
        rcases hobtain with ⟨hret, rfl⟩ | ⟨hret, hopens⟩
        · refine .idle rfl rfl (iff_of_false ?_ ?_)
          · rintro (⟨htrue, -⟩ | ⟨hfalse, -⟩)
            · cases htrue
            · cases hfalse
          · rintro (⟨-, hfrom, -⟩ | ⟨-, host', -, text, htext, -⟩)
            · exact hunexpected hfrom
            · rw [hunknown] at htext
              cases htext
        · exact .loses (hopens _) rfl (not_guarded_unexpected hunexpected hret)
      · rw [Endpoint.accept_other hk htext hne] at haccept
        cases haccept
        cases heq
        rw [hsame]
        rcases hobtain with ⟨hret, rfl⟩ | ⟨hret, hopens⟩
        · exact .idle rfl rfl (iff_of_true (.inr ⟨rfl, rfl⟩) (.inr ⟨hret, host, rfl, text, htext, hne⟩))
        · exact .loses (hopens _) rfl (not_guarded_unexpected hunexpected hret)

end Accept

theorem holds_live {s : Socket} (h : w.live name = some s) : w.holds name = s.descriptor := by
  rw [holds, h, Option.bind_some]

theorem holds_moved {s : Socket} (h : w.live other = some s) :
    holds ⟨Function.update (Function.update w.live other (some ⟨socketError⟩)) name
      (some ⟨s.socketID⟩), w.kernel⟩ = move w.holds other name := by
  have hleft : (some (Socket.mk socketError)).bind Socket.descriptor = none := by
    rw [Option.bind_some, Socket.descriptor, if_pos rfl]
  rw [holds_update _ name _ _ w.kernel, holds_update w.live other _ _ w.kernel, hleft, move, holds_live h]
  rfl

theorem moveConstruct_outcome (h : w.moveConstruct name other = some (ret, w')) :
    w.Outcome (.moveConstruct name other) ret w' := by
  unfold moveConstruct at h
  split at h
  · cases h
  · rename_i hlive
    simp only [Bool.or_eq_true, not_or, Option.not_isSome_iff_eq_none] at hlive
    obtain ⟨s, hs, heq⟩ := Option.map_eq_some_iff.mp h
    cases heq
    exact .moves (holds_moved hs) rfl trivial (iff_of_true trivial (.inr (holds_none hlive.2)))

theorem moveAssign_outcome (h : w.moveAssign name other = some (ret, w')) :
    w.Outcome (.moveAssign name other) ret w' := by
  unfold moveAssign at h
  split at h
  · cases h
  · obtain ⟨s, hs, hstep⟩ := Option.bind_eq_some_iff.mp h
    obtain ⟨s', hs', heq⟩ := Option.map_eq_some_iff.mp hstep
    cases heq
    exact .moves (holds_moved hs') rfl trivial Iff.rfl

theorem destroy_outcome (hw : w.Sound) (h : w.destroy name = some (ret, w')) :
    w.Outcome (.destroy name) ret w' := by
  obtain ⟨s, hs, heq⟩ := Option.map_eq_some_iff.mp h
  cases heq
  have hholds : holds ⟨Function.update w.live name none, s.destroy w.kernel⟩ =
      Function.update w.holds name none := holds_update w.live name none _ w.kernel
  by_cases herror : s.socketID = socketError
  · have hnone : w.holds name = none := (holds_live hs).trans (if_pos herror)
    refine .idle (hholds.trans (holds_forget hnone)) ?_ (iff_of_true trivial trivial)
    exact if_neg (not_not.mpr herror)
  · have hheld : w.holds name = some s.socketID := (holds_live hs).trans (if_neg herror)
    refine .releases hheld hholds ?_ trivial trivial
    exact (if_pos herror).trans (Kernel.close_open (hw.exclusive.held_open name _ hheld))

theorem step_outcome (hw : w.Sound) (h : w.step op = some (ret, w')) : w.Outcome op ret w' := by
  cases op with
  | socketDefault n =>
    refine construct_outcome (fun r k hr => ?_) h trivial trivial
    cases hr
    exact .empty
  | socketOfType n type id => exact construct_outcome (fun _ _ => ofType_constructs) h trivial trivial
  | socketOfInfo n id => exact construct_outcome (fun _ _ => ofResult_constructs) h trivial trivial
  | socketAccept n listening result expectedHost => exact socketAccept_outcome h
  | endpointOfType n type id =>
    exact construct_outcome (endpoint_constructs fun _ _ => Endpoint.ofType_constructs) h trivial trivial
  | endpointOfHost n host service type lookup =>
    exact construct_outcome (endpoint_constructs fun _ _ => Endpoint.ofHost_constructs) h trivial trivial
  | endpointAccept n result expectedHost => exact endpointAccept_outcome h
  | moveConstruct name other => exact moveConstruct_outcome h
  | moveAssign name other => exact moveAssign_outcome h
  | destroy name => exact destroy_outcome hw h

theorem new_sound : new.Sound where
  exclusive := ⟨nofun, nofun⟩
  valid := Finset.notMem_empty _
  notTwice := rfl

theorem new_owned : Owned new.holds new.kernel.opened where
  toExclusive := new_sound.exclusive
  held id hid := absurd hid (Finset.notMem_empty id)

theorem owns_iff (hw : w.Sound) (howned : Owned w.holds w.kernel.opened) (hop : (w.step op).isSome) :
    w.Owns op ↔ w.Guarded op := by
  obtain ⟨⟨ret, w'⟩, hstep⟩ := Option.isSome_iff_exists.mp hop
  have houtcome := step_outcome hw hstep
  have hw' := houtcome.sound hw
  rw [← houtcome.owned_iff howned, ← exactlyOneHolder_iff hw']
  constructor
  · intro h
    obtain ⟨hone, -, hcontract⟩ := h ret w' hstep
    exact ⟨hone, hcontract⟩
  · rintro ⟨hone, hcontract⟩ ret₁ w₁ hstep₁
    cases hstep.symm.trans hstep₁
    exact ⟨hone, hw'.notTwice, hcontract⟩

theorem sound_of_replay {ops : List Op} (h : Runs.replay next new ops = some w) : w.Sound := by
  apply (Runs.reaches_of_replay (Runs.alongRun_true new ops) h).invariant new_sound
  intro w op w' hw _ hnext
  obtain ⟨⟨ret, w₁⟩, hstep, rfl⟩ := Option.map_eq_some_iff.mp hnext
  exact (step_outcome hw hstep).sound hw

/-- In a run every descriptor has one holder throughout, none is closed twice and `accept` keeps its
contract, if and only if each operation of the run is guarded. -/
theorem descriptors_owned_iff (ops : List Op)
    (hops : Runs.AlongRun next (fun w op => (w.step op).isSome) new ops) :
    Runs.AlongRun next Owns new ops ↔ Runs.AlongRun next Guarded new ops := by
  refine Runs.alongRun_congr (I := fun w => w.Sound ∧ Owned w.holds w.kernel.opened) ?_ ?_
    ⟨new_sound, new_owned⟩ hops
  · intro w op hw hop
    exact owns_iff hw.1 hw.2 hop
  · intro w op w' hw _ hguard hnext
    obtain ⟨⟨ret, w₁⟩, hstep, rfl⟩ := Option.map_eq_some_iff.mp hnext
    have houtcome := step_outcome hw.1 hstep
    exact ⟨houtcome.sound hw.1, ((houtcome.owned_iff hw.2).mpr hguard).1⟩

theorem descriptors_owned_iff_run : Runs.AlongRun next Owns new
    [.endpointOfHost 0 "127.0.0.1" "65534" .tcp (.ok [⟨3, 0, -1⟩, ⟨3, 0, 0⟩]),
      .moveConstruct (.endpoint 1) (.endpoint 0), .destroy (.endpoint 0), .destroy (.endpoint 1)] := by
  apply (descriptors_owned_iff _ ?_).mpr
  · exact ⟨trivial, fun _ _ => ⟨trivial, fun _ _ => ⟨trivial, fun _ _ => ⟨trivial, fun _ _ => trivial⟩⟩⟩⟩
  · refine ⟨rfl, fun w hw => ?_⟩
    cases hw
    refine ⟨rfl, fun w hw => ?_⟩
    cases hw
    refine ⟨rfl, fun w hw => ?_⟩
    cases hw
    exact ⟨rfl, fun _ _ => trivial⟩

def bound : World := ⟨Function.update new.live (.endpoint 0) (some ⟨3⟩), ⟨insert 3 ∅, []⟩⟩

theorem accepted_connection_leaks_listener : ¬ Runs.AlongRun next Owns new
    [.endpointOfHost 0 "127.0.0.1" "65534" .tcp (.ok [⟨3, 0, 0⟩]),
      .endpointAccept 0 ⟨4, .inet, "127.0.0.1"⟩ none] := by
  intro h
  have hbound : new.step (.endpointOfHost 0 "127.0.0.1" "65534" .tcp (.ok [⟨3, 0, 0⟩])) =
      some (.ok true, bound) := rfl
  have houtcome := step_outcome new_sound hbound
  have howned := ((houtcome.owned_iff new_owned).mpr trivial).1
  have haccept := (h.2 bound rfl).1
  rw [owns_iff (houtcome.sound new_sound) howned rfl] at haccept
  rcases haccept with ⟨-, -, hnone⟩ | ⟨herror, -⟩
  · cases hnone
  · cases herror

end World

end ArqBenchmark.Util
