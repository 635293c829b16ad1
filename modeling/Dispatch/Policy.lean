import Dispatch.Workflow.Task

/-!
Placement policies: a policy chooses the unit of each task and keeps the number of tasks that are
assigned to each unit and not yet released.
-/

namespace Dispatch

inductive PolicyError where
  | noUnits
  deriving DecidableEq

def PolicyError.message : PolicyError → String
  | .noUnits => "execution unit pool is empty"

inductive ReleaseFault where
  | zeroLoad (unit : UnitId)
  | unknownUnit (unit : UnitId)
  deriving DecidableEq

namespace ReleaseFault

def message : ReleaseFault → String
  | .zeroLoad u => s!"release of unit {u} with zero load is ignored"
  | .unknownUnit u => s!"release of unknown unit {u} is ignored"

end ReleaseFault

structure Loads where
  counts : Array Nat
  deriving DecidableEq, Inhabited

namespace Loads

def ofSize (n : Nat) : Loads := ⟨Array.replicate n 0⟩

def size (t : Loads) : Nat := t.counts.size

def isEmpty (t : Loads) : Bool := t.counts.isEmpty

def get? (t : Loads) (u : UnitId) : Option Nat := t.counts[u]?

def charge (t : Loads) (u : UnitId) : Loads := ⟨t.counts.modify u (· + 1)⟩

def release (t : Loads) (u : UnitId) : Loads × Option ReleaseFault :=
  match t.get? u with
  | none => (t, some (.unknownUnit u))
  | some 0 => (t, some (.zeroLoad u))
  | some _ => (⟨t.counts.modify u (· - 1)⟩, none)

def lighter (t : Loads) : Option UnitId → UnitId → UnitId
  | none, u => u
  | some b, u => if t.counts.getD u 0 < t.counts.getD b 0 then u else b

def lightest? (t : Loads) : Option UnitId :=
  (List.range t.size).foldl (fun best u => some (t.lighter best u)) none

@[simp] theorem size_ofSize (n : Nat) : (ofSize n).size = n := by
  simp [ofSize, size]

@[simp] theorem size_charge (t : Loads) (u : UnitId) : (t.charge u).size = t.size := by
  simp [charge, size]

theorem get?_charge (t : Loads) (u v : UnitId) :
    (t.charge u).get? v = if u = v then (t.get? v).map (· + 1) else t.get? v := by
  simp [charge, get?, Array.getElem?_modify]

end Loads

class Policy (σ τ : Type) where
  choose : σ → Task τ → Except PolicyError UnitId × σ
  release : σ → UnitId → σ × Option ReleaseFault
  loads : σ → Array Nat
  size : σ → Nat
  name : σ → String := fun _ => "STUB PLACEMENT POLICY NAME"

structure LeastLoaded where
  loads : Loads
  deriving DecidableEq, Inhabited

structure RoundRobin where
  loads : Loads
  next : UnitId := 0
  deriving DecidableEq, Inhabited

instance (τ : Type) : Policy LeastLoaded τ where
  choose p _ :=
    match p.loads.lightest? with
    | none => (.error .noUnits, p)
    | some u => (.ok u, ⟨p.loads.charge u⟩)
  release p u := let (t, fault) := p.loads.release u; (⟨t⟩, fault)
  loads p := p.loads.counts
  size p := p.loads.size
  name _ := "LeastLoaded"

instance (τ : Type) : Policy RoundRobin τ where
  choose p _ :=
    if p.loads.isEmpty then (.error .noUnits, p)
    else (.ok p.next, ⟨p.loads.charge p.next, (p.next + 1) % p.loads.size⟩)
  release p u := let (t, fault) := p.loads.release u; ({ p with loads := t }, fault)
  loads p := p.loads.counts
  size p := p.loads.size
  name _ := "RoundRobin"

inductive NamedPolicy where
  | leastLoaded (p : LeastLoaded)
  | roundRobin (p : RoundRobin)
  deriving DecidableEq

namespace NamedPolicy

def ofName? (name : String) (units : Nat) : Option NamedPolicy :=
  if name = "LeastLoaded" then some (.leastLoaded ⟨.ofSize units⟩)
  else if name = "RoundRobin" then some (.roundRobin ⟨.ofSize units, 0⟩)
  else none

end NamedPolicy

instance (τ : Type) : Policy NamedPolicy τ where
  choose
    | .leastLoaded p, t => (Policy.choose p t).map id .leastLoaded
    | .roundRobin p, t => (Policy.choose p t).map id .roundRobin
  release
    | .leastLoaded p, u => (Policy.release τ p u).map .leastLoaded id
    | .roundRobin p, u => (Policy.release τ p u).map .roundRobin id
  loads
    | .leastLoaded p => Policy.loads τ p
    | .roundRobin p => Policy.loads τ p
  size
    | .leastLoaded p => Policy.size τ p
    | .roundRobin p => Policy.size τ p
  name
    | .leastLoaded p => Policy.name τ p
    | .roundRobin p => Policy.name τ p

end Dispatch
