import Mathlib.Data.List.Basic

/-! # Paths, addresses and what the selectors ask of the path statistics

The data of `pkg/pan` that the selectors, the reply cache and the connections read: a `Path`
with its fingerprint, its hop interfaces and its forwarding path, the endpoint addresses, and the
FABRID records a path is wrapped with. The path statistics (`stats`) are not under src/; a
selector sees them only through the answers of `FirstMoreAlive` and `LowestLatency`, so `Stats` is
those answers at the moment of a call, with the range the spec gives them.

Slices are lists. An index out of range is Go's run-time panic, and is `none` wherever the code
can reach it. -/

namespace ScionPan

/-- `IA`, an ISD-AS number. -/
abbrev IA := UInt64

/-- `IfID`, an interface number. -/
abbrev IfID := UInt64

/-- `PathFingerprint`: comparable, and equal for two paths with the same hop sequence. -/
abbrev PathFingerprint := String

structure PathInterface where
  ia : IA
  ifID : IfID
  deriving DecidableEq, Repr, Inhabited

/-- The policy a FABRID client asks every hop to apply (`snet.FabridPolicyIdentifier`). -/
structure FabridPolicyIdentifier where
  policyType : Nat
  identifier : Nat
  index : Nat
  deriving DecidableEq, Repr, Inhabited

/-- `snet.FabridPolicyPerHop`: one AS on the path, with the interfaces it is entered and left by
as 16-bit numbers (0 where there is none). -/
structure FabridPolicyPerHop where
  pol : FabridPolicyIdentifier
  ia : IA
  ingress : UInt16
  egress : UInt16
  deriving DecidableEq, Repr, Inhabited

/-- The FABRID state `fabrid.Client.NewFabridPathState` creates for one path: it belongs to the
client it was created by. -/
structure FabridPathState where
  client : Nat
  fingerprint : PathFingerprint
  deriving DecidableEq, Repr, Inhabited

/-- The endpoints a FABRID path is set up between (`snetpath.FabridConfig`). -/
structure FabridConfig where
  localIA : IA
  localAddr : Nat
  destinationIA : IA
  destinationAddr : Nat
  deriving DecidableEq, Repr, Inhabited

/-- The dataplane paths a `ForwardingPath` holds. -/
inductive DataplanePath where
  /-- `snet.RawPath`, the path of a received packet. -/
  | raw (raw : List UInt8)
  /-- `snetpath.SCION`, a path from the daemon. -/
  | scion (raw : List UInt8)
  /-- A FABRID dataplane path, as `snetpath.NewFABRIDDataplanePath` builds it from a SCION path,
  its interfaces, hop policies, endpoints and path state, with the control service it fetches
  DRKeys from once `RegisterDRKeyFetcher` ran. -/
  | fabrid (raw : List UInt8) (interfaces : List PathInterface) (hops : List FabridPolicyPerHop)
      (config : FabridConfig) (state : FabridPathState) (drkeyService : Option String)
  /-- `snetpath.Empty`, the path of AS-local traffic. -/
  | empty
  deriving DecidableEq, Repr, Inhabited

structure ForwardingPath where
  dataplanePath : DataplanePath
  underlay : Nat
  deriving DecidableEq, Repr, Inhabited

structure PathMetadata where
  interfaces : List PathInterface
  deriving DecidableEq, Repr, Inhabited

/-- `Path`, with the fields the modelled functions read. -/
structure Path where
  fingerprint : PathFingerprint
  forwardingPath : ForwardingPath
  metadata : PathMetadata
  deriving DecidableEq, Repr, Inhabited

/-- `scionAddr`: an ISD-AS and a host IP. -/
structure ScionAddr where
  ia : IA
  ip : Nat
  deriving DecidableEq, Repr, Inhabited

structure UDPAddr where
  ia : IA
  ip : Nat
  port : UInt16
  deriving DecidableEq, Repr, Inhabited

/-- A path with fingerprint `fp` and nothing else set. -/
def pathWith (fp : PathFingerprint) : Path := { (default : Path) with fingerprint := fp }

def UDPAddr.scionAddr (a : UDPAddr) : ScionAddr := ⟨a.ia, a.ip⟩

/-- Modelled from the spec: `isInterfaceOnPath` is not under src/. A path is affected by a down
notification for `pi` when one of its hops is `pi`. -/
def isInterfaceOnPath (p : Path) (pi : PathInterface) : Bool :=
  p.metadata.interfaces.contains pi

/-- The answers of the path statistics at the moment a selector asks: `FirstMoreAlive(p, paths)`
is `-1` or an index of `paths`, `LowestLatency(remote, paths)` an index of a non-empty `paths`. -/
structure Stats where
  firstMoreAlive : Path → List Path → Int
  lowestLatency : ScionAddr → List Path → Int
  firstMoreAlive_range : ∀ p paths,
    firstMoreAlive p paths = -1 ∨ (0 ≤ firstMoreAlive p paths ∧ firstMoreAlive p paths < paths.length)
  lowestLatency_range : ∀ remote paths, paths ≠ [] →
    0 ≤ lowestLatency remote paths ∧ lowestLatency remote paths < paths.length

/-- What the services `FabridSelector.Initialize` calls answer: whether `NewFABRIDDataplanePath`
fails, the control-service addresses the daemon's `SVCInfo` lists (`none` for its error), and
whether resolving and dialling the first of them fail. -/
structure FabridHost where
  fabridPathErr : Bool
  svcInfo : Option (List String)
  resolveErr : Bool
  dialErr : Bool
  deriving DecidableEq, Repr, Inhabited

/-- A call a connection makes on its `Selector`, with what the outside answers during it: the
services for `Initialize` (which only `FabridSelector` calls) and the statistics for `PathDown`.
The lists are what the connection passes: path values, or `*Path` addresses. -/
inductive SelectorOp (α : Type) where
  | Initialize (host : FabridHost) (localAddr remoteAddr : UDPAddr) (paths : List α)
  | refresh (paths : List α)
  | pathDown (stats : Stats) (pf : PathFingerprint) (pi : PathInterface)

/-- The call with every path passed through `f`. -/
def SelectorOp.map {α β : Type} (f : α → β) : SelectorOp α → SelectorOp β
  | .Initialize host localAddr remoteAddr paths => .Initialize host localAddr remoteAddr (paths.map f)
  | .refresh paths => .refresh (paths.map f)
  | .pathDown stats pf pi => .pathDown stats pf pi

/-- A run of calls, on one selector or on the selectors of a process, `none` from the first call
that panics on. -/
def runOps {σ ω : Type} (step : σ → ω → Option σ) : σ → List ω → Option σ
  | s, [] => some s
  | s, op :: ops => (step s op).bind fun s' => runOps step s' ops

/-- What every call keeps holds of every state a run reaches. -/
theorem runOps_inv {σ ω : Type} {step : σ → ω → Option σ} (I : σ → Prop)
    (hstep : ∀ s op s', I s → step s op = some s' → I s') :
    ∀ ops s s', I s → runOps step s ops = some s' → I s'
  | [], s, s', hs, h => by cases h; exact hs
  | op :: ops, s, s', hs, h => by
    simp only [runOps, Option.bind_eq_some] at h
    obtain ⟨t, ht, h⟩ := h
    exact runOps_inv I hstep ops t s' (hstep s op t hs ht) h

/-- A run of `xs ++ ys` is the run of `xs`, then the run of `ys` from where it ended. -/
theorem runOps_append {σ ω : Type} (step : σ → ω → Option σ) :
    ∀ (xs ys : List ω) (s : σ),
      runOps step s (xs ++ ys) = (runOps step s xs).bind fun s' => runOps step s' ys
  | [], _, _ => rfl
  | x :: xs, ys, s => by
    simp only [List.cons_append, runOps, Option.bind_assoc, List.append_eq, runOps_append step xs ys]

/-! ## Slices -/

/-- `s[i] = a`; `none` is the index-out-of-range panic. -/
def setAt? {α : Type} (s : List α) (i : Nat) (a : α) : Option (List α) :=
  if i < s.length then some (s.set i a) else none

/-- `copy(s[dst:dst+n], s[src:src+n])` within one slice. Go's `copy` reads its whole source before
it writes, so overlapping ranges move as with memmove. -/
def copyWithin {α : Type} (s : List α) (dst src n : Nat) : List α :=
  s.mapIdx fun j a => if dst ≤ j ∧ j < dst + n then s.getD (src + (j - dst)) a else a

/-- `s[:n]`, which panics unless `0 ≤ n ≤ len(s)` (a slice the code builds has its length as
capacity). -/
def sliceTo? {α : Type} (s : List α) (n : Int) : Option (List α) :=
  if 0 ≤ n ∧ n ≤ s.length then some (s.take n.toNat) else none

@[simp] theorem setAt?_of_lt {α : Type} {s : List α} {i : Nat} (a : α) (h : i < s.length) :
    setAt? s i a = some (s.set i a) := if_pos h

@[simp] theorem length_copyWithin {α : Type} (s : List α) (dst src n : Nat) :
    (copyWithin s dst src n).length = s.length := List.length_mapIdx

end ScionPan
