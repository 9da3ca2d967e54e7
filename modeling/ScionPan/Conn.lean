import ScionPan.ReplySelector
import ScionPan.Selector.Fabrid
import ScionPan.Selector.Pinging

/-! # The connections: reading FABRID traffic, writing over a selector

`fabridListenConn.ReadFromVia` (udp_listen.go) reads a packet, records its reversed path with the
reply selector, and scans the packet's extension headers: an Identifier option is parsed against
the timestamp of the first info field of the packet's path, a FABRID option with a hop count
computed from its length, FabridControl options against the identifier; a packet with both a
FABRID and an Identifier option goes to the FABRID server, whose reply goes out over the reply
selector's path. `fabridDialedConn.Read` (udp_dial.go) reads until a packet from its remote
arrives and hands every FabridControl option, with the fingerprint of the packet's reversed path,
to the FABRID client.

Reading packets, parsing options, decoding paths and the FABRID services are not under src/:
`FabridEnv` is what they answer. A read returns Go's `(n, ..., err)`, or faults (`none`): an index
out of range, a failed type assertion, or a nil pointer dereference.

Every packet `ReadFromVia` returns has had its reversed path recorded, so replies to its sender go
over that path (`read_sets_reply_path`). `ReadFromVia` faults only on an Identifier option
(`read_total_without_identifier`), and there on some paths (`fabrid_reads_fault`). `Read` skips
the packets of other remotes (`dialed_read_returns_remote_packet`), and faults on a control option
when the reversed path is nil.

`dialedConn.Write` (udp_dial.go) sends across ASes over the selector's `Path()`. On every state
the selectors' runs reach, it reports a missing path as `errNoPathTo` and never panics
(`write_reports_no_path`). -/

namespace ScionPan

/-- The option types the readers tell apart (`slayers.OptType*`). -/
inductive OptType where
  | identifier
  | fabrid
  | fabridControl
  | other (t : UInt8)
  deriving DecidableEq, Repr

/-- A hop-by-hop or end-to-end option. -/
structure PacketOption where
  optType : OptType
  optDataLen : UInt8
  optData : List UInt8
  deriving DecidableEq, Repr

/-- What `baseUDPConn.readMsg` returns for a packet it read: the payload length, the source,
the forwarding path and the two extension headers (`nil` is `none`). -/
structure InboundPacket where
  n : Nat
  remote : UDPAddr
  fwPath : ForwardingPath
  hbhExt : Option (List PacketOption)
  e2eExt : Option (List PacketOption)
  deriving DecidableEq, Repr

/-- What `readMsg` returns: a packet, or the payload length and an error. -/
abbrev ReadMsg := Except (Nat × String) InboundPacket

/-- An error a read returns. -/
inductive ConnError where
  /-- An error of `readMsg`, a parser or a FABRID service, passed on as it is. -/
  | external (e : String)
  /-- `errNoPathTo(ia)`. -/
  | noPathTo (ia : IA)
  deriving DecidableEq, Repr

/-- What the collaborators of the readers answer: `reversePathFromForwardingPath` (a path, and an
error), `scion.Decoded.DecodeFromBytes` (the timestamps of the info fields it decoded, and its
error), the option parsers of `extension`, the FABRID server's `HandleFabridPacket`,
`baseUDPConn.writeMsg`, and the FABRID client's `HandleFabridControlOption`. The parsed options are
of types the readers only pass on. -/
structure FabridEnv (Ident Fab Ctrl Ext : Type) where
  reversePathFromForwardingPath : IA → IA → ForwardingPath → Option Path × Option String
  decodeFromBytes : List UInt8 → List Nat × Option String
  parseIdentifierOption : PacketOption → Nat → Except String Ident
  parseFabridOptionFullExtension : PacketOption → UInt8 → Except String Fab
  parseFabridControlOption : PacketOption → Option Ident → Except String Ctrl
  handleFabridPacket : UDPAddr → Fab → Ident → List Ctrl → Except String (Option Ext)
  writeMsg : UDPAddr → UDPAddr → Option Path → Ext → Option String
  handleFabridControlOption : PathFingerprint → Ctrl → Option String

/-- One turn of a read loop: read the next packet, or return. -/
inductive Turn (α : Type) where
  | next
  | done (r : α)
  deriving DecidableEq, Repr

/-- `(opt.OptDataLen-4)/4` in `uint8`: the hop count the FABRID branch asks the parser for. -/
def fabridHopCount (optDataLen : UInt8) : UInt8 := (optDataLen - 4) / 4

/-- Collaborators that decode nothing from a path, reverse every path to nil, and accept every
option. -/
def nilPathEnv : FabridEnv Unit Unit Unit Unit where
  reversePathFromForwardingPath _ _ _ := (none, none)
  decodeFromBytes _ := ([], some "path too short")
  parseIdentifierOption _ _ := .ok ()
  parseFabridOptionFullExtension _ _ := .ok ()
  parseFabridControlOption _ _ := .ok ()
  handleFabridPacket _ _ _ _ := .ok none
  writeMsg _ _ _ _ := none
  handleFabridControlOption _ _ := none

/-- Collaborators that reverse every path to one path, and otherwise act as `nilPathEnv`. -/
def backPathEnv : FabridEnv Unit Unit Unit Unit :=
  { nilPathEnv with reversePathFromForwardingPath := fun _ _ _ => (some (pathWith "back"), none) }

section

variable {Ident Fab Ctrl Ext : Type} (env : FabridEnv Ident Fab Ctrl Ext)

/-! ## `fabridListenConn.ReadFromVia` -/

/-- The locals the hop-by-hop loop sets: `identifierOption`, `fabridOption` and `err`. -/
structure HopByHopScan (Ident Fab : Type) where
  identifierOption : Option Ident
  fabridOption : Option Fab
  err : Option String

/-- One option of the hop-by-hop loop; `.error` returns. The Identifier branch asserts that the
path is an `snet.RawPath`, decodes it dropping the decoder's error, and reads
`decoded.InfoFields[0]`. -/
def hopByHopOption (fwPath : ForwardingPath) (acc : HopByHopScan Ident Fab) (opt : PacketOption) :
    Option (Except String (HopByHopScan Ident Fab)) :=
  match opt.optType with
  | .identifier => do
    let raw ← match fwPath.dataplanePath with
      | .raw raw => some raw
      | _ => none
    let baseTimestamp ← (env.decodeFromBytes raw).1[0]?
    pure <| (env.parseIdentifierOption opt baseTimestamp).map fun i =>
      { acc with identifierOption := some i, err := none }
  | .fabrid =>
    pure <| (env.parseFabridOptionFullExtension opt (fabridHopCount opt.optDataLen)).map fun f =>
      { acc with fabridOption := some f, err := none }
  | _ => pure (.ok acc)

/-- The hop-by-hop loop of `ReadFromVia`. -/
def scanHopByHop (fwPath : ForwardingPath) :
    HopByHopScan Ident Fab → List PacketOption → Option (Except String (HopByHopScan Ident Fab))
  | acc, [] => some (.ok acc)
  | acc, opt :: opts => (hopByHopOption env fwPath acc opt).bind fun
    | .ok acc' => scanHopByHop fwPath acc' opts
    | .error e => some (.error e)

/-- The end-to-end loop of `ReadFromVia`: the FabridControl options, parsed against the
identifier, in order. -/
def scanEndToEnd (identifierOption : Option Ident) :
    List Ctrl → List PacketOption → Except String (List Ctrl)
  | acc, [] => .ok acc
  | acc, opt :: opts =>
    match opt.optType with
    | .fabridControl => do
      let c ← env.parseFabridControlOption opt identifierOption
      scanEndToEnd identifierOption (acc ++ [c]) opts
    | _ => scanEndToEnd identifierOption acc opts

/-- `writeFabridReply`: over the reply selector's path to `dst`, or none to the local AS. -/
def writeFabridReply (localAddr : UDPAddr) (sel : DefaultReplySelector) (dst : UDPAddr)
    (e2eExt : Ext) : Option ConnError :=
  if localAddr.ia ≠ dst.ia then
    match sel.path dst with
    | none => some (.noPathTo dst.ia)
    | some path => (env.writeMsg localAddr dst (some path) e2eExt).map .external
  else (env.writeMsg localAddr dst none e2eExt).map .external

variable (defaultSelectorMaxReplyPaths : Nat)

/-- `fabridListenConn.ReadFromVia` on what `readMsg` returned, with a `DefaultReplySelector`
recording at time `now`: `(n, remote, path, err)` and the selector afterwards. -/
def fabridReadFromVia (now : Nat) (localAddr : UDPAddr) (sel : DefaultReplySelector)
    (msg : ReadMsg) : Option ((Nat × UDPAddr × Option Path × Option ConnError) × DefaultReplySelector) :=
  match msg with
  | .error (n, e) => some ((n, default, none, some (.external e)), sel)
  | .ok pkt => do
    let (path, err) := env.reversePathFromForwardingPath pkt.remote.ia localAddr.ia pkt.fwPath
    let sel ← sel.record defaultSelectorMaxReplyPaths now pkt.remote path
    let fail := fun e => ((0, default, none, some e), sel)
    match ← scanHopByHop env pkt.fwPath ⟨none, none, err⟩ (pkt.hbhExt.getD []) with
    | .error e => pure (fail (.external e))
    | .ok scan =>
      let result := (pkt.n, pkt.remote, path, scan.err.map ConnError.external)
      match scanEndToEnd env scan.identifierOption [] (pkt.e2eExt.getD []) with
      | .error e => pure (fail (.external e))
      | .ok fabridControlOptions =>
        match scan.fabridOption, scan.identifierOption with
        | some fabridOption, some identifierOption =>
          match env.handleFabridPacket pkt.remote fabridOption identifierOption
              fabridControlOptions with
          | .error e => pure (fail (.external e))
          | .ok (some replyE2eExt) =>
            match writeFabridReply env localAddr sel pkt.remote replyE2eExt with
            | some e => pure (fail e)
            | none => pure (result, sel)
          | .ok none => pure (result, sel)
        | _, _ => pure (result, sel)

/-! ## `fabridDialedConn.Read` -/

/-- The end-to-end loop of `Read`: the last FabridControl option handled, or a return. Handing an
option to the client reads `path.Fingerprint`, which faults on a nil path. -/
def handleControlOptions (n : Nat) (path : Option Path) :
    Option Ctrl → List PacketOption → Option (Except (Nat × ConnError) (Option Ctrl))
  | last, [] => some (.ok last)
  | last, opt :: opts =>
    match opt.optType with
    | .fabridControl =>
      match env.parseFabridControlOption opt none with
      | .error e => some (.error (n, .external e))
      | .ok fabridControlOption => do
        let path ← path
        match env.handleFabridControlOption path.fingerprint fabridControlOption with
        | some e => some (.error (0, .external e))
        | none => handleControlOptions n (some path) (some fabridControlOption) opts
    | _ => handleControlOptions n path last opts

/-- One turn of `Read`'s loop on what `readMsg` returned. -/
def fabridReadTurn (localAddr remoteAddr : UDPAddr) (msg : ReadMsg) :
    Option (Turn (Nat × Option ConnError)) :=
  match msg with
  | .error (n, e) => some (.done (n, some (.external e)))
  | .ok pkt =>
    if pkt.remote ≠ remoteAddr then some .next
    else match pkt.e2eExt with
      | none => some (.done (pkt.n, none))
      | some opts =>
        match env.reversePathFromForwardingPath remoteAddr.ia localAddr.ia pkt.fwPath with
        | (_, some e) => some (.done (0, some (.external e)))
        | (path, none) =>
          (handleControlOptions env pkt.n path none opts).map fun
            | .error (n, e) => .done (n, some e)
            | .ok (some _) => if pkt.n = 0 then .next else .done (pkt.n, none)
            | .ok none => .done (pkt.n, none)

/-- `fabridDialedConn.Read` over the packets `readMsg` returns in turn; `.next` when none of them
ended the loop. -/
def fabridDialedRead (localAddr remoteAddr : UDPAddr) :
    List ReadMsg → Option (Turn (Nat × Option ConnError))
  | [] => some .next
  | msg :: msgs => (fabridReadTurn env localAddr remoteAddr msg).bind fun
    | .next => fabridDialedRead localAddr remoteAddr msgs
    | .done r => some (.done r)

/-! ## What the readers return -/

/-- `ReadFromVia` returns only after `Record`: whatever the options do, it leaves the reply
selector as `Record` left it. -/
theorem fabridReadFromVia_recorded {now : Nat} {localAddr : UDPAddr}
    {sel sel' : DefaultReplySelector} {pkt : InboundPacket}
    {r : Nat × UDPAddr × Option Path × Option ConnError}
    (h : fabridReadFromVia env defaultSelectorMaxReplyPaths now localAddr sel (.ok pkt) =
      some (r, sel')) :
    sel.record defaultSelectorMaxReplyPaths now pkt.remote
      (env.reversePathFromForwardingPath pkt.remote.ia localAddr.ia pkt.fwPath).1 = some sel' := by
  cases hrec : sel.record defaultSelectorMaxReplyPaths now pkt.remote
      (env.reversePathFromForwardingPath pkt.remote.ia localAddr.ia pkt.fwPath).1 with
  | none => simp only [fabridReadFromVia, hrec, Option.bind_eq_bind, Option.none_bind, reduceCtorEq] at h
  | some sel₁ =>
    simp only [fabridReadFromVia, hrec, Option.bind_eq_bind, Option.some_bind] at h
    obtain ⟨scan, -, h⟩ := Option.bind_eq_some.mp h
    repeat' split at h
    all_goals exact (Prod.mk.inj (Option.some.inj h)).2 ▸ rfl

/-- **A read sets the reply path.** Once `ReadFromVia` returns a packet, whatever its options did,
errors included, replies to its sender go over the packet's reversed path when that is not nil; a
nil path leaves the reply selector as it was. -/
theorem read_sets_reply_path {now : Nat} {localAddr : UDPAddr} {sel sel' : DefaultReplySelector}
    {pkt : InboundPacket} {r : Nat × UDPAddr × Option Path × Option ConnError}
    (hcap : 1 ≤ defaultSelectorMaxReplyPaths)
    (h : fabridReadFromVia env defaultSelectorMaxReplyPaths now localAddr sel (.ok pkt) =
      some (r, sel')) :
    (∀ p, (env.reversePathFromForwardingPath pkt.remote.ia localAddr.ia pkt.fwPath).1 = some p →
      sel'.path pkt.remote = some p) ∧
    ((env.reversePathFromForwardingPath pkt.remote.ia localAddr.ia pkt.fwPath).1 = none →
      sel' = sel) := by
  have hrec := fabridReadFromVia_recorded env defaultSelectorMaxReplyPaths h
  refine ⟨fun p hp => ?_, fun hp => ?_⟩
  · rw [hp] at hrec
    exact DefaultReplySelector.path_record _ hcap hrec
  · rw [hp] at hrec
    exact (Option.some.inj hrec).symm

theorem read_sets_reply_path_back :
    ∃ r sel', fabridReadFromVia backPathEnv 1 0 default NewDefaultReplySelector
        (.ok ⟨3, ⟨1, 1, 1⟩, ⟨.empty, 0⟩, none, none⟩) = some (r, sel') ∧
      sel'.path ⟨1, 1, 1⟩ = some (pathWith "back") :=
  have h : fabridReadFromVia backPathEnv 1 0 default NewDefaultReplySelector
      (.ok ⟨3, ⟨1, 1, 1⟩, ⟨.empty, 0⟩, none, none⟩) = some (_, _) := rfl
  ⟨_, _, h, (read_sets_reply_path backPathEnv 1 le_rfl h).1 _ rfl⟩

/-- One option of the hop-by-hop loop other than an Identifier option does not fault. -/
theorem hopByHopOption_isSome (fwPath : ForwardingPath) (acc : HopByHopScan Ident Fab)
    {opt : PacketOption} (h : opt.optType ≠ .identifier) :
    (hopByHopOption env fwPath acc opt).isSome := by
  unfold hopByHopOption
  split <;> simp_all

theorem scanHopByHop_isSome (fwPath : ForwardingPath) :
    ∀ (acc : HopByHopScan Ident Fab) (opts : List PacketOption),
      (∀ o ∈ opts, o.optType ≠ .identifier) → (scanHopByHop env fwPath acc opts).isSome
  | _, [], _ => rfl
  | acc, o :: opts, h => by
    obtain ⟨x, hx⟩ := Option.isSome_iff_exists.mp
      (hopByHopOption_isSome env fwPath acc (h o (List.mem_cons_self _ _)))
    rw [scanHopByHop, hx, Option.some_bind]
    cases x with
    | ok acc' => exact scanHopByHop_isSome fwPath acc' opts fun o' ho' => h o' (List.mem_cons_of_mem _ ho')
    | error e => rfl

/-- **`ReadFromVia` faults only on an Identifier option.** With room for one reply path, a packet
with no Identifier option among its hop-by-hop options is read without a fault, whatever its
path and its other options. -/
theorem read_total_without_identifier {now : Nat} {localAddr : UDPAddr}
    {sel : DefaultReplySelector} {pkt : InboundPacket} (hcap : 1 ≤ defaultSelectorMaxReplyPaths)
    (hno : ∀ o ∈ pkt.hbhExt.getD [], o.optType ≠ .identifier) :
    ∃ res, fabridReadFromVia env defaultSelectorMaxReplyPaths now localAddr sel (.ok pkt) =
      some res := by
  obtain ⟨sel₁, hrec⟩ := DefaultReplySelector.record_some _ hcap sel now pkt.remote
    (env.reversePathFromForwardingPath pkt.remote.ia localAddr.ia pkt.fwPath).1
  obtain ⟨scan, hscan⟩ := Option.isSome_iff_exists.mp (scanHopByHop_isSome env pkt.fwPath
    ⟨none, none, (env.reversePathFromForwardingPath pkt.remote.ia localAddr.ia pkt.fwPath).2⟩
    _ hno)
  simp only [fabridReadFromVia, hrec, hscan, Option.bind_eq_bind, Option.some_bind]
  repeat' split
  all_goals exact ⟨_, rfl⟩

theorem read_total_without_identifier_fabrid :
    ∃ res, fabridReadFromVia nilPathEnv 1 0 default NewDefaultReplySelector
      (.ok ⟨0, default, ⟨.raw [], 0⟩, some [⟨.fabrid, 8, []⟩], none⟩) = some res :=
  read_total_without_identifier nilPathEnv 1 le_rfl fun o ho => by
    simp only [Option.getD_some, List.mem_singleton] at ho
    subst ho
    exact OptType.noConfusion

theorem fabridDialedRead_skip (localAddr remoteAddr : UDPAddr) :
    ∀ (pre : List InboundPacket) (msgs : List ReadMsg), (∀ q ∈ pre, q.remote ≠ remoteAddr) →
      fabridDialedRead env localAddr remoteAddr (pre.map .ok ++ msgs) =
        fabridDialedRead env localAddr remoteAddr msgs
  | [], _, _ => rfl
  | q :: pre, msgs, h => by
    simp only [List.map_cons, List.cons_append, fabridDialedRead, fabridReadTurn,
      if_pos (h q (List.mem_cons_self _ _)), Option.some_bind]
    exact fabridDialedRead_skip localAddr remoteAddr pre msgs fun q' hq' =>
      h q' (List.mem_cons_of_mem _ hq')

/-- **`Read` waits for its remote.** It skips every packet from another remote, and returns the
first packet from its remote that has no end-to-end extension, with its length and no error. -/
theorem dialed_read_returns_remote_packet (localAddr remoteAddr : UDPAddr)
    (pre : List InboundPacket) (hpre : ∀ q ∈ pre, q.remote ≠ remoteAddr) (pkt : InboundPacket)
    (hr : pkt.remote = remoteAddr) (he : pkt.e2eExt = none) (msgs : List ReadMsg) :
    fabridDialedRead env localAddr remoteAddr (pre.map .ok ++ .ok pkt :: msgs) =
      some (.done (pkt.n, none)) := by
  rw [fabridDialedRead_skip env localAddr remoteAddr pre _ hpre]
  simp [fabridDialedRead, fabridReadTurn, hr, he]

theorem dialed_read_returns_remote_packet_after_foreign :
    fabridDialedRead nilPathEnv default ⟨1, 1, 1⟩
        ([⟨2, ⟨2, 2, 2⟩, ⟨.empty, 0⟩, none, none⟩].map .ok ++
          [.ok ⟨5, ⟨1, 1, 1⟩, ⟨.empty, 0⟩, none, none⟩]) =
      some (.done (5, none)) :=
  dialed_read_returns_remote_packet nilPathEnv default ⟨1, 1, 1⟩ _ (by decide) _ rfl rfl []

/-! ## `dialedConn.Write` -/

/-- `dialedConn.Write`: across ASes over the selector's `Path()` (`selectorPath`, `none` where it
panics), with `errNoPathTo(remote.IA)` when that is nil; within the AS without a path. -/
def dialedWrite (writeMsg : UDPAddr → UDPAddr → Option Path → Option String)
    (localAddr remoteAddr : UDPAddr) (selectorPath : Option (Option Path)) :
    Option (Option ConnError) :=
  if localAddr.ia ≠ remoteAddr.ia then
    selectorPath.map fun
      | none => some (.noPathTo remoteAddr.ia)
      | some path => (writeMsg localAddr remoteAddr (some path)).map .external
  else some ((writeMsg localAddr remoteAddr none).map .external)

/-- `Write` across ASes on a selector with candidates `paths` whose `Path()` returns `path`: it
returns `errNoPathTo` exactly when there is no candidate, and otherwise sends over one. -/
def WriteReports (writeMsg : UDPAddr → UDPAddr → Option Path → Option String)
    (localAddr remoteAddr : UDPAddr) (paths : List Path) (path : Option (Option Path)) : Prop :=
  (dialedWrite writeMsg localAddr remoteAddr path = some (some (.noPathTo remoteAddr.ia)) ↔
    paths = []) ∧
  (paths ≠ [] → ∃ p ∈ paths, dialedWrite writeMsg localAddr remoteAddr path =
    some ((writeMsg localAddr remoteAddr (some p)).map .external))

theorem writeReports_of_valid (writeMsg : UDPAddr → UDPAddr → Option Path → Option String)
    {l r : UDPAddr} (hia : l.ia ≠ r.ia) {paths : List Path} {i : Nat}
    (hv : paths = [] ∨ i < paths.length) : WriteReports writeMsg l r paths (some paths[i]?) := by
  rcases hv with rfl | hi
  · simp [WriteReports, dialedWrite, hia]
  · have hne : paths ≠ [] := List.ne_nil_of_length_pos (by omega)
    refine ⟨?_, fun _ => ⟨paths[i], List.getElem_mem hi, ?_⟩⟩
    · simp [dialedWrite, hia, List.getElem?_eq_getElem hi, hne]
    · simp [dialedWrite, hia, List.getElem?_eq_getElem hi]

/-- **No path is an error, never a panic.** On a `DefaultSelector` or a `FabridSelector` after any
run of calls, and on a `PingingSelector` in any state its runs reach, `Write` to a remote in
another AS returns `errNoPathTo(remote.IA)` exactly when the selector holds no path, and
otherwise sends over one of its paths (for a `FabridSelector`, the path behind one of its
addresses). -/
theorem write_reports_no_path (writeMsg : UDPAddr → UDPAddr → Option Path → Option String)
    {l r : UDPAddr} (hia : l.ia ≠ r.ia) :
    (∀ ops s, NewDefaultSelector.run ops = some s → WriteReports writeMsg l r s.paths s.path) ∧
    (∀ client heap ops heap' s,
      FabridSelector.run (heap, NewFabridSelector client) ops = some (heap', s) →
      WriteReports writeMsg l r (s.paths.map heap') (s.path.map (·.map heap'))) ∧
    (∀ Timeout s log, PingingSelector.Reach Timeout s log →
      WriteReports writeMsg l r s.paths s.path) := by
  refine ⟨fun _ _ h => ?_, fun _ heap _ heap' _ h => ?_, fun T s _ h => ?_⟩
  · rw [DefaultSelector.path, pathAt_of_valid (DefaultSelector.run_valid h)]
    exact writeReports_of_valid writeMsg hia (DefaultSelector.run_valid h)
  · have hv := (currentValid_map heap' _ _).2 (FabridSelector.run_valid h)
    rw [FabridSelector.path, ← pathAt_map, pathAt_of_valid hv]
    exact writeReports_of_valid writeMsg hia hv
  · have hv := (PingingSelector.inv_reach T h).current_valid
    rw [PingingSelector.path_of_valid hv]
    refine writeReports_of_valid writeMsg hia ?_
    by_cases hp : s.paths = []
    · exact .inl hp
    · exact .inr (by have := hv hp; omega)

theorem write_reports_no_path_fresh :
    WriteReports (fun _ _ _ => none) ⟨1, 0, 0⟩ ⟨2, 0, 0⟩ NewDefaultSelector.paths
      NewDefaultSelector.path :=
  (write_reports_no_path (fun _ _ _ => none) (by decide)).1 [] _ rfl

/-! ## Where the readers fault -/

theorem fabridHopCount_toNat (d : UInt8) : (fabridHopCount d).toNat = (d.toNat + 252) % 256 / 4 := by
  simp only [fabridHopCount, UInt8.toNat_div]
  simp only [UInt8.toNat, UInt8.sub_def, UInt8.toBitVec_ofNat, BitVec.toNat_sub, Nat.reducePow,
    BitVec.toNat_ofNat, Nat.reduceMod, Nat.reduceSub]
  omega

/-- **The readers fault on some packets.** `ReadFromVia` faults on a packet whose hop-by-hop
extension starts with an Identifier option when its path is not a raw path, or decodes to no info
field (an empty path does; the decoder's error is dropped). The FABRID branch asks for `63` hops
when the option is shorter than 4 bytes, for more than fits in it; from 4 bytes on, for as many
as fit. `Read` faults on a packet from its remote whose end-to-end extension starts with a
FabridControl option that parses, when the reversed path is nil without an error. -/
theorem fabrid_reads_fault :
    (∀ (env : FabridEnv Ident Fab Ctrl Ext) cap now localAddr sel pkt len data rest, 1 ≤ cap →
      (∀ raw, pkt.fwPath.dataplanePath = .raw raw → (env.decodeFromBytes raw).1 = []) →
      pkt.hbhExt = some (⟨.identifier, len, data⟩ :: rest) →
      fabridReadFromVia env cap now localAddr sel (.ok pkt) = none) ∧
    (∀ d : UInt8, d.toNat < 4 → (fabridHopCount d).toNat = 63) ∧
    (∀ d : UInt8, 4 ≤ d.toNat → 4 + 4 * (fabridHopCount d).toNat ≤ d.toNat) ∧
    (∀ (env : FabridEnv Ident Fab Ctrl Ext) localAddr remoteAddr pkt msgs len data rest c,
      pkt.remote = remoteAddr → pkt.e2eExt = some (⟨.fabridControl, len, data⟩ :: rest) →
      env.reversePathFromForwardingPath remoteAddr.ia localAddr.ia pkt.fwPath = (none, none) →
      env.parseFabridControlOption ⟨.fabridControl, len, data⟩ none = .ok c →
      fabridDialedRead env localAddr remoteAddr (.ok pkt :: msgs) = none) := by
  refine ⟨fun env cap now localAddr sel pkt len data rest hcap hdec hhbh => ?_,
    fun d hd => by rw [fabridHopCount_toNat]; omega,
    fun d hd => by have := d.toNat_lt_size; rw [fabridHopCount_toNat]; simp [UInt8.size] at this; omega,
    fun env localAddr remoteAddr pkt msgs len data rest c hr he hp hc => ?_⟩
  · obtain ⟨sel', hsel⟩ := DefaultReplySelector.record_some cap hcap sel now pkt.remote
      (env.reversePathFromForwardingPath pkt.remote.ia localAddr.ia pkt.fwPath).1
    have hscan : scanHopByHop env pkt.fwPath
        ⟨none, none, (env.reversePathFromForwardingPath pkt.remote.ia localAddr.ia pkt.fwPath).2⟩
        (pkt.hbhExt.getD []) = none := by
      rw [hhbh]
      cases hdp : pkt.fwPath.dataplanePath with
      | raw raw => simp [scanHopByHop, hopByHopOption, hdp, hdec raw hdp]
      | _ => simp [scanHopByHop, hopByHopOption, hdp]
    simp only [fabridReadFromVia, hsel, hscan, Option.bind_eq_bind, Option.some_bind, Option.none_bind]
  · simp [fabridDialedRead, fabridReadTurn, hr, he, hp, handleControlOptions, hc]

end

theorem fabrid_reads_fault_empty_path :
    fabridReadFromVia nilPathEnv 1 0 default NewDefaultReplySelector
        (.ok ⟨0, default, ⟨.raw [], 0⟩, some [⟨.identifier, 8, []⟩], none⟩) = none ∧
      (fabridHopCount 2).toNat = 63 ∧ 4 + 4 * (fabridHopCount 8).toNat ≤ 8 ∧
      fabridDialedRead nilPathEnv default default
        [.ok ⟨1, default, ⟨.empty, 0⟩, none, some [⟨.fabridControl, 4, []⟩]⟩] = none :=
  have h := @fabrid_reads_fault Unit Unit Unit Unit
  ⟨h.1 nilPathEnv 1 0 default _ _ 8 [] [] le_rfl (fun _ _ => rfl) rfl, h.2.1 2 (by decide),
    h.2.2.1 8 (by decide), h.2.2.2 nilPathEnv default default _ [] 4 [] [] () rfl rfl rfl rfl⟩

end ScionPan
