import Bangbang.Snapshot.DiffLayer

/-!
# Live snapshot lineage

A live session owns one lineage: the predecessor on which the next differential
snapshot may build, and the dirty generation which covers the difference. A
publication is a transaction over it. A begin issues a token and moves the
lineage to pending; the token then aborts the transaction, or records a durable
result and commits it after the dirty reset, or ends the lineage for good.

Every call returns its reply together with the lineage it leaves behind.
-/

namespace Bangbang.Snapshot

inductive LiveSnapshotKind where
  | full
  | diff
deriving DecidableEq, Repr

structure LiveSnapshotLineageToken where
  value : Nat
deriving DecidableEq, Repr

inductive LiveSnapshotPublishedResult where
  | nativeV1Full
  | nativeV2 (binding : SnapshotV2MemoryBinding)
deriving DecidableEq, Repr

inductive LiveSnapshotLineageTerminalCause where
  | publicationDurabilityUncertain
  | resultBindingUnavailable
  | dirtyEpochResetFailed
  | dirtyEpochMismatch
deriving DecidableEq, Repr

structure LiveSnapshotDiffBegin where
  token : LiveSnapshotLineageToken
  base : SnapshotV2DiffBase
  dirtyEpoch : Option Nat
deriving DecidableEq, Repr

inductive LiveSnapshotLineageError where
  | alreadyPending
  | awaitingDirtyReset
  | terminal
  | dirtyTrackingMismatch
  | dirtyEpochExhausted
  | tokenExhausted
  | diffBaseUnavailable
  | staleToken
  | notPending
  | notAwaitingDirtyReset
  | invalidPublishedResult
  | resultBinding (source : SnapshotV2MemoryBindingError)
  | dirtyEpochMismatch
deriving DecidableEq, Repr

inductive ReadyBase where
  | unavailable
  | zero
  | image (binding : SnapshotV2MemoryBinding)
deriving DecidableEq, Repr

/-- The base which a published result leaves for the next transaction. -/
def LiveSnapshotPublishedResult.base : LiveSnapshotPublishedResult → ReadyBase
  | .nativeV1Full => .unavailable
  | .nativeV2 binding => .image binding

structure ReadyLineage where
  base : ReadyBase
  dirtyEpoch : Option Nat
deriving DecidableEq, Repr

structure PendingLineage where
  token : LiveSnapshotLineageToken
  kind : LiveSnapshotKind
  prior : ReadyLineage
deriving DecidableEq, Repr

structure PublishedLineage where
  token : LiveSnapshotLineageToken
  prior : ReadyLineage
  nextBase : ReadyBase
deriving DecidableEq, Repr

inductive LineageState where
  | ready (ready : ReadyLineage)
  | pending (pending : PendingLineage)
  | published (published : PublishedLineage)
  | terminal (cause : LiveSnapshotLineageTerminalCause)
deriving DecidableEq, Repr

structure LiveSnapshotLineage where
  state : LineageState
  nextToken : Option Nat
deriving DecidableEq, Repr

namespace LiveSnapshotLineage

def fromReady (ready : ReadyLineage) : LiveSnapshotLineage := ⟨.ready ready, some 1⟩

def currentDirtyEpoch (lineage : LiveSnapshotLineage) : Option Nat :=
  match lineage.state with
  | .ready ready => ready.dirtyEpoch
  | .pending pending => pending.prior.dirtyEpoch
  | .published published => published.prior.dirtyEpoch
  | .terminal _ => none

section
variable (lineage : LiveSnapshotLineage) (observedDirtyEpoch : Option Nat)

def validateBegin : Except LiveSnapshotLineageError ReadyLineage :=
  match lineage.state with
  | .pending _ => .error .alreadyPending
  | .published _ => .error .awaitingDirtyReset
  | .terminal _ => .error .terminal
  | .ready ready => do
    rejectIf (ready.dirtyEpoch ≠ observedDirtyEpoch) .dirtyTrackingMismatch
    rejectIf (observedDirtyEpoch = some (wordLimit - 1)) .dirtyEpochExhausted
    return ready

def allocateToken :
    Except LiveSnapshotLineageError LiveSnapshotLineageToken × LiveSnapshotLineage :=
  match lineage.nextToken with
  | none => (.error .tokenExhausted, lineage)
  | some token => (.ok ⟨token⟩, { lineage with nextToken := checkedAdd token 1 })

def moveReadyToPending (token : LiveSnapshotLineageToken) (kind : LiveSnapshotKind)
    : Except LiveSnapshotLineageError Unit × LiveSnapshotLineage :=
  match lineage.state with
  | .ready prior => (.ok (), { lineage with state := .pending { token, kind, prior } })
  | .pending _ => (.error .alreadyPending, lineage)
  | .published _ => (.error .awaitingDirtyReset, lineage)
  | .terminal _ => (.error .terminal, lineage)

/-- Issue a token and hand the lineage over to it. -/
def beginTransaction (kind : LiveSnapshotKind) :
    Except LiveSnapshotLineageError LiveSnapshotLineageToken × LiveSnapshotLineage :=
  match lineage.allocateToken with
  | (.error error, lineage) => (.error error, lineage)
  | (.ok token, lineage) =>
    let (moved, lineage) := lineage.moveReadyToPending token kind
    (moved.map fun _ => token, lineage)

def beginFull : Except LiveSnapshotLineageError LiveSnapshotLineageToken × LiveSnapshotLineage :=
  match lineage.validateBegin observedDirtyEpoch with
  | .error error => (.error error, lineage)
  | .ok _ => lineage.beginTransaction .full

/-- The exact base of a differential capture. An untracked capture selects every
page, so no omitted byte depends on a predecessor. -/
def diffBase (ready : ReadyLineage) (observedDirtyEpoch : Option Nat) (metadata : Bool) :
    Except LiveSnapshotLineageError SnapshotV2DiffBase :=
  match ready.base with
  | .unavailable =>
    if observedDirtyEpoch.isNone then .ok .zero else .error .diffBaseUnavailable
  | .zero => .ok .zero
  | .image binding => ((binding.tryClone metadata).map .image).mapError .resultBinding

def beginDiff (metadata : Bool) :
    Except LiveSnapshotLineageError LiveSnapshotDiffBegin × LiveSnapshotLineage :=
  match lineage.validateBegin observedDirtyEpoch with
  | .error error => (.error error, lineage)
  | .ok ready =>
    match diffBase ready observedDirtyEpoch metadata with
    | .error error => (.error error, lineage)
    | .ok base =>
      let (begun, lineage) := lineage.beginTransaction .diff
      (begun.map fun token => { token, base, dirtyEpoch := observedDirtyEpoch }, lineage)

end

section
variable (state : LineageState) (lineage : LiveSnapshotLineage) (token : LiveSnapshotLineageToken)

/-- The error of a token which does not hold a pending transaction. -/
def invalidPendingToken : LiveSnapshotLineageError :=
  match state with
  | .pending _ => .staleToken
  | .published published => if published.token = token then .awaitingDirtyReset else .staleToken
  | .ready _ => .notPending
  | .terminal _ => .terminal

/-- The error of a token which does not hold a published transaction. -/
def invalidPublishedToken : LiveSnapshotLineageError :=
  match state with
  | .pending pending => if pending.token = token then .notAwaitingDirtyReset else .staleToken
  | .published _ => .staleToken
  | .ready _ => .notAwaitingDirtyReset
  | .terminal _ => .terminal

/-- The pending transaction of a token. -/
def pendingOf : Option PendingLineage :=
  match state with
  | .pending pending => if pending.token = token then some pending else none
  | _ => none

/-- The published transaction of a token. -/
def publishedOf : Option PublishedLineage :=
  match state with
  | .published published => if published.token = token then some published else none
  | _ => none

def abort : Except LiveSnapshotLineageError Unit × LiveSnapshotLineage :=
  match pendingOf lineage.state token with
  | some pending => (.ok (), { lineage with state := .ready pending.prior })
  | none => (.error (invalidPendingToken lineage.state token), lineage)

def publishedDurable (result : LiveSnapshotPublishedResult) :
    Except LiveSnapshotLineageError Unit × LiveSnapshotLineage :=
  match pendingOf lineage.state token with
  | none => (.error (invalidPendingToken lineage.state token), lineage)
  | some pending =>
    match pending.kind, result with
    | .diff, .nativeV1Full =>
      (.error .invalidPublishedResult, { lineage with state := .terminal .resultBindingUnavailable })
    | _, _ =>
      (.ok (), { lineage with
        state := .published
          { token, prior := pending.prior, nextBase := result.base } })

/-- The generation which the dirty reset must have produced. -/
def expectedDirtyEpoch (prior : ReadyLineage) : Except LiveSnapshotLineageError (Option Nat) :=
  match prior.dirtyEpoch with
  | none => .ok none
  | some epoch => (okOr (checkedAdd epoch 1) .dirtyEpochExhausted).map some

def commitReset (resetDirtyEpoch : Option Nat)
    : Except LiveSnapshotLineageError Unit × LiveSnapshotLineage :=
  match publishedOf lineage.state token with
  | none => (.error (invalidPublishedToken lineage.state token), lineage)
  | some published =>
    match expectedDirtyEpoch published.prior with
    | .error error => (.error error, { lineage with state := .terminal .dirtyEpochMismatch })
    | .ok expected =>
      if resetDirtyEpoch ≠ expected then
        (.error .dirtyEpochMismatch, { lineage with state := .terminal .dirtyEpochMismatch })
      else
        (.ok (), { lineage with
          state := .ready { base := published.nextBase, dirtyEpoch := resetDirtyEpoch } })

def terminalizeVisible (cause : LiveSnapshotLineageTerminalCause) :
    Except LiveSnapshotLineageError Unit × LiveSnapshotLineage :=
  let ended := (.ok (), { lineage with state := .terminal cause })
  match lineage.state with
  | .pending pending => if pending.token = token then ended else (.error .staleToken, lineage)
  | .published published => if published.token = token then ended else (.error .staleToken, lineage)
  | .ready _ => (.error .notPending, lineage)
  | .terminal _ => (.error .terminal, lineage)

end
end LiveSnapshotLineage
end Bangbang.Snapshot
