import Bangbang.Snapshot.Lineage

/-!
# Lineages over whole histories

`Effect` lists everything a call can do to a lineage. The laws of the lineage are
invariants of every history of calls, whatever tokens they carry; each follows
from `Effect` alone, constructor by constructor.
-/

namespace Bangbang.Snapshot

namespace LiveSnapshotLineage

/-- A call on a lineage. -/
inductive Call where
  | beginFull (observedDirtyEpoch : Option Nat)
  | beginDiff (observedDirtyEpoch : Option Nat) (metadata : Bool)
  | abort (token : LiveSnapshotLineageToken)
  | publishedDurable (token : LiveSnapshotLineageToken) (result : LiveSnapshotPublishedResult)
  | commitReset (token : LiveSnapshotLineageToken) (resetDirtyEpoch : Option Nat)
  | terminalizeVisible (token : LiveSnapshotLineageToken) (cause : LiveSnapshotLineageTerminalCause)
deriving DecidableEq, Repr

/-- What a call returns. -/
inductive Reply where
  | began (token : LiveSnapshotLineageToken)
  | diffBegan (begun : LiveSnapshotDiffBegin)
  | done
  | failed (error : LiveSnapshotLineageError)
deriving DecidableEq, Repr

open Reply

/-- The reply of a call which returns a result. -/
def Reply.of {α : Type} (succeeded : α → Reply) : Except LiveSnapshotLineageError α → Reply
  | .ok value => succeeded value
  | .error error => .failed error

section
variable (lineage : LiveSnapshotLineage)

/-- One call on a lineage. -/
def step : Call → Reply × LiveSnapshotLineage
  | .beginFull observed =>
    ((of .began (lineage.beginFull observed).1), (lineage.beginFull observed).2)
  | .beginDiff observed metadata =>
    ((of .diffBegan (lineage.beginDiff observed metadata).1),
      (lineage.beginDiff observed metadata).2)
  | .abort token => (of (fun _ => .done) (lineage.abort token).1, (lineage.abort token).2)
  | .publishedDurable token result =>
    (of (fun _ => .done) (lineage.publishedDurable token result).1,
      (lineage.publishedDurable token result).2)
  | .commitReset token epoch =>
    (of (fun _ => .done) (lineage.commitReset token epoch).1,
      (lineage.commitReset token epoch).2)
  | .terminalizeVisible token cause =>
    (of (fun _ => .done) (lineage.terminalizeVisible token cause).1,
      (lineage.terminalizeVisible token cause).2)

/-- A call with its reply. -/
abbrev Entry := Call × Reply

/-- How a transaction ends. -/
inductive Fate where
  | aborted
  | committed
  | terminal
deriving DecidableEq, Repr

/-- The token which an entry issues. -/
def Entry.issued : Entry → Option LiveSnapshotLineageToken
  | (_, .began token) => some token
  | (_, .diffBegan begun) => some begun.token
  | _ => none

/-- The transaction which an entry ends, and how. -/
def Entry.fate : Entry → Option (LiveSnapshotLineageToken × Fate)
  | (.abort token, .done) => some (token, .aborted)
  | (.commitReset token _, .done) => some (token, .committed)
  | (.terminalizeVisible token _, .done) => some (token, .terminal)
  | (.publishedDurable token _, .failed .invalidPublishedResult) => some (token, .terminal)
  | (.commitReset token _, .failed .dirtyEpochMismatch) => some (token, .terminal)
  | (.commitReset token _, .failed .dirtyEpochExhausted) => some (token, .terminal)
  | _ => none

/-- The lineages and histories of a session, the newest entry first. -/
inductive Reaches (ready : ReadyLineage) : List Entry → LiveSnapshotLineage → Prop where
  | start : Reaches ready [] (fromReady ready)
  | step {history lineage} (reaches : Reaches ready history lineage) (call : Call) :
      Reaches ready ((call, (lineage.step call).1) :: history) (lineage.step call).2

/-- The token of the transaction which owns the lineage. -/
def held : Option LiveSnapshotLineageToken :=
  match lineage.state with
  | .pending pending => some pending.token
  | .published published => some published.token
  | .ready _ | .terminal _ => none

/-- The base and generation which hold, until a commit replaces them. -/
def settled : Option ReadyLineage :=
  match lineage.state with
  | .ready ready => some ready
  | .pending pending => some pending.prior
  | .published published => some published.prior
  | .terminal _ => none

/-- The lineage has ended. -/
def Terminal : Prop := ∃ cause, lineage.state = .terminal cause

end

/-- The tokens which a history issued, the newest first. -/
def issued (history : List Entry) : List LiveSnapshotLineageToken := history.filterMap Entry.issued

/-- The tokens whose transactions a history ended. -/
def ended (history : List Entry) : List LiveSnapshotLineageToken :=
  (history.filterMap Entry.fate).map Prod.fst

/-- Everything a call can do. -/
inductive Effect (lineage : LiveSnapshotLineage) : Call → Reply → LiveSnapshotLineage → Prop where
  | beginFull {ready token} (isReady : lineage.state = .ready ready)
      (available : lineage.nextToken = some token) :
      Effect lineage (.beginFull ready.dirtyEpoch) (.began ⟨token⟩)
        ⟨.pending ⟨⟨token⟩, .full, ready⟩, checkedAdd token 1⟩
  | beginDiff {ready token metadata base} (isReady : lineage.state = .ready ready)
      (available : lineage.nextToken = some token)
      (based : diffBase ready ready.dirtyEpoch metadata = .ok base) :
      Effect lineage (.beginDiff ready.dirtyEpoch metadata)
        (.diffBegan ⟨⟨token⟩, base, ready.dirtyEpoch⟩)
        ⟨.pending ⟨⟨token⟩, .diff, ready⟩, checkedAdd token 1⟩
  | abort {pending} (isPending : lineage.state = .pending pending) :
      Effect lineage (.abort pending.token) .done { lineage with state := .ready pending.prior }
  | publish {pending result} (isPending : lineage.state = .pending pending) :
      Effect lineage (.publishedDurable pending.token result) .done
        { lineage with state := .published ⟨pending.token, pending.prior, result.base⟩ }
  | commit {published} (isPublished : lineage.state = .published published) :
      Effect lineage (.commitReset published.token (published.prior.dirtyEpoch.map (· + 1))) .done
        { lineage with
          state := .ready ⟨published.nextBase, published.prior.dirtyEpoch.map (· + 1)⟩ }
  | terminalize {token cause} (owner : lineage.held = some token) :
      Effect lineage (.terminalizeVisible token cause) .done { lineage with state := .terminal cause }
  | ambiguous {call error token cause} (owner : lineage.held = some token)
      (ends : Entry.fate (call, .failed error) = some (token, .terminal)) :
      Effect lineage call (.failed error) { lineage with state := .terminal cause }
  | refused {call error} (endless : Entry.fate (call, .failed error) = none)
      (terminal : lineage.Terminal → error = .terminal) :
      Effect lineage call (.failed error) lineage

section
variable {lineage : LiveSnapshotLineage} {token}

/-- A ready lineage issues its next token. -/
theorem beginTransaction_eq {ready} (isReady : lineage.state = .ready ready) (kind) :
    lineage.beginTransaction kind =
      match lineage.nextToken with
      | none => (.error .tokenExhausted, lineage)
      | some token =>
        (.ok ⟨token⟩, ⟨.pending ⟨⟨token⟩, kind, ready⟩, checkedAdd token 1⟩) := by
  unfold beginTransaction allocateToken
  cases lineage.nextToken with
  | none => rfl
  | some token => simp [moveReadyToPending, isReady, Except.map]

/-- A begin is refused, or the lineage is ready at the observed generation. -/
theorem validateBegin_cases (lineage : LiveSnapshotLineage) (observed : Option Nat) :
    (∃ error, lineage.validateBegin observed = .error error ∧
      (lineage.Terminal → error = .terminal)) ∨
    ∃ ready, lineage.validateBegin observed = .ok ready ∧ lineage.state = .ready ready ∧
      ready.dirtyEpoch = observed := by
  cases isState : lineage.state with
  | ready ready =>
    cases result : lineage.validateBegin observed with
    | error error => exact .inl ⟨error, rfl, by simp [Terminal, isState]⟩
    | ok found =>
      simp only [validateBegin, isState, bind_eq_ok, rejectIf_eq_ok, pure_eq_ok, not_not] at result
      obtain ⟨_, same, _, _, rfl⟩ := result
      exact .inr ⟨ready, rfl, rfl, same⟩
  | pending pending =>
    exact .inl ⟨.alreadyPending, by simp only [validateBegin, isState], by simp [Terminal, isState]⟩
  | published published =>
    exact .inl ⟨.awaitingDirtyReset, by simp only [validateBegin, isState],
      by simp [Terminal, isState]⟩
  | terminal cause => exact .inl ⟨_, by simp only [validateBegin, isState], fun _ => rfl⟩

/-- What the begin of a full snapshot does. -/
theorem beginFull_effect (lineage : LiveSnapshotLineage) (observed : Option Nat) :
    Effect lineage (.beginFull observed) (lineage.step (.beginFull observed)).1
      (lineage.step (.beginFull observed)).2 := by
  rcases lineage.validateBegin_cases observed with ⟨error, refused, terminal⟩ |
      ⟨ready, valid, isReady, rfl⟩
  · simp only [step, beginFull, refused, of]
    exact .refused rfl terminal
  · simp only [step, beginFull, valid, beginTransaction_eq isReady]
    cases available : lineage.nextToken with
    | none => exact .refused rfl (by simp [Terminal, isReady])
    | some token => exact .beginFull isReady available

/-- What the begin of a diff snapshot does. -/
theorem beginDiff_effect (lineage : LiveSnapshotLineage) (observed : Option Nat) (metadata : Bool) :
    Effect lineage (.beginDiff observed metadata) (lineage.step (.beginDiff observed metadata)).1
      (lineage.step (.beginDiff observed metadata)).2 := by
  rcases lineage.validateBegin_cases observed with ⟨error, refused, terminal⟩ |
      ⟨ready, valid, isReady, rfl⟩
  · simp only [step, beginDiff, refused, of]
    exact .refused rfl terminal
  · have notTerminal : ∀ error, lineage.Terminal → error = LiveSnapshotLineageError.terminal := by
      simp [Terminal, isReady]
    cases based : diffBase ready ready.dirtyEpoch metadata with
    | error error =>
      simp only [step, beginDiff, valid, based, of]
      exact .refused rfl (notTerminal _)
    | ok base =>
      simp only [step, beginDiff, valid, based, beginTransaction_eq isReady]
      cases available : lineage.nextToken with
      | none => exact .refused rfl (notTerminal _)
      | some token => exact .beginDiff isReady available based

theorem pendingOf_cases (lineage : LiveSnapshotLineage) (token : LiveSnapshotLineageToken) :
    (pendingOf lineage.state token = none ∧
      (lineage.Terminal → invalidPendingToken lineage.state token = .terminal) ∧
      invalidPendingToken lineage.state token ≠ .invalidPublishedResult) ∨
    ∃ pending, pendingOf lineage.state token = some pending ∧ lineage.state = .pending pending ∧
      pending.token = token := by
  cases isState : lineage.state with
  | pending pending =>
    by_cases same : pending.token = token
    · exact .inr ⟨pending, by simp [pendingOf, same], rfl, same⟩
    · exact .inl (by simp [pendingOf, same, invalidPendingToken, Terminal, isState])
  | published published =>
    by_cases same : published.token = token <;>
      exact .inl (by simp [pendingOf, same, invalidPendingToken, Terminal, isState])
  | ready ready => exact .inl (by simp [pendingOf, invalidPendingToken, Terminal, isState])
  | terminal cause => exact .inl (by simp [pendingOf, invalidPendingToken])

theorem publishedOf_cases (lineage : LiveSnapshotLineage) (token : LiveSnapshotLineageToken) :
    (publishedOf lineage.state token = none ∧
      (lineage.Terminal → invalidPublishedToken lineage.state token = .terminal) ∧
      invalidPublishedToken lineage.state token ≠ .dirtyEpochMismatch ∧
      invalidPublishedToken lineage.state token ≠ .dirtyEpochExhausted) ∨
    ∃ published, publishedOf lineage.state token = some published ∧
      lineage.state = .published published ∧ published.token = token := by
  cases isState : lineage.state with
  | published published =>
    by_cases same : published.token = token
    · exact .inr ⟨published, by simp [publishedOf, same], rfl, same⟩
    · exact .inl (by simp [publishedOf, same, invalidPublishedToken, Terminal, isState])
  | pending pending =>
    by_cases same : pending.token = token <;>
      exact .inl (by simp [publishedOf, same, invalidPublishedToken, Terminal, isState])
  | ready ready => exact .inl (by simp [publishedOf, invalidPublishedToken, Terminal, isState])
  | terminal cause => exact .inl (by simp [publishedOf, invalidPublishedToken])

/-- What an abort does. -/
theorem abort_effect (lineage : LiveSnapshotLineage) (token : LiveSnapshotLineageToken) :
    Effect lineage (.abort token) (lineage.step (.abort token)).1
      (lineage.step (.abort token)).2 := by
  rcases lineage.pendingOf_cases token with ⟨missing, terminal, -⟩ | ⟨pending, found, isPending, rfl⟩
  · simp only [step, abort, missing, of]
    exact .refused rfl terminal
  · simp only [step, abort, found, of]
    exact .abort isPending

/-- What a durable publication does. -/
theorem publishedDurable_effect (lineage : LiveSnapshotLineage) (token : LiveSnapshotLineageToken)
    (result : LiveSnapshotPublishedResult) :
    Effect lineage (.publishedDurable token result)
      (lineage.step (.publishedDurable token result)).1
      (lineage.step (.publishedDurable token result)).2 := by
  rcases lineage.pendingOf_cases token with ⟨missing, terminal, valid⟩ |
      ⟨pending, found, isPending, rfl⟩
  · simp only [step, publishedDurable, missing, of]
    refine .refused ?_ terminal
    simp only [Entry.fate]
    split <;> simp_all
  · cases kind : pending.kind <;> cases result <;>
      simp only [step, publishedDurable, found, kind, of]
    · exact .publish isPending
    · exact .publish isPending
    · exact .ambiguous (by simp [held, isPending]) rfl
    · exact .publish isPending

theorem expectedDirtyEpoch_cases (prior) :
    expectedDirtyEpoch prior = .error .dirtyEpochExhausted ∨
      expectedDirtyEpoch prior = .ok (prior.dirtyEpoch.map (· + 1)) := by
  unfold expectedDirtyEpoch
  cases prior.dirtyEpoch with
  | none => exact .inr rfl
  | some epoch =>
    by_cases fits : epoch + 1 < wordLimit
    · exact .inr (by simp [checkedAdd, fits, okOr, Except.map])
    · exact .inl (by simp [checkedAdd, fits, okOr, Except.map])

/-- What the commit of a reset does. -/
theorem commitReset_effect (lineage : LiveSnapshotLineage) (token : LiveSnapshotLineageToken)
    (epoch : Option Nat) :
    Effect lineage (.commitReset token epoch) (lineage.step (.commitReset token epoch)).1
      (lineage.step (.commitReset token epoch)).2 := by
  rcases lineage.publishedOf_cases token with ⟨missing, terminal, valid⟩ |
      ⟨published, found, isPublished, rfl⟩
  · simp only [step, commitReset, missing, of]
    refine .refused ?_ terminal
    simp only [Entry.fate]
    split <;> simp_all
  · have owner : lineage.held = some published.token := by simp [held, isPublished]
    simp only [step, commitReset, found]
    rcases expectedDirtyEpoch_cases published.prior with expects | expects
    · simp only [expects, of]
      exact .ambiguous owner rfl
    · simp only [expects]
      by_cases same : epoch = published.prior.dirtyEpoch.map (· + 1)
      · subst same
        simp only [ne_eq, not_true_eq_false, if_false, of]
        exact .commit isPublished
      · simp only [ne_eq, same, not_false_eq_true, if_true, of]
        exact .ambiguous owner rfl

theorem terminalizeVisible_effect (lineage token cause) :
    Effect lineage (.terminalizeVisible token cause)
      (lineage.step (.terminalizeVisible token cause)).1
      (lineage.step (.terminalizeVisible token cause)).2 := by
  cases isState : lineage.state with
  | pending pending =>
    by_cases same : pending.token = token <;>
      simp only [step, terminalizeVisible, isState, same, if_true, if_false, of]
    · exact .terminalize (by simp [held, isState, same])
    · exact .refused rfl (by simp [Terminal, isState])
  | published published =>
    by_cases same : published.token = token <;>
      simp only [step, terminalizeVisible, isState, same, if_true, if_false, of]
    · exact .terminalize (by simp [held, isState, same])
    · exact .refused rfl (by simp [Terminal, isState])
  | ready ready =>
    simp only [step, terminalizeVisible, isState, of]
    exact .refused rfl (by simp [Terminal, isState])
  | terminal cause =>
    simp only [step, terminalizeVisible, isState, of]
    exact .refused rfl fun _ => rfl

/-- What every call does. -/
theorem step_effect (lineage call) :
    Effect lineage call (lineage.step call).1 (lineage.step call).2 := by
  cases call with
  | beginFull observed => exact lineage.beginFull_effect observed
  | beginDiff observed metadata => exact lineage.beginDiff_effect observed metadata
  | abort token => exact lineage.abort_effect token
  | publishedDurable token result => exact lineage.publishedDurable_effect token result
  | commitReset token epoch => exact lineage.commitReset_effect token epoch
  | terminalizeVisible token cause => exact lineage.terminalizeVisible_effect token cause

end

variable {ready : ReadyLineage} {history : List Entry} {lineage next : LiveSnapshotLineage}
  {call : Call} {reply}

/-- Tokens are issued in ascending order, a transaction ends with the token which owns the
lineage, and a transaction which has not ended owns it. -/
structure Accounts (history : List Entry) (lineage : LiveSnapshotLineage) : Prop where
  ascending : (issued history).Pairwise fun newer older => older.value < newer.value
  below : ∀ token ∈ issued history, ∀ fresh ∈ lineage.nextToken, token.value < fresh
  owner : ∀ token, lineage.held = some token → token ∈ issued history ∧ token ∉ ended history
  once : (ended history).Nodup
  known : ∀ token ∈ ended history, token ∈ issued history
  live : ∀ token ∈ issued history, token ∉ ended history → lineage.held = some token

section
variable (accounts : Accounts history lineage)
include accounts

/-- An issued token is a new one. -/
theorem Accounts.issue {token} (free : lineage.held = none) (available : lineage.nextToken = some token)
    (issues : Entry.issued (call, reply) = some ⟨token⟩) (endless : Entry.fate (call, reply) = none)
    (owns : next.held = some ⟨token⟩) (advances : next.nextToken = checkedAdd token 1) :
    Accounts ((call, reply) :: history) next := by
  have sameEnded : ended ((call, reply) :: history) = ended history := by
    simp [ended, endless]
  have nowIssued : issued ((call, reply) :: history) = ⟨token⟩ :: issued history := by
    simp [issued, issues]
  have newest : ∀ older ∈ issued history, older.value < token := fun older member =>
    accounts.below older member token available
  refine ⟨?_, ?_, ?_, sameEnded ▸ accounts.once, ?_, ?_⟩
  · rw [nowIssued]
    exact List.pairwise_cons.mpr ⟨newest, accounts.ascending⟩
  · rw [nowIssued, advances]
    intro other member fresh isFresh
    obtain ⟨-, rfl⟩ := checkedAdd_eq_some.mp isFresh
    rcases List.mem_cons.mp member with rfl | older
    · exact Nat.lt_succ_self _
    · exact Nat.lt_succ_of_lt (newest other older)
  · intro other owned
    obtain rfl : other = ⟨token⟩ := Option.some.inj (owned.symm.trans owns)
    rw [nowIssued, sameEnded]
    refine ⟨List.mem_cons_self, fun wasEnded => ?_⟩
    exact Nat.lt_irrefl _ (newest _ (accounts.known _ wasEnded))
  · rw [nowIssued, sameEnded]
    exact fun other member => List.mem_cons_of_mem _ (accounts.known other member)
  · rw [nowIssued, sameEnded]
    intro other member notEnded
    rcases List.mem_cons.mp member with rfl | older
    · exact owns
    · exact nomatch free.symm.trans (accounts.live other older notEnded)

/-- The owner ends its transaction. -/
theorem Accounts.finish {token fate} (owns : lineage.held = some token)
    (ends : Entry.fate (call, reply) = some (token, fate))
    (silent : Entry.issued (call, reply) = none) (released : next.held = none)
    (sameNext : next.nextToken = lineage.nextToken) : Accounts ((call, reply) :: history) next := by
  obtain ⟨wasIssued, notEnded⟩ := accounts.owner token owns
  have sameIssued : issued ((call, reply) :: history) = issued history := by
    simp [issued, silent]
  have nowEnded : ended ((call, reply) :: history) = token :: ended history := by
    simp [ended, ends]
  refine ⟨sameIssued ▸ accounts.ascending, ?_, by simp [released], ?_, ?_, ?_⟩
  · rw [sameIssued, sameNext]
    exact accounts.below
  · rw [nowEnded]
    exact List.nodup_cons.mpr ⟨notEnded, accounts.once⟩
  · rw [nowEnded, sameIssued]
    exact List.forall_mem_cons.mpr ⟨wasIssued, accounts.known⟩
  · rw [nowEnded, sameIssued]
    intro other member notEnded
    obtain ⟨different, wasLive⟩ := List.ne_and_not_mem_of_not_mem_cons notEnded
    exact absurd (Option.some.inj ((accounts.live other member wasLive).symm.trans owns)) different

/-- Nothing is issued or ended. -/
theorem Accounts.keep (silent : Entry.issued (call, reply) = none)
    (endless : Entry.fate (call, reply) = none) (sameHeld : next.held = lineage.held)
    (sameNext : next.nextToken = lineage.nextToken) : Accounts ((call, reply) :: history) next := by
  have sameIssued : issued ((call, reply) :: history) = issued history := by
    simp [issued, silent]
  have sameEnded : ended ((call, reply) :: history) = ended history := by
    simp [ended, endless]
  refine ⟨?_, ?_, ?_, ?_, ?_, ?_⟩
  · rw [sameIssued]
    exact accounts.ascending
  · rw [sameIssued, sameNext]
    exact accounts.below
  · rw [sameIssued, sameEnded, sameHeld]
    exact accounts.owner
  · rw [sameEnded]
    exact accounts.once
  · rw [sameIssued, sameEnded]
    exact accounts.known
  · rw [sameIssued, sameEnded, sameHeld]
    exact accounts.live

/-- The accounts hold after one more call. -/
theorem Accounts.effect (effect : Effect lineage call reply next) :
    Accounts ((call, reply) :: history) next := by
  cases effect with
  | beginFull isReady available | beginDiff isReady available =>
    exact accounts.issue (by simp [held, isReady]) available rfl rfl rfl rfl
  | abort isPending => exact accounts.finish (by simp [held, isPending]) rfl rfl rfl rfl
  | publish isPending => exact accounts.keep rfl rfl (by simp [held, isPending]) rfl
  | commit isPublished => exact accounts.finish (by simp [held, isPublished]) rfl rfl rfl rfl
  | terminalize owner => exact accounts.finish owner rfl rfl rfl rfl
  | ambiguous owner ends => exact accounts.finish owner ends rfl rfl rfl
  | refused endless terminal => exact accounts.keep rfl endless rfl rfl

end

/-- The accounts hold in every history. -/
theorem Reaches.accounts (reaches : Reaches ready history lineage) : Accounts history lineage := by
  induction reaches with
  | start => exact ⟨.nil, nofun, nofun, .nil, nofun, nofun⟩
  | step reaches call ih => exact ih.effect (step_effect _ call)

section

/-- A token's transaction began in a ready lineage earlier in the history. -/
def BeganFrom (ready : ReadyLineage) (history : List Entry) (token : LiveSnapshotLineageToken)
    (prior : ReadyLineage) : Prop :=
  ∃ later entry earlier before, history = later ++ entry :: earlier ∧
    Entry.issued entry = some token ∧ Reaches ready earlier before ∧ before.state = .ready prior

variable {token : LiveSnapshotLineageToken}

theorem BeganFrom.cons {prior} (began : BeganFrom ready history token prior) (entry) :
    BeganFrom ready (entry :: history) token prior := by
  obtain ⟨later, issuer, earlier, before, rfl, issues, reaches, wasReady⟩ := began
  exact ⟨entry :: later, issuer, earlier, before, rfl, issues, reaches, wasReady⟩

/-- The transaction which owns a lineage remembers what it began from and what it
published. -/
structure Remembers (ready : ReadyLineage) (history : List Entry) (lineage : LiveSnapshotLineage) :
    Prop where
  began : ∀ token prior, lineage.held = some token → lineage.settled = some prior →
    BeganFrom ready history token prior
  published : ∀ published, lineage.state = .published published → ∃ result,
    (Call.publishedDurable published.token result, done) ∈ history ∧
      published.nextBase = result.base

/-- A lineage without an owner has nothing to remember. -/
theorem remembers_of_free (free : lineage.held = none) : Remembers ready history lineage := by
  refine ⟨by simp [free], fun published isPublished => ?_⟩
  simp [held, isPublished] at free

/-- A lineage remembers what it began from after one more call. -/
theorem Remembers.effect (remembers : Remembers ready history lineage)
    (reaches : Reaches ready history lineage) (effect : Effect lineage call reply next) :
    Remembers ready ((call, reply) :: history) next := by
  have begins : ∀ {kind : LiveSnapshotKind} {prior : ReadyLineage} {token : Nat} {fresh : Option Nat},
      lineage.state = .ready prior → Entry.issued (call, reply) = some ⟨token⟩ →
      Remembers ready ((call, reply) :: history) ⟨.pending ⟨⟨token⟩, kind, prior⟩, fresh⟩ := by
    intro kind prior token fresh isReady issues
    refine ⟨?_, nofun⟩
    rintro _ _ ⟨⟩ ⟨⟩
    exact ⟨[], _, history, lineage, rfl, issues, reaches, isReady⟩
  cases effect with
  | beginFull isReady | beginDiff isReady => exact begins isReady rfl
  | abort | commit | terminalize | ambiguous => exact remembers_of_free rfl
  | @publish pending result isPending =>
    constructor
    · rintro _ _ ⟨⟩ ⟨⟩
      exact (remembers.began pending.token pending.prior (by simp [held, isPending])
        (by simp [settled, isPending])).cons _
    · rintro _ ⟨⟩
      exact ⟨result, List.mem_cons_self, rfl⟩
  | refused endless terminal =>
    constructor
    · intro token prior owns holds
      exact (remembers.began token prior owns holds).cons _
    · intro published isPublished
      obtain ⟨result, member, same⟩ := remembers.published published isPublished
      exact ⟨result, List.mem_cons_of_mem _ member, same⟩

/-- A lineage remembers what it began from. -/
theorem Reaches.remembers (reaches : Reaches ready history lineage) :
    Remembers ready history lineage := by
  induction reaches with
  | start => exact remembers_of_free rfl
  | step reaches call ih => exact ih.effect reaches (step_effect _ call)

/-- Only a commit and the end of the lineage change what holds. -/
theorem Effect.settled_eq (effect : Effect lineage call reply next) :
    next.settled = lineage.settled ∨ next.settled = none ∨
      ∃ token epoch, call = .commitReset token epoch ∧ reply = .done := by
  cases effect with
  | beginFull isReady | beginDiff isReady => exact .inl (by simp [settled, isReady])
  | abort isPending | publish isPending => exact .inl (by simp [settled, isPending])
  | commit isPublished => exact .inr (.inr ⟨_, _, rfl, rfl⟩)
  | terminalize | ambiguous => exact .inr (.inl rfl)
  | refused endless terminal => exact .inl rfl

/-- A terminal lineage refuses every call. -/
theorem Effect.of_terminal (effect : Effect lineage call reply next) (terminal : lineage.Terminal) :
    reply = .failed .terminal ∧ next = lineage := by
  obtain ⟨cause, isTerminal⟩ := terminal
  cases effect with
  | beginFull isReady | beginDiff isReady => simp [isTerminal] at isReady
  | abort isPending | publish isPending => simp [isTerminal] at isPending
  | commit isPublished => simp [isTerminal] at isPublished
  | terminalize owner | ambiguous owner => simp [held, isTerminal] at owner
  | refused endless refusal => exact ⟨by rw [refusal ⟨cause, isTerminal⟩], rfl⟩

/-- What holds after a commit holds until the next one, or the lineage ends. -/
theorem Reaches.settled_since {later earlier entry}
    (reaches : Reaches ready (later ++ entry :: earlier) lineage)
    (uncommitted : ∀ token epoch, (Call.commitReset token epoch, done) ∉ later) :
    ∃ before, Reaches ready earlier before ∧ entry.2 = (before.step entry.1).1 ∧
      (lineage.settled = (before.step entry.1).2.settled ∨ lineage.settled = none) := by
  induction later generalizing lineage with
  | nil =>
    cases reaches with
    | step reaches call => exact ⟨_, reaches, rfl, .inl rfl⟩
  | cons newest later ih =>
    cases reaches with
    | @step _ previous reaches call =>
      obtain ⟨before, reachesBefore, sameReply, holds⟩ := ih reaches fun token epoch member =>
        uncommitted token epoch (List.mem_cons_of_mem _ member)
      refine ⟨before, reachesBefore, sameReply, ?_⟩
      rcases (step_effect previous call).settled_eq with same | gone | ⟨token, epoch, isCommit, done⟩
      · rw [same]
        exact holds
      · exact .inr gone
      · exact absurd List.mem_cons_self (isCommit ▸ done ▸ uncommitted token epoch)

/-- A successful abort puts back the lineage in which its transaction began. -/
theorem Reaches.abort_restores (reaches : Reaches ready history lineage)
    (aborted : (lineage.step (.abort token)).1 = .done) :
    ∃ prior, BeganFrom ready history token prior ∧
      (lineage.step (.abort token)).2.state = .ready prior := by
  have effect := lineage.step_effect (.abort token)
  rw [aborted] at effect
  generalize (lineage.step (.abort token)).2 = next at effect
  cases effect with
  | @abort pending isPending =>
    exact ⟨pending.prior, reaches.remembers.began pending.token pending.prior
      (by simp [held, isPending]) (by simp [settled, isPending]), rfl⟩

/-- The pending transaction can be aborted. -/
theorem abort_pending {pending} (isPending : lineage.state = .pending pending) :
    (lineage.step (.abort pending.token)).1 = .done := by
  simp [step, abort, pendingOf, isPending, of]

/-- A transaction which has neither ended nor been published is pending. -/
theorem Reaches.abort_succeeds (reaches : Reaches ready history lineage)
    (wasIssued : token ∈ issued history) (notEnded : token ∉ ended history)
    (unpublished : ∀ result, (Call.publishedDurable token result, done) ∉ history) :
    (lineage.step (.abort token)).1 = .done := by
  have owns := reaches.accounts.live token wasIssued notEnded
  cases isState : lineage.state with
  | ready ready | terminal cause => simp [held, isState] at owns
  | pending pending =>
    obtain rfl : pending.token = token := by simpa [held, isState] using owns
    exact abort_pending isState
  | published published =>
    obtain rfl : published.token = token := by simpa [held, isState] using owns
    obtain ⟨result, member, -⟩ := reaches.remembers.published published isState
    exact absurd member (unpublished result)

variable {epoch}

/-- A successful commit advances a tracked generation and settles the published
result. -/
theorem Reaches.commit_settles (reaches : Reaches ready history lineage)
    (committed : (lineage.step (.commitReset token epoch)).1 = .done) :
    epoch = lineage.currentDirtyEpoch.map (· + 1) ∧ ∃ result,
      (Call.publishedDurable token result, done) ∈ history ∧
        (lineage.step (.commitReset token epoch)).2.state = .ready ⟨result.base, epoch⟩ := by
  have effect := lineage.step_effect (.commitReset token epoch)
  rw [committed] at effect
  generalize (lineage.step (.commitReset token epoch)).2 = next at effect
  cases effect with
  | @commit published isPublished =>
    obtain ⟨result, member, same⟩ := reaches.remembers.published published isPublished
    refine ⟨by simp [currentDirtyEpoch, isPublished], result, member, by rw [same]⟩

variable {metadata}

/-- A differential begin names the base which holds. -/
theorem beginDiff_names {observed begun}
    (began : (lineage.step (.beginDiff observed metadata)).1 = .diffBegan begun) :
    ∃ prior, lineage.settled = some prior ∧ begun.dirtyEpoch = prior.dirtyEpoch ∧
      diffBase prior prior.dirtyEpoch metadata = .ok begun.base := by
  have effect := lineage.step_effect (.beginDiff observed metadata)
  rw [began] at effect
  generalize (lineage.step (.beginDiff observed metadata)).2 = next at effect
  cases effect with
  | @beginDiff prior token _ base isReady available based =>
    exact ⟨prior, by simp [settled, isReady], rfl, based⟩

/-- The base of a differential begin on a published result. -/
theorem diffBase_published {result : LiveSnapshotPublishedResult} {base}
    (based : diffBase ⟨result.base, epoch⟩ epoch metadata = .ok base) :
    (∀ binding, result = .nativeV2 binding → base = .image binding) ∧
      (result = .nativeV1Full → epoch = none ∧ base = .zero) := by
  cases result with
  | nativeV1Full =>
    cases epoch with
    | none => simp_all [diffBase, LiveSnapshotPublishedResult.base]
    | some epoch => simp [diffBase, LiveSnapshotPublishedResult.base] at based
  | nativeV2 binding =>
    cases metadata with
    | true =>
      obtain rfl : SnapshotV2DiffBase.image binding = base := Except.ok.inj based
      simp
    | false => cases based

end

/-- The lineage contract, over every history of calls with arbitrary tokens. No token is issued
twice, and each ends at most once. The pending transaction can be aborted, which restores the
lineage before its begin. A commit advances a tracked generation by one, keeps an untracked one
untracked, and settles the published result, which the next differential begin then names. A
failed call changes nothing, unless it is one which ends the lineage. A terminal lineage refuses
every call and stays as it is. -/
theorem lineage_contract {ready : ReadyLineage} {history : List Entry}
    {lineage : LiveSnapshotLineage} (reaches : Reaches ready history lineage) :
    ((issued history).Nodup ∧ (ended history).Nodup ∧
      ∀ token ∈ ended history, token ∈ issued history) ∧
    (∀ pending, lineage.state = .pending pending →
      (lineage.step (.abort pending.token)).1 = .done) ∧
    (∀ token ∈ issued history, token ∉ ended history →
      (∀ result, (Call.publishedDurable token result, done) ∉ history) →
      (lineage.step (.abort token)).1 = .done) ∧
    (∀ token, (lineage.step (.abort token)).1 = .done →
      ∃ later entry earlier before, history = later ++ entry :: earlier ∧
        Entry.issued entry = some token ∧ Reaches ready earlier before ∧
        (lineage.step (.abort token)).2.state = before.state) ∧
    (∀ token epoch, (lineage.step (.commitReset token epoch)).1 = .done →
      epoch = lineage.currentDirtyEpoch.map (· + 1) ∧ ∃ result,
        (Call.publishedDurable token result, done) ∈ history ∧
        (lineage.step (.commitReset token epoch)).2.state = .ready ⟨result.base, epoch⟩) ∧
    (∀ later token epoch earlier, history = later ++ (.commitReset token epoch, .done) :: earlier →
      (∀ other otherEpoch, (Call.commitReset other otherEpoch, done) ∉ later) →
      ∀ observed metadata begun,
        (lineage.step (.beginDiff observed metadata)).1 = .diffBegan begun →
        begun.dirtyEpoch = epoch ∧ ∃ result, (Call.publishedDurable token result, done) ∈ earlier ∧
          (∀ binding, result = .nativeV2 binding → begun.base = .image binding) ∧
          (result = .nativeV1Full → epoch = none ∧ begun.base = .zero)) ∧
    (∀ call error, (lineage.step call).1 = .failed error → (lineage.step call).2 = lineage ∨
      (lineage.step call).2.Terminal ∧ ∃ token, lineage.held = some token ∧
        Entry.fate (call, .failed error) = some (token, .terminal)) ∧
    (lineage.Terminal → ∀ call, lineage.step call = (.failed .terminal, lineage)) := by
  have accounts := reaches.accounts
  refine ⟨⟨?_, accounts.once, accounts.known⟩, fun _ => abort_pending,
    fun _ => reaches.abort_succeeds, fun token aborted => ?_,
    fun token epoch committed => reaches.commit_settles committed, ?_,
    fun call error failed => ?_, fun terminal call => ?_⟩
  · apply accounts.ascending.imp
    rintro newer older below rfl
    exact Nat.lt_irrefl _ below
  · obtain ⟨prior, ⟨later, entry, earlier, before, split, issues, reachesBefore, wasReady⟩, restored⟩ :=
      reaches.abort_restores aborted
    exact ⟨later, entry, earlier, before, split, issues, reachesBefore, by rw [restored, wasReady]⟩
  · rintro later token epoch earlier rfl uncommitted observed metadata begun began
    obtain ⟨prior, holds, sameEpoch, based⟩ := beginDiff_names began
    obtain ⟨before, reachesBefore, committed, since⟩ := reaches.settled_since uncommitted
    obtain ⟨-, result, member, settles⟩ := reachesBefore.commit_settles committed.symm
    have same : prior = ⟨result.base, epoch⟩ := by
      rcases since with kept | gone
      · rw [holds, settled, settles] at kept
        exact Option.some.inj kept
      · simp [holds] at gone
    subst same
    exact ⟨sameEpoch, result, member, diffBase_published based⟩
  · have effect := lineage.step_effect call
    rw [failed] at effect
    generalize (lineage.step call).2 = next at effect
    cases effect with
    | @ambiguous _ _ token cause owner ends => exact .inr ⟨⟨cause, rfl⟩, token, owner, ends⟩
    | refused endless refusal => exact .inl rfl
  · obtain ⟨refused, same⟩ := (lineage.step_effect call).of_terminal terminal
    exact Prod.ext refused same

/-- A full publication of a session, up to its dirty reset. -/
def publishedFull (ready : ReadyLineage) : LiveSnapshotLineage :=
  (((fromReady ready).step (.beginFull ready.dirtyEpoch)).2.step
    (.publishedDurable ⟨1⟩ .nativeV1Full)).2

theorem publishedFull_reaches (ready) : ∃ history,
    Reaches ready history (publishedFull ready) :=
  ⟨_, .step (.step .start (.beginFull ready.dirtyEpoch)) (.publishedDurable ⟨1⟩ .nativeV1Full)⟩

/-- A session which has begun its first full snapshot. -/
def begunFull (ready : ReadyLineage) : LiveSnapshotLineage :=
  ((fromReady ready).step (.beginFull ready.dirtyEpoch)).2

theorem lineage_contract_tracked : ∃ history,
    Reaches ⟨.zero, some 4⟩ history (publishedFull ⟨.zero, some 4⟩) ∧ (issued history).Nodup ∧
      ((publishedFull ⟨.zero, some 4⟩).step (.commitReset ⟨1⟩ (some 5))).1 = .done ∧
      some 5 = (publishedFull ⟨.zero, some 4⟩).currentDirtyEpoch.map (· + 1) ∧
      ((begunFull ⟨.zero, some 4⟩).step (.abort ⟨1⟩)).1 = .done := by
  obtain ⟨history, reaches⟩ := publishedFull_reaches ⟨.zero, some 4⟩
  have committed : ((publishedFull ⟨.zero, some 4⟩).step (.commitReset ⟨1⟩ (some 5))).1 = .done := by
    decide
  obtain ⟨⟨distinct, -⟩, -, -, -, commits, -⟩ := lineage_contract reaches
  have began : Reaches ⟨.zero, some 4⟩ _ (begunFull ⟨.zero, some 4⟩) :=
    .step .start (.beginFull (some 4))
  obtain ⟨-, aborts, -⟩ := lineage_contract began
  exact ⟨history, reaches, distinct, committed, (commits ⟨1⟩ (some 5) committed).1,
    aborts ⟨⟨1⟩, .full, ⟨.zero, some 4⟩⟩ rfl⟩

/-- A commit of an untracked lineage advances no generation, and the next
differential begin does not name the full result which it committed. -/
theorem untracked_commit :
    (∃ history, Reaches ⟨.unavailable, none⟩ history (publishedFull ⟨.unavailable, none⟩)) ∧
    ((publishedFull ⟨.unavailable, none⟩).step (.commitReset ⟨1⟩ none)).1 = .done ∧
    (¬ ∃ epoch, (publishedFull ⟨.unavailable, none⟩).currentDirtyEpoch = some epoch ∧
      ((publishedFull ⟨.unavailable, none⟩).step (.commitReset ⟨1⟩ none)).2.currentDirtyEpoch =
        some (epoch + 1)) ∧
    (((publishedFull ⟨.unavailable, none⟩).step (.commitReset ⟨1⟩ none)).2.step
      (.beginDiff none true)).1 = .diffBegan ⟨⟨2⟩, .zero, none⟩ := by
  refine ⟨publishedFull_reaches _, by decide, ?_, by decide⟩
  rintro ⟨epoch, tracked, -⟩
  cases tracked

end LiveSnapshotLineage
end Bangbang.Snapshot
