import Bangbang.Pmem.Flush

/-!
# What a flush request is told

A dispatch is a sequence of rounds, one for each chain which it pops: a malformed chain is
completed without a status, a request is answered with what the host said when it was asked, which
happens once in a dispatch. `Ledger` relates guest memory, the requests published so far and the
stores which are durable; neither the guest nor a store of the device can break it. What the device
stores to guest memory is, round by round, the status of the request and the element of the used
ring (`PmemRound.stores`), and nothing else.
-/

namespace Bangbang.Pmem

open Amid List
open Bangbang.Action (mapError attempt check)
open Memory RateLimit Virtio

section

/-- What a dispatch does with one chain. A request may make the host synchronise the file, when so
many requests are `offered`, and its status is `written` unless guest memory refuses it. -/
inductive PmemRound where
  | malformed (slot : UInt16) (chain : VirtqueueDescriptorChain) (error : VirtioPmemRequestError)
  | answered (slot : UInt16) (chain : VirtqueueDescriptorChain) (offered : Option Nat)
      (status : VirtioPmemFlushStatus) (written : Bool)
deriving DecidableEq, Repr

/-- Where the guest expects the status: the second descriptor of the chain. -/
def statusAddress (chain : VirtqueueDescriptorChain) : Nat :=
  (chain.descriptors[1]?.map VirtqueueDescriptor.address).getD 0

/-- What the guest reads there: 0 for success, -1 for failure. -/
def answerBytes : VirtioPmemFlushStatus → List UInt8
  | .success => [0, 0, 0, 0]
  | .failure => [0xff, 0xff, 0xff, 0xff]

/-- A used ring with some more elements. -/
def usedAfter (used : VirtqueueUsedRing) (elements : Nat) : VirtqueueUsedRing :=
  { used with nextUsed := counter used.nextUsed elements }

namespace PmemRound

/-- The slot of the available ring. -/
def slot : PmemRound → UInt16
  | malformed slot _ _ => slot
  | answered slot _ _ _ _ => slot

/-- The chain which was popped. -/
def chain : PmemRound → VirtqueueDescriptorChain
  | malformed _ chain _ => chain
  | answered _ chain _ _ _ => chain

/-- The flush which a round asked for. -/
def flush : PmemRound → Option (Nat × VirtioPmemFlushStatus)
  | malformed _ _ _ => none
  | answered _ _ offered status _ => offered.map (·, status)

/-- Everything before the chain is completed. -/
def opening : PmemRound → List PmemEvent
  | malformed slot chain error => [.popped slot chain, .rejected error]
  | answered slot chain offered status written =>
    .popped slot chain :: (offered.toList.map (.flushed · status) ++
      if written then [.statusWritten status] else [])

/-- The length with which the chain is completed. -/
def bytesWritten : PmemRound → UInt32
  | malformed _ _ _ => 0
  | answered _ _ _ _ written => if written then 4 else 0

/-- The chain is returned to the guest. -/
def completion (round : PmemRound) : PmemEvent := .used round.chain.headIndex round.bytesWritten

/-- The events of a round in order. -/
def events (round : PmemRound) : List PmemEvent := round.opening ++ [round.completion]

/-- The store of the status, by which a request is answered. -/
def statusStores : PmemRound → List (Nat × List UInt8)
  | malformed _ _ _ => []
  | answered _ chain _ status written =>
    if written then [(statusAddress chain, answerBytes status)] else []

/-- The store of the element which completes the chain. -/
def elementStore (used : VirtqueueUsedRing) (round : PmemRound) : Nat × List UInt8 :=
  used.elementStore round.chain.headIndex round.bytesWritten

/-- The stores of the device in a round: the status, the element, and the index of the ring. -/
def stores (used : VirtqueueUsedRing) (round : PmemRound) : List (Nat × List UInt8) :=
  round.statusStores ++ [round.elementStore used, used.indexStore]

/-- The stores of the device in some rounds, each of which takes the next element of the ring. -/
def storesOf (used : VirtqueueUsedRing) (rounds : List PmemRound) : List (Nat × List UInt8) :=
  rounds.zipIdx.flatMap fun (round, index) => round.stores (usedAfter used index)

theorem storesOf_snoc (used rounds round) : storesOf used (rounds ++ [round]) =
    storesOf used rounds ++ round.stores (usedAfter used rounds.length) := by
  simp [storesOf, List.zipIdx_append]

end PmemRound

/-- The rounds of one dispatch: they take the slots of the ring in order, at most one of them
flushes, and every status is what the host answered. -/
structure Orderly (first : UInt16) (flush : Option (Nat × VirtioPmemFlushStatus))
    (rounds : List PmemRound) : Prop where
  slots : ∀ index round, rounds[index]? = some round → round.slot = counter first index
  once : rounds.filterMap PmemRound.flush = flush.toList
  answers : ∀ slot chain offered status written,
    PmemRound.answered slot chain offered status written ∈ rounds →
      ∃ began, flush = some (began, status)
  began : ∀ index slot chain offered status written,
    rounds[index]? = some (PmemRound.answered slot chain (some offered) status written) →
      index < offered

variable {first : UInt16} {flush : Option (Nat × VirtioPmemFlushStatus)} {rounds : List PmemRound}

theorem Orderly.nil : Orderly first none [] where
  slots _ _ found := by simp at found
  once := rfl
  answers _ _ _ _ _ member := by simp at member
  began _ _ _ _ _ _ found := by simp at found

/-- A position of a list with one more element. -/
theorem getElem?_snoc {α : Type} {items : List α} {item found : α} {index : Nat}
    (located : (items ++ [item])[index]? = some found) :
    items[index]? = some found ∨ index = items.length ∧ item = found := by
  rcases Nat.lt_trichotomy index items.length with inside | here | beyond
  · exact .inl (by rwa [getElem?_append_left inside] at located)
  · subst here
    exact .inr ⟨rfl, by simpa using located⟩
  · rw [getElem?_eq_none (by simp; omega)] at located
    cases located

/-- One more round, whose status is the host's answer. -/
theorem Orderly.snoc {next : Option (Nat × VirtioPmemFlushStatus)} {round : PmemRound}
    (orderly : Orderly first flush rounds) (slot : round.slot = counter first rounds.length)
    (once : (rounds ++ [round]).filterMap PmemRound.flush = next.toList)
    (kept : flush.isSome → next = flush)
    (here : ∀ slot chain offered status written, round = .answered slot chain offered status written →
      (∃ began, next = some (began, status)) ∧ ∀ count ∈ offered, rounds.length < count) :
    Orderly first next (rounds ++ [round]) where
  slots index found located := by
    rcases getElem?_snoc located with earlier | ⟨rfl, rfl⟩
    · exact orderly.slots _ _ earlier
    · exact slot
  once := once
  answers slot chain offered status written member := by
    rcases mem_append.mp member with earlier | last
    · obtain ⟨began, answered⟩ := orderly.answers _ _ _ _ _ earlier
      exact ⟨began, by rw [kept (by rw [answered]; rfl), answered]⟩
    · exact (here _ _ _ _ _ (mem_singleton.mp last).symm).1
  began index slot chain offered status written located := by
    rcases getElem?_snoc located with earlier | ⟨rfl, last⟩
    · exact orderly.began _ _ _ _ _ _ earlier
    · exact (here _ _ _ _ _ last).2 offered rfl

/-- A malformed request keeps the rounds in order. -/
theorem Orderly.malformed (orderly : Orderly first flush rounds) (chain error) :
    Orderly first flush
      (rounds ++ [.malformed (counter first rounds.length) chain error]) :=
  orderly.snoc rfl (by simp [PmemRound.flush, orderly.once]) (fun _ => rfl) (by simp)

variable {status : VirtioPmemFlushStatus}

/-- A request which is answered with what the host said before. -/
theorem Orderly.kept {began} (orderly : Orderly first (some (began, status)) rounds)
    (chain written) :
    Orderly first (some (began, status))
      (rounds ++ [.answered (counter first rounds.length) chain none status written]) :=
  orderly.snoc rfl (by simp [PmemRound.flush, orderly.once]) (fun _ => rfl) (by
    rintro _ _ _ _ _ ⟨⟩
    exact ⟨⟨began, rfl⟩, by simp⟩)

/-- The first request makes the host flush. -/
theorem Orderly.flushed (orderly : Orderly first none rounds) {offered}
    (popped : rounds.length < offered) (chain status written) :
    Orderly first (some (offered, status))
      (rounds ++ [.answered (counter first rounds.length) chain (some offered) status written]) :=
  orderly.snoc rfl (by simp [PmemRound.flush, orderly.once]) (by simp) (by
    rintro _ _ _ _ _ ⟨⟩
    exact ⟨⟨offered, rfl⟩, by simp [popped]⟩)

/-- The host's answer is the one kept, or a new one, asked for with `began` requests offered. -/
def Obtains (flush : Option (Nat × VirtioPmemFlushStatus)) (popped : Nat) (offered : Option Nat)
    (began : Nat) (status : VirtioPmemFlushStatus) : Prop :=
  flush = some (began, status) ∧ offered = none ∨
    flush = none ∧ offered = some began ∧ popped ≤ began

/-- An answered request keeps the rounds in order. -/
theorem Orderly.answered {offered began} (orderly : Orderly first flush rounds)
    (obtains : Obtains flush (rounds.length + 1) offered began status) (chain written) :
    Orderly first (some (began, status))
      (rounds ++ [.answered (counter first rounds.length) chain offered status written]) := by
  rcases obtains with ⟨rfl, rfl⟩ | ⟨rfl, rfl, popped⟩
  · exact orderly.kept chain written
  · exact orderly.flushed popped chain status written

end

open PmemRound

/-- What a dispatch starts from, with the host's answers. -/
structure Course where
  before : PmemMachine
  host : Host
  queue : VirtioPmemQueue

abbrev Course.ring (course : Course) : VirtqueueAvailableRing := course.queue.available

variable {course : Course}

section
variable {popped : Nat} {flush : Option (Nat × VirtioPmemFlushStatus)} {machine next : PmemMachine}

/-- The stores which were made before the request in this position was published are durable. -/
def PmemMachine.Covers (machine : PmemMachine) (index : Nat) : Prop :=
  ∃ stores, machine.published[index]? = some stores ∧ stores ≤ machine.durable

/-- The index of the ring counts the published requests, the device has popped no more than
those, and a successful flush covers the requests which were offered when it began. -/
structure Ledger (course : Course) (popped : Nat) (flush : Option (Nat × VirtioPmemFlushStatus))
    (machine : PmemMachine) : Prop where
  index : availableIndexOf course.ring machine.memory =
    counter course.ring.nextAvail machine.published.length
  grown : course.before.published <+: machine.published
  outstanding : popped ≤ machine.published.length
  earlier : ∀ stores ∈ machine.published, stores ≤ machine.stores
  covered : ∀ offered, flush = some (offered, .success) → ∀ index < offered, machine.Covers index

theorem PmemMachine.Covers.write {index} (covers : machine.Covers index) (memory) :
    ((pmemView course.ring).write machine memory).Covers index := by
  obtain ⟨stores, found, durable⟩ := covers
  have inside : index < machine.published.length := (List.getElem?_eq_some_iff.mp found).1
  exact ⟨stores, (List.getElem?_append_left inside).trans found, durable⟩

theorem counter_add (start steps more) :
    counter start (steps + more) = counter start steps + UInt16.ofNat more := by
  rw [counter, counter, UInt16.ofNat_add, UInt16.add_assoc]

section
variable (ledger : Ledger course popped flush machine)
include ledger

theorem Ledger.write (memory) :
    Ledger course popped flush ((pmemView course.ring).write machine memory) where
  index := by
    simp only [pmemView, length_append, length_replicate, counter_add,
      UInt16.ofNat_toNat, ← ledger.index]
    rw [UInt16.add_comm, UInt16.sub_add_cancel]
  grown := ledger.grown.trans (prefix_append _ _)
  outstanding := by
    simp only [pmemView, length_append]
    exact Nat.le_add_right_of_le ledger.outstanding
  earlier stores member := by
    simp only [pmemView, mem_append, mem_replicate] at member
    rcases member with member | ⟨-, rfl⟩
    · exact ledger.earlier stores member
    · exact Nat.le_refl _
  covered offered isFlush index inside := (ledger.covered offered isFlush index inside).write memory

theorem Ledger.store :
    Ledger course popped flush { machine with stores := machine.stores + 1 } :=
  { ledger with earlier := fun stores member => Nat.le_succ_of_le (ledger.earlier stores member) }

/-- The guest may take any step. -/
theorem Ledger.guestSteps (steps : GuestSteps course.ring machine next) :
    Ledger course popped flush next := by
  induction steps with
  | refl => exact ledger
  | tail _ step ih =>
    cases step with
    | store => exact ih.store
    | write bytes address => exact ih.write _

end

/-- The guest takes back nothing which it published, and what the device did is out of its
reach. -/
theorem GuestSteps.kept (steps : GuestSteps course.ring machine next) :
    machine.published <+: next.published ∧ next.deviceStores = machine.deviceStores ∧
      next.flushes = machine.flushes := by
  induction steps with
  | refl => exact ⟨prefix_refl _, rfl, rfl⟩
  | tail _ step ih =>
    cases step with
    | store => exact ih
    | write bytes address => exact ⟨ih.1.trans (prefix_append _ _), ih.2⟩

/-- What is asserted between the accesses of a dispatch. A flush is the only one of the dispatch,
and its status is what the host answered. -/
structure At (course : Course) (popped : Nat) (flush : Option (Nat × VirtioPmemFlushStatus))
    (log : List PmemEvent) (stores : List (Nat × List UInt8)) (machine : PmemMachine)
    (own : PmemOwn) : Prop where
  log : own.log = log
  stores : machine.deviceStores = course.before.deviceStores ++ stores
  asked : machine.flushes = course.before.flushes + flush.toList.length
  told : ∀ offered status, flush = some (offered, status) →
    status = course.host course.before.flushes
  ledger : Ledger course popped flush machine

/-- What is known survives the turns of the guest, and the device's stores are recorded. -/
theorem at_records {log} :
    (pmemView course.ring).Records (GuestSteps course.ring) (At course popped flush log) where
  reflexive _ := .refl
  steady _ _ _ _ known steps := by
    obtain ⟨-, stores, flushes⟩ := GuestSteps.kept steps
    exact { known with
      stores := stores.trans known.stores
      asked := flushes.trans known.asked
      ledger := known.ledger.guestSteps steps }
  written _ _ memory _ known := { known with ledger := known.ledger.write memory }
  recorded stores machine _ address bytes known := by
    refine { known with stores := ?_, ledger := { known.ledger with } }
    simp only [pmemView, known.stores, append_assoc]

/-- What is offered has been published. -/
theorem Ledger.published_of_offered {index cursor} (ledger : Ledger course popped flush machine)
    (cursorAt : cursor = counter course.ring.nextAvail popped)
    (loaded : course.ring.loadAvailableIndex machine.memory = .ok index)
    (ahead : index - cursor ≠ 0) :
    Ledger course (popped + 1) flush machine := by
  have indexIs : index = counter course.ring.nextAvail machine.published.length := by
    rw [← ledger.index, availableIndexOf, loaded]
    rfl
  have different : popped ≠ machine.published.length := by
    intro same
    rw [indexIs, cursorAt, same, UInt16.sub_self] at ahead
    exact ahead rfl
  exact { ledger with outstanding := by have := ledger.outstanding; omega }

theorem Ledger.earlier_cursor (ledger : Ledger course (popped + 1) flush machine) :
    Ledger course popped flush machine :=
  { ledger with outstanding := Nat.le_of_succ_le ledger.outstanding }

/-- A flush which succeeds covers every request published when it began. -/
theorem Ledger.flushed {began} (ledger : Ledger course popped none began)
    (later : Ledger course popped none machine)
    (grown : began.published <+: machine.published) :
    Ledger course popped (some (began.published.length, .success))
      { machine with durable := max machine.durable began.stores } := by
  refine { later with covered := fun offered isFlush index inside => ?_ }
  obtain rfl : began.published.length = offered := by simpa using isFlush
  have found := getElem?_eq_getElem inside
  refine ⟨began.published[index], ?_, ?_⟩
  · obtain ⟨rest, grown⟩ := grown
    rw [← grown, getElem?_append_left inside, found]
  · exact le_max_of_le_right (ledger.earlier _ (getElem_mem inside))

end

section
variable {popped : Nat} {ε : Type} {flush : Option (Nat × VirtioPmemFlushStatus)}
  {log : List PmemEvent} {stores : List (Nat × List UInt8)}
  {fails : ε → PmemMachine → PmemOwn → Prop}

/-- An event is logged. -/
theorem logEvent_amid (event) :
    Amid (GuestSteps course.ring) (At course popped flush log stores)
      (logEvent event : PmemAction ε Unit)
      (fun _ => At course popped flush (log ++ [event]) stores) fails :=
  .note fun _ _ known => { known with log := by rw [known.log] }

/-- Whatever is said about the log holds when the device has changed. -/
theorem setActiveQueue_amid {holds : PmemMachine → PmemOwn → Prop} (queue)
    (ofLog : ∀ machine own device, holds machine own → holds machine { own with device }) :
    Amid (GuestSteps course.ring) holds (setActiveQueue queue : PmemAction ε Unit)
      (fun _ => holds) fails :=
  .note fun _ _ known => ofLog _ _ _ known

/-- A request is that of its chain, with the address where the guest expects the status. -/
def RequestOf (chain : VirtqueueDescriptorChain) (request : VirtioPmemRequest) : Prop :=
  request.descriptorHead = chain.headIndex ∧ request.status.address = statusAddress chain

theorem validateStatusDescriptor_address {descriptor status}
    (valid : validateStatusDescriptor descriptor = .ok status) :
    status.address = descriptor.address := by
  simp only [validateStatusDescriptor, bind_eq_ok, pure_eq_ok] at valid
  obtain ⟨_, -, _, -, rfl⟩ := valid
  rfl

/-- A chain which parses is the request of that chain. -/
theorem parse_minds (chain) :
    Minds (GuestSteps course.ring) (At course popped flush log stores)
      (VirtioPmemRequest.parse (pmemView course.ring) chain) (RequestOf chain) := by
  refine (Minds.check fun _ _ => trivial).bind fun request _ => ?_
  refine (Minds.check fun _ _ => trivial).bind fun _ _ => ?_
  have reads : Minds (GuestSteps course.ring) (At course popped flush log stores)
      (readVirtioPmemRequestType (pmemView course.ring) request) fun _ => True :=
    (at_records.kept stores).looks.mapError.bind fun bytes _ => .pure trivial
  refine reads.bind fun requestType _ => ?_
  refine (Minds.check fun _ _ => trivial).bind fun _ _ => ?_
  refine (Minds.check fun _ found => found).bind fun second found => ?_
  refine (Minds.check fun _ valid => valid).bind fun status valid => .pure ⟨rfl, ?_⟩
  rw [descriptorAt, okOr_eq_ok] at found
  rw [statusAddress, found]
  exact validateStatusDescriptor_address valid

theorem statusBytes_statusCode (status : VirtioPmemFlushStatus) :
    statusBytes status.statusCode = answerBytes status := by
  cases status <;> decide

/-- The status is written, or the chain is completed without one. -/
theorem execute_amid (request : VirtioPmemRequest) (status : VirtioPmemFlushStatus) :
    Amid (GuestSteps course.ring) (At course popped flush log stores)
      (request.execute (pmemView course.ring) status : PmemAction ε VirtioPmemRequestExecution)
      (fun execution machine own => ∃ written : Bool,
        execution.completion = ⟨request.descriptorHead, if written then 4 else 0⟩ ∧
        At course popped flush (log ++ if written then [.statusWritten status] else [])
          (stores ++ if written then [(request.status.address, answerBytes status)] else [])
          machine own)
      fails := by
  rw [VirtioPmemRequest.execute, statusBytes_statusCode]
  refine attempt_bind (at_records.store stores _ _) (fun _ => ?_) fun source => ?_
  · exact (logEvent_amid _).bind fun _ => .pure fun _ _ known => ⟨true, rfl, known⟩
  · exact .pure fun _ _ known => ⟨false, rfl, by simpa using known⟩

/-- The host has been asked when the machine was `began`, and has not answered yet. -/
structure Asked (course : Course) (popped : Nat) (log : List PmemEvent)
    (stores : List (Nat × List UInt8)) (began machine : PmemMachine) (own : PmemOwn) : Prop where
  begins : At course popped none log stores began own
  grown : began.published <+: machine.published
  same : machine.deviceStores = began.deviceStores
  flushes : machine.flushes = began.flushes + 1
  ledger : Ledger course popped none machine

theorem Asked.answered {began machine own}
    (asked : Asked course popped log stores began machine own) :
    At course popped (some (began.published.length, course.host began.flushes)) log stores
      (match course.host began.flushes with
      | .success => { machine with durable := max machine.durable began.stores }
      | .failure => machine) own := by
  have first : began.flushes = course.before.flushes := asked.begins.asked
  have same := asked.same.trans asked.begins.stores
  have flushes := asked.flushes.trans (congrArg (· + 1) first)
  have told : ∀ offered said, some (began.published.length, course.host began.flushes) =
      some (offered, said) → said = course.host course.before.flushes := by
    rintro _ _ ⟨⟩
    rw [first]
  cases answers : course.host began.flushes with
  | success =>
    exact ⟨asked.begins.log, same, flushes, answers ▸ told,
      asked.begins.ledger.flushed asked.ledger asked.grown⟩
  | failure =>
    exact ⟨asked.begins.log, same, flushes, answers ▸ told,
      { asked.ledger with covered := fun _ impossible => by simp at impossible }⟩

/-- A flush covers what had been published when it began. -/
theorem flush_amid :
    Amid (GuestSteps course.ring) (At course popped none log stores)
      (Pmem.flush course.host : PmemAction ε VirtioPmemFlushStatus)
      (fun status machine own => ∃ offered, popped ≤ offered ∧
        At course popped (some (offered, status)) (log ++ [.flushed offered status]) stores
          machine own)
      fails := by
  have begins : Amid (GuestSteps course.ring) (At course popped none log stores)
      (access fun machine => (machine, { machine with flushes := machine.flushes + 1 }) :
        PmemAction ε PmemMachine)
      (Asked course popped log stores) fails := by
    refine .access (fun _ => .refl) fun machine own next known steps => ?_
    have later := at_records.steady _ _ _ _ known steps
    exact ⟨later, prefix_refl _, rfl, rfl, { later.ledger with }⟩
  refine begins.bind fun began => ?_
  have ends : Amid (GuestSteps course.ring) (Asked course popped log stores began)
      (access fun machine => ((), match course.host began.flushes with
        | .success => { machine with durable := max machine.durable began.stores }
        | .failure => machine) : PmemAction ε Unit)
      (fun _ machine own => popped ≤ began.published.length ∧
        At course popped (some (began.published.length, course.host began.flushes)) log stores
          machine own) fails := by
    refine .access (fun _ => .refl) fun machine own next asked steps => ?_
    obtain ⟨grown, stores, flushes⟩ := GuestSteps.kept steps
    have later : Asked course popped log _ began next own := ⟨asked.begins,
      asked.grown.trans grown, stores.trans asked.same, flushes.trans asked.flushes,
      asked.ledger.guestSteps steps⟩
    exact ⟨asked.begins.ledger.outstanding, later.answered⟩
  refine ends.bind fun _ => and_pre fun offered => ?_
  exact (logEvent_amid _).bind fun _ => .pure fun _ _ known => ⟨_, offered, known⟩

/-- A flush is made once in a pass, and its status kept. -/
theorem flushStatusOf_amid :
    Amid (GuestSteps course.ring) (At course popped flush log stores)
      (flushStatusOf course.host (flush.map Prod.snd) : PmemAction ε VirtioPmemFlushStatus)
      (fun status machine own => ∃ offered began, Obtains flush popped offered began status ∧
        At course popped (some (began, status)) (log ++ offered.toList.map (.flushed · status))
          stores machine own)
      fails := by
  cases flush with
  | none =>
    refine flush_amid.weaken (fun _ _ => id) ?_ fun _ _ _ => id
    exact fun status machine own ⟨offered, ahead, known⟩ =>
      ⟨some offered, offered, .inr ⟨rfl, rfl, ahead⟩, known⟩
  | some kept =>
    exact .pure fun _ _ known => ⟨none, kept.1, .inl ⟨rfl, rfl⟩, by simpa using known⟩

/-- The completed rounds of a dispatch, the flush they share, and a round which is not completed
yet, whose completion may have begun. -/
def Reaches (course : Course) (rounds : List PmemRound) (last : Option PmemRound)
    (cached : Option VirtioPmemFlushStatus) (begun : List (Nat × List UInt8))
    (machine : PmemMachine) (own : PmemOwn) : Prop :=
  ∃ flush, flush.map Prod.snd = cached ∧
    Orderly course.ring.nextAvail flush (rounds ++ last.toList) ∧
    At course (rounds ++ last.toList).length flush
      (rounds.flatMap PmemRound.events ++ last.toList.flatMap PmemRound.opening)
      (storesOf course.queue.used rounds ++ last.toList.flatMap statusStores ++ begun) machine own

variable {rounds : List PmemRound} {cached : Option VirtioPmemFlushStatus}

theorem reaches_records {last} :
    (pmemView course.ring).Records (GuestSteps course.ring)
      (Reaches course rounds last cached) where
  reflexive _ := .refl
  steady _ _ _ _ known steps := by
    obtain ⟨flush, isCached, orderly, known⟩ := known
    exact ⟨flush, isCached, orderly, at_records.steady _ _ _ _ known steps⟩
  written _ _ memory _ known := by
    obtain ⟨flush, isCached, orderly, known⟩ := known
    exact ⟨flush, isCached, orderly, at_records.written _ _ memory _ known⟩
  recorded _ _ _ address bytes known := by
    obtain ⟨flush, isCached, orderly, known⟩ := known
    refine ⟨flush, isCached, orderly, ?_⟩
    rw [← append_assoc]
    exact at_records.recorded _ _ _ address bytes known

theorem reaches_nil {machine own} (known : At course 0 none [] [] machine own) :
    Reaches course [] none none [] machine own :=
  ⟨none, rfl, .nil, known⟩

/-- What a dispatch has reached is not about the device's own state. -/
theorem Reaches.device {last begun machine own}
    (reaches : Reaches course rounds last cached begun machine own) (device) :
    Reaches course rounds last cached begun machine { own with device } := by
  obtain ⟨flush, isCached, orderly, known⟩ := reaches
  exact ⟨flush, isCached, orderly, { known with }⟩

/-- The completion of the last round. -/
theorem Reaches.completed {last machine own}
    (reaches : Reaches course rounds (some last) cached
      [last.elementStore (usedAfter course.queue.used rounds.length),
        (usedAfter course.queue.used rounds.length).indexStore] machine own) :
    Reaches course (rounds ++ [last]) none cached [] machine
      { own with log := own.log ++ [last.completion] } := by
  obtain ⟨flush, isCached, orderly, known⟩ := reaches
  refine ⟨flush, isCached, by simpa using orderly, ?_⟩
  refine ⟨?_, ?_, known.asked, known.told, by simpa using known.ledger⟩
  · simp [known.log, events]
  · simp [known.stores, storesOf_snoc, PmemRound.stores]

variable {flush : Option (Nat × VirtioPmemFlushStatus)}

/-- A popped chain is answered, and only its completion is left. -/
theorem answer_amid {chain} (orderly : Orderly course.ring.nextAvail flush rounds)
    (parsed : Except VirtioPmemRequestError VirtioPmemRequest)
    (ofChain : ∀ request, parsed = .ok request → RequestOf chain request) :
    Amid (GuestSteps course.ring)
      (At course (rounds.length + 1) flush (rounds.flatMap PmemRound.events ++
        [.popped (counter course.ring.nextAvail rounds.length) chain])
        (storesOf course.queue.used rounds))
      (answer (pmemView course.ring) course.host chain.headIndex (flush.map Prod.snd) parsed :
        PmemAction ε PmemAnswer)
      (fun answered machine own => ∃ last : PmemRound,
        answered.completion = ⟨last.chain.headIndex, last.bytesWritten⟩ ∧
        Reaches course rounds (some last) answered.cachedFlushStatus [] machine own)
      fails := by
  cases parsed with
  | error source =>
    refine (logEvent_amid _).bind fun _ => .pure fun machine own known => ?_
    refine ⟨.malformed (counter course.ring.nextAvail rounds.length) chain source, rfl, flush, rfl,
      orderly.malformed chain source, ?_⟩
    simpa [opening, statusStores] using known
  | ok request =>
    obtain ⟨sameHead, sameAddress⟩ := ofChain request rfl
    refine flushStatusOf_amid.bind fun status => exists_pre fun offered =>
      exists_pre fun began => and_pre fun obtains => ?_
    refine (execute_amid request status).bind fun execution => exists_pre fun written =>
      and_pre fun isCompletion => .pure fun machine own known => ?_
    refine ⟨.answered (counter course.ring.nextAvail rounds.length) chain offered status written,
      ?_, some (began, status), rfl, orderly.answered obtains chain written, ?_⟩
    · rw [isCompletion, sameHead]
      rfl
    · rw [sameAddress] at known
      simpa [opening, statusStores] using known

/-- Only a failed publication leaves a chain without its completion. -/
def IsUsedRing : VirtioPmemQueueDispatchError → Prop
  | .usedRing _ _ _ _ => True
  | _ => False

section
variable (course : Course) (rounds : List PmemRound)

/-- What one more round brings, from a chain which is popped. -/
def Serves (pass served : PmemPass) (machine : PmemMachine) (own : PmemOwn) : Prop :=
  ∃ round, (served.queue.available = pass.queue.available ∧
    served.queue.used = usedAfter course.queue.used (rounds.length + 1) ∧
    served.dispatch.rateLimiterThrottledEvents = pass.dispatch.rateLimiterThrottledEvents) ∧
    Reaches course (rounds ++ [round]) none served.cachedFlushStatus [] machine own

/-- What is left of a round which could not be completed: the used ring may have its element, and
has no index for it. -/
def Breaks (error : VirtioPmemQueueDispatchError) (machine : PmemMachine) (own : PmemOwn) : Prop :=
  IsUsedRing error ∧ ∃ last cached begun,
    begun <+: [last.elementStore (usedAfter course.queue.used rounds.length)] ∧
    Reaches course rounds (some last) cached begun machine own

end

variable {pass : PmemPass}

theorem usedAfter_succ (used elements) :
    { usedAfter used elements with nextUsed := (usedAfter used elements).nextUsed + 1 } =
      usedAfter used (elements + 1) := by
  simp only [usedAfter, counter_succ]

/-- A completed chain is published with its status. -/
theorem completeChain_amid {chain parsed} (orderly : Orderly course.ring.nextAvail flush rounds)
    (cached : flush.map Prod.snd = pass.cachedFlushStatus)
    (used : pass.queue.used = usedAfter course.queue.used rounds.length)
    (ofChain : ∀ request, parsed = .ok request → RequestOf chain request) :
    Amid (GuestSteps course.ring)
      (At course (rounds.length + 1) flush (rounds.flatMap PmemRound.events ++
        [.popped (counter course.ring.nextAvail rounds.length) chain])
        (storesOf course.queue.used rounds))
      (completeChain (pmemView course.ring) course.host pass chain.headIndex parsed)
      (Serves course rounds pass) (Breaks course rounds) := by
  rw [completeChain, ← cached]
  refine (answer_amid orderly parsed ofChain).bind fun answered => exists_pre fun last =>
    and_pre fun isCompletion => ?_
  simp only [isCompletion]
  have publishes : Amid (GuestSteps course.ring)
      (Reaches course rounds (some last) answered.cachedFlushStatus [])
      ((pmemView course.ring).publishUsedElementWithNotification pass.queue.used
        last.chain.headIndex last.bytesWritten .disabled) _ _ :=
    reaches_records.publishUsedElement pass.queue.used _ _
  rw [used] at publishes ⊢
  simp only [nil_append, usedAfter_succ] at publishes
  refine bind (mapError (publishes.weaken (fun _ _ => id) (fun _ _ _ => id)
    fun _ _ _ ⟨begun, isPrefix, known⟩ => ⟨trivial, last, _, begun, isPrefix, known⟩))
    fun published => and_pre fun isNext => ?_
  have completes : Amid (GuestSteps course.ring) _
      (logEvent (.used last.chain.headIndex last.bytesWritten))
      (fun _ => Reaches course (rounds ++ [last]) none answered.cachedFlushStatus [])
      (Breaks course rounds) :=
    .note fun _ _ known => Reaches.completed known
  refine completes.bind fun _ => ?_
  refine (setActiveQueue_amid _ fun _ _ device known => known.device device).bind fun _ => ?_
  exact .pure fun _ _ known => ⟨last, ⟨rfl, isNext, by simp⟩, known⟩

/-- A popped chain is served. -/
theorem serveChain_amid {chain} (orderly : Orderly course.ring.nextAvail flush rounds)
    (nonempty : chain.descriptors ≠ []) (cached : flush.map Prod.snd = pass.cachedFlushStatus)
    (used : pass.queue.used = usedAfter course.queue.used rounds.length) :
    Amid (GuestSteps course.ring)
      (At course (rounds.length + 1) flush (rounds.flatMap PmemRound.events ++
        [.popped (counter course.ring.nextAvail rounds.length) chain])
        (storesOf course.queue.used rounds))
      (serveChain (pmemView course.ring) course.host pass chain)
      (Serves course rounds pass) (Breaks course rounds) := by
  have isHead : descriptorChainHead chain = some chain.headIndex := by
    simp [descriptorChainHead, nonempty]
  rw [serveChain, isHead]
  refine .check_bind (fun head isOk => ?_) fun _ _ _ impossible => by simp [okOr] at impossible
  obtain rfl : chain.headIndex = head := Except.ok.inj isOk
  refine attempt_bind (parse_minds chain) (fun request => and_pre fun ofChain => ?_)
    fun error => ?_
  · exact completeChain_amid orderly cached used fun _ isOk => Except.ok.inj isOk ▸ ofChain
  · exact completeChain_amid orderly cached used fun _ impossible => by cases impossible

/-- The rings of a pass which has served some chains. -/
def Cursor (course : Course) (popped served : Nat) (queue : VirtioPmemQueue) : Prop :=
  (∃ canUndoPop, queue.available = { course.ring with
    nextAvail := counter course.ring.nextAvail popped, canUndoPop := canUndoPop }) ∧
  queue.used = usedAfter course.queue.used served

/-- A pop takes the next published chain. -/
theorem popChain_amid (reserved flush)
    (cursor : Cursor course rounds.length rounds.length pass.queue) :
    Amid (GuestSteps course.ring)
      (At course rounds.length flush (rounds.flatMap PmemRound.events)
        (storesOf course.queue.used rounds))
      (popChain (pmemView course.ring) pass reserved)
      (fun popped machine own => match popped with
        | none => At course rounds.length flush (rounds.flatMap PmemRound.events)
            (storesOf course.queue.used rounds) machine own
        | some (chain, next) =>
          (chain.descriptors ≠ [] ∧ Cursor course (rounds.length + 1) rounds.length next.queue ∧
            next.cachedFlushStatus = pass.cachedFlushStatus ∧ next.dispatch = pass.dispatch) ∧
          At course (rounds.length + 1) flush (rounds.flatMap PmemRound.events ++
            [.popped (counter course.ring.nextAvail rounds.length) chain])
            (storesOf course.queue.used rounds) machine own)
      fun _ => At course rounds.length flush (rounds.flatMap PmemRound.events)
        (storesOf course.queue.used rounds) := by
  obtain ⟨⟨canUndoPop, isCursor⟩, isUsed⟩ := cursor
  have finds : ∀ machine own index,
      At course rounds.length flush (rounds.flatMap events) (storesOf course.queue.used rounds)
        machine own →
      pass.queue.available.loadAvailableIndex machine.memory = .ok index →
      index - pass.queue.available.nextAvail ≠ 0 →
      At course (rounds.length + 1) flush (rounds.flatMap events)
        (storesOf course.queue.used rounds) machine own := by
    intro machine own index known loaded ahead
    rw [isCursor] at loaded ahead
    exact { known with ledger := known.ledger.published_of_offered rfl loaded ahead }
  have pops : Amid (GuestSteps course.ring) _
      ((pmemView course.ring).popDescriptorChain pass.queue.available reserved) _ _ :=
    MemoryView.popDescriptorChain_amid (at_records.kept _) (at_records.kept _)
      (fun _ _ known => { known with ledger := known.ledger.earlier_cursor }) _ _ finds
  refine bind (mapError pops) fun popped => ?_
  match popped with
  | none => exact .pure fun _ _ => id
  | some (chain, available) =>
    refine and_pre fun ⟨nonempty, isNext⟩ => ?_
    refine (logEvent_amid _).bind fun _ => ?_
    refine (setActiveQueue_amid _ fun _ _ _ known => { known with }).bind fun _ => ?_
    refine .pure fun machine own known => ⟨⟨nonempty, ⟨⟨true, ?_⟩, isUsed⟩, rfl, rfl⟩, ?_⟩
    · rw [isNext, isCursor, ← counter_succ]
    · rwa [isCursor] at known

/-- What is known of a dispatch at its end. -/
def Finishes (course : Course) (machine : PmemMachine) (own : PmemOwn) : Prop :=
  ∃ rounds cached, Reaches course rounds none cached [] machine own

/-- What is known of a dispatch which failed. -/
def Fails (course : Course) (error : VirtioPmemQueueDispatchError) (machine : PmemMachine)
    (own : PmemOwn) : Prop :=
  Finishes course machine own ∨ ∃ rounds, Breaks course rounds error machine own

theorem Finishes.device (machine own device) (finishes : Finishes course machine own) :
    Finishes course machine { own with device } := by
  obtain ⟨rounds, cached, reaches⟩ := finishes
  exact ⟨rounds, cached, reaches.device device⟩

theorem Fails.device {error} (machine own device) (fails : Fails course error machine own) :
    Fails course error machine { own with device } := by
  rcases fails with finishes | ⟨rounds, isUsed, last, cached, begun, isPrefix, reaches⟩
  · exact .inl (finishes.device _ _ _)
  · exact .inr ⟨rounds, isUsed, last, cached, begun, isPrefix, reaches.device device⟩

/-- The induction is on the chains which may still be popped; the rounds so far are carried
along. -/
theorem dispatch_amid {reserves} (chains)
    (cursor : Cursor course rounds.length rounds.length pass.queue)
    (unthrottled : pass.dispatch.rateLimiterThrottledEvents = 0) :
    Amid (GuestSteps course.ring) (Reaches course rounds none pass.cachedFlushStatus [])
      (VirtioPmemQueue.dispatch (pmemView course.ring) course.host reserves chains pass)
      (fun done machine own =>
        (∀ dispatch, done = some dispatch → dispatch.rateLimiterThrottledEvents = 0) ∧
          Finishes course machine own)
      (Fails course) := by
  induction chains generalizing rounds pass with
  | zero => exact .pure fun _ _ known => ⟨fun _ impossible => (nomatch impossible), _, _, known⟩
  | succ chains ih =>
    refine exists_pre fun flush => and_pre fun cached => and_pre fun orderly => ?_
    simp only [Option.toList_none, append_nil, flatMap_nil] at orderly ⊢
    have reaches : ∀ machine own,
        At course rounds.length flush (rounds.flatMap events) (storesOf course.queue.used rounds)
          machine own →
        Reaches course rounds none pass.cachedFlushStatus [] machine own :=
      fun machine own known => ⟨flush, cached, by simpa using orderly, by simpa using known⟩
    refine bind ((popChain_amid (reserves chains) flush cursor).weaken (fun _ _ => id)
      (fun _ _ _ => id) fun _ machine own known => .inl ⟨_, _, reaches machine own known⟩)
      fun popped => ?_
    match popped with
    | none =>
      refine .pure fun machine own known => ⟨fun dispatch isDone => ?_, _, _,
        reaches machine own known⟩
      rwa [← Option.some.inj isDone]
    | some (chain, next) =>
      refine and_pre fun ⟨nonempty, moved, sameCached, sameDispatch⟩ => ?_
      refine bind ((serveChain_amid orderly nonempty (cached.trans sameCached.symm)
        moved.2).weaken (fun _ _ => id) (fun _ _ _ => id) fun _ _ _ broken => .inr ⟨_, broken⟩)
        fun served => ?_
      refine exists_pre fun round => and_pre fun ⟨sameRing, isUsed, same⟩ => ?_
      refine ih ?_ ?_
      · rw [length_append]
        exact ⟨sameRing ▸ moved.1, isUsed⟩
      · rw [same, sameDispatch, unthrottled]

end

section
variable {reserves : Nat → Bool} {chains now : Nat} {drained : List Nat}
  {device : VirtioPmemDevice}

/-- The limiter refused this event. -/
def VirtioPmemDeviceNotificationDispatch.Throttled
    (report : VirtioPmemDeviceNotificationDispatch) : Prop :=
  ∃ dispatch, report.queueDispatch = some dispatch ∧ dispatch.rateLimiterThrottledEvents ≠ 0

theorem not_throttled {dispatch} (unthrottled : dispatch.rateLimiterThrottledEvents = 0) :
    ¬ (⟨drained, some dispatch⟩ : VirtioPmemDeviceNotificationDispatch).Throttled :=
  fun ⟨_, isRecorded, refused⟩ => refused (Option.some.inj isRecorded ▸ unthrottled)

section
variable (course : Course)

/-- A throttled event pops nothing and stays pending. -/
def Waits (queue : VirtioPmemQueue) (own : PmemOwn) : Prop :=
  own.log = [] ∧ own.device.activeQueue = some queue ∧ own.device.pendingRateLimitedQueue = true

/-- What is known when a device has served its notifications. -/
def Reports (done : Option VirtioPmemDeviceNotificationDispatch) (machine : PmemMachine)
    (own : PmemOwn) : Prop :=
  Finishes course machine own ∧
    ∀ report, done = some report → report.Throttled → Waits course.queue own

/-- What is known when a device has failed to. -/
def Refuses (error : VirtioPmemDeviceNotificationError) (machine : PmemMachine) (own : PmemOwn)
    : Prop :=
  Finishes course machine own ∨
    ∃ rounds drained source, error = .queueDispatch drained source ∧
      Breaks course rounds source machine own

/-- The state in which a dispatch begins. -/
def Begins (device : VirtioPmemDevice) (machine : PmemMachine) (own : PmemOwn) : Prop :=
  own.device = device ∧ At course 0 none [] [] machine own

end

theorem Begins.reaches {machine own} (begins : Begins course device machine own) :
    Reaches course [] none none [] machine own :=
  reaches_nil begins.2

theorem Begins.finishes {machine own} (begins : Begins course device machine own) :
    Finishes course machine own :=
  ⟨[], none, begins.reaches⟩

theorem isUsedRing_mapCompletedDispatch {source change} (isUsed : IsUsedRing source) :
    IsUsedRing (source.mapCompletedDispatch change) := by
  cases source <;> exact isUsed

theorem setPending_amid {ε : Type} {fails : ε → PmemMachine → PmemOwn → Prop}
    {holds : PmemMachine → PmemOwn → Prop} (pending)
    (ofLog : ∀ machine own device, holds machine own → holds machine { own with device }) :
    Amid (GuestSteps course.ring) holds (setPendingRateLimitedQueue pending : PmemAction ε Unit)
      (fun _ => holds) fails :=
  .note fun _ _ known => ofLog _ _ _ known

theorem finishDispatch_amid (hadPending : Bool)
    (served : Except VirtioPmemQueueDispatchError (Option VirtioPmemQueueDispatch))
    (unthrottled : ∀ dispatch, served = .ok (some dispatch) →
      dispatch.rateLimiterThrottledEvents = 0) :
    Amid (GuestSteps course.ring)
      (fun machine own => match served with
        | .ok _ => Finishes course machine own
        | .error source => Fails course source machine own)
      (finishDispatch drained hadPending served) (Reports course) (Refuses course) := by
  match served with
  | .ok none => exact .pure fun _ _ known => ⟨known, fun _ impossible => nomatch impossible⟩
  | .ok (some dispatch) =>
    refine (setPending_amid false Finishes.device).bind fun _ => .pure fun machine own known => ?_
    refine ⟨known, fun report isReport throttled => ?_⟩
    obtain rfl := Option.some.inj isReport
    refine absurd throttled (not_throttled ?_)
    have none := unthrottled dispatch rfl
    cases hadPending <;> exact none
  | .error source =>
    refine (setPending_amid false Fails.device).bind fun _ => ?_
    refine .throw fun machine own known => ?_
    rcases known with finished | ⟨rounds, isUsed, broken⟩
    · exact .inl finished
    · refine .inr ⟨rounds, _, _, rfl, ?_, broken⟩
      cases hadPending with
      | false => exact isUsed
      | true => exact isUsedRing_mapCompletedDispatch isUsed

variable (active : device.activeQueue = some course.queue)
include active

/-- An admitted dispatch serves the queue. -/
theorem admitDispatch_amid (admission) :
    Amid (GuestSteps course.ring) (Begins course device)
      (admitDispatch (pmemView course.ring) course.host reserves chains drained device course.queue
        admission now)
      (Reports course) (Refuses course) := by
  have limits : Amid (GuestSteps course.ring) (Begins course device)
      (setRateLimiter (device.reduceAt now).2)
      (fun _ machine own => own.device.activeQueue = some course.queue ∧
        At course 0 none [] [] machine own) (Refuses course) :=
    .note fun _ _ known => ⟨known.1 ▸ active, { known.2 with }⟩
  refine limits.bind fun _ => ?_
  cases (device.reduceAt now).1 with
  | throttled retryAfter =>
    have waits : Amid (GuestSteps course.ring)
        (fun machine own => own.device.activeQueue = some course.queue ∧
          At course 0 none [] [] machine own)
        (setPendingRateLimitedQueue true)
        (fun _ machine own => Waits course.queue own ∧ At course 0 none [] [] machine own)
        (Refuses course) :=
      .note fun _ _ known => ⟨⟨known.2.1, known.1, rfl⟩, { known.2 with }⟩
    refine waits.bind fun _ => .pure fun machine own known => ?_
    exact ⟨⟨[], none, reaches_nil known.2⟩, fun _ _ _ => known.1⟩
  | allowed =>
    have starts : Cursor course ([] : List PmemRound).length ([] : List PmemRound).length
        course.queue :=
      ⟨⟨course.ring.canUndoPop, by simp [counter]⟩, by simp [usedAfter, counter]⟩
    refine attempt_bind ((dispatch_amid chains starts rfl).weaken
      (fun _ _ known => reaches_nil known.2) (fun _ _ _ => id) fun _ _ _ => id)
      (fun done => and_pre fun unthrottled => ?_) fun source => ?_
    · exact finishDispatch_amid _ _ fun dispatch isDone =>
        unthrottled dispatch (Except.ok.inj isDone)
    · exact finishDispatch_amid _ (.error source) fun _ impossible => by cases impossible

/-- A dispatch which is not throttled serves the queue. -/
theorem dispatchQueue_amid (admission) (unthrottled : admission.rateLimiterThrottledEvents = 0)
    (hasWork) :
    Amid (GuestSteps course.ring) (Begins course device)
      (dispatchQueue (pmemView course.ring) course.host reserves chains drained device course.queue
        admission now hasWork)
      (Reports course) (Refuses course) := by
  match hasWork with
  | .ok true => exact admitDispatch_amid active admission
  | .ok false =>
    refine bind ((setPending_amid false Finishes.device).weaken (fun _ _ => Begins.finishes)
      (fun _ _ _ => id) fun _ _ _ => id) fun _ => .pure fun machine own known => ?_
    refine ⟨known, fun report isReport throttled => ?_⟩
    obtain rfl := Option.some.inj isReport
    exact absurd throttled (not_throttled unthrottled)
  | .error source =>
    refine bind ((setPending_amid false Finishes.device).weaken (fun _ _ => Begins.finishes)
      (fun _ _ _ => id) fun _ _ _ => id) fun _ => .throw fun _ _ => .inl

/-- A drained notification is dispatched. -/
theorem dispatchDrained_amid :
    Amid (GuestSteps course.ring) (Begins course device)
      (dispatchDrainedQueueNotificationsAt (pmemView course.ring) course.host reserves chains
        drained now)
      (Reports course) (Refuses course) := by
  have recalls : Amid (GuestSteps course.ring) (Begins course device)
      (consult : PmemAction VirtioPmemDeviceNotificationError PmemOwn)
      (fun own machine current => own.device = device ∧ Begins course device machine current)
      (Refuses course) :=
    .consult fun _ _ known => ⟨known.1, known⟩
  refine recalls.bind fun own => and_pre fun isDevice => ?_
  simp only [isDevice, active]
  split
  · refine .pure fun _ _ known => ⟨known.finishes, fun report isReport throttled => ?_⟩
    obtain rfl := Option.some.inj isReport
    obtain ⟨_, impossible, -⟩ := throttled
    cases impossible
  · cases drained.find? (· ≠ 0) with
    | some queueIndex => exact .throw fun _ _ known => .inl known.finishes
    | none =>
      have kept : MemoryView.Kept (GuestSteps course.ring) (Begins course device) :=
        ⟨fun _ => .refl, fun _ _ _ known steps => ⟨known.1, at_records.steady _ _ _ _ known.2 steps⟩⟩
      have looks : Minds (GuestSteps course.ring) (Begins course device)
          (course.queue.hasAvailableWork (pmemView course.ring)) fun _ => True :=
        Minds.bind (kept.looks.bind fun _ _ => kept.looks.bind fun _ _ =>
          Minds.check fun _ _ => trivial) fun _ _ => .pure trivial
      have admits : (if device.pendingRateLimitedQueue then
          ({} : VirtioPmemQueueDispatch).recordRateLimiterEvent
          else {}).rateLimiterThrottledEvents = 0 := by
        split <;> rfl
      exact attempt_bind looks
        (fun hasWork => and_pre fun _ => dispatchQueue_amid active _ admits _)
        fun source => dispatchQueue_amid active _ admits _

end

/-- The requests which are outstanding when a dispatch begins. -/
structure Outstanding (ring : VirtqueueAvailableRing) (machine : PmemMachine) : Prop where
  index : availableIndexOf ring machine.memory = counter ring.nextAvail machine.published.length
  earlier : ∀ stores ∈ machine.published, stores ≤ machine.stores

/-- What a dispatch has done: its rounds, the last of which may lack its completion, and the flush
which they share. -/
structure Dispatched (course : Course) (scene : Scene PmemMachine PmemOwn)
    (flush : Option (Nat × VirtioPmemFlushStatus)) (rounds : List PmemRound)
    (last : Option PmemRound) : Prop where
  logged : scene.own.log =
    rounds.flatMap PmemRound.events ++ last.toList.flatMap PmemRound.opening
  /-- What the device stored to guest memory: in each round the status of the request, 0 or -1 as
  the host answered, at the address in its chain, then the element of the used ring and its index.
  The index is not stored for a round which lacks its completion. -/
  stored : ∃ begun, begun <+: last.toList.map
      (PmemRound.elementStore (usedAfter course.queue.used rounds.length)) ∧
    scene.shared.deviceStores = course.before.deviceStores ++
      (storesOf course.queue.used rounds ++ last.toList.flatMap statusStores ++ begun)
  slots : ∀ index round, (rounds ++ last.toList)[index]? = some round →
    round.slot = counter course.ring.nextAvail index
  once : (rounds ++ last.toList).filterMap PmemRound.flush = flush.toList
  /-- The flush is the only one for which the host was asked, and has its answer. -/
  asked : scene.shared.flushes = course.before.flushes + flush.toList.length ∧
    ∀ offered status, flush = some (offered, status) → status = course.host course.before.flushes
  /-- Success is what the host said to a flush, and covers a request which had been published when
  that flush began. The request which asked for the flush is one of those. -/
  success : ∀ index slot chain offered written,
    (rounds ++ last.toList)[index]? = some (.answered slot chain offered .success written) →
      ∃ began, flush = some (began, .success) ∧ (offered.isSome → index < began) ∧
        (index < began → scene.shared.Covers index)
  failure : ∀ slot chain offered written,
    .answered slot chain offered .failure written ∈ rounds ++ last.toList →
      ∃ began, flush = some (began, .failure)

theorem Reaches.dispatched {rounds last cached begun scene}
    (reaches : Reaches course rounds last cached begun scene.shared scene.own)
    (isPrefix : begun <+: last.toList.map
      (PmemRound.elementStore (usedAfter course.queue.used rounds.length))) :
    course.before.published <+: scene.shared.published ∧
      ∃ flush, Dispatched course scene flush rounds last := by
  obtain ⟨flush, -, orderly, known⟩ := reaches
  refine ⟨known.ledger.grown, flush, known.log, ⟨begun, isPrefix, known.stores⟩, orderly.slots,
    orderly.once, ⟨known.asked, known.told⟩, ?_, ?_⟩
  · intro index slot chain offered written found
    obtain ⟨began, isFlush⟩ := orderly.answers _ _ _ _ _ (mem_of_getElem? found)
    refine ⟨began, isFlush, fun asked => ?_, known.ledger.covered began isFlush index⟩
    obtain ⟨own, rfl⟩ := Option.isSome_iff_exists.mp asked
    have member : (own, .success) ∈ flush.toList := by
      rw [← orderly.once, mem_filterMap]
      exact ⟨_, mem_of_getElem? found, rfl⟩
    obtain rfl : own = began := by simpa [isFlush] using member
    exact orderly.began _ _ _ _ _ _ found
  · intro slot chain offered written member
    exact orderly.answers _ _ _ _ _ member

/-- Whatever the guest does meanwhile, every chain which a dispatch pops is completed once and in
ring order, a malformed one without a status; only a used ring which refuses the element leaves
the last one open. The device stores nothing but the statuses and the completions. The statuses are
the host's answer to the one flush of the dispatch, and when it is success the stores before each
request published by then are durable. A throttled dispatch leaves the queue as it is. -/
theorem pmem_flush_covers_published (host : Host) (reserves : Nat → Bool) (chains : Nat)
    (drained : List Nat) (now : Nat) {queue : VirtioPmemQueue}
    {scene : Scene PmemMachine PmemOwn} (guest : scene.Relies (GuestSteps queue.available))
    (active : scene.own.device.activeQueue = some queue) (fresh : scene.own.log = [])
    (outstanding : Outstanding queue.available scene.shared) :
    let done := (dispatchDrainedQueueNotificationsAt (pmemView queue.available) host reserves chains
      drained now).outcome scene
    (∃ rounds last, scene.shared.published <+: done.2.shared.published ∧
      (∃ flush, Dispatched ⟨scene.shared, host, queue⟩ done.2 flush rounds last) ∧
      (last.isSome → ∃ drained source, done.1 = .error (.queueDispatch drained source) ∧
        IsUsedRing source)) ∧
    ∀ report, done.1 = .ok (some report) → report.Throttled → Waits queue done.2.own := by
  intro done
  have ledger : Ledger ⟨scene.shared, host, queue⟩ 0 none scene.shared :=
    ⟨outstanding.index, prefix_refl _, Nat.zero_le _, outstanding.earlier,
      fun _ impossible => nomatch impossible⟩
  have begins : Begins ⟨scene.shared, host, queue⟩ scene.own.device scene.shared scene.own :=
    ⟨rfl, fresh, (append_nil _).symm, rfl, nofun, ledger⟩
  rcases (dispatchDrained_amid active scene guest begins).cases with
    ⟨report, isReport, -, finishes, waits⟩ | ⟨error, isError, -, refuses⟩
  · obtain ⟨rounds, cached, reaches⟩ := finishes
    obtain ⟨grown, dispatched⟩ := reaches.dispatched nil_prefix
    refine ⟨⟨rounds, none, grown, dispatched, nofun⟩, ?_⟩
    intro other isOther
    exact waits other (Except.ok.inj (isReport.symm.trans isOther))
  · refine ⟨?_, fun report isReport => nomatch isError.symm.trans isReport⟩
    rcases refuses with ⟨rounds, cached, reaches⟩ |
      ⟨rounds, _, source, rfl, isUsed, last, _, begun, isPrefix, reaches⟩
    · obtain ⟨grown, dispatched⟩ := reaches.dispatched nil_prefix
      exact ⟨rounds, none, grown, dispatched, nofun⟩
    · obtain ⟨grown, dispatched⟩ := reaches.dispatched isPrefix
      exact ⟨rounds, some last, grown, dispatched, fun _ => ⟨_, source, isError, isUsed⟩⟩

/-- A queue of four entries, with its used ring at an address. -/
def smallAvailable : VirtqueueAvailableRing := ⟨0, 0x100, 4, 0, false, ⟨false⟩, rfl⟩

def smallUsed : VirtqueueUsedRing := ⟨0x200, 4, 0, rfl⟩

def unmappedUsed : VirtqueueUsedRing := ⟨0x8000, 4, 0, rfl⟩

/-- The bytes of a descriptor. -/
def descriptorBytes (address len flags next : Nat) : List UInt8 :=
  leBytes 8 address ++ leBytes 4 len ++ leBytes 2 flags ++ leBytes 2 next

/-- Two flush requests are laid out, of which the first is published. -/
def requestMemory : GuestMemory :=
  let memory := (GuestMemory.booted.writeSlice (descriptorBytes 0x300 4 1 1 ++
    descriptorBytes 0x310 4 2 0 ++ descriptorBytes 0x300 4 1 3 ++ descriptorBytes 0x320 4 2 0) 0).2
  (memory.writeSlice (leBytes 2 0 ++ leBytes 2 1 ++ leBytes 2 0 ++ leBytes 2 2) 0x100).2

def requestMachine : PmemMachine := ⟨requestMemory, 3, [3], 0, 0, []⟩

section
variable (used : VirtqueueUsedRing)

def smallQueue : VirtioPmemQueue := ⟨smallAvailable, used⟩

def smallDevice : VirtioPmemDevice := ⟨some (smallQueue used), 0x1000, none, false⟩

/-- Another processor stores to the device's range and publishes the second request. -/
def storesAndPublishes (machine : PmemMachine) : PmemMachine :=
  (pmemView smallAvailable).write { machine with stores := machine.stores + 1 }
    (machine.memory.writeSlice (leBytes 2 2) 0x102).2

/-- It does so while the host synchronises the file for the first request. -/
def lateScene : Scene PmemMachine PmemOwn where
  shared := requestMachine
  turns := List.replicate 11 id ++ [storesAndPublishes]
  own := ⟨smallDevice used, []⟩

def lateDispatch :
    Except VirtioPmemDeviceNotificationError (Option VirtioPmemDeviceNotificationDispatch) ×
      Scene PmemMachine PmemOwn :=
  (dispatchDrainedQueueNotificationsAt (pmemView (smallQueue used).available) (fun _ => .success)
    (fun _ => true) 8 [0] 0).outcome (lateScene used)

end

theorem lateScene_relies (used) : (lateScene used).Relies (GuestSteps smallAvailable) := by
  intro turn member machine
  simp only [lateScene, mem_append, mem_replicate, mem_singleton] at member
  rcases member with ⟨-, rfl⟩ | rfl
  · exact .refl
  · exact .tail (.single (.store machine)) (.write _ (leBytes 2 2) 0x102)

theorem requestMachine_outstanding : Outstanding smallAvailable requestMachine :=
  ⟨by decide +kernel, by decide⟩

/-- The run of a request which is published while the file is synchronised for another. -/
theorem late_request_dispatched :
    (lateDispatch smallUsed).1.toOption.isSome ∧
      ∃ rounds last, requestMachine.published <+: (lateDispatch smallUsed).2.shared.published ∧
        ∃ flush, Dispatched ⟨requestMachine, fun _ => .success, smallQueue smallUsed⟩
          (lateDispatch smallUsed).2 flush rounds last := by
  refine ⟨by decide +kernel, ?_⟩
  unfold lateDispatch
  have served := @pmem_flush_covers_published (fun _ => .success) (fun _ => true) 8 [0] 0
    (smallQueue smallUsed) (lateScene smallUsed) (lateScene_relies smallUsed) rfl rfl
    requestMachine_outstanding
  obtain ⟨⟨rounds, last, grown, dispatched, -⟩, -⟩ := served
  exact ⟨rounds, last, grown, dispatched⟩

/-- A request with its status at an address. -/
def requestChain (head : UInt16) (status : Nat) : VirtqueueDescriptorChain where
  headIndex := head
  descriptors := [⟨head, 0x300, 4, 1, some (head + 1)⟩, ⟨head + 1, status, 4, 2, none⟩]

/-- The second request is told success although the store before it is not durable: the file was
not synchronised again. And a chain whose element the used ring refuses is not completed. -/
theorem late_request_not_covered :
    ((lateScene smallUsed).Relies (GuestSteps smallAvailable) ∧
      Outstanding smallAvailable requestMachine ∧ (lateDispatch smallUsed).2.own.log =
        [.popped 0 (requestChain 0 0x310), .flushed 1 .success, .statusWritten .success, .used 0 4,
          .popped 1 (requestChain 2 0x320), .statusWritten .success, .used 2 4] ∧
      (lateDispatch smallUsed).2.shared.deviceStores =
        [(0x310, [0, 0, 0, 0]), (0x204, [0, 0, 0, 0, 4, 0, 0, 0]), (0x202, [1, 0]),
          (0x320, [0, 0, 0, 0]), (0x20c, [2, 0, 0, 0, 4, 0, 0, 0]), (0x202, [2, 0])] ∧
      (lateDispatch smallUsed).2.shared.published = [3, 4] ∧
      (lateDispatch smallUsed).2.shared.durable = 3) ∧
    (lateDispatch unmappedUsed).2.own.log =
      [.popped 0 (requestChain 0 0x310), .flushed 1 .success, .statusWritten .success] := by
  refine ⟨⟨lateScene_relies smallUsed, requestMachine_outstanding, ?_, ?_, ?_, ?_⟩, ?_⟩
  all_goals decide +kernel

end Bangbang.Pmem
