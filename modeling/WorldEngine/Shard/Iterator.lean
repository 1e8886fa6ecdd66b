import Mathlib.Data.List.Basic
import Mathlib.Algebra.Group.Nat.Basic
import WorldEngine.Except

/-! The shard iterator: `Each(fn, start, stop)` pages through the shard's transaction feed and
hands each epoch, its transactions decoded, to the callback. The querier is a step of the feed
client's state; `mockQuerier` of the iterator tests is one. -/

namespace WorldEngine

/-- Modelled from the spec: a transaction of the feed, the id of its message type and the
signed transaction bytes. -/
structure TxData where
  txId : UInt64
  gameShardTransaction : List UInt8
deriving DecidableEq, Repr

/-- Modelled from the spec: one epoch of the feed, a remote tick and its transactions. -/
structure Epoch where
  epoch : UInt64
  unixTimestamp : UInt64
  txs : List TxData
deriving DecidableEq, Repr

structure PageRequest where
  key : List UInt8
deriving DecidableEq, Repr

structure PageResponse where
  key : List UInt8
deriving DecidableEq, Repr

structure QueryTransactionsRequest where
  «namespace» : String
  page : PageRequest
deriving DecidableEq, Repr

/-- Modelled from the spec: one page of the feed; the last page has no key. -/
structure QueryTransactionsResponse where
  epochs : List Epoch
  page : Option PageResponse
deriving DecidableEq, Repr

def QueryTransactionsResponse.nextKey (response : QueryTransactionsResponse) : List UInt8 :=
  match response.page with
  | some page => page.key
  | none => []

/-- Modelled from the spec: a decoded transaction and the message it carries. -/
structure TxBatch (α : Type) where
  tx : List UInt8
  msgId : UInt64
  msgValue : α
deriving DecidableEq, Repr

/-- Modelled from the spec: the ways `Each` fails. The feed's, the decoder's and the callback's
errors are returned as they are. -/
inductive IteratorError
  | invalidRange
  | unknownMessage (id : UInt64)
  | query (error : String)
  | decode (error : String)
  | callback (error : String)
deriving DecidableEq, Repr

def IteratorError.message : IteratorError → String
  | .invalidRange => "first number in range must be less than the second (start,stop)"
  | .unknownMessage id => s!"queried message with ID {id}, but it does not exist in Cardinal"
  | .query error | .decode error | .callback error => error

/-- Modelled from the spec: what `iterator.New` is given. A registered message type is the
decoder of its transactions; the querier is a step of the feed client's state, `none` where
the client panics. -/
structure Iterator (σ α : Type) where
  getMessageById : UInt64 → Option (List UInt8 → Except String α)
  «namespace» : String
  querier : σ → QueryTransactionsRequest → Option (Except String QueryTransactionsResponse × σ)

/-! The start key. -/

def putUint64 (value : UInt64) : List UInt8 :=
  [56, 48, 40, 32, 24, 16, 8, 0].map fun shift => UInt8.ofNat (value.toNat >>> shift)

def bigEndianUint64 (bytes : List UInt8) : Option UInt64 :=
  if 8 ≤ bytes.length then
    some (UInt64.ofNat ((bytes.take 8).foldl (fun value byte => value * 256 + byte.toNat) 0))
  else none

def parsePageKey (key : List UInt8) : Option UInt64 :=
  bigEndianUint64 key

theorem uint8_ofNat_toNat (n : Nat) : (UInt8.ofNat n).toNat = n % 256 := rfl

theorem horner_step (value low high : Nat) (next : high = low + 8) :
    value / 2 ^ high * 256 + value / 2 ^ low % 256 = value / 2 ^ low := by
  rw [next, Nat.pow_add, ← Nat.div_div_eq_div_mul]
  exact Nat.div_add_mod' _ _

theorem parsePageKey_putUint64 (value : UInt64) : parsePageKey (putUint64 value) = some value := by
  have top : value.toNat / 2 ^ 56 % 256 = value.toNat / 2 ^ 56 :=
    Nat.mod_eq_of_lt (Nat.div_lt_of_lt_mul (by simpa using value.toNat_lt_size))
  simp only [parsePageKey, bigEndianUint64, putUint64, List.map_cons, List.map_nil,
    List.length_cons, List.length_nil, List.take_succ_cons, List.take_zero, List.foldl_cons,
    List.foldl_nil, uint8_ofNat_toNat, Nat.shiftRight_eq_div_pow, Nat.zero_mul, Nat.zero_add, top]
  rw [horner_step _ 48 56 rfl, horner_step _ 40 48 rfl, horner_step _ 32 40 rfl,
    horner_step _ 24 32 rfl, horner_step _ 16 24 rfl, horner_step _ 8 16 rfl,
    horner_step _ 0 8 rfl, Nat.pow_zero, Nat.div_one]
  simp only [Nat.reduceAdd, Nat.reduceLeDiff, if_true]
  exact congrArg some (UInt64.toNat.inj (Nat.mod_eq_of_lt value.toNat_lt_size))

/-! `Each`. -/

def Epoch.pastStop (stopTick : Option UInt64) (epoch : Epoch) : Bool :=
  match stopTick with
  | some stop => stop < epoch.epoch
  | none => false

def Epoch.reachesStop (stopTick : Option UInt64) (epoch : Epoch) : Bool :=
  match stopTick with
  | some stop => stop ≤ epoch.epoch
  | none => false

theorem reachesStop_of_pastStop {stopTick : Option UInt64} {epoch : Epoch}
    (past : epoch.pastStop stopTick = true) : epoch.reachesStop stopTick = true := by
  cases stopTick with
  | none => cases past
  | some stop =>
      simp only [Epoch.pastStop, Epoch.reachesStop, decide_eq_true_eq] at past ⊢
      exact Nat.le_of_lt past

inductive EpochFlow
  | next
  | stopped
  | failed (error : IteratorError)
deriving DecidableEq, Repr

/-- Modelled from the spec: a transaction decoded by the message type its id names; an id with
no registered type fails the iteration. -/
def Iterator.decodeTx {σ α : Type} (iterator : Iterator σ α) (tx : TxData) :
    Except IteratorError (TxBatch α) :=
  match iterator.getMessageById tx.txId with
  | none => .error (.unknownMessage tx.txId)
  | some decode =>
      match decode tx.gameShardTransaction with
      | .error error => .error (.decode error)
      | .ok msgValue => .ok ⟨tx.gameShardTransaction, tx.txId, msgValue⟩

/-- Modelled from the spec: an epoch's transactions decoded in order, then the callback called
with the batch, the epoch number and its timestamp. -/
def Iterator.visitEpoch {σ α β : Type} (iterator : Iterator σ α)
    (callback : β → List (TxBatch α) → UInt64 → UInt64 → Except String β) (state : β)
    (epoch : Epoch) : Except IteratorError β :=
  match epoch.txs.mapM iterator.decodeTx with
  | .error error => .error error
  | .ok batch =>
      match callback state batch epoch.epoch epoch.unixTimestamp with
      | .error error => .error (.callback error)
      | .ok state => .ok state

/-- Modelled from the spec: the epochs of one page, each visited, until a visit fails or the stop
tick is reached. An epoch past the stop tick ends the loop before its callback, as
`TestIteratorStopRange` has it (epochs 12 and 20 with stop 15 call back once); an epoch at the
stop tick ends it after its callback. -/
def Iterator.eachEpoch {σ α β : Type} (iterator : Iterator σ α)
    (callback : β → List (TxBatch α) → UInt64 → UInt64 → Except String β)
    (stopTick : Option UInt64) : β → List Epoch → EpochFlow × β
  | state, [] => (.next, state)
  | state, epoch :: epochs =>
      if epoch.pastStop stopTick then (.stopped, state)
      else
        match iterator.visitEpoch callback state epoch with
        | .error error => (.failed error, state)
        | .ok state =>
            if epoch.reachesStop stopTick then (.stopped, state)
            else iterator.eachEpoch callback stopTick state epochs

/-- Modelled from the spec: the page loop. Each request carries the key of the page before;
a page without a key is the last. `fuel` bounds the number of requests. -/
def Iterator.eachPage {σ α β : Type} (iterator : Iterator σ α)
    (callback : β → List (TxBatch α) → UInt64 → UInt64 → Except String β)
    (stopTick : Option UInt64) :
    Nat → σ → List UInt8 → β → Option (Except IteratorError Unit × σ × β)
  | 0, _, _, _ => none
  | fuel + 1, querier, key, state =>
      match iterator.querier querier ⟨iterator.«namespace», ⟨key⟩⟩ with
      | none => none
      | some (.error error, querier) => some (.error (.query error), querier, state)
      | some (.ok response, querier) =>
          match iterator.eachEpoch callback stopTick state response.epochs with
          | (.failed error, state) => some (.error error, querier, state)
          | (.stopped, state) => some (.ok (), querier, state)
          | (.next, state) =>
              if response.nextKey.isEmpty then some (.ok (), querier, state)
              else iterator.eachPage callback stopTick fuel querier response.nextKey state

/-- Modelled from the spec: `Each(fn, ranges...)`. The first number is the start tick (default
0), sent as the first page key; the second, when given, is the stop tick and must exceed the
start, which is checked before any request. -/
def Iterator.each {σ α β : Type} (iterator : Iterator σ α)
    (callback : β → List (TxBatch α) → UInt64 → UInt64 → Except String β)
    (ranges : List UInt64) (fuel : Nat) (querier : σ) (state : β) :
    Option (Except IteratorError Unit × σ × β) :=
  match ranges with
  | start :: stop :: _ =>
      if start < stop then iterator.eachPage callback (some stop) fuel querier (putUint64 start) state
      else some (.error .invalidRange, querier, state)
  | ranges => iterator.eachPage callback none fuel querier (putUint64 (ranges.headD 0)) state

/-! `mockQuerier` of the iterator tests. -/

structure MockQuerier where
  i : Nat
  retErr : Option String
  ret : List QueryTransactionsResponse
  request : Option QueryTransactionsRequest
deriving DecidableEq, Repr

def MockQuerier.queryTransactions (querier : MockQuerier) (request : QueryTransactionsRequest) :
    Option (Except String QueryTransactionsResponse × MockQuerier) :=
  let querier := { querier with request := some request }
  match querier.retErr with
  | some error => some (.error error, querier)
  | none => querier.ret[querier.i]?.map fun response =>
      (.ok response, { querier with i := querier.i + 1 })

/-! Pagination is transparent. -/

section Feed

variable {σ α β : Type} (iterator : Iterator σ α)
  (callback : β → List (TxBatch α) → UInt64 → UInt64 → Except String β)

inductive Iterator.Serves : σ → List UInt8 → List QueryTransactionsResponse → Prop
  | last {querier querier' : σ} {key : List UInt8} {page : QueryTransactionsResponse}
      (answer :
        iterator.querier querier ⟨iterator.«namespace», ⟨key⟩⟩ = some (.ok page, querier'))
      (final : page.nextKey = []) :
      Iterator.Serves querier key [page]
  | next {querier querier' : σ} {key : List UInt8} {page : QueryTransactionsResponse}
      {pages : List QueryTransactionsResponse}
      (answer :
        iterator.querier querier ⟨iterator.«namespace», ⟨key⟩⟩ = some (.ok page, querier'))
      (more : page.nextKey ≠ [])
      (rest : Iterator.Serves querier' page.nextKey pages) :
      Iterator.Serves querier key (page :: pages)

inductive Iterator.FailsAfter : σ → List UInt8 → List QueryTransactionsResponse → String → Prop
  | failed {querier querier' : σ} {key : List UInt8} {error : String}
      (answer :
        iterator.querier querier ⟨iterator.«namespace», ⟨key⟩⟩ = some (.error error, querier')) :
      Iterator.FailsAfter querier key [] error
  | next {querier querier' : σ} {key : List UInt8} {page : QueryTransactionsResponse}
      {pages : List QueryTransactionsResponse} {error : String}
      (answer :
        iterator.querier querier ⟨iterator.«namespace», ⟨key⟩⟩ = some (.ok page, querier'))
      (more : page.nextKey ≠ [])
      (rest : Iterator.FailsAfter querier' page.nextKey pages error) :
      Iterator.FailsAfter querier key (page :: pages) error

def PagesChained : List QueryTransactionsResponse → Prop
  | [] => False
  | [page] => page.nextKey = []
  | page :: next :: pages => page.nextKey ≠ [] ∧ PagesChained (next :: pages)

theorem mockQuerier_serves (getMessageById : UInt64 → Option (List UInt8 → Except String α))
    («namespace» : String) {pages : List QueryTransactionsResponse} (chained : PagesChained pages)
    (querier : MockQuerier) (noError : querier.retErr = none)
    (remaining : querier.ret.drop querier.i = pages) (key : List UInt8) :
    (Iterator.mk getMessageById «namespace» MockQuerier.queryTransactions).Serves querier key
      pages := by
  induction pages generalizing querier key with
  | nil => exact chained.elim
  | cons page pages ih =>
      have current : querier.ret[querier.i]? = some page := by
        rw [← List.head?_drop, remaining, List.head?_cons]
      let querier' := { querier with request := some ⟨«namespace», ⟨key⟩⟩, i := querier.i + 1 }
      have answer : MockQuerier.queryTransactions querier ⟨«namespace», ⟨key⟩⟩ =
          some (.ok page, querier') := by
        simp [querier', MockQuerier.queryTransactions, noError, current]
      cases pages with
      | nil => exact .last answer chained
      | cons next pages =>
          refine .next answer chained.1 (ih chained.2 querier' noError ?_ _)
          rw [← List.tail_drop, remaining, List.tail_cons]

def eachOutcome {σ β : Type} : Except IteratorError Unit × σ × β → Except IteratorError β
  | (.error error, _, _) => .error error
  | (.ok (), _, state) => pure state

def afterEpochs {β : Type} :
    EpochFlow × β → (β → Except IteratorError β) → Except IteratorError β
  | (.next, state), after => after state
  | (.stopped, state), _ => pure state
  | (.failed error, _), _ => .error error

/-- The epochs the plain pass visits: those before the first past the stop tick, up to the first
at it. -/
def visited (stopTick : Option UInt64) : List Epoch → List Epoch
  | [] => []
  | epoch :: epochs =>
      if epoch.pastStop stopTick then []
      else epoch :: if epoch.reachesStop stopTick then [] else visited stopTick epochs

def Iterator.visitThen (stopTick : Option UInt64) (epochs : List Epoch)
    (after : β → Except IteratorError β) (state : β) : Except IteratorError β :=
  (visited stopTick epochs).foldlM (iterator.visitEpoch callback) state >>= fun state =>
    if epochs.any (·.reachesStop stopTick) then pure state else after state

theorem visitThen_pure (stopTick : Option UInt64) (epochs : List Epoch) (state : β) :
    iterator.visitThen callback stopTick epochs pure state =
      (visited stopTick epochs).foldlM (iterator.visitEpoch callback) state := by
  simp only [Iterator.visitThen, ite_self, bind_pure]

theorem afterEpochs_eachEpoch (stopTick : Option UInt64) (rest : List Epoch)
    (after : β → Except IteratorError β) (epochs : List Epoch) (state : β) :
    afterEpochs (iterator.eachEpoch callback stopTick state epochs)
        (iterator.visitThen callback stopTick rest after) =
      iterator.visitThen callback stopTick (epochs ++ rest) after state := by
  induction epochs generalizing state with
  | nil => rfl
  | cons epoch epochs ih =>
      by_cases past : epoch.pastStop stopTick
      · simp [Iterator.eachEpoch, Iterator.visitThen, visited, past, reachesStop_of_pastStop past,
          afterEpochs]
      · cases visit : iterator.visitEpoch callback state epoch with
        | error error =>
            simp [Iterator.eachEpoch, Iterator.visitThen, visited, past, visit, afterEpochs]
        | ok state' =>
            by_cases reach : epoch.reachesStop stopTick
            · simp [Iterator.eachEpoch, Iterator.visitThen, visited, past, visit, reach, afterEpochs]
            · simpa [Iterator.eachEpoch, Iterator.visitThen, visited, past, visit, reach] using
                ih state'

theorem eachEpoch_next {stopTick : Option UInt64} {epochs : List Epoch} {state state' : β}
    (next : iterator.eachEpoch callback stopTick state epochs = (.next, state')) :
    epochs.any (·.reachesStop stopTick) = false := by
  induction epochs generalizing state with
  | nil => rfl
  | cons epoch epochs ih =>
      simp only [Iterator.eachEpoch] at next
      split at next
      · cases next
      split at next
      · cases next
      split at next
      · cases next
      · rename_i reach
        simp [reach, ih next]

theorem eachPage_eq_visitThen (stopTick : Option UInt64) {querier : σ} {key : List UInt8}
    {pages : List QueryTransactionsResponse} (serves : iterator.Serves querier key pages)
    (fuel : Nat) (enough : pages.length ≤ fuel) (state : β) :
    (iterator.eachPage callback stopTick fuel querier key state).map eachOutcome =
      some (iterator.visitThen callback stopTick (pages.flatMap (·.epochs)) pure state) := by
  induction serves generalizing fuel state with
  | last answer final =>
      obtain ⟨fuel, rfl⟩ : ∃ rest, fuel = rest + 1 := ⟨fuel - 1, by simp at enough; omega⟩
      rw [List.flatMap_cons, List.flatMap_nil, ← afterEpochs_eachEpoch]
      simp only [Iterator.eachPage, answer]
      rcases iterator.eachEpoch callback stopTick state _ with ⟨_ | _ | error, state⟩ <;>
        simp [final, eachOutcome, afterEpochs, Iterator.visitThen, visited]
  | next answer more _ ih =>
      obtain ⟨fuel, rfl⟩ : ∃ rest, fuel = rest + 1 := ⟨fuel - 1, by simp at enough; omega⟩
      rw [List.flatMap_cons, ← afterEpochs_eachEpoch]
      simp only [Iterator.eachPage, answer]
      rcases iterator.eachEpoch callback stopTick state _ with ⟨_ | _ | error, state⟩ <;>
        simp [more, eachOutcome, afterEpochs, ih fuel (by simpa using enough) state]

theorem each_of_ordered {start : UInt64} {stopTick : Option UInt64}
    (ordered : ∀ stop ∈ stopTick, start < stop) (fuel : Nat) (querier : σ) (state : β) :
    iterator.each callback (start :: stopTick.toList) fuel querier state =
      iterator.eachPage callback stopTick fuel querier (putUint64 start) state := by
  cases stopTick with
  | none => rfl
  | some stop => simp only [Iterator.each, Option.toList, ordered stop rfl, if_true]

/-- `Each` over a feed that serves a chain of pages, with fuel for each page, returns what one
`foldlM` of the callback over the concatenated epochs up to the stop tick returns: the callback
sees those epochs in order and no other, and the first decode or callback error is the result. -/
theorem each_eq_fold {start : UInt64} {stopTick : Option UInt64}
    (ordered : ∀ stop ∈ stopTick, start < stop) {querier : σ}
    {pages : List QueryTransactionsResponse} (serves : iterator.Serves querier (putUint64 start) pages)
    (fuel : Nat) (enough : pages.length ≤ fuel) (state : β) :
    (iterator.each callback (start :: stopTick.toList) fuel querier state).map eachOutcome =
      some ((visited stopTick (pages.flatMap (·.epochs))).foldlM
        (iterator.visitEpoch callback) state) := by
  rw [each_of_ordered iterator callback ordered,
    eachPage_eq_visitThen iterator callback stopTick serves fuel enough state, visitThen_pure]

end Feed

theorem each_eq_fold_stopRange :
    ((Iterator.mk (fun id => if id = 10 then some fun bytes => .ok bytes else none) "ns"
        MockQuerier.queryTransactions).each
        (fun (called : Nat) (_ : List (TxBatch (List UInt8))) _ _ => .ok (called + 1)) [0, 15] 1
        ⟨0, none, [⟨[⟨12, 15, [⟨10, [1, 2]⟩]⟩, ⟨20, 0, []⟩], some ⟨[]⟩⟩], none⟩ 0).map eachOutcome =
      some (.ok 1) :=
  (@each_eq_fold MockQuerier (List UInt8) Nat
    ⟨fun id => if id = 10 then some fun bytes => .ok bytes else none, "ns",
      MockQuerier.queryTransactions⟩
    (fun called _ _ _ => .ok (called + 1)) 0 (some 15) (fun _ same => by cases same; decide)
    ⟨0, none, [⟨[⟨12, 15, [⟨10, [1, 2]⟩]⟩, ⟨20, 0, []⟩], some ⟨[]⟩⟩], none⟩ _
    (mockQuerier_serves _ "ns" (by exact rfl) _ rfl rfl _) 1 (Nat.le_refl 1) 0).trans rfl

/-! Unknown message ids are fatal. -/

section Decode

variable {σ α β : Type} (iterator : Iterator σ α)
  (callback : β → List (TxBatch α) → UInt64 → UInt64 → Except String β)

def Iterator.Unregistered (tx : TxData) : Bool :=
  (iterator.getMessageById tx.txId).isNone

theorem decodeTx_eq_error {tx : TxData} {error : IteratorError} :
    iterator.decodeTx tx = .error error ↔
      (iterator.getMessageById tx.txId = none ∧ error = .unknownMessage tx.txId) ∨
        ∃ decode message, iterator.getMessageById tx.txId = some decode ∧
          decode tx.gameShardTransaction = .error message ∧ error = .decode message := by
  unfold Iterator.decodeTx
  cases iterator.getMessageById tx.txId with
  | none => simp [eq_comm]
  | some decode => cases decoded : decode tx.gameShardTransaction <;> simp [decoded, eq_comm]

theorem mapM_decodeTx_eq_error
    (decodes : ∀ id decode, iterator.getMessageById id = some decode →
      ∀ bytes, ∃ value, decode bytes = .ok value)
    (txs : List TxData) {error : IteratorError} :
    txs.mapM iterator.decodeTx = .error error ↔
      ∃ tx, txs.find? iterator.Unregistered = some tx ∧ error = .unknownMessage tx.txId := by
  induction txs with
  | nil => simp only [List.mapM_nil, except_pure, reduceCtorEq, List.find?_nil, false_and, exists_false]
  | cons tx txs ih =>
      rw [List.mapM_cons]
      cases decoded : iterator.decodeTx tx with
      | error failure =>
          obtain ⟨unknown, rfl⟩ | ⟨decode, message, registered, failed, -⟩ :=
            (decodeTx_eq_error iterator).mp decoded
          · simp [Iterator.Unregistered, unknown, eq_comm]
          · obtain ⟨value, accepted⟩ := decodes _ _ registered tx.gameShardTransaction
            cases failed.symm.trans accepted
      | ok batch =>
          have registered : iterator.Unregistered tx = false := by
            cases known : iterator.getMessageById tx.txId with
            | none => simp [Iterator.decodeTx, known] at decoded
            | some decode => simp [Iterator.Unregistered, known]
          simp only [except_ok_bind, except_bind_eq_error, ih, List.find?_cons, registered,
            except_pure, reduceCtorEq, and_false, exists_false, or_false]

theorem visitEpoch_eq_error
    (accepts : ∀ state batch tick timestamp,
      ∃ state', callback state batch tick timestamp = .ok state')
    (state : β) (epoch : Epoch) {error : IteratorError} :
    iterator.visitEpoch callback state epoch = .error error ↔
      epoch.txs.mapM iterator.decodeTx = .error error := by
  unfold Iterator.visitEpoch
  split
  · next failure decoded => simp only [decoded, Except.error.injEq]
  · next batch decoded =>
      obtain ⟨state', called⟩ := accepts state batch epoch.epoch epoch.unixTimestamp
      simp only [decoded, called, reduceCtorEq]

theorem foldlM_visitEpoch_eq_error
    (decodes : ∀ id decode, iterator.getMessageById id = some decode →
      ∀ bytes, ∃ value, decode bytes = .ok value)
    (accepts : ∀ state batch tick timestamp,
      ∃ state', callback state batch tick timestamp = .ok state')
    (epochs : List Epoch) (state : β) {error : IteratorError} :
    epochs.foldlM (iterator.visitEpoch callback) state = .error error ↔
      ∃ tx, (epochs.flatMap (·.txs)).find? iterator.Unregistered = some tx ∧
        error = .unknownMessage tx.txId := by
  induction epochs generalizing state with
  | nil => simp
  | cons epoch epochs ih =>
      rw [List.foldlM_cons, List.flatMap_cons, List.find?_append]
      cases visit : iterator.visitEpoch callback state epoch with
      | error failure =>
          obtain ⟨tx, first, rfl⟩ :=
            (mapM_decodeTx_eq_error iterator decodes epoch.txs).mp
              ((visitEpoch_eq_error iterator callback accepts state epoch).mp visit)
          simp [first, eq_comm]
      | ok state' =>
          have clean : epoch.txs.find? iterator.Unregistered = none := by
            cases first : epoch.txs.find? iterator.Unregistered with
            | none => rfl
            | some tx =>
                have failed := (visitEpoch_eq_error iterator callback accepts state epoch).mpr
                  ((mapM_decodeTx_eq_error iterator decodes epoch.txs).mpr ⟨tx, first, rfl⟩)
                rw [visit] at failed
                cases failed
          simp only [except_ok_bind, ih, clean, Option.none_or]

/-- With decoders that accept every payload and a callback that never fails, `Each` over a
served feed fails exactly when an epoch up to the stop tick carries a transaction whose message
id is not registered, and then with the error that names the first such id: no transaction is
skipped. -/
theorem each_fails_iff_unknown_message {start : UInt64} {stopTick : Option UInt64}
    (ordered : ∀ stop ∈ stopTick, start < stop) {querier : σ}
    {pages : List QueryTransactionsResponse} (serves : iterator.Serves querier (putUint64 start) pages)
    (fuel : Nat) (enough : pages.length ≤ fuel) (state : β)
    (decodes : ∀ id decode, iterator.getMessageById id = some decode →
      ∀ bytes, ∃ value, decode bytes = .ok value)
    (accepts : ∀ state batch tick timestamp, ∃ state', callback state batch tick timestamp = .ok state')
    (error : IteratorError) :
    (iterator.each callback (start :: stopTick.toList) fuel querier state).map eachOutcome =
        some (.error error) ↔
      ∃ tx, ((visited stopTick (pages.flatMap (·.epochs))).flatMap (·.txs)).find?
          iterator.Unregistered = some tx ∧ error = .unknownMessage tx.txId := by
  rw [each_of_ordered iterator callback ordered,
    eachPage_eq_visitThen iterator callback stopTick serves fuel enough state, visitThen_pure,
    Option.some.injEq]
  exact foldlM_visitEpoch_eq_error iterator callback decodes accepts _ state

end Decode

theorem each_fails_iff_unknown_message_notFound :
    ((Iterator.mk (fun _ => (none : Option (List UInt8 → Except String Unit))) ""
        MockQuerier.queryTransactions).each
        (fun (called : Nat) _ _ _ => .ok called) [0] 1
        ⟨0, none, [⟨[⟨1, 1, [⟨1, []⟩]⟩], none⟩], none⟩ 0).map eachOutcome =
      some (.error (.unknownMessage 1)) ∧
    (IteratorError.unknownMessage 1).message =
      "queried message with ID 1, but it does not exist in Cardinal" :=
  ⟨(@each_fails_iff_unknown_message MockQuerier Unit Nat
    ⟨fun _ => none, "", MockQuerier.queryTransactions⟩ (fun called _ _ _ => .ok called) 0 none
    (fun _ absent => nomatch absent) ⟨0, none, [⟨[⟨1, 1, [⟨1, []⟩]⟩], none⟩], none⟩ _
    (mockQuerier_serves _ "" (by exact rfl) _ rfl rfl _) 1 (Nat.le_refl 1) 0
    (fun _ _ absent => nomatch absent) (fun called _ _ _ => ⟨called, rfl⟩) _).mpr ⟨⟨1, []⟩, rfl, rfl⟩,
    rfl⟩

/-! Transport errors end the iteration. -/

section Transport

variable {σ α β : Type} (iterator : Iterator σ α)
  (callback : β → List (TxBatch α) → UInt64 → UInt64 → Except String β)

theorem eachPage_failsAfter (stopTick : Option UInt64) {querier : σ} {key : List UInt8}
    {pages : List QueryTransactionsResponse} {error : String}
    (fails : iterator.FailsAfter querier key pages error) (fuel : Nat) (enough : pages.length < fuel)
    (state : β) :
    (iterator.eachPage callback stopTick fuel querier key state).map eachOutcome =
      some (iterator.visitThen callback stopTick (pages.flatMap (·.epochs))
        (fun _ => .error (.query error)) state) := by
  induction fails generalizing fuel state with
  | failed answer =>
      obtain ⟨fuel, rfl⟩ : ∃ rest, fuel = rest + 1 := ⟨fuel - 1, by simp at enough; omega⟩
      simp [Iterator.eachPage, answer, eachOutcome, Iterator.visitThen, visited]
  | next answer more _ ih =>
      obtain ⟨fuel, rfl⟩ : ∃ rest, fuel = rest + 1 := ⟨fuel - 1, by simp at enough; omega⟩
      rw [List.flatMap_cons, ← afterEpochs_eachEpoch]
      simp only [Iterator.eachPage, answer]
      rcases iterator.eachEpoch callback stopTick state _ with ⟨_ | _ | failure, state⟩ <;>
        simp [more, eachOutcome, afterEpochs, ih fuel (by simpa using enough) state]

theorem eachPage_failsAfter_stops (stopTick : Option UInt64) {querier : σ} {key : List UInt8}
    {pages : List QueryTransactionsResponse} {error : String}
    (fails : iterator.FailsAfter querier key pages error)
    (stops : (pages.flatMap (·.epochs)).any (·.reachesStop stopTick) = true) (fuel : Nat)
    (enough : pages.length ≤ fuel) (state : β) :
    iterator.eachPage callback stopTick fuel querier key state =
      iterator.eachPage callback stopTick pages.length querier key state := by
  induction fails generalizing fuel state with
  | failed => cases stops
  | next answer more _ ih =>
      obtain ⟨fuel, rfl⟩ : ∃ rest, fuel = rest + 1 := ⟨fuel - 1, by simp at enough; omega⟩
      simp only [Iterator.eachPage, answer, List.length_cons]
      rcases flow : iterator.eachEpoch callback stopTick state _ with ⟨_ | _ | failure, state'⟩
      · rw [List.flatMap_cons, List.any_append, eachEpoch_next iterator callback flow,
          Bool.false_or] at stops
        simp only [more, List.isEmpty_iff, if_false]
        exact ih stops fuel (by simpa using enough) state'
      · rfl
      · rfl

/-- A request of the page loop that fails ends `Each` with the feed's error, after the callback
has seen the epochs of the pages served before it; unless one of their epochs reaches the stop
tick, and then fuel for the served pages alone gives the whole result, with the client's state:
the failing request is never made. -/
theorem each_returns_query_error {start : UInt64} {stopTick : Option UInt64}
    (ordered : ∀ stop ∈ stopTick, start < stop) {querier : σ}
    {pages : List QueryTransactionsResponse} {error : String}
    (fails : iterator.FailsAfter querier (putUint64 start) pages error)
    (fuel : Nat) (enough : pages.length < fuel) (state : β) :
    (iterator.each callback (start :: stopTick.toList) fuel querier state).map eachOutcome =
        some ((visited stopTick (pages.flatMap (·.epochs))).foldlM
            (iterator.visitEpoch callback) state >>= fun state =>
          if (pages.flatMap (·.epochs)).any (·.reachesStop stopTick) then pure state
          else .error (.query error)) ∧
      ((pages.flatMap (·.epochs)).any (·.reachesStop stopTick) = true →
        iterator.each callback (start :: stopTick.toList) fuel querier state =
          iterator.each callback (start :: stopTick.toList) pages.length querier state) := by
  rw [each_of_ordered iterator callback ordered, each_of_ordered iterator callback ordered]
  exact ⟨eachPage_failsAfter iterator callback stopTick fails fuel enough state,
    fun stops => eachPage_failsAfter_stops iterator callback stopTick fails stops fuel enough.le state⟩

end Transport

theorem each_returns_query_error_failingFeeds :
    ((Iterator.mk (fun _ => (none : Option (List UInt8 → Except String Unit))) "foo"
        MockQuerier.queryTransactions).each
        (fun (called : Nat) _ _ _ => .ok called) [0] 1 ⟨0, some "some error", [], none⟩ 0).map
        eachOutcome =
      some (.error (.query "some error")) ∧
    (IteratorError.query "some error").message = "some error" ∧
    let iterator : Iterator Nat Unit := ⟨fun _ => none, "ns", fun calls _ =>
      if calls = 0 then some (.ok ⟨[⟨15, 0, []⟩], some ⟨[1]⟩⟩, 1)
      else some (.error "unavailable", calls + 1)⟩
    let count := fun (called : Nat) (_ : List (TxBatch Unit)) (_ _ : UInt64) =>
      (.ok (called + 1) : Except String Nat)
    (iterator.each count [0, 15] 2 0 0).map eachOutcome = some (.ok 1) ∧
      iterator.each count [0, 15] 2 0 0 = iterator.each count [0, 15] 1 0 0 :=
  ⟨(@each_returns_query_error MockQuerier Unit Nat
    ⟨fun _ => none, "foo", MockQuerier.queryTransactions⟩ (fun called _ _ _ => .ok called) 0 none
    (fun _ absent => nomatch absent) ⟨0, some "some error", [], none⟩ [] "some error"
    (.failed rfl) 1 (Nat.zero_lt_one) 0).1.trans rfl, rfl,
  let stopped := @each_returns_query_error Nat Unit Nat
    ⟨fun _ => none, "ns", fun calls _ =>
      if calls = 0 then some (.ok ⟨[⟨15, 0, []⟩], some ⟨[1]⟩⟩, 1)
      else some (.error "unavailable", calls + 1)⟩
    (fun called _ _ _ => .ok (called + 1)) 0 (some 15) (fun _ same => by cases same; decide) 0
    [⟨[⟨15, 0, []⟩], some ⟨[1]⟩⟩] "unavailable"
    (.next rfl (fun empty => nomatch empty) (.failed rfl)) 2 (Nat.lt_succ_self 1) 0
  ⟨stopped.1.trans rfl, stopped.2 rfl⟩⟩

/-- The tests' start range: against a mock that fails, `Each` returns the mock's error, and the
request the mock recorded carries the iterator's namespace and a page key that `parsePageKey`
reads back as the start tick, whatever the start and stop. -/
theorem each_sends_start_key {α β : Type} (getMessageById : UInt64 → Option (List UInt8 → Except String α))
    («namespace» : String) (callback : β → List (TxBatch α) → UInt64 → UInt64 → Except String β)
    {start : UInt64} {stopTick : Option UInt64} (ordered : ∀ stop ∈ stopTick, start < stop)
    {querier : MockQuerier} {error : String} (failing : querier.retErr = some error) (fuel : Nat)
    (state : β) :
    ∃ querier' request,
      (Iterator.mk getMessageById «namespace» MockQuerier.queryTransactions).each callback
          (start :: stopTick.toList) (fuel + 1) querier state =
        some (.error (.query error), querier', state) ∧
      querier'.request = some request ∧ request.«namespace» = «namespace» ∧
      parsePageKey request.page.key = some start := by
  refine ⟨{ querier with request := some ⟨«namespace», ⟨putUint64 start⟩⟩ },
    ⟨«namespace», ⟨putUint64 start⟩⟩, ?_, rfl, rfl, parsePageKey_putUint64 start⟩
  rw [each_of_ordered _ callback ordered]
  simp [Iterator.eachPage, MockQuerier.queryTransactions, failing]

theorem each_sends_start_key_five :
    ∃ querier' request,
      (Iterator.mk (fun _ => none) "" MockQuerier.queryTransactions).each
          (fun (called : Nat) (_ : List (TxBatch Unit)) _ _ => .ok called) [5] 1
          ⟨0, some "whatever", [], none⟩ 0 =
        some (.error (.query "whatever"), querier', 0) ∧
      querier'.request = some request ∧ request.«namespace» = "" ∧
      parsePageKey request.page.key = some 5 :=
  @each_sends_start_key Unit Nat (fun _ => none) "" (fun called _ _ _ => .ok called) 5 none
    (fun _ absent => nomatch absent) ⟨0, some "whatever", [], none⟩ "whatever" rfl 0 0

end WorldEngine
