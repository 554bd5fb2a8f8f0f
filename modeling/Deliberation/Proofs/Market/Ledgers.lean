import Deliberation.Proofs.Market.Errands
import Mathlib.Algebra.BigOperators.Group.Finset.Basic
import Mathlib.Algebra.Order.Group.Multiset
import Mathlib.Tactic.Abel

/-!
# Ledgers of trades

A `Trade` is a seller, a buyer and a price. What traders did is a `History` of their actions, and
what they are about to do is in their mail. `Ledger` is the balance of both: every offer that a
trader would take is taken or waits to be, and every trade that was bought is sold or waits to be
booked. Each errand keeps the balance.
-/

namespace Deliberation.Market

open Population (traderId)

/-- A trade between two traders. -/
structure Trade where
  seller : AgentId
  buyer : AgentId
  price : Nat
  deriving DecidableEq

/-- Actions in their order, each with the trader that did it. -/
abbrev History := List (AgentId × TradeAction)

namespace History

/-- The trades that sellers have booked. -/
def sold (history : History) : List Trade :=
  history.filterMap fun
    | (seller, .sold buyer price) => some { seller, buyer, price }
    | _ => none

/-- The trades that buyers have accepted. -/
def bought (history : History) : List Trade :=
  history.filterMap fun
    | (buyer, .bought seller price) => some { seller, buyer, price }
    | _ => none

end History

/-- One trade for every other trader whose reservation price covers an offer. -/
def Population.takers (population : Population) (seller : AgentId) (price : Nat) : List Trade :=
  ((List.range population.traders).filter fun index =>
      traderId index ≠ seller ∧ price ≤ (population.book index).reservation).map fun index =>
    { seller, buyer := traderId index, price }

/-- The trades that the offers so far can come to. -/
def Population.offered (population : Population) (history : History) : List Trade :=
  history.flatMap fun
    | (seller, .offered price) => population.takers seller price
    | _ => []

/-! ## Trades that wait -/

namespace Errand

/-- The trade that a trader is about to accept. -/
def purchase (self : AgentId) : Errand → Multiset Trade
  | accept seller price => {{ seller, buyer := self, price }}
  | _ => 0

/-- The trade that a trader is about to book. -/
def sale (self : AgentId) : Errand → Multiset Trade
  | book buyer price => {{ seller := self, buyer, price }}
  | _ => 0

end Errand

/-- The trades that a message to a trader is about. -/
def tradesOf (measure : Errand → Multiset Trade) (reservation : Nat) (message : Message) :
    Multiset Trade :=
  ((Errand.ofMessage? reservation message).map measure).getD 0

/-- The trades in the mail of a trader. -/
def Trader.waiting (measure : Errand → Multiset Trade) (state : Trader) : Multiset Trade :=
  (state.mail.map (tradesOf measure state.book.reservation)).sum

/-- The trades in the mail of all traders. -/
def waiting (measure : AgentId → Errand → Multiset Trade) (count : Nat) (traders : Nat → Trader) :
    Multiset Trade :=
  ∑ index ∈ Finset.range count, (traders index).waiting (measure (traderId index))

/-- Another message waits behind the mail. -/
theorem Trader.waiting_receive (measure : Errand → Multiset Trade) (state : Trader)
    (message : Message) :
    (state.receive message).waiting measure =
      state.waiting measure + tradesOf measure state.book.reservation message := by
  simp [waiting, receive]

/-- The errands that the mail comes to are about the trades in it. -/
theorem Trader.waiting_eq_sum (measure : Errand → Multiset Trade) (state : Trader) :
    ((state.mail.filterMap (Errand.ofMessage? state.book.reservation)).map measure).sum =
      state.waiting measure := by
  unfold waiting
  induction state.mail with
  | nil => rfl
  | cons message rest ih =>
    rw [List.map_cons, List.sum_cons, ← ih, tradesOf]
    cases made : Errand.ofMessage? state.book.reservation message with
    | none => simp [List.filterMap_cons_none made]
    | some errand => simp [List.filterMap_cons_some made]

section Waiting

variable (measure : AgentId → Errand → Multiset Trade) {count : Nat}

/-- When one trader changes, what waits changes by what waits for that one. -/
theorem waiting_update (traders : Nat → Trader) {number : Nat} (inside : number < count)
    (state : Trader) :
    waiting measure count (Function.update traders number state) +
        (traders number).waiting (measure (traderId number)) =
      waiting measure count traders + state.waiting (measure (traderId number)) := by
  have listed := Finset.mem_range.mpr inside
  have rest : ∑ index ∈ (Finset.range count).erase number,
      (Function.update traders number state index).waiting (measure (traderId index)) =
      ∑ index ∈ (Finset.range count).erase number,
        (traders index).waiting (measure (traderId index)) := by
    refine Finset.sum_congr rfl fun index member => ?_
    rw [Function.update_of_ne (Finset.ne_of_mem_erase member)]
  unfold waiting
  rw [← Finset.add_sum_erase _ _ listed, ← Finset.add_sum_erase _ _ listed, rest,
    Function.update_self]
  abel

/-- A message that is posted adds the trades that it promises to those that wait. -/
theorem waiting_post (traders : Nat → Trader) {receiver : Nat} (inside : receiver < count)
    (message : Message) :
    waiting measure count (post message traders receiver) =
      waiting measure count traders +
        tradesOf (measure (traderId receiver)) (traders receiver).book.reservation message := by
  have updated := waiting_update measure traders inside ((traders receiver).receive message)
  rw [Trader.waiting_receive, ← add_assoc, add_right_comm] at updated
  exact add_right_cancel updated

/-- A post changes no book. -/
theorem book_post (message : Message) (traders : Nat → Trader) (receiver index : Nat) :
    (post message traders receiver index).book = (traders index).book := by
  obtain ⟨mail, posted⟩ := post_eq message traders receiver index
  rw [posted]

/-- A message that is posted to receivers adds what it promises to each of them. -/
theorem waiting_postAll (message : Message) {receivers : List Nat}
    (inside : ∀ receiver ∈ receivers, receiver < count) (traders : Nat → Trader) :
    waiting measure count (receivers.foldl (post message) traders) =
      waiting measure count traders +
        (receivers.map fun receiver =>
          tradesOf (measure (traderId receiver)) (traders receiver).book.reservation message).sum := by
  induction receivers generalizing traders with
  | nil => simp
  | cons receiver rest ih =>
    rw [List.foldl_cons, ih (fun other member => inside other (List.mem_cons_of_mem _ member)),
      waiting_post measure traders (inside receiver List.mem_cons_self), List.map_cons,
      List.sum_cons]
    simp only [book_post]
    abel

/-- Nothing changes when a trader keeps what waits for it. -/
theorem waiting_update_same (traders : Nat → Trader) {number : Nat} (inside : number < count)
    {state : Trader}
    (same : state.waiting (measure (traderId number)) =
      (traders number).waiting (measure (traderId number))) :
    waiting measure count (Function.update traders number state) =
      waiting measure count traders := by
  have updated := waiting_update measure traders inside state
  rw [same] at updated
  exact add_right_cancel updated

end Waiting

/-- What an offer is about to a trader whose reservation price covers it. -/
theorem tradesOf_offer (measure : Errand → Multiset Trade) (reservation : Nat) (sender : AgentId)
    {price : Nat} (word : price < wordCount) :
    tradesOf measure reservation (priced sender offer price) =
      if price ≤ reservation then measure (.accept sender price) else 0 := by
  unfold tradesOf
  rw [Errand.ofMessage?_offer reservation sender word]
  split <;> rfl

/-- An acceptance promises its receiver a sale at the price that was accepted. -/
theorem tradesOf_acceptance (measure : Errand → Multiset Trade) (reservation : Nat)
    (sender receiver : AgentId) {price : Nat} (word : price < wordCount) :
    tradesOf measure reservation ((priced sender acceptance price).addressedTo receiver) =
      measure (.book sender price) := by
  unfold tradesOf
  rw [Errand.ofMessage?_acceptance reservation sender receiver word]
  rfl

/-- Singletons of the items that a test selects add up to the selected items. -/
theorem sum_singletons (items : List Nat) (test : Nat → Bool) (trade : Nat → Trade) :
    (items.map fun item => if test item then ({trade item} : Multiset Trade) else 0).sum =
      ((items.filter test).map trade : List Trade) := by
  induction items with
  | nil => rfl
  | cons item rest ih =>
    rw [List.map_cons, List.sum_cons, ih]
    cases tested : test item with
    | false => simp [tested]
    | true => simp [tested]

/-- The takers of an offer are among the other traders. -/
theorem takers_eq_sum {population : Population} (small : population.traders ≤ largestWord)
    {number : Nat} (inside : number < population.traders) (price : Nat) :
    (population.takers (traderId number) price : Multiset Trade) =
      ((others population.traders number).map fun index =>
        if price ≤ (population.book index).reservation then
          ({{ seller := traderId number, buyer := traderId index, price }} : Multiset Trade)
        else 0).sum := by
  have selected := sum_singletons (others population.traders number)
    (fun index => price ≤ (population.book index).reservation)
    fun index => { seller := traderId number, buyer := traderId index, price }
  simp only [decide_eq_true_eq] at selected
  rw [selected]
  unfold Population.takers others
  rw [List.filter_filter]
  refine congrArg _ (congrArg _ (List.filter_congr fun index listed => ?_))
  have before := (List.mem_range.mp listed).trans_le small
  have same := traderId_inj before (inside.trans_le small)
  by_cases equal : index = number
  · simp [equal]
  · simp [equal, mt same.mp equal]

/-- An offer comes to what its message is about to the other traders. -/
theorem offered_offer {population : Population} (small : population.traders ≤ largestWord)
    {number : Nat} (inside : number < population.traders) {price : Nat} (word : price < wordCount)
    {traders : Nat → Trader}
    (reserved : ∀ index ∈ others population.traders number,
      (traders index).book.reservation = (population.book index).reservation) :
    (population.offered [(traderId number, .offered price)] : Multiset Trade) =
      ((others population.traders number).map fun index =>
        tradesOf (Errand.purchase (traderId index)) (traders index).book.reservation
          (priced (traderId number) offer price)).sum := by
  rw [List.map_congr_left fun index member => by
    rw [reserved index member, tradesOf_offer _ _ _ word]]
  refine Eq.trans ?_ (takers_eq_sum small inside price)
  simp [Population.offered]

/-! ## The balance -/

/-- What every trader keeps while it trades. -/
structure Trader.Orderly (population : Population) (index : Nat) (state : Trader) : Prop where
  reservation : state.book.reservation = (population.book index).reservation
  positive : 0 < state.book.maxPrice
  word : state.book.maxPrice ≤ largestWord
  idle : state.plans = []
  known : ∀ message ∈ state.mail, ∃ sender < population.traders, traderId sender = message.sender

/-- What traders did and what waits balance. One of the traders is in the midst of its errands. -/
structure Ledger (population : Population) (traders : Nat → Trader) (number : BirthNumber)
    (errands : List Errand) (history : History) : Prop where
  orderly : ∀ index < population.traders, (traders index).Orderly population index
  /-- Every offer that a trader takes is accepted or waits to be. -/
  purchases : (population.offered history : Multiset Trade) =
    history.bought + waiting Errand.purchase population.traders traders +
      (errands.map (Errand.purchase (traderId number))).sum
  /-- Every trade that is accepted is booked or waits to be. -/
  sales : (history.bought : Multiset Trade) =
    history.sold + waiting Errand.sale population.traders traders +
      (errands.map (Errand.sale (traderId number))).sum

section Orderly

variable {population : Population} {traders : Nat → Trader}
  (orderly : ∀ index < population.traders, (traders index).Orderly population index)
include orderly

/-- A market stays orderly when one trader changes to an orderly state. -/
theorem orderly_update {number : Nat} {state : Trader}
    (changed : state.Orderly population number) :
    ∀ index < population.traders,
      (Function.update traders number state index).Orderly population index := by
  intro index inside
  by_cases same : index = number
  · subst same
    rw [Function.update_self]
    exact changed
  · rw [Function.update_of_ne same]
    exact orderly index inside

/-- A message from a trader leaves the market orderly. -/
theorem orderly_post {message : Message} {receiver : Nat} (inside : receiver < population.traders)
    (sender : ∃ sender < population.traders, traderId sender = message.sender) :
    ∀ index < population.traders, (post message traders receiver index).Orderly population index := by
  refine orderly_update orderly ?_
  refine { orderly receiver inside with known := fun other member => ?_ }
  rcases List.mem_append.mp member with old | new
  · exact (orderly receiver inside).known other old
  · rw [List.mem_singleton.mp new]
    exact sender

/-- A message from a trader to receivers leaves the market orderly. -/
theorem orderly_postAll {message : Message} {receivers : List Nat}
    (inside : ∀ receiver ∈ receivers, receiver < population.traders)
    (sender : ∃ sender < population.traders, traderId sender = message.sender) :
    ∀ index < population.traders,
      (receivers.foldl (post message) traders index).Orderly population index := by
  induction receivers generalizing traders with
  | nil => exact orderly
  | cons receiver rest ih =>
    exact ih (orderly_post orderly (inside receiver List.mem_cons_self) sender)
      fun other member => inside other (List.mem_cons_of_mem _ member)

end Orderly

/-! ### Actions -/

variable (population : Population) (history : History)

/-- What was sold in a longer history was sold in its parts. -/
theorem History.sold_append (later : History) :
    ((history ++ later).sold : Multiset Trade) = history.sold + later.sold := by
  simp [sold]

/-- What was bought in a longer history was bought in its parts. -/
theorem History.bought_append (later : History) :
    ((history ++ later).bought : Multiset Trade) = history.bought + later.bought := by
  simp [bought]

/-- What was offered in a longer history was offered in its parts. -/
theorem Population.offered_append (later : History) :
    (population.offered (history ++ later) : Multiset Trade) =
      population.offered history + population.offered later := by
  simp [offered]

namespace Ledger

variable {population : Population} {traders after : Nat → Trader} {number : BirthNumber}
  {errand : Errand} {errands : List Errand} {action : TradeAction} {history : History}

/-- An action balances when what it adds on one side, together with its errand, is what it adds on the
other side. -/
theorem act (ledger : Ledger population traders number (errand :: errands) history)
    (orderly : ∀ index < population.traders, (after index).Orderly population index)
    (purchases : (population.offered [(traderId number, action)] : Multiset Trade) +
        waiting Errand.purchase population.traders traders + errand.purchase (traderId number) =
      History.bought [(traderId number, action)] +
        waiting Errand.purchase population.traders after)
    (sales : (History.bought [(traderId number, action)] : Multiset Trade) +
        waiting Errand.sale population.traders traders + errand.sale (traderId number) =
      History.sold [(traderId number, action)] + waiting Errand.sale population.traders after) :
    Ledger population after number errands (history ++ [(traderId number, action)]) := by
  refine { orderly, purchases := ?_, sales := ?_ }
  · rw [Population.offered_append, History.bought_append, add_assoc (Multiset.ofList history.bought),
      ← purchases, ledger.purchases, List.map_cons, List.sum_cons]
    abel
  · rw [History.bought_append, History.sold_append, add_assoc (Multiset.ofList history.sold),
      ← sales, ledger.sales, List.map_cons, List.sum_cons]
    abel

/-- An offer adds a trade for each trader that takes it, and puts it into the mail of that one. -/
theorem offer (small : population.traders ≤ largestWord)
    (ledger : Ledger population traders number (.offer :: errands) history)
    (inside : number < population.traders) {price : Nat} {book : Book}
    (drawn : (traders number).book.nextPrice = (price, book)) :
    Ledger population
      ((others population.traders number).foldl (post (priced (traderId number) offer price))
        (Function.update traders number { traders number with book }))
      number errands (history ++ [(traderId number, .offered price)]) := by
  have orderly := ledger.orderly number inside
  have word : price < wordCount := by
    have drawnWord := (traders number).book.nextPrice_lt orderly.positive orderly.word
    rwa [drawn] at drawnWord
  have kept : book.reservation = (traders number).book.reservation ∧
      book.maxPrice = (traders number).book.maxPrice := by
    cases congrArg Prod.snd drawn
    exact ⟨rfl, rfl⟩
  have listed : ∀ index ∈ others population.traders number, index < population.traders :=
    fun index member => List.mem_range.mp (List.mem_filter.mp member).1
  have still : ({ traders number with book } : Trader).Orderly population number :=
    { reservation := kept.1.trans orderly.reservation
      positive := kept.2 ▸ orderly.positive
      word := kept.2 ▸ orderly.word
      idle := orderly.idle
      known := orderly.known }
  have drew := orderly_update ledger.orderly still
  have same : ∀ measure : Errand → Multiset Trade,
      ({ traders number with book } : Trader).waiting measure =
        (traders number).waiting measure := by
    intro measure
    unfold Trader.waiting
    rw [kept.1]
  refine ledger.act (orderly_postAll drew listed ⟨number, inside, rfl⟩) ?_ ?_
  · rw [waiting_postAll _ _ listed, waiting_update_same _ _ inside (same _),
      offered_offer small inside word fun index member =>
        (drew index (listed index member)).reservation]
    change _ + _ + 0 = 0 + (_ + _)
    abel
  · rw [waiting_postAll _ _ listed, waiting_update_same _ _ inside (same _)]
    simp only [tradesOf_offer _ _ _ word, Errand.sale, ite_self, List.map_const', List.sum_replicate,
      nsmul_zero]
    change 0 + _ + 0 = 0 + (_ + 0)
    abel

/-- An acceptance is a purchase, and puts the trade into the mail of the seller. -/
theorem accept {seller price : Nat}
    (ledger : Ledger population traders number (.accept (traderId seller) price :: errands) history)
    (inside : number < population.traders) (sellerInside : seller < population.traders)
    (word : price < wordCount) :
    Ledger population
      (post ((priced (traderId number) acceptance price).addressedTo (traderId seller)) traders
        seller)
      number errands (history ++ [(traderId number, .bought (traderId seller) price)]) := by
  refine ledger.act (orderly_post ledger.orderly sellerInside ⟨number, inside, rfl⟩) ?_ ?_
  · rw [waiting_post _ _ sellerInside, tradesOf_acceptance _ _ _ _ word]
    change 0 + _ + {_} = {_} + (_ + 0)
    abel
  · rw [waiting_post _ _ sellerInside, tradesOf_acceptance _ _ _ _ word]
    change {_} + _ + 0 = 0 + (_ + {_})
    abel

/-- A booked sale waits no longer. -/
theorem book {buyer : AgentId} {price : Nat}
    (ledger : Ledger population traders number (.book buyer price :: errands) history)
    (inside : number < population.traders) :
    Ledger population
      (Function.update traders number
        { traders number with book := (traders number).book.recordSale })
      number errands (history ++ [(traderId number, .sold buyer price)]) := by
  have same : ∀ measure : Errand → Multiset Trade,
      ({ traders number with book := (traders number).book.recordSale } : Trader).waiting measure =
        (traders number).waiting measure := fun _ => rfl
  refine ledger.act (orderly_update ledger.orderly { ledger.orderly number inside with }) ?_ ?_
  · rw [waiting_update_same _ _ inside (same _)]
    change 0 + _ + 0 = 0 + _
    abel
  · rw [waiting_update_same _ _ inside (same _)]
    change 0 + _ + {_} = {_} + _
    abel

/-- An errand that is done is an action more and an errand less. -/
theorem done (small : population.traders ≤ largestWord)
    (ledger : Ledger population traders number (errand :: errands) history)
    (inside : number < population.traders)
    (done : errand.Done population.traders number traders after action) :
    Ledger population after number errands (history ++ [(traderId number, action)]) := by
  cases done with
  | offer drawn => exact ledger.offer small inside drawn
  | accept sellerInside word => exact ledger.accept inside sellerInside word
  | book buyer price => exact ledger.book inside

/-- Errands that are done keep the balance. -/
theorem toil (small : population.traders ≤ largestWord) (inside : number < population.traders)
    {actions : List TradeAction}
    (toil : Toil population.traders number traders errands after actions)
    (ledger : Ledger population traders number errands history) :
    Ledger population after number [] (history ++ actions.map fun action =>
      (traderId number, action)) := by
  induction toil generalizing history with
  | rest traders => simpa using ledger
  | work done others ih => simpa using ih (ledger.done small inside done)

/-- Without errands it does not matter whose turn it is. -/
theorem turn (ledger : Ledger population traders number [] history) (other : BirthNumber) :
    Ledger population traders other [] history :=
  { orderly := ledger.orderly, purchases := ledger.purchases, sales := ledger.sales }

/-- A trader that takes its mail has the errands in it; its goals add offers. -/
theorem begin (ledger : Ledger population traders number [] history)
    (inside : number < population.traders) (goals : List (GoalHandle vocabulary)) (offers : Nat) :
    Ledger population
      (Function.update traders number
        { book := (traders number).book, mail := [], wishes := [], goals, plans := [] })
      number
      (List.replicate offers Errand.offer ++
        (traders number).mail.filterMap (Errand.ofMessage? (traders number).book.reservation))
      history := by
  have moved : ∀ measure : AgentId → Errand → Multiset Trade,
      measure (traderId number) .offer = 0 →
        waiting measure population.traders traders +
            (([] : List Errand).map (measure (traderId number))).sum =
          waiting measure population.traders
              (Function.update traders number
                { book := (traders number).book, mail := [], wishes := [], goals, plans := [] }) +
            ((List.replicate offers Errand.offer ++
              (traders number).mail.filterMap
                (Errand.ofMessage? (traders number).book.reservation)).map
              (measure (traderId number))).sum := by
    intro measure free
    have updated := waiting_update measure traders inside
      { book := (traders number).book, mail := [], wishes := [], goals, plans := [] }
    rw [List.map_append, List.sum_append, List.map_replicate, free, List.sum_replicate, nsmul_zero,
      zero_add, Trader.waiting_eq_sum]
    exact updated.symm
  refine
    { orderly := orderly_update ledger.orderly ?_
      purchases := ?_, sales := ?_ }
  · exact
      { ledger.orderly number inside with
        idle := rfl, known := fun message member => (nomatch member) }
  · rw [ledger.purchases, add_assoc, moved _ rfl, add_assoc]
  · rw [ledger.sales, add_assoc, moved _ rfl, add_assoc]

end Ledger

end Deliberation.Market
