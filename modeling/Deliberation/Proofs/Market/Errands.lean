import Deliberation.Proofs.Market.Traders
import Deliberation.Proofs.Market.Prices

/-!
# Errands of traders

Everything a trader executes is one of three errands: to offer to everybody, to accept an offer, or
to book a sale. `Errand.Done` says what each of them does to the traders; `Hosts.execute` is the
execution itself, which never fails among traders.
-/

namespace Deliberation.Market

open Population (traderId)

/-- What a trader executes. -/
inductive Errand where
  | offer
  | accept (seller : AgentId) (price : Nat)
  | book (buyer : AgentId) (price : Nat)

namespace Errand

/-- The plan that carries an errand out. -/
def plan : Errand → Plan vocabulary
  | offer => offerPlan
  | accept seller price => acceptPlan seller price
  | book buyer price => bookSalePlan buyer price

/-- The errand that a message is to a trader with a reservation price. -/
def ofMessage? (reservation : Nat) (message : Message) : Option Errand := do
  let price ← priceOf? message
  if message.content = Market.offer then
    if price ≤ reservation then some (accept message.sender price) else none
  else if message.content = acceptance then some (book message.sender price)
  else none

/-- An acceptance goes to a trader, and its price can be written. -/
def Known (count : Nat) : Errand → Prop
  | accept seller price => (∃ index < count, traderId index = seller) ∧ price < wordCount
  | _ => True

/-- What a trader accepts comes from the sender of the message. -/
theorem known_of_message {count reservation : Nat} {message : Message} {errand : Errand}
    (made : ofMessage? reservation message = some errand)
    (sender : ∃ index < count, traderId index = message.sender) : errand.Known count := by
  unfold ofMessage? at made
  obtain ⟨price, carried, made⟩ := Option.bind_eq_some_iff.mp made
  split at made
  · split at made
    · cases made
      exact ⟨sender, price_lt carried⟩
    · cases made
  · split at made
    · cases made
      trivial
    · cases made

/-- An offer is to be accepted if the reservation price covers it. -/
theorem ofMessage?_offer (reservation : Nat) (sender : AgentId) {price : Nat}
    (word : price < wordCount) :
    ofMessage? reservation (priced sender Market.offer price) =
      if price ≤ reservation then some (accept sender price) else none := by
  unfold ofMessage?
  rw [priceOf?_written rfl word, Option.bind_eq_bind, Option.bind_some]
  exact if_pos rfl

/-- An acceptance is to be booked. -/
theorem ofMessage?_acceptance (reservation : Nat) (sender receiver : AgentId) {price : Nat}
    (word : price < wordCount) :
    ofMessage? reservation ((priced sender acceptance price).addressedTo receiver) =
      some (book sender price) := by
  have different : acceptance ≠ Market.offer := by decide
  unfold ofMessage?
  rw [priceOf?_written rfl word, Option.bind_eq_bind, Option.bind_some]
  exact (if_neg different).trans (if_pos rfl)

/-- What an errand of a trader does to the traders, and the action that tells of it. -/
inductive Done (count : Nat) (number : BirthNumber) (traders : Nat → Trader) :
    Errand → (Nat → Trader) → TradeAction → Prop where
  /-- All others receive an offer at a price that is drawn. -/
  | offer {price : Nat} {book : Book} (drawn : (traders number).book.nextPrice = (price, book)) :
      Done count number traders .offer
        ((others count number).foldl (post (priced (traderId number) Market.offer price))
          (Function.update traders number { traders number with book }))
        (.offered price)
  /-- The seller receives an acceptance. -/
  | accept {seller price : Nat} (inside : seller < count) (word : price < wordCount) :
      Done count number traders (.accept (traderId seller) price)
        (post ((priced (traderId number) acceptance price).addressedTo (traderId seller)) traders
          seller)
        (.bought (traderId seller) price)
  /-- The book counts one sale more. -/
  | book (buyer : AgentId) (price : Nat) :
      Done count number traders (.book buyer price)
        (Function.update traders number
          { traders number with book := (traders number).book.recordSale })
        (.sold buyer price)

end Errand

/-- The effect of errands of a trader in their order. -/
inductive Toil (count : Nat) (number : BirthNumber) :
    (Nat → Trader) → List Errand → (Nat → Trader) → List TradeAction → Prop where
  | rest (traders : Nat → Trader) : Toil count number traders [] traders []
  | work {traders middle after : Nat → Trader} {errand : Errand} {errands : List Errand}
      {action : TradeAction} {actions : List TradeAction}
      (done : errand.Done count number traders middle action)
      (others : Toil count number middle errands after actions) :
      Toil count number traders (errand :: errands) after (action :: actions)

/-- A trader finds its book. -/
theorem Trader.find?_book (state : Trader) (id : AgentId) :
    (state.agent id).view.contexts.find? bookCapability = some state.book := rfl

/-- The plan for a message carries out the errand that it is. -/
theorem planForMessage_eq {view : View vocabulary} {book : Book}
    (carried : view.contexts.find? bookCapability = some book) (message : Message) :
    planForMessage view message = (Errand.ofMessage? book.reservation message).map Errand.plan := by
  unfold planForMessage Errand.ofMessage?
  rw [carried]
  cases priceOf? message with
  | none => rfl
  | some price =>
    simp only [Option.bind_eq_bind, Option.bind_some]
    by_cases isOffer : message.content = offer
    · rw [if_pos isOffer, if_pos isOffer]
      by_cases covered : price ≤ book.reservation
      · rw [if_pos covered]
        exact if_pos covered
      · rw [if_neg covered]
        exact if_neg covered
    · rw [if_neg isOffer, if_neg isOffer]
      split <;> rfl

/-- A message that is delivered makes its sender go on to the action. -/
theorem sendThen_run {number : BirthNumber} {message : Message} {turn : Turn vocabulary}
    {next : World vocabulary} (sent : turn.world.send number message = (next, .ok ()))
    (action : TradeAction) :
    ((sendThen message action).bind fun result _ => .done result 1).run number none turn =
      .returned { turn with world := next } (.ok (some action)) 1 := by
  simp [sendThen, Script.bind, Script.run, sent, Turn.withWorld]

namespace Hosts

variable {world : World vocabulary} {count : Nat} {traders : Nat → Trader} {number : BirthNumber}

/-- A trader changes its book. -/
theorem change (hosts : Hosts world count traders) (inside : number < count)
    (change : Book → Book) :
    Hosts
      (world.modifyAgent number fun agent =>
        { agent with contexts := agent.contexts.modify bookCapability change })
      count
      (Function.update traders number
        { traders number with book := change (traders number).book }) :=
  hosts.modify inside rfl

/-- An errand is executed at once and finishes its plan. -/
theorem execute (small : count ≤ largestWord) (hosts : Hosts world count traders)
    (inside : number < count) {errand : Errand} (known : errand.Known count)
    (effects : Effects vocabulary) :
    ∃ next after action,
      errand.plan.start.run number none { world, effects, finished := false } =
        .returned { world := next, effects, finished := true } (.ok (some action)) 1 ∧
      Hosts next count after ∧ errand.Done count number traders after action := by
  have view := congrArg Agent.view (hosts.agent number inside)
  have self : (world.agent number).view.agent = traderId number := congrArg View.agent view
  have book := (traders number).find?_book (traderId number)
  rw [← view] at book
  cases errand with
  | offer =>
    have drew := hosts.change inside fun book => book.nextPrice.2
    obtain ⟨next, sent, after⟩ := drew.broadcast small inside
      (.offer (traderId number) (traders number).book.nextPrice.1) rfl rfl
    refine ⟨next, _, _, ?_, after, .offer rfl⟩
    simp only [Errand.plan, offerPlan, Plan.once, Plan.start, Plan.memory, Plan.step, Script.bind,
      withBook, Script.run, book, self]
    exact sendThen_run sent _
  | accept seller price =>
    obtain ⟨⟨index, indexInside, rfl⟩, word⟩ := known
    obtain ⟨next, sent, after⟩ := hosts.sendTo small inside indexInside
      (.acceptance (traderId number) (traderId index) price) rfl
    refine ⟨next, _, _, ?_, after, .accept indexInside word⟩
    simp only [Errand.plan, acceptPlan, Plan.once, Plan.start, Plan.memory, Plan.step, Script.bind,
      Script.run, self]
    exact sendThen_run sent _
  | book buyer price =>
    have counted := hosts.change inside Book.recordSale
    refine ⟨_, _, _, ?_, counted, .book buyer price⟩
    simp only [Errand.plan, bookSalePlan, Plan.once, Plan.start, Plan.memory, Plan.step, Script.bind,
      withBook, Script.run, book, Turn.withWorld]

end Hosts

end Deliberation.Market
