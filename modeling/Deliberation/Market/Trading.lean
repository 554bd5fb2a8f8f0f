import Deliberation.Json.Writer
import Deliberation.Market.Book
import Deliberation.Plan.Combinators
import Deliberation.Simulation
import Deliberation.Word

/-!
# Trading

A trader with a sales target offers at a random price to everybody in each cycle in which it plans
for the target. A trader whose reservation price covers an offer accepts it and takes it as bought;
the seller books a sale when the acceptance arrives.
-/

namespace Deliberation.Market

/-- What a trader did. -/
inductive TradeAction where
  | offered (price : Nat)
  | bought (seller : AgentId) (price : Nat)
  | sold (buyer : AgentId) (price : Nat)
  deriving DecidableEq, Inhabited

/-- The action in compact JSON, given how the other party is written. -/
def TradeAction.toJson (party : AgentId → String) : TradeAction → String
  | offered price => Json.object [("kind", Json.quote "offered"), ("price", toString price)]
  | bought seller price =>
    Json.object
      [("kind", Json.quote "bought"), ("seller", party seller), ("price", toString price)]
  | sold buyer price =>
    Json.object [("kind", Json.quote "sold"), ("buyer", party buyer), ("price", toString price)]

/-- What a trader can aim at. -/
inductive Aim where
  /-- A number of sales. -/
  | sales (target : Nat)
  /-- Something that has nothing to do with sales and is never reached. -/
  | unrelated
  deriving DecidableEq, Inhabited

/-- The capability of a trader's book. -/
def bookCapability : Capability := "TraderBook"

/-- Whether an aim is reached. -/
def Aim.holds (aim : Aim) (contexts : Contexts Book) : Except Panic Bool :=
  match aim with
  | sales target =>
    .ok ((contexts.find? bookCapability).any fun book => decide (target ≤ book.sold.toNat))
  | unrelated => .ok false

/-- What is written down during trading. -/
inductive Note where
  /-- A listener saw a message. -/
  | heard (listener : AgentId) (message : Message)
  /-- The results of a tick. -/
  | ticked (tick : Nat) (results : AgentIndex (Except AgentFailure (List TradeAction)))

/-- The vocabulary of traders. -/
def vocabulary : Vocabulary :=
  { Action := TradeAction, Object := Book, Goal := Aim, Note := Note, holds := Aim.holds }

/-! ## Prices in messages -/

/-- The content of an offer. -/
def offer : String := "offer"

/-- The content of an acceptance. -/
def acceptance : String := "accept"

/-- The parameter that carries a price. -/
def priceKey : String := "price"

/-- The price that a message carries. Prices are words. -/
def priceOf? (message : Message) : Option Nat := do
  let price ← Text.natural? (← message.parameter? priceKey).toList
  if price < wordCount then some price else none

/-- A message that carries a price. -/
def priced (sender : AgentId) (content : String) (price : Nat) : Message :=
  (Message.broadcast sender content).withParameter priceKey (toString price)

/-! ## Plans -/

/-- Send a message; then the action is done. -/
def sendThen (message : Message) (action : TradeAction) : Script vocabulary :=
  .send message fun
    | .ok () => .done (.ok (some action)) 0
    | .error cause => .done (.error (.messenger cause)) 0

/-- Use the book. -/
def withBook (next : AgentId → Book → Script vocabulary) : Script vocabulary :=
  .observe fun view =>
    match view.contexts.find? bookCapability with
    | some book => next view.agent book
    | none => .done (.error (.missingContext bookCapability)) 0

/-- Draw a price and offer at it to everybody. -/
def offerPlan : Plan vocabulary :=
  Plan.once <| withBook fun self book =>
    .change bookCapability (fun book => book.nextPrice.2)
      (sendThen (priced self offer book.nextPrice.1) (.offered book.nextPrice.1))

/-- Accept an offer. -/
def acceptPlan (seller : AgentId) (price : Nat) : Plan vocabulary :=
  Plan.once <| .observe fun view =>
    sendThen ((priced view.agent acceptance price).addressedTo seller) (.bought seller price)

/-- Book a sale. -/
def bookSalePlan (buyer : AgentId) (price : Nat) : Plan vocabulary :=
  Plan.once <| withBook fun _ _ =>
    .change bookCapability Book.recordSale (.done (.ok (some (.sold buyer price))) 0)

/-- The plan for a message: an offer that the reservation price covers is accepted, an acceptance is
booked. -/
def planForMessage (view : View vocabulary) (message : Message) : Option (Plan vocabulary) := do
  let price ← priceOf? message
  if message.content = offer then
    let book ← view.contexts.find? bookCapability
    if price ≤ book.reservation then some (acceptPlan message.sender price) else none
  else if message.content = acceptance then some (bookSalePlan message.sender price)
  else none

/-! ## Designs -/

/-- Plans for sales targets. -/
def targetScheme : Scheme vocabulary :=
  .rule "target" fun _ _ trigger =>
    .ok <|
      match trigger with
      | .goal { goal := Aim.sales _, .. } => some offerPlan
      | _ => none

/-- Plans for offers and acceptances. -/
def messageScheme : Scheme vocabulary :=
  .rule "messages" fun _ view trigger => .ok (trigger.message?.bind (planForMessage view))

/-- A trader. -/
def trader (book : Book) : Design vocabulary :=
  ((Design.empty.withContext [bookCapability] book).withScheme .goal targetScheme).withScheme
    .message messageScheme

/-- An agent that notes the messages it sees. -/
def listener : Design vocabulary :=
  Design.empty.withScheme .message <| .rule "listener" fun _ _ trigger =>
    .ok <| trigger.message?.map fun message =>
      Plan.once (.observe fun view => .note (.heard view.agent message) (.done (.ok none) 0))

/-- A plan that only has a result. -/
def resultPlan (result : Except PlanError (Option TradeAction)) : Plan vocabulary :=
  Plan.once (.done result 0)

/-! ## Hooks -/

/-- Stop when no agent is scheduled for the next tick. -/
def stopWhenIdle (run : Run vocabulary) : Run vocabulary :=
  if run.world.executor.schedule.isEmpty then { run with stopRequested := true } else run

/-- The hook that stops a simulation when it is idle. -/
def idleHook (identity : Nat) : Hook vocabulary :=
  { Hook.idle identity with after := fun _ _ run => stopWhenIdle run }

end Deliberation.Market
