import MilkAndHenny.Library.Pool
import MilkAndHenny.Tickets.Checkout
import MilkAndHenny.Tickets.Exchange
import MilkAndHenny.Tickets.Refund

/-! Every statement and transaction of the ticket workflows, with the requests to
the provider between them. Each takes effect as a whole. -/

namespace MilkAndHenny.Tickets
open Library

inductive Statement : Type → Type where
  | stripe {β : Type} (op : StripeStatement β) : Statement β
  | credit {β : Type} (op : CreditStatement β) : Statement β
  | store {β : Type} (op : StoreStatement β) : Statement β
  | checkout {β : Type} (op : CheckoutStatement β) : Statement β
  | exchange {β : Type} (op : ExchangeStatement β) : Statement β
  | refund {β : Type} (op : RefundStatement β) : Statement β

def Statement.exec {β : Type} (provider : Provider) (worker : Nat) : Statement β → Ctx → Db → β × Db
  | .stripe op, ctx, db => ((provider.exec op ctx db.stripe).1, { db with stripe := (provider.exec op ctx db.stripe).2 })
  | .credit op, ctx, db => op.exec ctx db
  | .store op, ctx, db => op.exec worker ctx db
  | .checkout op, ctx, db => op.exec ctx db
  | .exchange op, ctx, db => op.exec worker ctx db
  | .refund op, ctx, db => op.exec worker ctx db

def restated (before after : Db) : List Id :=
  ((before.tickets.zip after.tickets).filter fun rows => rows.1.status != rows.2.status).map (·.1.id)

/-- The entries that a statement adds to the history. -/
def observe (worker : Nat) (before after : Db) : {β : Type} → Statement β → β → List Entry
  | _, .stripe (.receive _), reply => reply.toList.map (.received worker)
  | _, .checkout (.claim session), reply => if reply.isSome then [.claimed session worker] else []
  | _, .store (.markOrderDisputed payment dispute), _ => [.opened dispute payment (restated before after)]
  | _, .store (.restoreDisputedTickets _ dispute), _ => [.won dispute (restated before after)]
  | _, .exchange (.setTicketValidity exchange false (some (.dispute dispute))), _ =>
    exchange.paymentRef.toList.map fun payment => .opened dispute payment (restated before after)
  | _, .exchange (.setTicketValidity exchange true _), _ =>
    exchange.disputeRef.toList.map fun dispute => .won dispute (restated before after)
  | _, _, _ => if (restated before after).isEmpty then [] else [.changed (restated before after)]

def engine (provider : Provider) : Engine Statement Ctx Db where
  exec worker op ctx db :=
    let result := op.exec provider worker ctx db
    (result.1, { result.2 with history := observe worker db result.2 op result.1 ++ db.history })

abbrev Flow (α : Type) : Type 1 := Program Statement α

section
variable {β : Type}

def stripe (op : StripeStatement β) : Flow β := .perform (.stripe op)

def credit (op : CreditStatement β) : Flow β := .perform (.credit op)

def store (op : StoreStatement β) : Flow β := .perform (.store op)

def checkout (op : CheckoutStatement β) : Flow β := .perform (.checkout op)

def exchange (op : ExchangeStatement β) : Flow β := .perform (.exchange op)

def refund (op : RefundStatement β) : Flow β := .perform (.refund op)

end

end MilkAndHenny.Tickets
