import Cutscene.Decimal.Layout
/-!
# Money

The player's money, which may go below zero, and how an amount of it is written.
-/

namespace Cutscene

/-- The player's money. -/
structure Wallet where
  balance : Float := 0.0
  deriving DecidableEq

/-- Applies a signed amount. -/
def Wallet.apply (w : Wallet) (amount : Float) : Wallet :=
  ⟨w.balance + amount⟩

/-- An amount of money in dollars and cents, with a minus sign in front of the dollar sign. -/
def moneyText (amount : Float) : String :=
  if amount < 0.0 then "-$" ++ Decimal.fixedPlaces 2 amount.abs
  else "$" ++ Decimal.fixedPlaces 2 amount

end Cutscene
