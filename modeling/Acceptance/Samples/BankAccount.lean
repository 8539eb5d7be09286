import Acceptance.Binary64.Arithmetic
import Acceptance.Run.Fixture

namespace Acceptance.Samples

/-! A bank account with a single owner. -/

structure BankAccount where
  owner : String := ""
  balance : Binary64 := Binary64.zero false
  setups : Nat := 0
  teardowns : Nat := 0
deriving DecidableEq

namespace BankAccount

def opened (owner : String) (balance : Binary64) (account : BankAccount) : BankAccount :=
  { account with owner := owner, balance := balance }

def deposit (amount : Binary64) (account : BankAccount) : BankAccount :=
  { account with balance := account.balance.add amount }

def withdraw (amount : Binary64) (account : BankAccount) : BankAccount :=
  { account with balance := account.balance.subtract amount }

def registry : Registry BankAccount :=
  Registry.empty
    |>.register "userHasDollarsInTheirAccount"
      (.action [.text, .numeric] fun (owner, balance, ()) => opened owner balance)
    |>.register "userHasNoMoneyInTheirAccount"
      (.action [.text] fun (owner, ()) account => { account with owner := owner })
    |>.register "dollarsIsDepositedInToTheAccount"
      (.action [.numeric] fun (amount, ()) => deposit amount)
    |>.register "dollarsIsWithdrawnFromTheAccount"
      (.action [.numeric] fun (amount, ()) => withdraw amount)
    |>.register "theBalanceShouldBeDollars"
      (.check [.numeric] fun (expected, ()) account =>
        .assertion (Assertion.equals expected account.balance))

def fixture : Fixture BankAccount where
  setup account := ({ account with setups := account.setups + 1 }, .returned (.ok ()))
  steps := .returned registry
  teardown account := ({ account with teardowns := account.teardowns + 1 }, .returned ())

end BankAccount

end Acceptance.Samples
