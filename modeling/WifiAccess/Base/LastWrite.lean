import Mathlib.Data.List.Induction
import Mathlib.Logic.Function.Basic

/-! A map after a sequence of writes, each to one key: a key has what the last write to it
has put there. -/

namespace WifiAccess

variable {Write Key Value : Type} [DecidableEq Key]

/-- The map after all the writes. -/
def written (key : Write → Key) (value : Write → Value) (start : Key → Value)
    (writes : List Write) : Key → Value :=
  writes.foldl (fun map write => Function.update map (key write) (value write)) start

section

variable (key : Write → Key) (value : Write → Value) (start : Key → Value)

@[simp] theorem written_nil : written key value start [] = start := rfl

@[simp] theorem written_snoc (writes : List Write) (write : Write) :
    written key value start (writes ++ [write]) =
      Function.update (written key value start writes) (key write) (value write) := by
  simp [written]

end

end WifiAccess
