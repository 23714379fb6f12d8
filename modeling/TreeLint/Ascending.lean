/-!
Lists in ascending order without repeats, used as finite sets, and lists of entries with ascending
keys, used as finite maps.
-/
namespace TreeLint.Ascending

variable {α β : Type} [LT α] [DecidableLT α] [DecidableEq α]

/-- Adds a member, which changes nothing when it is there already. -/
def insert (x : α) : List α → List α
  | [] => [x]
  | y :: ys => if x < y then x :: y :: ys else if x = y then y :: ys else y :: insert x ys

/-- The members of a list, in ascending order and once each. -/
def ofList (xs : List α) : List α := xs.foldr insert []

/-- Gives `key` the value `value`, in place of the one it had. -/
def put (key : α) (value : β) : List (α × β) → List (α × β)
  | [] => [(key, value)]
  | (k, v) :: rest =>
    if key < k then (key, value) :: (k, v) :: rest
    else if key = k then (key, value) :: rest
    else (k, v) :: put key value rest

/-- Reads entries in order, so that the last one of a key stands. -/
def ofEntries (entries : List (α × β)) : List (α × β) :=
  entries.foldl (fun table (k, v) => put k v table) []

def find? (key : α) : List (α × β) → Option β
  | [] => none
  | (k, v) :: rest => if key = k then some v else find? key rest

end TreeLint.Ascending
